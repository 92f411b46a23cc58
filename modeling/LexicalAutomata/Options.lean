namespace LexicalAutomata

/-!
# Options of an expression
-/

/-- How an expression is compiled. -/
structure Options where
  /-- Literal characters and spans match both cases. -/
  caseInsensitive : Bool := false
  /-- The match ends in front of the first occurrence of the closing characters. -/
  fixedEnder : Bool := false
  /-- The first completion ends the scan. -/
  acceptImmediately : Bool := false
  deriving Repr, DecidableEq, Inhabited

namespace Options

/-- The options as flags: their names and whether they are set, from the lowest bit on. -/
def flags
    (options : Options) :
    List (String × Bool) :=
  [("CASE_INSENSITIVE", options.caseInsensitive),
    ("FIXED_ENDER", options.fixedEnder),
    ("ACCEPT_IMMEDIATELY", options.acceptImmediately)]

/-- The number whose binary digits are the flags. -/
def bits
    (options : Options) :
    Nat :=
  options.flags.foldr (fun flag higher => flag.2.toNat + 2 * higher) 0

/-- The names of the flags that are set, or a zero when none is. -/
def describe
    (options : Options) :
    String :=
  match (options.flags.filter Prod.snd).map Prod.fst with
  | [] =>
      "Options(0x0)"
  | names =>
      "Options(" ++ " | ".intercalate names ++ ")"

end Options

end LexicalAutomata
