import LexicalAutomata.Expression.Parser
import LexicalAutomata.Graph.Fragment

namespace LexicalAutomata

/-!
# From expressions to fragments

Every repetition of an atom gets nodes of its own.  The mandatory copies of a
piece come first; behind them is one starred copy, or as many optional copies as
the maximum leaves room for.
-/

variable {τ : Type}

namespace Build

/-- Put `count` copies behind what there is in front of them. -/
def mandatoryCopies
    (copy : Build τ Fragment)
    (former : Option Fragment) :
    Nat →
    Build τ (Option Fragment)
  | 0 =>
      return former
  | count + 1 => do
      let latter ← copy
      let whole ← append former latter
      mandatoryCopies copy (some whole) count

/-- Put `count` copies, each of which may be left out, behind what there is in front of them. -/
def optionalCopies
    (copy : Build τ Fragment)
    (former : Option Fragment)
    (count : Nat) :
    Build τ (Option Fragment) :=
  mandatoryCopies (copy >>= optional) former count

/--
Put `count` copies behind what there is in front of them, and collect their
entries in `entries`, from each of which the copies to come may be left out.
-/
def skippableCopies
    (copy : Build τ Fragment)
    (former : Option Fragment)
    (entries : List Nat) :
    Nat →
    Build τ (Option Fragment × List Nat)
  | 0 =>
      return (former, entries)
  | count + 1 => do
      let latter ← copy
      let whole ← append former latter
      skippableCopies copy (some whole) (entries ++ [latter.first]) count

/-- Add silent edges from each of the nodes to `target`. -/
def linkAll
    (target : Nat) :
    List Nat →
    Build τ Unit
  | [] =>
      return ()
  | source :: rest => do
      link source target
      linkAll target rest

/-- The copies of a label behind the mandatory ones; each entry has an edge to the common exit. -/
def optionalLabels
    (copy : Build τ Fragment)
    (former : Option Fragment)
    (count : Nat) :
    Build τ (Option Fragment) := do
  let (whole, entries) ← skippableCopies copy former [] count
  match whole with
  | none =>
      return none
  | some fragment =>
      linkAll fragment.last entries
      return whole

/-- Repeat what `copy` builds; `optionalPart` builds the copies that may be left out. -/
def repeated
    (quantifier : Quantifier)
    (copy : Build τ Fragment)
    (optionalPart : Option Fragment → Nat → Build τ (Option Fragment)) :
    Build τ Fragment :=
  if quantifier.max = some 0 then
    empty
  else do
    let former ← mandatoryCopies copy none quantifier.min
    match quantifier.max with
    | none =>
        append former (← copy >>= star)
    | some most =>
        orEmpty (← optionalPart former (most - quantifier.min))

end Build

mutual

/-- The fragment of a piece. -/
def Piece.build : Piece → Build τ Fragment
  | ⟨.label label, quantifier⟩ =>
      Build.repeated quantifier (Build.label label)
        (Build.optionalLabels (Build.label label))
  | ⟨.group branches, quantifier⟩ =>
      Build.repeated quantifier (buildBranches branches >>= Build.alternatives)
        (Build.optionalCopies (buildBranches branches >>= Build.alternatives))

/-- Put the fragments of pieces behind what there is in front of them. -/
def buildPieces : List Piece → Option Fragment → Build τ (Option Fragment)
  | [], former =>
      return former
  | piece :: rest, former => do
      let latter ← piece.build
      let whole ← Build.append former latter
      buildPieces rest (some whole)

/-- The fragments of branches. -/
def buildBranches : List (List Piece) → Build τ (List Fragment)
  | [] =>
      return []
  | pieces :: rest => do
      let fragment ← Build.orEmpty (← buildPieces pieces none)
      return fragment :: (← buildBranches rest)

end

/-- The fragment of an expression. -/
def Expression.build
    (expression : Expression) :
    Build τ Fragment := do
  Build.alternatives (← buildBranches expression)

/-- What happens at the exit of a whole expression. -/
def Build.finish
    (fragment : Fragment)
    (expression : Expression)
    (token : τ)
    (options : Options) :
    Build τ Fragment := do
  Build.change fragment.last fun node => { node with token := some token }
  if expression.isLiteral then
    Build.raise fragment.last 1
  if options.acceptImmediately then
    Build.change fragment.last fun node => { node with immediate := true }
  return fragment

/--
The fragment of an expression text, whose exit has the given token.  A literal
expression gets one more priority.  The nodes stay in the graph even if the
expression turns out not to have the ender that the options ask for.
-/
def Build.expression
    [PropertyParser]
    (text : String)
    (token : τ)
    (options : Options) :
    Build τ (Except TextError Fragment) :=
  match Expression.parse text options with
  | .error error =>
      return .error error
  | .ok expression => do
      let fragment ← expression.build
      if options.fixedEnder then
        if expression.enderLength = 0 then
          return .error ⟨.missingEnder, text.utf8ByteSize⟩
        let fragment ← Build.endBefore fragment expression.enderLength
        return .ok (← Build.finish fragment expression token options)
      return .ok (← Build.finish fragment expression token options)

end LexicalAutomata
