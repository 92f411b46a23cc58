namespace LexicalAutomata

/-!
# Expressions for literal text
-/

/-- The characters that need a backslash to stand for themselves. -/
def metacharacters : List Char :=
  ['[', ']', '(', ')', '\\', '-', '^', '*', '+', '?', '|', '.', '\x7b', '\x7d', '&', '$', ',']

/-- A character as an expression. -/
def escapeChar
    (char : Char) :
    List Char :=
  if metacharacters.contains char then
    ['\\', char]
  else
    [char]

/-- A text as an expression. -/
def escapeChars
    (text : List Char) :
    List Char :=
  text.flatMap escapeChar

/-- A text as an expression. -/
def escape
    (text : String) :
    String :=
  .ofList (escapeChars text.toList)

end LexicalAutomata
