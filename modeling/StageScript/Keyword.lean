/-!
# Reserved words

Words of the language that name neither a variable nor a label; `START` alone may stand as a label.
-/

namespace StageScript

/-- The reserved words. -/
def reservedWords : List String := [
  "START", "ALL", "WITH", "WITHOUT", "TO", "AS", "IS", "PROGRAM", "WORLD", "ELSE", "TRUE", "FALSE",
  "LOOP-INDEX", "LOOP-OBJECT", "EQUALS", "GREATER-THAN", "LESS-THAN", "AND", "OR", "NOT", "PLUS",
  "MINUS", "TIMES", "X", "DIVIDED-BY", "TO-THE-POWER-OF", "MODULO", "SQUARED"]

/-- Whether a word is reserved. -/
def isReserved (word : String) : Bool := reservedWords.contains word

/-- The label a run starts at. -/
def startLabel : String := "START"

end StageScript
