/-!
# Tokens

The words, numbers, texts and symbols of a line, each with the range of bytes it was read from.
-/

namespace StageScript

/-- What a token is. -/
inductive TokenKind where
  | word (spelling : String)
  | number (value : Float)
  | text (content : String)
  | symbol (c : Char)

/-- A token and the range of bytes it stands in. -/
structure Token where
  kind : TokenKind
  start : Nat
  stop : Nat

namespace TokenKind

/-- Whether the token is this word. -/
def isWord (spelling : String) : TokenKind → Bool
  | .word s => s == spelling
  | _ => false

/-- Whether the token is one of these words. -/
def isWordOf (spellings : List String) : TokenKind → Bool
  | .word s => spellings.contains s
  | _ => false

/-- Whether the token is this symbol. -/
def isSymbol (c : Char) : TokenKind → Bool
  | .symbol d => d == c
  | _ => false

end TokenKind

end StageScript
