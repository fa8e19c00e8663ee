import StageScript.Fault
import StageScript.Text.Letter
import StageScript.Text.Quoted
import StageScript.Token.Basic

/-!
# Reading tokens

A line is cut into tokens from left to right. A word starts with a letter or an underscore and goes
on with letters, numerals, dashes and underscores; a word that starts with `NOT-` is cut behind the
dash. A number is a run of digits and dots that starts with a digit and has at most one dot. A text
stands between quotes. White space separates and is dropped.
-/

namespace StageScript.Token

open Text

/-- The symbols of the language. -/
def symbols : List Char :=
  [':', '[', ']', '(', ')', ',', '+', '-', '*', '/', '^', '%', '=', '<', '>', '&', '|', '!']

/-- Whether a word can start with the character. -/
def isWordStart (c : Char) : Bool := isLetter c || c = '_'

/-- Whether a word can go on with the character. -/
def isWordChar (c : Char) : Bool := isAlphanumeric c || c = '-' || c = '_'

/-- Whether a number can go on with the character. -/
def isNumberChar (c : Char) : Bool := c.isDigit || c = '.'

/-- The part of a word that is cut off as a token of its own. -/
def negation : List Char := ['N', 'O', 'T', '-']

/-- The float nearest to a run of digits with at most one dot. -/
def literalValue (literal : List Char) : Float :=
  let whole := literal.takeWhile Char.isDigit
  let fraction := (literal.dropWhile Char.isDigit).drop 1
  let digits := (whole ++ fraction).foldl (fun n c => n * 10 + (c.toNat - '0'.toNat)) 0
  Float.ofScientific digits true fraction.length

/-- The tokens of a word that starts at `start`. -/
def ofWord (start : Nat) (word : List Char) : List Token :=
  let stop := start + byteLength word
  let rest := word.drop negation.length
  if negation.isPrefixOf word && !rest.isEmpty then
    let cut := start + negation.length
    [⟨.word (String.ofList negation), start, cut⟩, ⟨.word (String.ofList rest), cut, stop⟩]
  else [⟨.word (String.ofList word), start, stop⟩]

/-- The token of a run of digits and dots that starts at `start` and is followed by `rest`. -/
def ofNumber (line start : Nat) (literal rest : List Char) : Except Fault Token :=
  if 1 < literal.count '.' || (rest.head?.map isWordStart).getD false then
    .error (.on line (.malformedNumber (String.ofList literal)))
  else .ok ⟨.number (literalValue literal), start, start + byteLength literal⟩

theorem length_dropWhile_le (p : Char → Bool) (cs : List Char) :
    (cs.dropWhile p).length ≤ cs.length :=
  (List.dropWhile_sublist p).length_le

/-- The tokens of the text that starts at the byte `start`. -/
def readFrom (line start : Nat) (cs : List Char) : Except Fault (List Token) :=
  match cs with
  | [] => .ok []
  | c :: rest =>
    if isBlank c then readFrom line (start + c.utf8Size) rest
    else if c = quote then
      if rest.contains quote then do
        let content := rest.takeWhile (· ≠ quote)
        let stop := start + byteLength content + 2
        let tokens ← readFrom line stop ((rest.dropWhile (· ≠ quote)).drop 1)
        return ⟨.text (String.ofList content), start, stop⟩ :: tokens
      else .error (.on line (.unterminatedString start))
    else if c.isDigit then do
      let literal := c :: rest.takeWhile isNumberChar
      let after := rest.dropWhile isNumberChar
      let token ← ofNumber line start literal after
      let tokens ← readFrom line (start + byteLength literal) after
      return token :: tokens
    else if isWordStart c then do
      let word := c :: rest.takeWhile isWordChar
      let tokens ← readFrom line (start + byteLength word) (rest.dropWhile isWordChar)
      return ofWord start word ++ tokens
    else if symbols.contains c then do
      let tokens ← readFrom line (start + c.utf8Size) rest
      return ⟨.symbol c, start, start + c.utf8Size⟩ :: tokens
    else .error (.on line (.unexpectedCharacter c))
termination_by cs.length
decreasing_by
  · simp
  · have := length_dropWhile_le (· ≠ quote) rest
    simp only [List.length_drop, List.length_cons]
    omega
  · have := length_dropWhile_le isNumberChar rest
    simp only [List.length_cons]
    omega
  · have := length_dropWhile_le isWordChar rest
    simp only [List.length_cons]
    omega
  · simp

/-- The tokens of a line. -/
def ofLine (line : Nat) (text : List Char) : Except Fault (List Token) := readFrom line 0 text

end StageScript.Token
