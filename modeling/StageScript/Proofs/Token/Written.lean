import StageScript.Proofs.Grammar.Literal
import StageScript.Proofs.Token.Reading

/-!
# Literals as they are written

The text of a number, of a text, of a truth value and of a collection of these, each with the value
it stands for. What is written is read as the tokens of a literal of this value (`Written.isRead`).
-/

namespace StageScript

open Text Token

/-- A number as it is written, maybe with a minus sign directly before its digits. -/
structure Numeral where
  negative : Bool := false
  digits : List Char
  isNumeral : IsNumeral digits

namespace Numeral

def text (n : Numeral) : List Char := if n.negative then '-' :: n.digits else n.digits

def value (n : Numeral) : Float :=
  if n.negative then -literalValue n.digits else literalValue n.digits

theorem isRead (n : Numeral) : IsRead n.text fun ts => Literal ts (.ofFloat n.value) := by
  obtain ⟨negative, digits, hdigits⟩ := n
  intro line start rest more hrest hmore
  cases negative with
  | false => exact ⟨_, .number _ _ _, readFrom_numeral hdigits hrest hmore⟩
  | true =>
    have hlength : start + byteLength ('-' :: digits) = start + 1 + byteLength digits := by
      show start + (1 + byteLength digits) = _
      omega
    change readFrom line (start + byteLength ('-' :: digits)) rest = .ok more at hmore
    rw [hlength] at hmore
    have hread := readFrom_numeral hdigits hrest hmore
    refine ⟨_, .negative (literalValue digits) start (start + 1) (start + 1 + byteLength digits),
      ?_⟩
    show readFrom line start ('-' :: (digits ++ rest)) = _
    have hstart : start + '-'.utf8Size = start + 1 := rfl
    rw [readFrom_symbol (by decide), hstart, hread]
    rfl

end Numeral

/-- A literal as it is written. -/
inductive Written where
  | number (n : Numeral)
  | quoted (content : List Char) (closed : quote ∉ content)
  | truth (b : Bool)
  | collection (items : List Written)

namespace Written

mutual

def text : Written → List Char
  | .number n => n.text
  | .quoted content _ => quote :: content ++ [quote]
  | .truth true => "TRUE".toList
  | .truth false => "FALSE".toList
  | .collection items => '[' :: itemsText items

/-- The items of a collection, behind its opening bracket. -/
def itemsText : List Written → List Char
  | [] => [']']
  | item :: items => item.text ++ othersText items

/-- The items behind the first. -/
def othersText : List Written → List Char
  | [] => [']']
  | item :: items => ',' :: ' ' :: (item.text ++ othersText items)

end

mutual

def value : Written → Value
  | .number n => .ofFloat n.value
  | .quoted content _ => .text (String.ofList content)
  | .truth b => .boolean b
  | .collection items => .collection .any (values items)

def values : List Written → List Value
  | [] => []
  | item :: items => item.value :: values items

end

theorem ends_othersText (items : List Written) : Ends (othersText items) := by
  cases items with
  | nil => exact .cons (by decide) _
  | cons => exact .cons (by decide) _

/-- The tokens behind an item of a collection, where items of these values follow. -/
def Follow : List Value → Tokens → Prop
  | [], ts => ∃ a b, ts = [⟨.symbol ']', a, b⟩]
  | v :: vs, ts => ∃ a b us c d,
    ts = ⟨.symbol ',', a, b⟩ :: (us ++ [⟨.symbol ']', c, d⟩]) ∧ LiteralItems us (v :: vs)

/-- An item and those that follow it are the items of a collection. -/
theorem Follow.items {item ts : Tokens} {v : Value} {vs : List Value} (h : Follow vs ts)
    (hitem : Literal item v) :
    ∃ items c d, item ++ ts = items ++ [⟨.symbol ']', c, d⟩] ∧ LiteralItems items (v :: vs) := by
  cases vs with
  | nil =>
    obtain ⟨c, d, rfl⟩ := h
    exact ⟨item, c, d, rfl, .last hitem⟩
  | cons =>
    obtain ⟨a, b, us, c, d, rfl, hus⟩ := h
    exact ⟨item ++ ⟨.symbol ',', a, b⟩ :: us, c, d, by simp, .cons hitem rfl hus⟩

theorem isRead_close : IsRead [']'] fun ts => ∃ a b, ts = [⟨.symbol ']', a, b⟩] := by
  have hnil : IsRead [] fun ts => ts = [] := IsRead.nil rfl
  refine (hnil.symbol (by decide)).mono ?_
  rintro ts ⟨a, b, _, rfl, rfl⟩
  exact ⟨a, b, rfl⟩

mutual

/-- **What is written is read as a literal of its value.** -/
theorem isRead : (w : Written) → IsRead w.text fun ts => Literal ts w.value
  | .number n => n.isRead
  | .quoted content closed => by
    refine (isRead_quoted closed).mono ?_
    rintro ts ⟨a, b, rfl⟩
    exact .text _ a b
  | .truth true => by
    have hword : IsWord "TRUE".toList := by decide +kernel
    refine (isRead_word hword).mono ?_
    rintro ts ⟨a, b, rfl⟩
    exact .isTrue a b
  | .truth false => by
    have hword : IsWord "FALSE".toList := by decide +kernel
    refine (isRead_word hword).mono ?_
    rintro ts ⟨a, b, rfl⟩
    exact .isFalse a b
  | .collection [] => by
    refine (isRead_close.symbol (by decide)).mono ?_
    rintro ts ⟨a, b, _, rfl, c, d, rfl⟩
    exact .empty a b c d
  | .collection (item :: items) => by
    have hitems := item.isRead.append (isRead_others items) (ends_othersText items)
    refine (hitems.symbol (by decide)).mono ?_
    rintro ts ⟨a, b, _, rfl, us, vs, rfl, hus, hvs⟩
    obtain ⟨tokens, c, d, htokens, hliteral⟩ := hvs.items hus
    rw [htokens]
    exact .collection a b c d hliteral

theorem isRead_others : (items : List Written) → IsRead (othersText items) (Follow (values items))
  | [] => isRead_close
  | item :: items => by
    have hitems := item.isRead.append (isRead_others items) (ends_othersText items)
    refine (hitems.blank.symbol (by decide)).mono ?_
    rintro ts ⟨a, b, _, rfl, us, vs, rfl, hus, hvs⟩
    obtain ⟨tokens, c, d, htokens, hliteral⟩ := hvs.items hus
    exact ⟨a, b, tokens, c, d, by rw [htokens], hliteral⟩

end

end Written

end StageScript
