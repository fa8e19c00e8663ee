import StageScript.Source.Label
import StageScript.Token.Lexer

/-!
# ASCII characters

The classes of characters are given by long tables, but below 128 a class can be checked character
by character (`of_ascii`). Here that is done for the characters of a label, as the lexer sees them,
and for the letters that differ in case only.
-/

namespace StageScript.Text

open LabelLine Token

/-- A property of all ASCII characters. -/
theorem of_ascii {P : Char → Prop} (h : ∀ n : Fin 128, P (Char.ofNat n)) {c : Char}
    (hc : c.toNat < 128) : P c := by
  have := h ⟨c.toNat, hc⟩
  rwa [Char.ofNat_toNat] at this

/-! ### Letters -/

theorem toUpper_of_not_ascii {c : Char} (h : ¬ c.toNat < 128) : c.toUpper = c := by
  have hval : ¬ c.val < 128 := h
  unfold Char.toUpper
  split
  · next hlower =>
    exact absurd (UInt32.lt_of_le_of_lt hlower.2 (by decide)) hval
  · rfl

/-- What the readers of a line ask of a character is the same for a letter and its capital. -/
theorem classes_toUpper (c : Char) :
    isBlank c.toUpper = isBlank c ∧ capitals c.toUpper = capitals c ∧
      ∀ d ∈ [quote, '#', ';', '\n', '\r'], (c.toUpper = d ↔ c = d) := by
  by_cases h : c.toNat < 128
  · obtain ⟨hblank, hcapitals, hmarks⟩ :=
      of_ascii (P := fun c => isBlank c.toUpper = isBlank c ∧ capitals c.toUpper = capitals c ∧
        [quote, '#', ';', '\n', '\r'].all (fun d => decide (c.toUpper = d ↔ c = d)) = true)
        (by decide +kernel) h
    exact ⟨hblank, hcapitals, fun d hd => of_decide_eq_true (List.all_eq_true.mp hmarks d hd)⟩
  · rw [toUpper_of_not_ascii h]
    exact ⟨rfl, rfl, fun _ _ => Iff.rfl⟩

/-! ### Characters of a label -/

theorem isLabelChar_ascii {c : Char} (h : isLabelChar c = true) : c.toNat < 128 := by
  have hbelow : ∀ last : Char, last.toNat < 128 → c.val ≤ last.val → c.toNat < 128 :=
    fun _ hlast h => Nat.lt_of_le_of_lt h hlast
  simp only [isLabelChar, Bool.or_eq_true, decide_eq_true_eq] at h
  rcases h with ((h | h) | rfl) | rfl
  · exact hbelow 'Z' (by decide) (of_decide_eq_true h).2
  · exact hbelow '9' (by decide) (of_decide_eq_true (Bool.and_eq_true_iff.mp h).2)
  · decide
  · decide

/-- How the lexer takes a character that a label can hold. -/
theorem lexed_of_isLabelChar {c : Char} (h : isLabelChar c = true) :
    isBlank c = false ∧ c ≠ quote ∧ isWordChar c = true ∧
      (c.isDigit = true ∨ isWordStart c = true ∨ c = '-') ∧
      (isWordStart c = true → c.isDigit = false) :=
  of_ascii (P := fun c => isLabelChar c = true → isBlank c = false ∧ c ≠ quote ∧
      isWordChar c = true ∧ (c.isDigit = true ∨ isWordStart c = true ∨ c = '-') ∧
      (isWordStart c = true → c.isDigit = false))
    (by decide +kernel) (isLabelChar_ascii h) h

end StageScript.Text
