import StageScript.Proofs.Text.Ascii
import StageScript.Value.Json

/-!
# Texts in JSON

A text that was written is read as itself, whatever stands behind its closing quote. A character is
written in one of three ways (`jsonChar_cases`), and each of them is read as one piece that stands
for the character (`exists_piece`).
-/

namespace StageScript

namespace Json

open Value

/-- How a character of a text is written: by an escape with a letter, by one with its number, or as
it is. -/
theorem jsonChar_cases (c : Char) :
    (∃ e, e ≠ 'u' ∧ jsonChar c = ['\\', e] ∧ shortEscape? e = some c) ∨
    (∃ x y, jsonChar c = ['\\', 'u', '0', '0', x, y] ∧ hexUnit? '0' '0' x y = some c.toNat ∧
      c.toNat < 0x20) ∨
    (jsonChar c = [c] ∧ c ≠ '"' ∧ c ≠ '\\' ∧ ¬ c.toNat < 0x20) := by
  have hhex : ∀ n : Fin 32,
      hexUnit? '0' '0' (hexDigit (n.val / 16)) (hexDigit n.val) = some n.val := by decide +kernel
  unfold jsonChar
  split
  · exact .inl ⟨'"', by decide, rfl, rfl⟩
  · exact .inl ⟨'\\', by decide, rfl, rfl⟩
  · exact .inl ⟨'b', by decide, rfl, rfl⟩
  · exact .inl ⟨'f', by decide, rfl, rfl⟩
  · exact .inl ⟨'n', by decide, rfl, rfl⟩
  · exact .inl ⟨'r', by decide, rfl, rfl⟩
  · exact .inl ⟨'t', by decide, rfl, rfl⟩
  · next hquote hbackslash _ _ _ _ _ =>
    by_cases hc : c.toNat < 0x20
    · rw [if_pos hc]
      exact .inr (.inl ⟨_, _, rfl, hhex ⟨c.toNat, hc⟩, hc⟩)
    · rw [if_neg hc]
      exact .inr (.inr ⟨rfl, hquote, hbackslash, hc⟩)

section Pieces

variable {c : Char} (cs : List Char)

theorem readPieces?_short {e : Char} (hu : e ≠ 'u') (he : shortEscape? e = some c) :
    readPieces? ('\\' :: e :: cs) =
      (readPieces? cs).map fun read => (.char c :: read.1, read.2) := by
  rw [readPieces?.eq_4 _ _ fun _ _ _ _ _ h _ => hu h, he]
  cases readPieces? cs <;> rfl

theorem readPieces?_unit {a b x y : Char} {n : Nat} (h : hexUnit? a b x y = some n) :
    readPieces? ('\\' :: 'u' :: a :: b :: x :: y :: cs) =
      (readPieces? cs).map fun read => (.unit n :: read.1, read.2) := by
  rw [readPieces?.eq_3, h]
  cases readPieces? cs <;> rfl

theorem readPieces?_plain (hquote : c ≠ '"') (hbackslash : c ≠ '\\') (hc : ¬ c.toNat < 0x20) :
    readPieces? (c :: cs) = (readPieces? cs).map fun read => (.char c :: read.1, read.2) := by
  have hallowed : ¬ (decide (c.toNat < 0x20) || decide (c = '\\')) = true := by
    simp [hc, hbackslash]
  rw [readPieces?.eq_5 _ _ hquote (fun _ _ _ _ _ h _ => hbackslash h)
    (fun _ _ h _ => hbackslash h), if_neg hallowed]
  cases readPieces? cs <;> rfl

end Pieces

/-- A number below the surrogates is that of a character, whatever follows. -/
theorem decodePieces?_unit {n : Nat} (h : n < 0xD800) (ps : List Piece) :
    decodePieces? (.unit n :: ps) = (decodePieces? ps).map (Char.ofNat n :: ·) := by
  have hhigh : ¬ (decide (0xD800 ≤ n) && decide (n < 0xDC00)) = true := by simp; omega
  have hlow : ¬ (decide (0xDC00 ≤ n) && decide (n < 0xE000)) = true := by simp; omega
  have hnone : ¬ (decide (0xD800 ≤ n) && decide (n < 0xE000)) = true := by simp; omega
  cases ps with
  | nil => rw [decodePieces?.eq_4 _ _ (by simp), if_neg hnone]
  | cons p ps =>
    cases p with
    | char c => rw [decodePieces?.eq_4 _ _ (by simp), if_neg hnone]
    | unit low => rw [decodePieces?.eq_3, if_neg hhigh, if_neg hlow]

/-- **A character that was written is read as a piece of its own.** -/
theorem exists_piece (c : Char) : ∃ p,
    (∀ ps, decodePieces? (p :: ps) = (decodePieces? ps).map (c :: ·)) ∧
    ∀ cs, readPieces? (jsonChar c ++ cs) =
      (readPieces? cs).map fun read => (p :: read.1, read.2) := by
  rcases jsonChar_cases c with ⟨e, hu, hc, he⟩ | ⟨x, y, hc, hunit, hlt⟩ | ⟨hc, hplain⟩
  · refine ⟨.char c, fun ps => decodePieces?.eq_2 c ps, fun cs => ?_⟩
    rw [hc]
    exact readPieces?_short cs hu he
  · refine ⟨.unit c.toNat, fun ps => ?_, fun cs => ?_⟩
    · have hdecode := decodePieces?_unit (n := c.toNat) (by omega) ps
      rwa [Char.ofNat_toNat] at hdecode
    · rw [hc]
      exact readPieces?_unit cs hunit
  · refine ⟨.char c, fun ps => decodePieces?.eq_2 c ps, fun cs => ?_⟩
    rw [hc]
    exact readPieces?_plain cs hplain.1 hplain.2.1 hplain.2.2

theorem exists_pieces (rest : List Char) : ∀ cs, ∃ ps, decodePieces? ps = some cs ∧
    readPieces? (cs.flatMap jsonChar ++ '"' :: rest) = some (ps, rest)
  | [] => ⟨[], rfl, readPieces?.eq_2 rest⟩
  | c :: cs => by
    obtain ⟨p, hdecode, hread⟩ := exists_piece c
    obtain ⟨ps, hps, hrest⟩ := exists_pieces rest cs
    refine ⟨p :: ps, ?_, ?_⟩
    · rw [hdecode, hps]
      rfl
    · rw [List.flatMap_cons, List.append_assoc, hread, hrest]
      rfl

/-- **A text that was written is read as itself.** -/
theorem readText?_jsonText (s : String) (rest : List Char) :
    readText? (s.toList.flatMap jsonChar ++ '"' :: rest) = some (some s, rest) := by
  obtain ⟨ps, hps, hread⟩ := exists_pieces rest s.toList
  unfold readText?
  rw [hread]
  show some ((decodePieces? ps).map String.ofList, rest) = _
  rw [hps, Option.map_some, String.ofList_toList]

end Json

end StageScript
