import StageScript.Value.Json

/-!
# Numbers in JSON

A finite number is written as digits, a point and more digits, or as a digit with or without digits
behind a point, an exponent and its sign. Both are numbers of JSON, so they are read to their end
and no further, whatever stands behind them that could not go on with a number
(`exists_literal_write`). Which float the digits of the literal stand for is not said here.

That no digits start with a zero they should not start with comes down to the fewest digits that
read back not being zero for a number that is not (`shortest_cases`).
-/

namespace StageScript

namespace Json

/-- What can stand behind a number: nothing that could go on with it. -/
def Delimited (rest : List Char) : Prop :=
  ∀ c ∈ rest.head?, c.isDigit = false ∧ c ≠ '.' ∧ c ≠ 'e' ∧ c ≠ 'E'

theorem delimited_nil : Delimited [] := nofun

/-- A number with its sign. -/
def readNumber? : List Char → Option (Literal × List Char)
  | '-' :: cs => readLiteral? true cs
  | cs => readLiteral? false cs

/-! ### Reading the parts of a number -/

/-- Digits are read to their end. -/
theorem split_digits {digits rest : List Char} (hdigits : ∀ c ∈ digits, c.isDigit = true)
    (hrest : ∀ c ∈ rest.head?, c.isDigit = false) :
    (digits ++ rest).takeWhile Char.isDigit = digits ∧
      (digits ++ rest).dropWhile Char.isDigit = rest := by
  rw [List.takeWhile_append_of_pos hdigits, List.dropWhile_append_of_pos hdigits]
  cases rest with
  | nil => exact ⟨List.append_nil _, rfl⟩
  | cons c rest =>
    have hc : ¬ c.isDigit = true := by simp [hrest c rfl]
    rw [List.takeWhile_cons_of_neg hc, List.dropWhile_cons_of_neg hc]
    exact ⟨List.append_nil _, rfl⟩

/-- The digits before a point: a zero alone, or digits that do not start with one. -/
structure IsWhole (digits : List Char) : Prop where
  isDigit : ∀ c ∈ digits, c.isDigit = true
  head : digits = ['0'] ∨ ∃ c cs, digits = c :: cs ∧ c ≠ '0'

theorem readWhole?_append {digits rest : List Char} (h : IsWhole digits)
    (hrest : ∀ c ∈ rest.head?, c.isDigit = false) :
    readWhole? (digits ++ rest) = some (digits, rest) := by
  obtain ⟨htake, hdrop⟩ := split_digits h.isDigit hrest
  unfold readWhole?
  rw [htake, hdrop]
  rcases h.head with rfl | ⟨c, cs, rfl, hc⟩
  · rfl
  · split
    · next hnil => cases hnil
    · next hzero => exact absurd (List.cons.inj hzero).1 hc
    · next hzero => exact absurd (List.cons.inj hzero).1 hc
    · rfl

theorem readFraction?_append {digits rest : List Char} (hne : digits ≠ [])
    (hdigits : ∀ c ∈ digits, c.isDigit = true) (hrest : ∀ c ∈ rest.head?, c.isDigit = false) :
    readFraction? ('.' :: (digits ++ rest)) = some (digits, rest) := by
  obtain ⟨htake, hdrop⟩ := split_digits hdigits hrest
  simp only [readFraction?, htake, hdrop, List.isEmpty_iff, if_neg hne]

theorem readFraction?_none {rest : List Char} (hrest : ∀ c ∈ rest.head?, c ≠ '.') :
    readFraction? rest = some ([], rest) := by
  unfold readFraction?
  split
  · exact absurd rfl (hrest '.' rfl)
  · rfl

theorem readExponent?_append {sign : Char} (hsign : sign = '-' ∨ sign = '+')
    {digits rest : List Char} (hne : digits ≠ [])
    (hdigits : ∀ c ∈ digits, c.isDigit = true) (hrest : ∀ c ∈ rest.head?, c.isDigit = false) :
    readExponent? ('e' :: sign :: (digits ++ rest)) =
      some (some (sign == '-', digits), rest) := by
  obtain ⟨htake, hdrop⟩ := split_digits hdigits hrest
  have hread : readSign (sign :: (digits ++ rest)) = (sign == '-', digits ++ rest) := by
    rcases hsign with rfl | rfl <;> rfl
  simp only [readExponent?, hread, htake, hdrop, List.isEmpty_iff, if_neg hne, if_true,
    decide_true, Bool.true_or]

theorem readExponent?_none {rest : List Char} (hrest : Delimited rest) :
    readExponent? rest = some (none, rest) := by
  cases rest with
  | nil => rfl
  | cons c rest =>
    obtain ⟨-, -, he, hE⟩ := hrest c rfl
    simp [readExponent?, he, hE]

/-! ### The two forms of a number -/

/-- Digits with a point and more digits. -/
theorem readLiteral?_positional (negative : Bool) {whole fraction rest : List Char}
    (hwhole : IsWhole whole) (hne : fraction ≠ [])
    (hfraction : ∀ c ∈ fraction, c.isDigit = true) (hrest : Delimited rest) :
    readLiteral? negative (whole ++ '.' :: fraction ++ rest) =
      some (⟨negative, whole, fraction, none⟩, rest) := by
  have hpoint : ∀ c ∈ ('.' :: (fraction ++ rest)).head?, c.isDigit = false := by
    rintro c ⟨⟩
    rfl
  rw [List.append_assoc, List.cons_append]
  simp only [readLiteral?, readWhole?_append hwhole hpoint,
    readFraction?_append hne hfraction fun c hc => (hrest c hc).1, readExponent?_none hrest,
    Option.bind_eq_bind, Option.bind_some, Option.pure_def]

theorem isWhole_singleton {digit : Char} (h : digit.isDigit = true) : IsWhole [digit] := by
  refine ⟨fun c hc => List.mem_singleton.mp hc ▸ h, ?_⟩
  by_cases hzero : digit = '0'
  · exact .inl (by rw [hzero])
  · exact .inr ⟨digit, [], rfl, hzero⟩

/-- A digit, perhaps with a point and more digits, and an exponent. -/
theorem readLiteral?_scientific (negative : Bool) {digit sign : Char}
    {fraction exponent rest : List Char} (hdigit : digit.isDigit = true)
    (hfraction : ∀ c ∈ fraction, c.isDigit = true) (hsign : sign = '-' ∨ sign = '+')
    (hne : exponent ≠ []) (hexponent : ∀ c ∈ exponent, c.isDigit = true)
    (hrest : Delimited rest) :
    readLiteral? negative
        (digit :: ((if fraction = [] then [] else '.' :: fraction) ++ 'e' :: sign :: exponent) ++
          rest) =
      some (⟨negative, [digit], fraction, some (sign == '-', exponent)⟩, rest) := by
  have hwhole := isWhole_singleton hdigit
  have hread := readExponent?_append hsign hne hexponent fun c hc => (hrest c hc).1
  have hmark : ∀ c ∈ ('e' :: sign :: (exponent ++ rest)).head?, c.isDigit = false ∧ c ≠ '.' := by
    rintro c ⟨⟩
    decide
  by_cases hempty : fraction = []
  · subst hempty
    have hwhole := readWhole?_append hwhole fun c hc => (hmark c hc).1
    have hpoint := readFraction?_none fun c hc => (hmark c hc).2
    simp only [List.singleton_append] at hwhole
    simp only [readLiteral?, if_true, List.nil_append, List.cons_append, hwhole, hpoint, hread,
      Option.bind_eq_bind, Option.bind_some, Option.pure_def]
  · have hdot : ∀ c ∈ ('.' :: (fraction ++ 'e' :: sign :: (exponent ++ rest))).head?,
        c.isDigit = false := by
      rintro c ⟨⟩
      rfl
    have hwhole := readWhole?_append hwhole hdot
    have hpoint := readFraction?_append hempty hfraction fun c hc => (hmark c hc).1
    simp only [List.singleton_append] at hwhole
    simp only [readLiteral?, if_neg hempty, List.append_assoc, List.cons_append, hwhole, hpoint,
      hread, Option.bind_eq_bind, Option.bind_some, Option.pure_def]

end Json

namespace Decimal

open Json

/-! ### Digits -/

theorem toDigits_head {n : Nat} (h : n ≠ 0) : ∃ c cs, Nat.toDigits 10 n = c :: cs ∧ c ≠ '0' := by
  induction n using Nat.strongRecOn with
  | _ n ih =>
    by_cases hlt : n < 10
    · have hdigit : ∀ m : Fin 10, m.val ≠ 0 → m.val.digitChar ≠ '0' := by decide
      exact ⟨n.digitChar, [], Nat.toDigits_of_lt_base hlt, hdigit ⟨n, hlt⟩ h⟩
    · obtain ⟨c, cs, hdigits, hc⟩ := ih (n / 10) (by omega) (by omega)
      rw [Nat.toDigits_of_base_le (by decide) (by omega), hdigits]
      exact ⟨c, cs ++ [(n % 10).digitChar], rfl, hc⟩

theorem toDigits_isDigit {n : Nat} : ∀ c ∈ Nat.toDigits 10 n, c.isDigit = true :=
  fun _ hc => Nat.isDigit_of_mem_toDigits (by decide) (by decide) hc

/-- A significand that is not zero keeps being none. -/
theorem trimmed_ne_zero : ∀ (fuel : Nat) (d : Digits), d.significand ≠ 0 →
    (d.trimmed fuel).significand ≠ 0
  | 0, _, h => h
  | fuel + 1, d, h => by
    unfold Digits.trimmed
    split
    · next hzero => exact trimmed_ne_zero fuel _ (by dsimp only; omega)
    · exact h

namespace Neighbourhood

theorem contains_of_nearest {tie : Tie} {n : Neighbourhood} {c : Nat}
    (h : n.nearest tie = some c) : n.contains c = true := by
  unfold nearest at h
  dsimp only at h
  split at h
  · next hboth =>
    obtain ⟨hdown, hup⟩ := Bool.and_eq_true_iff.mp hboth
    have hc : c = n.value / n.denominator ∨ c = n.value / n.denominator + 1 := by
      split at h
      · exact .inl (Option.some.inj h).symm
      · split at h
        · exact .inr (Option.some.inj h).symm
        · cases tie with
          | up => exact .inr (Option.some.inj h).symm
          | toEven =>
            rw [← Option.some.inj h]
            split
            · exact .inl rfl
            · exact .inr rfl
    rcases hc with rfl | rfl
    · exact hdown
    · exact hup
  · split at h
    · next hdown => exact Option.some.inj h ▸ hdown
    · split at h
      · next hup => exact Option.some.inj h ▸ hup
      · cases h

/-- Zero is not near a number that is not zero. -/
theorem contains_zero {n : Neighbourhood} (h : 0 < n.low) : n.contains 0 = false := by
  unfold contains
  rw [Nat.zero_mul]
  dsimp only
  split
  · rw [decide_eq_false (Nat.not_le.mpr h), Bool.false_and]
  · rw [decide_eq_false (Nat.not_lt_zero _), Bool.false_and]

theorem low_pos {mantissa : Nat} (h : mantissa ≠ 0) (exponent power : Int) :
    0 < ((of mantissa exponent).inUnits power).low := by
  unfold inUnits of
  dsimp only
  refine Nat.mul_pos (Nat.mul_pos ?_ (Nat.pow_pos (by decide))) (Nat.pow_pos (by decide))
  split <;> omega

end Neighbourhood

/-- **The fewest digits of a number that is not zero are not zero**; were none found, a zero would
stand for them. -/
theorem shortest_cases (tie : Tie) {mantissa : Nat} (h : mantissa ≠ 0) (exponent : Int) :
    (shortest tie mantissa exponent).significand ≠ 0 ∨
      shortest tie mantissa exponent = ⟨0, 0⟩ := by
  unfold shortest
  dsimp only
  cases hfound : (List.range 18).findSome? _ with
  | none => exact .inr rfl
  | some d =>
    left
    obtain ⟨count, -, hgrid⟩ := List.exists_of_findSome?_eq_some hfound
    obtain ⟨c, hnearest, rfl⟩ := Option.map_eq_some_iff.mp hgrid
    refine trimmed_ne_zero 20 _ fun hc => ?_
    have hcontains := Neighbourhood.contains_of_nearest hnearest
    dsimp only at hc
    rw [hc, Neighbourhood.contains_zero (Neighbourhood.low_pos h exponent _)] at hcontains
    cases hcontains

/-! ### Layouts -/

/-- **A text that is a number**, with either sign and whatever may stand behind it. -/
structure IsNumber (cs : List Char) : Prop where
  head : ∃ c ∈ cs.head?, c.isDigit = true
  read : ∀ negative, ∃ l : Json.Literal, ∀ rest, Delimited rest →
    readLiteral? negative (cs ++ rest) = some (l, rest)

theorem isNumber_point {whole fraction : List Char} (hwhole : IsWhole whole) (hne : fraction ≠ [])
    (hfraction : ∀ c ∈ fraction, c.isDigit = true) : IsNumber (whole ++ '.' :: fraction) where
  head := by
    rcases hwhole.head with rfl | ⟨c, cs, rfl, -⟩
    · exact ⟨'0', rfl, rfl⟩
    · exact ⟨c, rfl, hwhole.isDigit c List.mem_cons_self⟩
  read negative := ⟨_, fun _ => readLiteral?_positional negative hwhole hne hfraction⟩

section Digits

variable {c : Char} {cs : List Char} (hdigits : ∀ d ∈ c :: cs, d.isDigit = true)
include hdigits

theorem isNumber_positional (hc : c ≠ '0') (whole : Int) :
    IsNumber (positionalText (c :: cs) whole true) := by
  have hreplicate : ∀ n, ∀ d ∈ List.replicate n '0', d.isDigit = true := by
    intro n d hd
    rw [(List.mem_replicate.mp hd).2]
    rfl
  have happend : ∀ {as bs : List Char}, (∀ d ∈ as, d.isDigit = true) →
      (∀ d ∈ bs, d.isDigit = true) → ∀ d ∈ as ++ bs, d.isDigit = true :=
    fun ha hb d hd => (List.mem_append.mp hd).elim (ha d) (hb d)
  unfold positionalText
  dsimp only
  by_cases hwhole : whole ≤ 0
  · rw [if_pos hwhole, if_pos hwhole, if_neg (by simp)]
    exact isNumber_point (isWhole_singleton rfl) (by simp) (happend (hreplicate _) hdigits)
  · rw [if_neg hwhole, if_neg hwhole]
    obtain ⟨n, hn⟩ : ∃ n, whole.toNat = n + 1 := ⟨whole.toNat - 1, by omega⟩
    have hleft : IsWhole ((c :: cs).take whole.toNat ++
        List.replicate (whole.toNat - (c :: cs).length) '0') := by
      refine ⟨happend (fun d hd => hdigits d (List.mem_of_mem_take hd)) (hreplicate _), .inr ?_⟩
      rw [hn]
      exact ⟨c, _, rfl, hc⟩
    split
    · exact isNumber_point hleft (List.cons_ne_nil _ _) (List.forall_mem_singleton.mpr rfl)
    · next hright =>
      exact isNumber_point hleft (fun hnil => hright (by rw [hnil]; rfl))
        fun d hd => hdigits d (List.mem_of_mem_drop hd)

theorem isNumber_scientific (power : Int) : IsNumber (exponentText (c :: cs) power "+") := by
  obtain ⟨sign, hsign, hmark⟩ : ∃ sign, (sign = '-' ∨ sign = '+') ∧
      (if power < 0 then ['e', '-'] else 'e' :: "+".toList) = ['e', sign] := by
    by_cases hpower : power < 0
    · exact ⟨'-', .inl rfl, if_pos hpower⟩
    · exact ⟨'+', .inr rfl, if_neg hpower⟩
  have htext : exponentText (c :: cs) power "+" =
      c :: ((if cs = [] then [] else '.' :: cs) ++
        'e' :: sign :: Nat.toDigits 10 power.natAbs) := by
    unfold exponentText
    dsimp only
    rw [hmark]
    cases cs <;> simp
  rw [htext]
  refine ⟨⟨c, rfl, hdigits c List.mem_cons_self⟩, fun negative =>
    ⟨⟨negative, [c], cs, some (sign == '-', Nat.toDigits 10 power.natAbs)⟩, fun rest hrest => ?_⟩⟩
  exact readLiteral?_scientific negative (hdigits c List.mem_cons_self)
    (fun d hd => hdigits d (List.mem_cons_of_mem _ hd)) hsign Nat.toDigits_ne_nil
    toDigits_isDigit hrest

end Digits

/-- **The magnitude of a finite number is written as a number.** -/
theorem isNumber_magnitude (mantissa : Nat) (exponent : Int) :
    IsNumber (Value.jsonLayout.magnitude mantissa exponent) := by
  have hzero : IsNumber ['0', '.', '0'] :=
    isNumber_point (isWhole_singleton rfl) (List.cons_ne_nil _ _)
      (List.forall_mem_singleton.mpr rfl)
  unfold Layout.magnitude
  by_cases h : mantissa = 0
  · rw [if_pos h]
    exact hzero
  · rw [if_neg h]
    rcases shortest_cases Value.jsonLayout.tie h exponent with hne | heq
    · obtain ⟨c, cs, hdigits, hc⟩ := toDigits_head hne
      have hall : ∀ d ∈ c :: cs, d.isDigit = true := hdigits ▸ toDigits_isDigit
      unfold Layout.digits
      rw [hdigits]
      dsimp only
      split
      · exact isNumber_positional hall hc _
      · exact isNumber_scientific hall _
    · rw [heq]
      exact hzero

end Decimal

namespace Json

open Decimal

theorem readNumber?_of_isDigit {c : Char} {cs : List Char} (h : c.isDigit = true) :
    readNumber? (c :: cs) = readLiteral? false (c :: cs) := by
  unfold readNumber?
  split
  · next hminus =>
    rw [(List.cons.inj hminus).1] at h
    cases h
  · rfl

/-- **A finite number is written as a number of JSON.** -/
theorem exists_literal_write {x : Float} (h : (Parts.ofFloat x).isFinite = true) :
    ∃ l : Literal, ∀ rest, Delimited rest →
      readNumber? ((Value.jsonLayout.write x).toList ++ rest) = some (l, rest) := by
  unfold Layout.write
  cases hparts : Parts.ofFloat x with
  | nan | infinite =>
    rw [hparts] at h
    cases h
  | finite b =>
    obtain ⟨⟨c, hhead, hc⟩, hread⟩ := isNumber_magnitude b.mantissa b.exponent
    obtain ⟨l, hl⟩ := hread b.negative
    refine ⟨l, fun rest hrest => ?_⟩
    dsimp only
    rw [String.toList_ofList]
    have hrest := hl rest hrest
    cases hnegative : b.negative with
    | true =>
      rw [hnegative] at hrest
      exact hrest
    | false =>
      rw [hnegative] at hrest
      obtain ⟨cs, hcs⟩ := List.head?_eq_some_iff.mp hhead
      rw [hcs] at hrest ⊢
      exact (readNumber?_of_isDigit hc).trans hrest

theorem head_write {x : Float} (h : (Parts.ofFloat x).isFinite = true) :
    ∃ c ∈ (Value.jsonLayout.write x).toList.head?, c.isDigit = true ∨ c = '-' := by
  unfold Layout.write
  cases hparts : Parts.ofFloat x with
  | nan | infinite =>
    rw [hparts] at h
    cases h
  | finite b =>
    obtain ⟨c, hhead, hc⟩ := (isNumber_magnitude b.mantissa b.exponent).head
    dsimp only
    rw [String.toList_ofList]
    cases b.negative with
    | true => exact ⟨'-', rfl, .inr rfl⟩
    | false => exact ⟨c, hhead, .inl hc⟩

/-! ### Finite floats -/

open Float.Model in
/-- A float is finite if its exponent is not the greatest one. -/
theorem isFinite_ofFloat {x : Float} (h : x.isFinite = true) :
    (Parts.ofFloat x).isFinite = true := by
  have hexponent : x.toBits.toNat / hiddenBit % 2048 ≠ 2047 := by
    intro hgreatest
    change x.toModel.toBits.toNat / hiddenBit % 2048 = 2047 at hgreatest
    have hvec : @UnpackedFloat.unpackExponent Format.binary64
        x.toModel.toBits.toBitVec = -1#_ := by
      apply BitVec.eq_of_toNat_eq
      simpa [UnpackedFloat.unpackExponent, Nat.shiftRight_eq_div_pow, hiddenBit] using hgreatest
    have hfinite : (UnpackedFloat.unpack Format.binary64 x.toModel.toBits.toBitVec).isFinite =
        true := h
    unfold UnpackedFloat.unpack at hfinite
    dsimp only at hfinite
    rw [if_pos hvec] at hfinite
    split at hfinite <;> cases hfinite
  unfold Parts.ofFloat Parts.ofFields
  rw [if_neg hexponent]
  split <;> rfl

/-- A finite float is equal to itself. -/
theorem beq_self_of_isFinite {x : Float} (h : x.isFinite = true) : (x == x) = true := by
  show (x.toModel.unpack.compare x.toModel.unpack == some .eq) = true
  have hfinite : x.toModel.unpack.isFinite = true := h
  cases hx : x.toModel.unpack with
  | infinity sign | notANumber =>
    rw [hx] at hfinite
    cases hfinite
  | zero sign => rfl
  | finite sign m e hm =>
    unfold Float.Model.UnpackedFloat.compare
    cases sign <;> simp

end Json

end StageScript
