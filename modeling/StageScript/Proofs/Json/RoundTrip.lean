import Mathlib.Data.List.Forall2
import StageScript.CommandLine.Execute
import StageScript.Proofs.Json.Number
import StageScript.Proofs.Json.Text

/-!
# Values survive JSON

A value is written without a word of its kind: booleans, numbers, texts, arrays, objects and `null`
are told apart by their first character. What was written for a value is read as one tree, whatever
stands behind it (`Json.Spells`), and the tree stands for the value again, but that its collections
admit anything (`Value.unconstrained`).

Reading is a matter of three things. The budget of the reader has to suffice: twice the length of
the text does, since every call that is nested takes a character or a budget of its own. The
brackets must not be nested too deep (`Value.depth`). And the digits of a number have to stand for
the float they were written for (`Json.ReadsBack`); all else about numbers is shown.
-/

namespace StageScript

namespace Value

mutual

/-- The numbers in a value. -/
def numbers : Value → List Number
  | .number n => [n]
  | .collection _ items => numbersOf items
  | _ => []

/-- The numbers in several values. -/
def numbersOf : List Value → List Number
  | [] => []
  | v :: vs => numbers v ++ numbersOf vs

end

mutual

/-- How deep brackets are nested in the JSON text of a value. -/
def depth : Value → Nat
  | .collection _ items => depthOf items + 1
  | .object _ => 1
  | _ => 0

/-- How deep brackets are nested in the JSON texts of several values. -/
def depthOf : List Value → Nat
  | [] => 0
  | v :: vs => max (depth v) (depthOf vs)

end

mutual

/-- The value with collections that admit anything, at every level. -/
def unconstrained : Value → Value
  | .collection _ items => .collection .any (unconstrainedItems items)
  | v => v

/-- The values with collections that admit anything. -/
def unconstrainedItems : List Value → List Value
  | [] => []
  | v :: vs => unconstrained v :: unconstrainedItems vs

end

mutual

/-- **The value with collections that admit anything is equal to the value.** -/
theorem unconstrained_equal : ∀ v : Value, (∀ n ∈ v.numbers, n.float.isFinite = true) →
    equal v.unconstrained v = true
  | .unit, _ => rfl
  | .boolean b, _ => by simp [unconstrained, equal]
  | .number n, h => Json.beq_self_of_isFinite (h n (List.mem_singleton_self n))
  | .text s, _ => by simp [unconstrained, equal]
  | .collection _ items, h => by
    rw [unconstrained, equal]
    exact unconstrainedItems_equal items h
  | .object o, _ => by simp [unconstrained, equal]

theorem unconstrainedItems_equal : ∀ vs : List Value,
    (∀ n ∈ numbersOf vs, n.float.isFinite = true) →
      equalItems (unconstrainedItems vs) vs = true
  | [], _ => rfl
  | v :: vs, h => by
    rw [unconstrainedItems, equalItems,
      unconstrained_equal v fun n hn => h n (List.mem_append_left _ hn),
      unconstrainedItems_equal vs fun n hn => h n (List.mem_append_right _ hn)]
    rfl

end

end Value

namespace Json

open Value

/-! ### What is read -/

/-- **A text that is read as a tree**, whatever stands behind it that could not go on with a
number. -/
structure Spells (cs : List Char) (json : Json) : Prop where
  head : ∃ c ∈ cs.head?, isSpace c = false ∧ c ≠ ']'
  read : ∀ budget rest, 2 * cs.length ≤ budget → Delimited rest →
    readValue? budget (cs ++ rest) = some (json, rest)

theorem skipSpace_cons {c : Char} (h : isSpace c = false) (cs : List Char) :
    skipSpace (c :: cs) = c :: cs := by
  simp [skipSpace, h]

theorem ne_of_isDigit {c d : Char} (h : c.isDigit = true) (hd : d.isDigit = false) : c ≠ d := by
  rintro rfl
  rw [hd] at h
  cases h

theorem isSpace_of_isDigit {c : Char} (h : c.isDigit = true) : isSpace c = false := by
  simp [isSpace, ne_of_isDigit h (d := ' ') rfl, ne_of_isDigit h (d := '\t') rfl,
    ne_of_isDigit h (d := '\n') rfl, ne_of_isDigit h (d := '\r') rfl]

/-! ### The first character -/

section First

variable (budget : Nat) (cs : List Char)

theorem readValue?_quote : readValue? (budget + 1) ('"' :: cs) =
    (readText? cs).map fun read => (.text read.1, read.2) := rfl

theorem readValue?_bracket : readValue? (budget + 1) ('[' :: cs) =
    match skipSpace cs with
    | ']' :: rest => some (.array [], rest)
    | cs => (readItems? budget cs).map fun read => (.array read.1, read.2) := rfl

theorem readValue?_brace : readValue? (budget + 1) ('\x7b' :: cs) =
    match skipSpace cs with
    | '\x7d' :: rest => some (.object [], rest)
    | cs => (readMembers? budget cs).map fun read => (.object read.1, read.2) := rfl

theorem readValue?_minus : readValue? (budget + 1) ('-' :: cs) =
    (readLiteral? true cs).map fun read => (.number read.1, read.2) := rfl

theorem readValue?_digit {c : Char} (h : c.isDigit = true) : readValue? (budget + 1) (c :: cs) =
    (readLiteral? false (c :: cs)).map fun read => (.number read.1, read.2) := by
  rw [readValue?, skipSpace_cons (isSpace_of_isDigit h)]
  -- No other first character is a digit.
  split
  case h_9 => rfl
  all_goals
    first
    | next heq => exact absurd (List.cons.inj heq).1 (ne_of_isDigit h rfl)
    | next heq => cases heq

end First

/-! ### Values without brackets -/

theorem spells_null : Spells "null".toList .null where
  head := ⟨'n', rfl, by decide⟩
  read budget rest h _ := by
    obtain ⟨b, rfl⟩ : ∃ b, budget = b + 1 := ⟨budget - 1, by simp at h; omega⟩
    rfl

theorem spells_boolean (b : Bool) :
    Spells (if b then "true" else "false").toList (.boolean b) where
  head := by cases b <;> exact ⟨_, rfl, by decide⟩
  read budget rest h _ := by
    obtain ⟨n, rfl⟩ : ∃ n, budget = n + 1 := ⟨budget - 1, by cases b <;> simp at h <;> omega⟩
    cases b <;> rfl

theorem jsonText_toList (s : String) :
    (jsonText s).toList = '"' :: (s.toList.flatMap jsonChar ++ ['"']) :=
  String.toList_ofList

theorem spells_text (s : String) : Spells (jsonText s).toList (.text (some s)) where
  head := ⟨'"', by rw [jsonText_toList]; rfl, by decide⟩
  read budget rest h _ := by
    rw [jsonText_toList] at h ⊢
    obtain ⟨b, rfl⟩ : ∃ b, budget = b + 1 := ⟨budget - 1, by simp at h; omega⟩
    rw [List.cons_append, List.append_assoc, List.singleton_append, readValue?_quote,
      readText?_jsonText]
    rfl

theorem spells_number {x : Float} (h : x.isFinite = true) :
    ∃ l : Literal, readNumber? (jsonLayout.write x).toList = some (l, []) ∧
      Spells (jsonLayout.write x).toList (.number l) := by
  have hparts := isFinite_ofFloat h
  obtain ⟨l, hl⟩ := exists_literal_write hparts
  obtain ⟨c, hc, hdigit⟩ := head_write hparts
  obtain ⟨cs, hcs⟩ := List.head?_eq_some_iff.mp hc
  refine ⟨l, by simpa using hl [] delimited_nil, ⟨c, hc, ?_⟩, fun budget rest hbudget hrest => ?_⟩
  · rcases hdigit with hdigit | rfl
    · exact ⟨isSpace_of_isDigit hdigit, ne_of_isDigit hdigit rfl⟩
    · decide
  · have hread := hl rest hrest
    rw [hcs] at hread hbudget ⊢
    obtain ⟨b, rfl⟩ : ∃ b, budget = b + 1 := ⟨budget - 1, by simp at hbudget; omega⟩
    rcases hdigit with hdigit | rfl
    · rw [List.cons_append] at hread ⊢
      rw [readNumber?_of_isDigit hdigit] at hread
      rw [readValue?_digit _ _ hdigit, hread]
      rfl
    · rw [List.cons_append] at hread ⊢
      replace hread : readLiteral? true (cs ++ rest) = some (l, rest) := hread
      rw [readValue?_minus, hread]
      rfl

/-! ### Arrays -/

theorem delimited_cons {c : Char} (h : c.isDigit = false ∧ c ≠ '.' ∧ c ≠ 'e' ∧ c ≠ 'E')
    (cs : List Char) : Delimited (c :: cs) := by
  rintro d ⟨⟩
  exact h

section Step

variable {budget : Nat} {cs rest : List Char} {json : Json}

theorem readItems?_last (h : readValue? budget cs = some (json, ']' :: rest)) :
    readItems? (budget + 1) cs = some ([json], rest) := by
  rw [readItems?, h]
  rfl

theorem readItems?_more {more : List Char} {js : List Json}
    (h : readValue? budget cs = some (json, ',' :: more))
    (hmore : readItems? budget more = some (js, rest)) :
    readItems? (budget + 1) cs = some (json :: js, rest) := by
  rw [readItems?, h]
  simp only [Option.bind_eq_bind, Option.bind_some, skipSpace_cons (c := ',') rfl, hmore]
  rfl

/-- A key is written in quotes, with a colon behind it. -/
theorem readMembers?_last {key : String}
    (h : readValue? budget cs = some (json, '\x7d' :: rest)) :
    readMembers? (budget + 1) ((jsonText key).toList ++ ':' :: cs) =
      some ([(some key, json)], rest) := by
  rw [jsonText_toList, List.cons_append, List.append_assoc, List.singleton_append, readMembers?,
    skipSpace_cons rfl]
  simp only [readText?_jsonText, Option.bind_eq_bind, Option.bind_some,
    skipSpace_cons (c := ':') rfl, h]
  rfl

theorem readMembers?_more {key : String} {more : List Char}
    {members : List (Option String × Json)}
    (h : readValue? budget cs = some (json, ',' :: more))
    (hmore : readMembers? budget more = some (members, rest)) :
    readMembers? (budget + 1) ((jsonText key).toList ++ ':' :: cs) =
      some ((some key, json) :: members, rest) := by
  rw [jsonText_toList, List.cons_append, List.append_assoc, List.singleton_append, readMembers?,
    skipSpace_cons rfl]
  simp only [readText?_jsonText, Option.bind_eq_bind, Option.bind_some,
    skipSpace_cons (c := ':') rfl, h, skipSpace_cons (c := ',') rfl, hmore]
  rfl

end Step

/-- Items are read one after the other. -/
theorem readItems?_intercalate {texts : List (List Char)} {js : List Json}
    (h : List.Forall₂ Spells texts js) (hne : texts ≠ []) : ∀ budget rest,
    2 * ([','].intercalate texts).length + 1 ≤ budget →
      readItems? budget ([','].intercalate texts ++ ']' :: rest) = some (js, rest) := by
  induction h with
  | nil => exact absurd rfl hne
  | @cons text json texts js hhead htail ih =>
    intro budget rest hbudget
    obtain ⟨b, rfl⟩ : ∃ b, budget = b + 1 := ⟨budget - 1, by omega⟩
    cases htail with
    | nil =>
      rw [List.intercalate_singleton] at hbudget ⊢
      exact readItems?_last (hhead.read b _ (by omega) (delimited_cons (by decide) rest))
    | cons hnext htail =>
      rw [List.intercalate_cons_cons] at hbudget ⊢
      simp only [List.length_append, List.length_singleton] at hbudget
      rw [List.append_assoc, List.append_assoc]
      exact readItems?_more (hhead.read b _ (by omega) (delimited_cons (by decide) _))
        (ih (List.cons_ne_nil _ _) b rest (by omega))

theorem spells_array {texts : List (List Char)} {js : List Json}
    (h : List.Forall₂ Spells texts js) :
    Spells ('[' :: ([','].intercalate texts ++ [']'])) (.array js) where
  head := ⟨'[', rfl, by decide⟩
  read budget rest hbudget _ := by
    simp only [List.length_cons, List.length_append, List.length_nil] at hbudget
    obtain ⟨b, rfl⟩ : ∃ b, budget = b + 1 := ⟨budget - 1, by omega⟩
    rw [List.cons_append, List.append_assoc, List.singleton_append, readValue?_bracket]
    cases h with
    | nil => rfl
    | @cons text json texts js hhead htail =>
      have hread := readItems?_intercalate (.cons hhead htail) (List.cons_ne_nil _ _) b rest
        (by omega)
      obtain ⟨c, hc, hspace, hbracket⟩ := hhead.head
      obtain ⟨cs, rfl⟩ := List.head?_eq_some_iff.mp hc
      obtain ⟨more, hmore⟩ : ∃ more, [','].intercalate ((c :: cs) :: texts) ++ ']' :: rest =
          c :: more := by
        cases texts with
        | nil => exact ⟨_, by rw [List.intercalate_singleton]; rfl⟩
        | cons next texts => exact ⟨_, by rw [List.intercalate_cons_cons]; rfl⟩
      rw [hmore] at hread ⊢
      rw [skipSpace_cons hspace]
      split
      · next heq => exact absurd (List.cons.inj heq).1 hbracket
      · rw [hread]
        rfl

/-! ### Objects -/

/-- A member whose value is a text. -/
def memberText (member : String × String) : List Char :=
  (jsonText member.1).toList ++ ':' :: (jsonText member.2).toList

/-- Members are read one after the other. -/
theorem readMembers?_intercalate (m : String × String) (members : List (String × String)) :
    ∀ budget rest,
      2 * ([','].intercalate (memberText m :: members.map memberText)).length + 1 ≤ budget →
        readMembers? budget
            ([','].intercalate (memberText m :: members.map memberText) ++ '\x7d' :: rest) =
          some ((m :: members).map fun m => (some m.1, .text (some m.2)), rest) := by
  have hlength : ∀ m, (memberText m).length =
      (jsonText m.1).toList.length + ((jsonText m.2).toList.length + 1) := fun m => by
    rw [memberText, List.length_append, List.length_cons]
  induction members generalizing m with
  | nil =>
    intro budget rest hbudget
    obtain ⟨b, rfl⟩ : ∃ b, budget = b + 1 := ⟨budget - 1, by omega⟩
    rw [List.map_nil, List.intercalate_singleton, hlength] at hbudget
    rw [List.map_nil, List.intercalate_singleton, memberText, List.append_assoc, List.cons_append]
    exact readMembers?_last
      ((spells_text m.2).read b _ (by omega) (delimited_cons (by decide) rest))
  | cons next members ih =>
    intro budget rest hbudget
    obtain ⟨b, rfl⟩ : ∃ b, budget = b + 1 := ⟨budget - 1, by omega⟩
    rw [List.map_cons, List.intercalate_cons_cons] at hbudget ⊢
    simp only [List.length_append, List.length_singleton, hlength] at hbudget
    have hmore := ih next b rest (by omega)
    rw [memberText, List.append_assoc, List.append_assoc, List.append_assoc, List.cons_append]
    exact readMembers?_more
      ((spells_text m.2).read b _ (by omega) (delimited_cons (by decide) _)) hmore

theorem jsonObject_toList (members : List (String × String)) :
    (jsonObject (members.map fun m => (m.1, jsonText m.2))).toList =
      '\x7b' :: ([','].intercalate (members.map memberText) ++ ['\x7d']) := by
  unfold jsonObject
  rw [String.toList_append, String.toList_append, String.toList_intercalate]
  simp only [List.map_map]
  have hmap : members.map (String.toList ∘ (fun member => jsonText member.1 ++ ":" ++ member.2) ∘
      fun m => (m.1, jsonText m.2)) = members.map memberText := by
    refine List.map_congr_left fun m _ => ?_
    simp [memberText]
  rw [hmap]
  rfl

theorem spells_object (m : String × String) (members : List (String × String)) :
    Spells (jsonObject ((m :: members).map fun m => (m.1, jsonText m.2))).toList
      (.object ((m :: members).map fun m => (some m.1, .text (some m.2)))) := by
  rw [jsonObject_toList]
  refine ⟨⟨'\x7b', rfl, by decide⟩, fun budget rest hbudget _ => ?_⟩
  simp only [List.length_cons, List.length_append, List.length_nil] at hbudget
  obtain ⟨b, rfl⟩ : ∃ b, budget = b + 1 := ⟨budget - 1, by omega⟩
  rw [List.map_cons] at hbudget ⊢
  have hread := readMembers?_intercalate m members b rest (by omega)
  rw [List.cons_append, List.append_assoc, List.singleton_append, readValue?_brace]
  obtain ⟨more, hmore⟩ : ∃ more, [','].intercalate (memberText m :: members.map memberText) ++
      '\x7d' :: rest = '"' :: more := by
    cases members with
    | nil => simp [memberText, jsonText_toList]
    | cons next members => simp [memberText, jsonText_toList, List.intercalate_cons_cons]
  rw [hmore] at hread ⊢
  rw [skipSpace_cons rfl]
  split
  · next heq => exact absurd (List.cons.inj heq).1 (by decide)
  · rw [hread]
    rfl

/-! ### Values -/

/-- **The digits a float is written with are read back as the float.** -/
def ReadsBack (x : Float) : Prop :=
  ∀ l, readNumber? (jsonLayout.write x).toList = some (l, []) → l.toFloat? = some x

/-- A text that is read as a tree that stands for the value, nested no deeper than `depth`. -/
structure Stands (cs : List Char) (v : Value) (depth : Nat) (json : Json) : Prop where
  spells : Spells cs json
  value : json.toValue? = some v
  readable : ∀ limit, json.isReadable limit = decide (depth ≤ limit)

theorem membersReadable_texts (depth : Nat) : ∀ members : List (String × String),
    membersReadable depth (members.map fun m => (some m.1, .text (some m.2))) = true
  | [] => rfl
  | m :: members => by
    rw [List.map_cons, membersReadable, membersReadable_texts depth members]
    rfl

/-- The members an object of the stage is written with. -/
def membersOf : Object → List (String × String)
  | .character c => [("id", c.id), ("uniqueName", c.uniqueName)]
  | .entity e => [("id", e.id), ("name", e.name)]

/-- The kind an object of the stage is written with. -/
def kindOf : Object → String
  | .character _ => "Character"
  | .entity _ => "Entity"

theorem object_stands (o : Object) : ∃ json,
    Stands (jsonOfObject o).toList (.object o) 1 json := by
  have htext : jsonOfObject o =
      jsonObject ((("kind", kindOf o) :: membersOf o).map fun m => (m.1, jsonText m.2)) := by
    cases o <;> rfl
  rw [htext]
  refine ⟨_, spells_object _ _, ?_, fun limit => ?_⟩
  · cases o <;> rfl
  · cases limit with
    | zero => rfl
    | succ n => exact (membersReadable_texts n _).trans (decide_eq_true (by omega)).symm

mutual

/-- **The text of a value is read as a tree that stands for the value.** -/
theorem value_stands : ∀ v : Value, (∀ n ∈ v.numbers, n.float.isFinite = true) →
    (∀ n ∈ v.numbers, ReadsBack n.float) →
      ∃ json, Stands v.toJson.toList v.unconstrained v.depth json
  | .unit, _, _ => ⟨_, spells_null, rfl, fun _ => rfl⟩
  | .boolean b, _, _ => ⟨_, spells_boolean b, rfl, fun _ => rfl⟩
  | .number n, hfinite, hback => by
    have hn : n ∈ (Value.number n).numbers := List.mem_singleton_self n
    obtain ⟨l, hread, hspells⟩ := spells_number (hfinite n hn)
    have hl := hback n hn l hread
    refine ⟨_, hspells, ?_, fun limit => ?_⟩
    · rw [toValue?, hl]
      rfl
    · rw [isReadable, hl]
      rfl
  | .text s, _, _ => ⟨_, spells_text s, rfl, fun _ => rfl⟩
  | .collection _ items, hfinite, hback => by
    obtain ⟨js, hspells, hvalues, hreadable⟩ := items_stand items hfinite hback
    have htext : (Value.collection ‹_› items).toJson.toList =
        '[' :: ([','].intercalate ((toJsons items).map String.toList) ++ [']']) := by
      rw [toJson, String.toList_append, String.toList_append, String.toList_intercalate]
      rfl
    rw [htext]
    refine ⟨_, spells_array hspells, ?_, fun limit => ?_⟩
    · rw [toValue?, hvalues]
      rfl
    · cases limit with
      | zero => rfl
      | succ n =>
        rw [isReadable, hreadable n, depth]
        exact decide_eq_decide.mpr (Nat.add_le_add_iff_right (n := 1)).symm
  | .object o, _, _ => object_stands o

theorem items_stand : ∀ vs : List Value, (∀ n ∈ numbersOf vs, n.float.isFinite = true) →
    (∀ n ∈ numbersOf vs, ReadsBack n.float) →
      ∃ js, List.Forall₂ Spells ((toJsons vs).map String.toList) js ∧
        toValues? js = some (unconstrainedItems vs) ∧
        ∀ limit, areReadable limit js = decide (depthOf vs ≤ limit)
  | [], _, _ => ⟨[], .nil, rfl, fun _ => rfl⟩
  | v :: vs, hfinite, hback => by
    obtain ⟨j, hj⟩ := value_stands v (fun n hn => hfinite n (List.mem_append_left _ hn))
      fun n hn => hback n (List.mem_append_left _ hn)
    obtain ⟨js, hspells, hvalues, hreadable⟩ :=
      items_stand vs (fun n hn => hfinite n (List.mem_append_right _ hn))
        fun n hn => hback n (List.mem_append_right _ hn)
    refine ⟨j :: js, .cons hj.spells hspells, ?_, fun limit => ?_⟩
    · rw [toValues?, hj.value, hvalues]
      rfl
    · rw [areReadable, hj.readable limit, hreadable limit, depthOf, ← Bool.decide_and]
      exact decide_eq_decide.mpr Nat.max_le.symm

end

end Json

/-! ### The whole text -/

open Json in
/-- **What is read from the text of a value**: the value, unless brackets are nested too deep. -/
theorem Value.ofJson?_toJson {v : Value} (hfinite : ∀ n ∈ v.numbers, n.float.isFinite = true)
    (hback : ∀ n ∈ v.numbers, ReadsBack n.float) :
    Value.ofJson? v.toJson = if v.depth ≤ maxDepth then some v.unconstrained else none := by
  obtain ⟨json, hspells, hvalue, hreadable⟩ := value_stands v hfinite hback
  have hread := hspells.read (2 * v.toJson.toList.length + 2) [] (by omega) delimited_nil
  rw [List.append_nil] at hread
  have hwhole : read? v.toJson = some json := by
    unfold read?
    simp only [hread, Option.bind_eq_bind, Option.bind_some]
    rfl
  unfold Value.ofJson? readFull?
  simp only [hwhole, Option.bind_eq_bind, Option.bind_some, hreadable maxDepth, decide_eq_true_eq]
  split
  · exact hvalue
  · rfl

open Text CommandLine in
/-- A binding is read at its first sign. -/
theorem CommandLine.readBinding_append {name : String} (hsign : '=' ∉ name.toList)
    (hname : trim name.toList ≠ []) (text : String) :
    readBinding (name ++ "=" ++ text) =
      .ok (String.ofList (trim name.toList), (Value.ofJson? text).getD (.text text)) := by
  have hall : ∀ c ∈ name.toList, decide (c ≠ '=') = true := fun c hc =>
    decide_eq_true fun heq => hsign (heq ▸ hc)
  have hraw : (name ++ "=" ++ text).toList = name.toList ++ '=' :: text.toList := by
    rw [String.toList_append, String.toList_append, List.append_assoc]
    rfl
  have hdrop : (name ++ "=" ++ text).toList.dropWhile (· ≠ '=') = '=' :: text.toList := by
    rw [hraw, List.dropWhile_append_of_pos hall]
    rfl
  have htake : (name ++ "=" ++ text).toList.takeWhile (· ≠ '=') = name.toList := by
    rw [hraw, List.takeWhile_append_of_pos hall]
    exact List.append_nil _
  unfold readBinding
  simp only [hdrop, htake, List.isEmpty_iff, if_neg hname, String.ofList_toList]

open Text CommandLine in
/-- **Values survive JSON and bindings.** A value whose numbers are finite and read back, and whose
text opens at most 127 brackets inside one another, is read from its text: equal to what it was,
with collections that admit anything. So is a binding of any name to the text. -/
theorem Value.survives_json {v : Value} (hfinite : ∀ n ∈ v.numbers, n.float.isFinite = true)
    (hback : ∀ n ∈ v.numbers, Json.ReadsBack n.float) (hdepth : v.depth ≤ 127) :
    (Value.ofJson? v.toJson = some v.unconstrained ∧ (v.unconstrained == v) = true) ∧
      ∀ name : String, '=' ∉ name.toList → trim name.toList ≠ [] →
        readBinding (name ++ "=" ++ v.toJson) =
          .ok (String.ofList (trim name.toList), v.unconstrained) := by
  have hread := (Value.ofJson?_toJson hfinite hback).trans (if_pos hdepth)
  refine ⟨⟨hread, unconstrained_equal v hfinite⟩, fun name hsign hname => ?_⟩
  rw [readBinding_append hsign hname, hread]
  rfl

/-- A crew: a collection of numbers, one of texts with every kind of escape, someone, nobody. -/
def Value.crew : Value := .collection .any [
  .collection .number [.ofFloat (-2.5), .ofFloat 1e300],
  .collection .text [.text "a \"b\" \\ \n\u0001", .text ""],
  .object (.character ⟨"id", "Wanda \t"⟩),
  .boolean true,
  .unit]

theorem Value.survives_json_crew :
    (Value.ofJson? Value.crew.toJson = some Value.crew.unconstrained ∧
      (Value.crew.unconstrained == Value.crew) = true) ∧
      ∀ name : String, '=' ∉ name.toList → Text.trim name.toList ≠ [] →
        CommandLine.readBinding (name ++ "=" ++ Value.crew.toJson) =
          .ok (String.ofList (Text.trim name.toList), Value.crew.unconstrained) := by
  have hnumbers : Value.crew.numbers = [⟨-2.5⟩, ⟨1e300⟩] := rfl
  refine Value.survives_json ?_ ?_ (by decide)
  · rw [hnumbers]
    decide +kernel
  · rw [hnumbers]
    have hleft : Json.readNumber? (jsonLayout.write (-2.5)).toList =
        some (⟨true, ['2'], ['5'], none⟩, []) := by decide +kernel
    have hright : Json.readNumber? (jsonLayout.write 1e300).toList =
        some (⟨false, ['1'], [], some (false, ['3', '0', '0'])⟩, []) := by decide +kernel
    intro n hn l hl
    rcases List.mem_pair.mp hn with rfl | rfl
    · obtain ⟨rfl, -⟩ := Prod.ext_iff.mp (Option.some.inj (hleft.symm.trans hl))
      decide +kernel
    · obtain ⟨rfl, -⟩ := Prod.ext_iff.mp (Option.some.inj (hright.symm.trans hl))
      decide +kernel

end StageScript
