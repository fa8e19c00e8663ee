import StageScript.Syntax.Param

/-!
# Commands within commands

A param may hold commands: as a slot of its own, as an operand, as an item or as a binding. These
are its `commands`; what stands deeper, in the slots of those commands, is not counted. `inner`
gathers the commands that stand directly in the slots of a command, `Within` closes this under
nesting, and `depth` is the length of the longest chain of commands, each an inner command of the
one before. An inner command is smaller (`sizeOf_lt_of_mem_inner`), so all chains are finite.
-/

namespace StageScript

mutual

/-- The commands that stand in a param, outside of one another. -/
def Param.commands : Param → List Command
  | .command c => [c]
  | .bindings list => bindingCommands list
  | .collection _ _ _ items => itemCommands items
  | .math _ left right => left.commands ++ operandCommands right
  | .concat left right => left.commands ++ right.commands
  | .union left right => left.commands ++ right.commands
  | .difference left right => left.commands ++ right.commands
  | .condition _ left right => left.commands ++ operandCommands right
  | .ambiguous _ left right => left.commands ++ right.commands
  | _ => []
termination_by structural p => p

/-- The commands of an operand that may be left out. -/
def operandCommands : Option Param → List Command
  | none => []
  | some p => p.commands
termination_by structural p => p

/-- The commands of the items of a collection. -/
def itemCommands : List Param → List Command
  | [] => []
  | p :: ps => p.commands ++ itemCommands ps
termination_by structural ps => ps

/-- The commands of the values of bindings. -/
def bindingCommands : List (String × Param) → List Command
  | [] => []
  | b :: bs => bindingCommand b ++ bindingCommands bs
termination_by structural bs => bs

/-- The commands of the value of a binding. -/
def bindingCommand : String × Param → List Command
  | (_, p) => p.commands
termination_by structural b => b

end

theorem mem_itemCommands {c : Command} {ps : List Param} :
    c ∈ itemCommands ps ↔ ∃ p ∈ ps, c ∈ p.commands := by
  induction ps with
  | nil => simp [itemCommands]
  | cons p ps ih => simp [itemCommands, ih]

theorem mem_bindingCommands {c : Command} {bs : List (String × Param)} :
    c ∈ bindingCommands bs ↔ ∃ b ∈ bs, c ∈ b.2.commands := by
  induction bs with
  | nil => simp [bindingCommands]
  | cons b bs ih =>
    obtain ⟨name, p⟩ := b
    simp [bindingCommands, bindingCommand, ih]

theorem mem_operandCommands {c : Command} {right : Option Param} :
    c ∈ operandCommands right ↔ ∃ p ∈ right, c ∈ p.commands := by
  cases right <;> simp [operandCommands]

/-- The commands of a part of a param are commands of the param. -/
theorem Param.mem_commands_of_mem_parts {p q : Param} (hq : q ∈ p.parts) {c : Command}
    (hc : c ∈ q.commands) : c ∈ p.commands := by
  cases p with
  | value | «variable» | loopIndex | loopObject | absent | command => simp [parts] at hq
  | bindings list =>
    obtain ⟨b, hb, rfl⟩ := List.mem_map.mp hq
    exact mem_bindingCommands.mpr ⟨b, hb, hc⟩
  | collection element bare all items => exact mem_itemCommands.mpr ⟨q, hq, hc⟩
  | math operator left right | condition comparator left right =>
    rw [commands, List.mem_append]
    rcases List.mem_cons.mp hq with rfl | hq
    · exact .inl hc
    · exact .inr (mem_operandCommands.mpr ⟨q, Option.mem_toList.mp hq, hc⟩)
  | concat left right | union left right | difference left right | ambiguous place left right =>
    rw [commands, List.mem_append]
    rcases List.mem_cons.mp hq with rfl | hq
    · exact .inl hc
    · exact .inr (List.mem_singleton.mp hq ▸ hc)

/-- What is kept by going to a part is kept along a path. -/
theorem Param.part_induction {P : Param → Prop} (habsent : P .absent)
    (hpart : ∀ p, P p → ∀ q ∈ p.parts, P q) {p : Param} (hp : P p) (path : List Nat) :
    P (p.part path) := by
  induction path generalizing p with
  | nil => exact hp
  | cons index path ih =>
    refine ih ?_
    show P (p.parts.getD index .absent)
    rw [List.getD_eq_getElem?_getD]
    cases hq : p.parts[index]? with
    | none => exact habsent
    | some q => exact hpart p hp q (List.mem_of_getElem? hq)

theorem Param.mem_commands_of_mem_part {p : Param} {path : List Nat} {c : Command}
    (hc : c ∈ (p.part path).commands) : c ∈ p.commands := by
  have hkeep : ∀ q : Param, (∀ c ∈ q.commands, c ∈ p.commands) →
      ∀ r ∈ q.parts, ∀ c ∈ r.commands, c ∈ p.commands := fun q hq r hr c hc =>
    hq c (mem_commands_of_mem_parts hr hc)
  exact part_induction (P := fun q => ∀ c ∈ q.commands, c ∈ p.commands)
    (by simp [commands]) hkeep (fun _ h => h) path c hc

namespace Command

/-- The commands that stand in the slots of a command, outside of one another. -/
def inner (c : Command) : List Command := itemCommands c.params

/-- A command or one nested in it at any depth. -/
inductive Within : Command → Command → Prop
  | refl (c : Command) : Within c c
  | inner {c d e : Command} (hd : d ∈ e.inner) (h : Within c d) : Within c e

end Command

/-! ### Inner commands are smaller -/

mutual

theorem Param.sizeOf_lt_of_mem_commands {c : Command} :
    ∀ p : Param, c ∈ p.commands → sizeOf c < sizeOf p
  | .command d, h => by
    rw [Param.commands, List.mem_singleton] at h
    simp [h]
  | .bindings list, h => by
    have := sizeOf_lt_of_mem_bindingCommands list h
    simp; omega
  | .collection _ _ _ items, h => by
    have := sizeOf_lt_of_mem_itemCommands items h
    simp; omega
  | .math _ left right, h | .condition _ left right, h => by
    rcases List.mem_append.mp h with h | h
    · have := left.sizeOf_lt_of_mem_commands h
      simp; omega
    · have := sizeOf_lt_of_mem_operandCommands right h
      simp; omega
  | .concat left right, h | .union left right, h | .difference left right, h
  | .ambiguous _ left right, h => by
    rcases List.mem_append.mp h with h | h
    · have := left.sizeOf_lt_of_mem_commands h
      simp; omega
    · have := right.sizeOf_lt_of_mem_commands h
      simp; omega
  | .value _, h | .variable _, h | .loopIndex, h | .loopObject, h | .absent, h => by
    simp [Param.commands] at h

theorem sizeOf_lt_of_mem_operandCommands {c : Command} :
    ∀ p : Option Param, c ∈ operandCommands p → sizeOf c < sizeOf p
  | none, h => by simp [operandCommands] at h
  | some p, h => by
    have := p.sizeOf_lt_of_mem_commands h
    simp; omega

theorem sizeOf_lt_of_mem_itemCommands {c : Command} :
    ∀ ps : List Param, c ∈ itemCommands ps → sizeOf c < sizeOf ps
  | [], h => by simp [itemCommands] at h
  | p :: ps, h => by
    rcases List.mem_append.mp h with h | h
    · have := p.sizeOf_lt_of_mem_commands h
      simp; omega
    · have := sizeOf_lt_of_mem_itemCommands ps h
      simp; omega

theorem sizeOf_lt_of_mem_bindingCommands {c : Command} :
    ∀ bs : List (String × Param), c ∈ bindingCommands bs → sizeOf c < sizeOf bs
  | [], h => by simp [bindingCommands] at h
  | (_, p) :: bs, h => by
    rcases List.mem_append.mp h with h | h
    · have := p.sizeOf_lt_of_mem_commands h
      simp; omega
    · have := sizeOf_lt_of_mem_bindingCommands bs h
      simp; omega

end

namespace Command

theorem sizeOf_lt_of_mem_inner {c d : Command} (h : c ∈ d.inner) : sizeOf c < sizeOf d := by
  have := sizeOf_lt_of_mem_itemCommands d.params h
  obtain ⟨name, params, line⟩ := d
  simp at this ⊢; omega

/-- The length of the longest chain of nested commands that starts with a command. -/
def depth (c : Command) : Nat :=
  (c.inner.attach.map fun d => d.1.depth).foldr max 0 + 1
termination_by sizeOf c
decreasing_by exact sizeOf_lt_of_mem_inner d.2

theorem le_foldr_max {n : Nat} {ns : List Nat} (h : n ∈ ns) : n ≤ ns.foldr max 0 := by
  induction ns with
  | nil => simp at h
  | cons k ns ih =>
    rw [List.foldr_cons]
    rcases List.mem_cons.mp h with rfl | h
    · exact Nat.le_max_left _ _
    · exact Nat.le_trans (ih h) (Nat.le_max_right _ _)

theorem depth_lt_of_mem_inner {c d : Command} (h : c ∈ d.inner) : c.depth < d.depth := by
  have hmem : c.depth ∈ d.inner.attach.map fun e => e.1.depth :=
    List.mem_map.mpr ⟨⟨c, h⟩, List.mem_attach _ _, rfl⟩
  rw [depth.eq_def d]
  have := le_foldr_max hmem
  omega

theorem depth_of_inner_eq_nil {c : Command} (h : c.inner = []) : c.depth = 1 := by
  rw [depth.eq_def c]
  have hnil : c.inner.attach = [] := List.attach_eq_nil_iff.mpr h
  rw [hnil]
  rfl

theorem mem_itemCommands_of_mem_getD {c : Command} :
    ∀ (ps : List Param) (index : Nat), c ∈ (ps.getD index .absent).commands → c ∈ itemCommands ps
  | [], _, h => by simp [Param.commands] at h
  | p :: ps, 0, h => List.mem_append_left _ h
  | p :: ps, index + 1, h => List.mem_append_right _ (mem_itemCommands_of_mem_getD ps index h)

theorem mem_inner_of_mem_param {c d : Command} {index : Nat}
    (h : c ∈ (d.param index).commands) : c ∈ d.inner :=
  mem_itemCommands_of_mem_getD d.params index h

theorem mem_inner_of_command? {c d : Command} {index : Nat}
    (h : (d.param index).command? = some c) : c ∈ d.inner := by
  apply mem_inner_of_mem_param
  unfold Param.command? at h
  split at h
  · next e he =>
    rw [he, Param.commands, Option.some.inj h]
    exact List.mem_singleton_self c
  · cases h

theorem Within.depth_le {c d : Command} (h : Within c d) : c.depth ≤ d.depth := by
  induction h with
  | refl => exact Nat.le_refl _
  | inner hd _ ih => exact Nat.le_trans ih (Nat.le_of_lt (depth_lt_of_mem_inner hd))

theorem depth_pos (c : Command) : 0 < c.depth := by
  rw [depth.eq_def c]
  exact Nat.succ_pos _

theorem Within.trans {c d e : Command} (h : Within c d) (h' : Within d e) : Within c e := by
  induction h' with
  | refl => exact h
  | inner hd _ ih => exact .inner hd ih

end Command

end StageScript
