import StageScript.Proofs.Grammar.Leaf

/-!
# Every ELSE belongs to the nearest IF

`IF` and `IF-NOT` hold a command for each of two cases, and these may be such commands again.
Written in one line, nothing says where a command that is held ends. What is read is the tree in
which no command before an `ELSE` ends with an `IF` that has none (`Branching.Proper`): it is read
from its text (`Branching.command_eq`). Any other tree has the text of such a one, in which every
`ELSE` went to the nearest `IF` before it that had none (`Branching.nearest`).

An `IF` looks behind the colon for its `ELSE` and leaves the colon where it is if there is none. So
the induction over the tree is on what stands behind the text: nothing, or, behind a command that is
not open, the `ELSE` of an `IF` around it.
-/

namespace StageScript

open Token

/-! ### Trees -/

/-- The name of the command that tests a condition. -/
def branchName (negated : Bool) : String := if negated then "IF-NOT" else "IF"

/-- How the command is written. -/
def branchSignature (negated : Bool) : Signature where
  name := branchName negated
  params := [.boolean, .command, .command]
  form := .conditional

/-- The registry has the commands that test a condition. -/
def Registry.HasBranches (registry : Registry) : Prop :=
  ∀ negated, registry.signature? (branchName negated) = some (branchSignature negated)

theorem Registry.HasBuiltins.hasBranches {registry : Registry} (h : registry.HasBuiltins) :
    registry.HasBranches := by
  intro negated
  refine h ⟨branchSignature negated, .branch negated⟩ ?_
  cases negated <;> simp [Registry.builtinCommands, Registry.flowCommands, branchSignature,
    branchName]

/-- **Commands that test variables**, around commands with literal params. -/
inductive Branching (registry : Registry) where
  | leaf (command : Leaf registry)
  | only (negated : Bool) (condition : VariableName registry) (branch : Branching registry)
  | both (negated : Bool) (condition : VariableName registry)
    (branch otherwise : Branching registry)

variable {registry : Registry}

/-- The text of a test, with what stands behind it. -/
def headerText (negated : Bool) (condition : VariableName registry) (rest : List Char) :
    List Char :=
  (branchName negated).toList ++ slotText condition.name.toList (' ' :: ':' :: ' ' :: rest)

/-- The text of an `ELSE`, with what stands behind it. -/
def elseText (rest : List Char) : List Char :=
  ' ' :: ':' :: ' ' :: ("ELSE".toList ++ ':' :: ' ' :: rest)

namespace Branching

def text : Branching registry → List Char
  | .leaf command => command.text
  | .only negated condition branch => headerText negated condition branch.text
  | .both negated condition branch otherwise =>
    headerText negated condition (branch.text ++ elseText otherwise.text)

/-- What the tree is read as on a line. -/
def command (number : Nat) : Branching registry → Command
  | .leaf command => command.command number
  | .only negated condition branch =>
    ⟨branchName negated, [.condition .identity (.variable condition.name) none,
      .command (branch.command number), .absent], number⟩
  | .both negated condition branch otherwise =>
    ⟨branchName negated, [.condition .identity (.variable condition.name) none,
      .command (branch.command number), .command (otherwise.command number)], number⟩

/-- **The right end of the tree is an `IF` without an `ELSE`.** -/
def isOpen : Branching registry → Bool
  | .leaf _ => false
  | .only _ _ _ => true
  | .both _ _ _ otherwise => otherwise.isOpen

/-- **No branch before an `ELSE` is open.** -/
def Proper : Branching registry → Prop
  | .leaf _ => True
  | .only _ _ branch => branch.Proper
  | .both _ _ branch otherwise => branch.isOpen = false ∧ branch.Proper ∧ otherwise.Proper

/-- Gives an `ELSE` to the innermost open `IF` at the right end. -/
def withElse : Branching registry → Branching registry → Branching registry
  | .leaf command, _ => .leaf command
  | .only negated condition branch, last =>
    if branch.isOpen then .only negated condition (branch.withElse last)
    else .both negated condition branch last
  | .both negated condition branch otherwise, last =>
    .both negated condition branch (otherwise.withElse last)

/-- **Every `ELSE` goes to the nearest `IF` before it that has none.** -/
def nearest : Branching registry → Branching registry
  | .leaf command => .leaf command
  | .only negated condition branch => .only negated condition branch.nearest
  | .both negated condition branch otherwise =>
    if branch.nearest.isOpen then
      .only negated condition (branch.nearest.withElse otherwise.nearest)
    else .both negated condition branch.nearest otherwise.nearest

/-! ### The nearest IF -/

theorem text_withElse {t : Branching registry} (last : Branching registry)
    (h : t.isOpen = true) : (t.withElse last).text = t.text ++ elseText last.text := by
  have hheader : ∀ (negated : Bool) (condition : VariableName registry) (rest more : List Char),
      headerText negated condition (rest ++ more) =
        headerText negated condition rest ++ more := by
    intro negated condition rest more
    simp [headerText, slotText]
  induction t with
  | leaf command => cases h
  | only negated condition branch ih =>
    unfold withElse
    by_cases hopen : branch.isOpen = true
    · rw [if_pos hopen]
      simp only [text, ih hopen, hheader]
    · rw [if_neg hopen]
      simp only [text, hheader]
  | both negated condition branch otherwise _ ih =>
    have helse : ∀ rest more, elseText (rest ++ more) = elseText rest ++ more := by
      intro rest more
      simp [elseText]
    simp only [withElse, text, ih h, helse, hheader, List.append_assoc]

theorem proper_withElse {t last : Branching registry} (ht : t.Proper) (hlast : last.Proper) :
    (t.withElse last).Proper := by
  induction t with
  | leaf command => trivial
  | only negated condition branch ih =>
    unfold withElse
    by_cases hopen : branch.isOpen = true
    · rw [if_pos hopen]
      exact ih ht
    · rw [if_neg hopen]
      exact ⟨(Bool.not_eq_true _).mp hopen, ht, hlast⟩
  | both negated condition branch otherwise _ ih => exact ⟨ht.1, ht.2.1, ih ht.2.2⟩

theorem text_nearest (t : Branching registry) : t.nearest.text = t.text := by
  induction t with
  | leaf command => rfl
  | only negated condition branch ih => simp only [nearest, text, ih]
  | both negated condition branch otherwise ih ih' =>
    unfold nearest
    by_cases hopen : branch.nearest.isOpen = true
    · rw [if_pos hopen]
      simp only [text, text_withElse _ hopen, ih, ih']
    · rw [if_neg hopen]
      simp only [text, ih, ih']

theorem proper_nearest (t : Branching registry) : t.nearest.Proper := by
  induction t with
  | leaf command => trivial
  | only negated condition branch ih => exact ih
  | both negated condition branch otherwise ih ih' =>
    unfold nearest
    by_cases hopen : branch.nearest.isOpen = true
    · rw [if_pos hopen]
      exact proper_withElse ih ih'
    · rw [if_neg hopen]
      exact ⟨(Bool.not_eq_true _).mp hopen, ih, ih'⟩

/-- A tree in which every `ELSE` is where it is read stays as it is. -/
theorem nearest_of_proper {t : Branching registry} (h : t.Proper) : t.nearest = t := by
  induction t with
  | leaf command => rfl
  | only negated condition branch ih => simp only [nearest, ih h]
  | both negated condition branch otherwise ih ih' =>
    obtain ⟨hopen, hbranch, hotherwise⟩ := h
    simp only [nearest, ih hbranch, ih' hotherwise, hopen, Bool.false_eq_true, if_false]

end Branching

/-! ### Tokens -/

/-- The tokens of a test, and others behind them. -/
def SpellsHeader (negated : Bool) (condition : VariableName registry) (P : Tokens → Prop)
    (ts : Tokens) : Prop :=
  ∃ a b us, ts = ⟨.word (branchName negated), a, b⟩ :: us ∧
    SpellsSlot (SpellsWord condition.name) (BehindColon P) us

/-- The tokens of an `ELSE`, and others behind them. -/
def SpellsElse (P : Tokens → Prop) : Tokens → Prop :=
  BehindColon fun ts => ∃ a b us, ts = ⟨.word "ELSE", a, b⟩ :: us ∧ BehindColon P us

theorem isRead_headerText (negated : Bool) (condition : VariableName registry)
    {rest : List Char} {P : Tokens → Prop} (h : IsRead rest P) :
    IsRead (headerText negated condition rest) (SpellsHeader negated condition P) := by
  have hname : IsWord (branchName negated).toList := by cases negated <;> decide +kernel
  have hslot := isRead_slotText (isRead_word condition.isWord) h.colon.blank
    (.cons (by decide) _)
  refine ((isRead_word hname).append hslot (ends_slotText _ _)).mono ?_
  rintro ts ⟨_, us, rfl, ⟨a, b, rfl⟩, hus⟩
  exact ⟨a, b, us, rfl, hus⟩

theorem isRead_elseText {rest : List Char} {P : Tokens → Prop} (h : IsRead rest P) :
    IsRead (elseText rest) (SpellsElse P) := by
  have hword : IsWord "ELSE".toList := by decide +kernel
  have hrest := (isRead_word hword).append h.colon (.cons (by decide) _)
  refine hrest.colon.blank.mono ?_
  rintro ts ⟨a, b, _, rfl, _, us, rfl, ⟨c, d, rfl⟩, hus⟩
  exact ⟨a, b, _, rfl, c, d, us, rfl, hus⟩

namespace Branching

/-- The tokens of the tree. -/
def Spells : Branching registry → Tokens → Prop
  | .leaf command => command.Spells
  | .only negated condition branch => SpellsHeader negated condition branch.Spells
  | .both negated condition branch otherwise =>
    SpellsHeader negated condition fun ts =>
      ∃ us vs, ts = us ++ vs ∧ branch.Spells us ∧ SpellsElse otherwise.Spells vs

theorem isRead (t : Branching registry) : IsRead t.text t.Spells := by
  induction t with
  | leaf command => exact command.isRead
  | only negated condition branch ih => exact isRead_headerText negated condition ih
  | both negated condition branch otherwise ih ih' =>
    exact isRead_headerText negated condition
      (ih.append (isRead_elseText ih') (.cons (by decide) _))

end Branching

/-! ### Reading a tree -/

section Reading

variable {line : Line} {ts rest : Tokens}

/-- A variable is a condition of its own. -/
theorem conditionSlot_of_variable (condition : VariableName line.registry) (a b n : Nat)
    {rest : Tokens} (hrest : rest.atParamEnd = true) :
    line.conditionSlot (line.level (n + 1)).primary (⟨.word condition.name, a, b⟩ :: rest) =
      .ok (.condition .identity (.variable condition.name) none, rest) := by
  have hstart := startsCondition_of_isFree condition.isFree condition.ne_negation
  have hnot : Tokens.nextIs isNot (⟨.word condition.name, a, b⟩ :: rest) = false :=
    (Bool.or_eq_false_iff.mp (Bool.or_eq_false_iff.mp hstart).1).1
  exact Line.conditionSlot_of_primary hnot
    (primary_variable line condition.isFree n a b rest) rfl hrest

/-- **A test is read by reading what stands behind it.** -/
theorem command_of_header (hregistry : line.registry.HasBranches) {negated : Bool}
    {condition : VariableName line.registry} {P : Tokens → Prop}
    (hts : SpellsHeader negated condition P ts) {m : Nat} (hlevel : ts.length ≤ m)
    (rest : Tokens) :
    ∃ n us, us.length ≤ n ∧ P us ∧ ∀ branch after otherwise rest',
      (line.level n).command (us ++ rest) = .ok (branch, after) →
      Line.elseBranch (line.level n) after = .ok (otherwise, rest') →
      (line.level m).command (ts ++ rest) =
        .ok (⟨branchName negated, [.condition .identity (.variable condition.name) none,
          .command branch, otherwise], line.number⟩, rest') := by
  obtain ⟨a, b, _, rfl, c, d, _, rfl, _, _, rfl, ⟨e, f, rfl⟩, g, h, us, rfl, hus⟩ := hts
  simp only [List.length_cons, List.length_append, List.length_nil] at hlevel
  obtain ⟨n, rfl⟩ : ∃ k, m = k + 2 := ⟨m - 2, by omega⟩
  refine ⟨n + 1, us, by omega, hus, fun branch after otherwise rest' hbranch helse => ?_⟩
  have hend : Tokens.atParamEnd (⟨.symbol ':', g, h⟩ :: (us ++ rest)) = true := rfl
  have hcondition := conditionSlot_of_variable condition e f n hend
  refine Line.commandOver_of_params (hregistry negated) ?_ rfl a b
  show (line.conditionalParams (line.level (n + 1))
    (⟨.word condition.name, e, f⟩ :: ⟨.symbol ':', g, h⟩ :: (us ++ rest)) >>= _) = _
  unfold Line.conditionalParams
  rw [hcondition]
  show ((line.level (n + 1)).command (us ++ rest) >>= _ >>= _) = _
  rw [hbranch]
  show (Line.elseBranch (line.level (n + 1)) after >>= _ >>= _) = _
  rw [helse]
  rfl

namespace Branching

/-- **A tree is read from its tokens**, in front of nothing, or, if it is not open, of the `ELSE` of
an `IF` around it. By induction on the tree. -/
theorem command_eq (hregistry : line.registry.HasBranches) {t : Branching line.registry}
    (hproper : t.Proper) (hts : t.Spells ts)
    (hrest : rest = [] ∨ t.isOpen = false ∧ StartsElse rest) {m : Nat} (hlevel : ts.length ≤ m) :
    (line.level m).command (ts ++ rest) = .ok (t.command line.number, rest) := by
  induction t generalizing ts rest m with
  | leaf command => exact Leaf.command_eq hts (hrest.imp_right And.right) hlevel
  | only negated condition branch ih =>
    -- the tree is open, so nothing stands behind it
    obtain rfl : rest = [] := hrest.resolve_right fun h => Bool.noConfusion h.1
    obtain ⟨n, us, hn, hus, hread⟩ := command_of_header hregistry hts hlevel []
    exact hread _ _ _ _ (ih hproper hus (.inl rfl) hn) rfl
  | both negated condition branch otherwise ih ih' =>
    obtain ⟨hopen, hbranch, hotherwise⟩ := hproper
    obtain ⟨n, _, hn, ⟨us, _, rfl, hus, a, b, _, rfl, c, d, _, rfl, e, f, vs, rfl, hvs⟩, hread⟩ :=
      command_of_header hregistry hts hlevel rest
    simp only [List.length_append, List.length_cons] at hn
    have helse : StartsElse (⟨.symbol ':', a, b⟩ :: ⟨.word "ELSE", c, d⟩ ::
        ⟨.symbol ':', e, f⟩ :: (vs ++ rest)) := ⟨a, b, c, d, _, rfl⟩
    have hfirst := ih hbranch hus (m := n) (.inr ⟨hopen, helse⟩) (by omega)
    have hsecond := ih' hotherwise hvs hrest (m := n) (by omega)
    rw [List.append_assoc] at hread
    refine hread _ _ _ _ hfirst ?_
    show ((line.level n).command (vs ++ rest) >>= _) = _
    rw [hsecond]
    rfl

theorem parse_eq (hregistry : line.registry.HasBranches) {t : Branching line.registry}
    (ht : t.Proper) (htext : line.text = t.text) : line.parse = .ok (t.command line.number) := by
  obtain ⟨tokens, htokens, hread⟩ := t.isRead.ofLine line.number
  have hcommand := command_eq hregistry ht htokens (.inl rfl) (Nat.le_succ tokens.length)
  rw [List.append_nil] at hcommand
  rw [← htext] at hread
  exact Line.parse_of_commandOver hread hcommand

end Branching

end Reading

/-- **Every `ELSE` belongs to the nearest `IF`.** A tree in which no command before an `ELSE` ends
with an `IF` that has none is read from its text. Any tree has the text of such a one, the tree in
which every `ELSE` goes to the nearest `IF` before it that has none, and is read as this one. -/
theorem else_belongs_to_nearest {registry : Registry} (hregistry : registry.HasBranches)
    (t : Branching registry) (number : Nat) :
    (t.Proper → (Line.mk registry t.text number).parse = .ok (t.command number)) ∧
      t.nearest.Proper ∧ t.nearest.text = t.text ∧
      (Line.mk registry t.text number).parse = .ok (t.nearest.command number) := by
  have hparse : (Line.mk registry t.text number).parse = .ok (t.nearest.command number) :=
    Branching.parse_eq hregistry t.proper_nearest t.text_nearest.symm
  refine ⟨fun ht => ?_, t.proper_nearest, t.text_nearest, hparse⟩
  rwa [Branching.nearest_of_proper ht] at hparse

/-- The command `DO`, as the language has it. -/
def callType : CommandType :=
  ⟨{ name := "DO", params := [.label, .bindings, .line], form := .call }, .call⟩

theorem callType_mem : callType ∈ Registry.builtinCommands := by
  simp [Registry.builtinCommands, Registry.flowCommands, callType]

theorem returnType_mem : returnType ∈ Registry.builtinCommands := by
  simp [Registry.builtinCommands, Registry.flowCommands, returnType]

/-- The names of the commands of the language are words. -/
theorem Registry.isWord_of_mem : ∀ type ∈ Registry.builtinCommands,
    IsWord type.signature.name.toList := by decide +kernel

/-- The command `RETURN: [1, TRUE]`. -/
def returnPair : Leaf Registry.builtin where
  signature := returnType.signature
  registered := Registry.hasBuiltins_builtin returnType returnType_mem
  isWord := Registry.isWord_of_mem returnType returnType_mem
  body := .slots [.literal (.collection [.number ⟨false, ['1'], by decide⟩, .truth true])]
  fits := ⟨.inl rfl, trivial, rfl⟩

/-- The command `DO: GREET WITH [C = 1]`. -/
def callGreet : Leaf Registry.builtin where
  signature := callType.signature
  registered := Registry.hasBuiltins_builtin callType callType_mem
  isWord := Registry.isWord_of_mem callType callType_mem
  body := .call ⟨"GREET", by decide +kernel, .inr (by decide)⟩
    [(⟨"C", by decide +kernel, ⟨by decide, by decide +kernel⟩, by decide⟩,
      .number ⟨false, ['1'], by decide⟩)]
  fits := ⟨rfl, rfl⟩

/-- An `IF` with an `ELSE` around an `IF-NOT` without one, which takes the `ELSE`. -/
def nestedBranching : Branching Registry.builtin :=
  .both false ⟨"A", by decide +kernel, ⟨by decide, by decide +kernel⟩, by decide⟩
    (.only true ⟨"B", by decide +kernel, ⟨by decide, by decide +kernel⟩, by decide⟩
      (.leaf returnPair))
    (.leaf callGreet)

theorem else_belongs_to_nested :
    (plainLine
        "IF: A : IF-NOT: B : RETURN: [1, TRUE] : ELSE: DO: GREET WITH [C = 1]").parse =
      .ok ⟨"IF", [.condition .identity (.variable "A") none,
        .command ⟨"IF-NOT", [.condition .identity (.variable "B") none,
          .command ⟨"RETURN", [.collection .any false false
            [.ofFloat (literalValue ['1']), .value (.boolean true)]], 0⟩,
          .command ⟨"DO", [.ofText "GREET", .bindings [("C", .ofFloat (literalValue ['1']))],
            .ofLine 0], 0⟩], 0⟩,
        .absent], 0⟩ :=
  (else_belongs_to_nearest Registry.hasBuiltins_builtin.hasBranches nestedBranching 0).2.2.2

end StageScript
