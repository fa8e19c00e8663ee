import StageScript.Proofs.Grammar.Congruence
import StageScript.Proofs.Syntax.Nesting
import StageScript.Script

/-!
# What the grammar reads is well formed

Every command that is read from a line, at any depth of nesting, has the name of a signature of the
registry, one param for each slot of that signature, and the number of the line
(`Command.WellFormed`). Its params are written as the form of the signature asks
(`Signature.Written`), or it stands for a tier (`Signature.Redirected`). In all params the names of
variables and bindings are free (`Registry.IsFree`), and only objects are listed by `ALL`
(`Param.Proper`).

That holds of any property of params that is kept by the way params are built, and one of commands
that follows from it (`Line.Closed`), for such properties make a correspondence of a line with
itself (`Line.Closed.reading`, or from other tokens `readingOf`). Being proper and well formed are
such properties.
-/

namespace StageScript

/-! ### What a parser reads -/

/-- What a parser reads, if it reads anything, has a property. -/
def Reads {α : Type} (Q : α → Prop) (r : Except Fault (α × Tokens)) : Prop :=
  ∀ a ts, r = .ok (a, ts) → Q a

section Reads

variable {α β : Type} {P Q : α → Prop} {ts : Tokens}

theorem reads_ok {a : α} (h : Q a) : Reads Q (.ok (a, ts)) := by
  rintro b ts' hb
  cases hb
  exact h

theorem reads_error (f : Fault) : Reads Q (.error f) := by
  rintro b ts' hb
  cases hb

theorem Reads.mono {r : Except Fault (α × Tokens)} (h : Reads P r) (hpq : ∀ a, P a → Q a) :
    Reads Q r := fun a ts ha => hpq a (h a ts ha)

theorem Reads.bind {Q : β → Prop} {r : Except Fault (α × Tokens)}
    {f : α × Tokens → Except Fault (β × Tokens)} (h : Reads P r)
    (hf : ∀ a ts, P a → Reads Q (f (a, ts))) : Reads Q (r >>= f) := by
  cases r with
  | error e => exact reads_error e
  | ok x => exact hf x.1 x.2 (h x.1 x.2 rfl)

/-- A bind behind something that is no parser. -/
theorem reads_bind {γ : Type} {Q : β → Prop} {r : Except Fault γ}
    {f : γ → Except Fault (β × Tokens)} (hf : ∀ c, r = .ok c → Reads Q (f c)) :
    Reads Q (r >>= f) := by
  cases r with
  | error e => exact reads_error e
  | ok c => exact hf c rfl

theorem exists_of_bind {γ δ : Type} {r : Except Fault γ} {f : γ → Except Fault δ} {d : δ}
    (h : r >>= f = .ok d) : ∃ c, r = .ok c ∧ f c = .ok d := by
  cases r with
  | error e => cases h
  | ok c => exact ⟨c, rfl, h⟩

/-- **A chain keeps what each of its steps keeps.** -/
theorem reads_chain {operator? : α → Tokens → Option (β × Tokens)}
    {step : α → β → Tokens → Except Fault (α × Tokens)}
    (hstep : ∀ left operator ts ts', operator? left ts = some (operator, ts') → Q left →
      Reads Q (step left operator ts'))
    (budget : Nat) {left : α} (hleft : Q left) (ts : Tokens) :
    Reads Q (chain operator? step budget left ts) := by
  induction budget generalizing left ts with
  | zero => exact reads_ok hleft
  | succ budget ih =>
    unfold chain
    cases ho : operator? left ts with
    | none => exact reads_ok hleft
    | some found => exact (hstep left _ ts _ ho hleft).bind fun next ts' hnext => ih hnext ts'

end Reads

/-! ### Params -/

/-- **A param as the grammar writes it**: its names are free, only objects are listed by `ALL`, and
the commands in it have a property. -/
inductive Param.Proper (registry : Registry) (C : Command → Prop) : Param → Prop
  | value (v : Value) : Proper registry C (.value v)
  | variable {name : String} (h : registry.IsFree name) : Proper registry C (.variable name)
  | loopIndex : Proper registry C .loopIndex
  | loopObject : Proper registry C .loopObject
  | command {c : Command} (h : C c) : Proper registry C (.command c)
  | bindings {list : List (String × Param)} (hname : ∀ b ∈ list, registry.IsFree b.1)
    (hvalue : ∀ b ∈ list, Proper registry C b.2) : Proper registry C (.bindings list)
  | collection {element : ElementKind} {bare all : Bool} {items : List Param}
    (hall : all = true → element.isObject = true) (hitem : ∀ p ∈ items, Proper registry C p) :
    Proper registry C (.collection element bare all items)
  | math {operator : MathOperator} {left : Param} {right : Option Param}
    (hleft : Proper registry C left) (hright : ∀ p ∈ right, Proper registry C p) :
    Proper registry C (.math operator left right)
  | concat {left right : Param} (hleft : Proper registry C left)
    (hright : Proper registry C right) : Proper registry C (.concat left right)
  | union {left right : Param} (hleft : Proper registry C left)
    (hright : Proper registry C right) : Proper registry C (.union left right)
  | difference {left right : Param} (hleft : Proper registry C left)
    (hright : Proper registry C right) : Proper registry C (.difference left right)
  | condition {comparator : Comparator} {left : Param} {right : Option Param}
    (hleft : Proper registry C left) (hright : ∀ p ∈ right, Proper registry C p) :
    Proper registry C (.condition comparator left right)
  | ambiguous {place : Occurrence} {left right : Param} (hleft : Proper registry C left)
    (hright : Proper registry C right) : Proper registry C (.ambiguous place left right)
  | absent : Proper registry C .absent

namespace Param.Proper

variable {registry : Registry} {C C' : Command → Prop} {p : Param}

/-- The commands in a param have the property. -/
theorem of_mem_commands (h : p.Proper registry C) {c : Command} (hc : c ∈ p.commands) : C c := by
  induction h with
  | value | «variable» | loopIndex | loopObject | absent => simp [Param.commands] at hc
  | command h =>
    rw [Param.commands, List.mem_singleton] at hc
    exact hc ▸ h
  | bindings _ _ ih =>
    obtain ⟨b, hb, hc⟩ := mem_bindingCommands.mp hc
    exact ih b hb hc
  | collection _ _ ih =>
    obtain ⟨item, hitem, hc⟩ := mem_itemCommands.mp hc
    exact ih item hitem hc
  | math _ _ ihl ihr | condition _ _ ihl ihr =>
    rcases List.mem_append.mp hc with hc | hc
    · exact ihl hc
    · obtain ⟨right, hright, hc⟩ := mem_operandCommands.mp hc
      exact ihr right hright hc
  | concat _ _ ihl ihr | union _ _ ihl ihr | difference _ _ ihl ihr | ambiguous _ _ ihl ihr =>
    rcases List.mem_append.mp hc with hc | hc
    · exact ihl hc
    · exact ihr hc

/-- Being proper is a matter of the param and, apart from that, of the commands in it. -/
theorem of_commands (h : p.Proper registry C) (hC : ∀ c ∈ p.commands, C' c) :
    p.Proper registry C' := by
  induction h with
  | value v => exact .value v
  | «variable» h => exact .variable h
  | loopIndex => exact .loopIndex
  | loopObject => exact .loopObject
  | absent => exact .absent
  | command h => exact .command (hC _ (List.mem_singleton_self _))
  | bindings hname _ ih =>
    exact .bindings hname fun b hb => ih b hb fun c hc => hC c (mem_bindingCommands.mpr ⟨b, hb, hc⟩)
  | collection hall _ ih =>
    exact .collection hall fun q hq => ih q hq fun c hc => hC c (mem_itemCommands.mpr ⟨q, hq, hc⟩)
  | math _ _ ihl ihr =>
    exact .math (ihl fun c hc => hC c (List.mem_append_left _ hc)) fun q hq => ihr q hq fun c hc =>
      hC c (List.mem_append_right _ (mem_operandCommands.mpr ⟨q, hq, hc⟩))
  | condition _ _ ihl ihr =>
    exact .condition (ihl fun c hc => hC c (List.mem_append_left _ hc)) fun q hq =>
      ihr q hq fun c hc =>
        hC c (List.mem_append_right _ (mem_operandCommands.mpr ⟨q, hq, hc⟩))
  | concat _ _ ihl ihr =>
    exact .concat (ihl fun c hc => hC c (List.mem_append_left _ hc))
      (ihr fun c hc => hC c (List.mem_append_right _ hc))
  | union _ _ ihl ihr =>
    exact .union (ihl fun c hc => hC c (List.mem_append_left _ hc))
      (ihr fun c hc => hC c (List.mem_append_right _ hc))
  | difference _ _ ihl ihr =>
    exact .difference (ihl fun c hc => hC c (List.mem_append_left _ hc))
      (ihr fun c hc => hC c (List.mem_append_right _ hc))
  | ambiguous _ _ ihl ihr =>
    exact .ambiguous (ihl fun c hc => hC c (List.mem_append_left _ hc))
      (ihr fun c hc => hC c (List.mem_append_right _ hc))

end Param.Proper

/-! ### Commands -/

/-- **A command as the grammar writes it on a line.** -/
structure Command.WellFormed (registry : Registry) (line : Nat) (c : Command) : Prop where
  line_eq : c.line = line
  signed : c.Signed registry line
  proper : ∀ p ∈ c.params, p.Proper registry fun _ => True

/-- A command and all that are nested in it are well formed. -/
def Command.WellFormedThroughout (registry : Registry) (line : Nat) (c : Command) : Prop :=
  ∀ d, Command.Within d c → d.WellFormed registry line

/-- A command is well formed throughout if its params are proper and so are the commands in them. -/
theorem Command.WellFormedThroughout.of_params {registry : Registry} {line : Nat} {c : Command}
    (hline : c.line = line) (hsigned : c.Signed registry line)
    (hparams : ∀ p ∈ c.params, p.Proper registry (WellFormedThroughout registry line)) :
    WellFormedThroughout registry line c := by
  intro d hd
  cases hd with
  | refl => exact ⟨hline, hsigned, fun p hp => (hparams p hp).of_commands fun _ _ => trivial⟩
  | inner he hd =>
    obtain ⟨p, hp, he⟩ := mem_itemCommands.mp he
    exact (hparams p hp).of_mem_commands he d hd

/-- The params that are read from a line: all commands in them are well formed throughout. -/
abbrev Line.Writes (line : Line) : Param → Prop :=
  Param.Proper line.registry (Command.WellFormedThroughout line.registry line.number)

/-- **What the parsers of a level read** has a property. -/
structure Level.Reads (nested : Level) (Q : Param → Prop) (C : Command → Prop) : Prop where
  command : ∀ ts, StageScript.Reads C (nested.command ts)
  primary : ∀ ts, StageScript.Reads (fun o : Operand => Q o.param) (nested.primary ts)

/-- **Properties that what is read has by the way it is built**: `Q` of params and `C` of commands.
Literals are no collections, names are free, only objects are listed by `ALL`. -/
structure Line.Closed (line : Line) (Q : Param → Prop) (C : Command → Prop) : Prop where
  literal {v : Value} (h : v.kind ≠ .collection) : Q (.value v)
  name {name : String} (h : line.registry.IsFree name) : Q (.variable name)
  loopIndex : Q .loopIndex
  loopObject : Q .loopObject
  absent : Q .absent
  command {c : Command} (h : C c) : Q (.command c)
  bindings {list : List (String × Param)} (hname : ∀ b ∈ list, line.registry.IsFree b.1)
    (hvalue : ∀ b ∈ list, Q b.2) : Q (.bindings list)
  collection {element : ElementKind} {bare all : Bool} {items : List Param}
    (hall : all = true → element.isObject = true) (hitem : ∀ p ∈ items, Q p) :
    Q (.collection element bare all items)
  math {operator : MathOperator} {left : Param} {right : Option Param} (hleft : Q left)
    (hright : ∀ p ∈ right, Q p) : Q (.math operator left right)
  concat {left right : Param} (hleft : Q left) (hright : Q right) : Q (.concat left right)
  union {left right : Param} (hleft : Q left) (hright : Q right) : Q (.union left right)
  difference {left right : Param} (hleft : Q left) (hright : Q right) : Q (.difference left right)
  condition {comparator : Comparator} {left : Param} {right : Option Param} (hleft : Q left)
    (hright : ∀ p ∈ right, Q p) : Q (.condition comparator left right)
  ambiguous {place : Occurrence} {left right : Param} (hleft : Q left) (hright : Q right) :
    Q (.ambiguous place left right)
  /-- A command of the line, with what its signature and its params say of it. -/
  params {c : Command} (hline : c.line = line.number) (hsigned : c.Signed line.registry line.number)
    (hparams : ∀ p ∈ c.params, Q p) : C c

theorem forall_mem_some {α : Type} {P : α → Prop} {a : α} (h : P a) : ∀ b ∈ some a, P b := by
  rintro b ⟨⟩
  exact h

/-- Lists of the same things, which have a property. -/
theorem eq_and_of_forall₂ {α : Type} {Q : α → Prop} {as as' : List α}
    (h : List.Forall₂ (fun a a' => a' = a ∧ Q a) as as') : as' = as ∧ ∀ a ∈ as, Q a := by
  induction h with
  | nil => exact ⟨rfl, nofun⟩
  | cons ha _ ih =>
    obtain ⟨rfl, ha⟩ := ha
    obtain ⟨rfl, has⟩ := ih
    exact ⟨rfl, List.forall_mem_cons.mpr ⟨ha, has⟩⟩

theorem eq_and_of_optionRel {α : Type} {Q : α → Prop} {o o' : Option α}
    (h : Option.Rel (fun a a' => a' = a ∧ Q a) o o') : o' = o ∧ ∀ a ∈ o, Q a := by
  cases h with
  | none => exact ⟨rfl, nofun⟩
  | some ha =>
    obtain ⟨rfl, ha⟩ := ha
    exact ⟨rfl, forall_mem_some ha⟩

namespace Line.Closed

variable {line line' : Line} {Q : Param → Prop} {C : Command → Prop} (h : line.Closed Q C)
include h

/-- **The same params and commands, which have the properties**, read from two lines with the same
number. -/
theorem relates (hnumber : line'.number = line.number)
    (hkind : ∀ p, Q p → StaticKind.ofParam line'.registry p = StaticKind.ofParam line.registry p) :
    line.Relates line' Eq (fun p p' => p' = p ∧ Q p) fun c c' => c' = c ∧ C c where
  isCondition_eq := by
    rintro p _ ⟨rfl, -⟩
    rfl
  kind_eq := by
    rintro _ p ⟨rfl, hp⟩
    exact hkind p hp
  literal hv := ⟨rfl, h.literal hv⟩
  name hname := ⟨rfl, h.name hname⟩
  loopIndex := ⟨rfl, h.loopIndex⟩
  loopObject := ⟨rfl, h.loopObject⟩
  absent := ⟨rfl, h.absent⟩
  command := by
    rintro c _ ⟨rfl, hc⟩
    exact ⟨rfl, h.command hc⟩
  bindings := by
    intro list list' hlist
    obtain ⟨rfl, hlist⟩ := eq_and_of_forall₂ (Q := fun b => line.registry.IsFree b.1 ∧ Q b.2)
      (hlist.imp fun b b' hb => ⟨Prod.ext hb.1 hb.2.2.1, hb.2.1, hb.2.2.2⟩)
    exact ⟨rfl, h.bindings (fun b hb => (hlist b hb).1) fun b hb => (hlist b hb).2⟩
  collection := by
    intro _ _ _ items items' hall hitems
    obtain ⟨rfl, hitems⟩ := eq_and_of_forall₂ hitems
    exact ⟨rfl, h.collection hall hitems⟩
  math := by
    rintro _ left _ right right' ⟨rfl, hleft⟩ hright
    obtain ⟨rfl, hright⟩ := eq_and_of_optionRel hright
    exact ⟨rfl, h.math hleft hright⟩
  concat := by
    rintro left _ right _ ⟨rfl, hleft⟩ ⟨rfl, hright⟩
    exact ⟨rfl, h.concat hleft hright⟩
  union := by
    rintro left _ right _ ⟨rfl, hleft⟩ ⟨rfl, hright⟩
    exact ⟨rfl, h.union hleft hright⟩
  difference := by
    rintro left _ right _ ⟨rfl, hleft⟩ ⟨rfl, hright⟩
    exact ⟨rfl, h.difference hleft hright⟩
  condition := by
    rintro _ left _ right right' ⟨rfl, hleft⟩ hright
    obtain ⟨rfl, hright⟩ := eq_and_of_optionRel hright
    exact ⟨rfl, h.condition hleft hright⟩
  ambiguous := by
    rintro _ column _ left _ right _ rfl ⟨rfl, hleft⟩ ⟨rfl, hright⟩
    exact ⟨by rw [hnumber], h.ambiguous hleft hright⟩
  params := by
    rintro ⟨name, params, number⟩ ⟨name', params', number'⟩ hname hline hline' hsigned hparams
    obtain ⟨hsame, hproper⟩ := eq_and_of_forall₂ hparams
    dsimp only at hname hline hline' hsame hproper
    subst hname hline hline' hsame
    exact ⟨by rw [hnumber], h.params rfl hsigned hproper⟩

/-- **Reading a line**, with what is read, from tokens and from what stands for them. -/
def readingOf (tokens : Tokens → Tokens → Prop)
    (next : ∀ {ts ts'}, tokens ts ts' → Tokens.Beside (fun _ => True) Eq tokens ts ts')
    (SameFaults : Prop) (tokens_eq : SameFaults → ∀ {ts ts'}, tokens ts ts' → ts' = ts) :
    Correspondence line line where
  tokens := tokens
  words _ := True
  columns := Eq
  param p p' := p' = p ∧ Q p
  command c c' := c' = c ∧ C c
  SameFaults := SameFaults
  relates := h.relates rfl fun _ _ => rfl
  number_eq := rfl
  next := next
  signature?_eq _ := rfl
  signature?_of_some h := h
  line_eq _ := rfl
  tokens_eq := tokens_eq

/-- Reading a line from the same tokens. -/
def reading : Correspondence line line :=
  h.readingOf (fun ts ts' => ts' = ts)
    (by
      rintro _ ts rfl
      cases ts with
      | nil => exact .ends (.inl rfl)
      | cons t ts => exact .cons rfl (fun _ _ => trivial) rfl (fun _ => rfl) rfl)
    True fun _ _ _ hts => hts

/-- All levels are followed by themselves. -/
theorem follows_level (n size : Nat) : (line.level n).FollowedBy h.reading size (line.level n) :=
  h.reading.follows_level (Nat.le_refl n) (fun _ => rfl) size

end Line.Closed

/-- What is followed, whatever the number of tokens, has what the relation says of it. -/
theorem reads_of_follows {line line' : Line} {R : Correspondence line line'} {α : Type}
    {least : Nat} {V : α → α → Prop} {Q : α → Prop} {ts : Tokens}
    {r r' : Except Fault (α × Tokens)} (h : R.Follows (ts.length + 1) least V ts r r')
    (hV : ∀ a a', V a a' → Q a) : Reads Q r := by
  rintro a rest rfl
  cases h (Nat.lt_succ_self _) with
  | ok _ ha => exact hV _ _ ha

namespace Line

variable {line : Line} {Q : Param → Prop} {C : Command → Prop}

/-- **All levels read what has a property that is kept by the way it is built.** -/
theorem level_reads (hQ : line.Closed Q C) (n : Nat) : (line.level n).Reads Q C where
  command _ := reads_of_follows ((hQ.follows_level n _).command rfl) fun _ _ h => h.2
  primary _ := reads_of_follows ((hQ.follows_level n _).primary rfl) fun _ _ h => h.1.2

theorem parse_reads (hQ : line.Closed Q C) {c : Command} (h : line.parse = .ok c) : C c := by
  obtain ⟨tokens, -, hcommand⟩ := exists_of_bind h
  obtain ⟨⟨d, rest⟩, hlevel, hrest⟩ := exists_of_bind hcommand
  dsimp only at hrest
  split at hrest
  · cases hrest
    exact (level_reads hQ _).command tokens c rest hlevel
  · cases hrest

/-- Nothing is said of what is read. -/
theorem closed_true (line : Line) : line.Closed (fun _ => True) fun _ => True := by
  constructor <;> intros <;> trivial

theorem closed_writes (line : Line) :
    line.Closed line.Writes (Command.WellFormedThroughout line.registry line.number) where
  literal _ := .value _
  name h := .variable h
  loopIndex := .loopIndex
  loopObject := .loopObject
  absent := .absent
  command h := .command h
  bindings hname hvalue := .bindings hname hvalue
  collection hall hitem := .collection hall hitem
  math hleft hright := .math hleft hright
  concat hleft hright := .concat hleft hright
  union hleft hright := .union hleft hright
  difference hleft hright := .difference hleft hright
  condition hleft hright := .condition hleft hright
  ambiguous hleft hright := .ambiguous hleft hright
  params hline hsigned hparams := .of_params hline hsigned hparams

theorem parse_wellFormed {c : Command} (h : line.parse = .ok c) :
    c.WellFormedThroughout line.registry line.number := parse_reads line.closed_writes h

end Line

/-! ### Scripts -/

namespace Script

variable {registry : Registry}

theorem compileLine_parse {index : Nat} {text : List Char} {c : Command}
    (h : compileLine registry index text = .ok c) :
    (Line.mk registry text index).parse = .ok c := by
  unfold compileLine at h
  split at h
  · next command hparse =>
    cases h
    exact hparse
  · cases h

/-- By induction on the lines: each entry was read from a line of its own number. -/
theorem compileLines_parse {texts : List (List Char)} {index : Nat}
    {commands : List (Nat × Command)} (h : compileLines registry index texts = .ok commands) :
    ∀ e ∈ commands, ∃ text, (Line.mk registry text e.1).parse = .ok e.2 := by
  induction texts generalizing index commands with
  | nil =>
    cases h
    simp
  | cons text texts ih =>
    unfold compileLines at h
    split at h
    · exact ih h
    · obtain ⟨c, hline, h⟩ := exists_of_bind h
      obtain ⟨others, hothers, h⟩ := exists_of_bind h
      cases h
      exact List.forall_mem_cons.mpr ⟨⟨text, compileLine_parse hline⟩, ih hothers⟩

section Compiled

variable {sources : Sources} {script : Script} (h : compile registry sources = .ok script)
  {number : Nat} {c : Command} (hc : script.commandAt? number = some c)
include h hc

/-- Every command of a compiled script was read from a line of its number. -/
theorem compile_parse : ∃ text, (Line.mk registry text number).parse = .ok c := by
  obtain ⟨prepared, -, h⟩ := exists_of_bind h
  obtain ⟨commands, hcommands, h⟩ := exists_of_bind h
  cases h
  exact compileLines_parse hcommands (number, c) (Table.mem_of_findIn hc)

/-- **Every command of a compiled script is well formed**, with all that are nested in it. -/
theorem compile_wellFormed : c.WellFormedThroughout registry number := by
  obtain ⟨text, hparse⟩ := compile_parse h hc
  exact Line.parse_wellFormed hparse

end Compiled

end Script

end StageScript
