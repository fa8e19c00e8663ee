import StageScript.Proofs.Engine.Served
import StageScript.Proofs.Grammar.Extension
import StageScript.Proofs.Token.Pieces

/-!
# The names of variables

A command names variables in three places: as operands, as bindings of a call, and in slots that are
for a name. All of these names are words of the line (`Line.names_of_parse`), and words start with a
letter or an underscore, unless they are cut off behind `NOT-` (`names_are_words`). There the lexer
takes what follows for a word, whatever it starts with: a digit or a dash will do
(`names_no_words_behind_not`).

That the names are words of the line is seen without going through the parsers once more. The
grammar lets no variable have the name of a command, and it reads the same with one more command, if
that one is no word of the line. So take any words that are not in the line for commands, such that
none of them can be written (`Line.exists_barring`): the line is read as before, and no variable has
one of these names.
-/

namespace StageScript

open Text

/-! ### Names in a command -/

namespace Param

/-- **A param names a variable**: as an operand or as a binding, outside of the commands in it. -/
inductive Mentions (name : String) : Param → Prop
  | variable : Mentions name (.variable name)
  | binding {list : List (String × Param)} {value : Param} (h : (name, value) ∈ list) :
    Mentions name (.bindings list)
  | part {p q : Param} (hq : q ∈ p.parts) (h : Mentions name q) : Mentions name p

variable {registry : Registry} {C : Command → Prop} {p q : Param} {name : String}

theorem Proper.part (h : p.Proper registry C) (hq : q ∈ p.parts) : q.Proper registry C := by
  cases h with
  | value | «variable» | loopIndex | loopObject | command | absent => cases hq
  | bindings _ hvalue =>
    obtain ⟨b, hb, rfl⟩ := List.mem_map.mp hq
    exact hvalue b hb
  | collection _ hitem => exact hitem q hq
  | math hleft hright | condition hleft hright =>
    rcases List.mem_cons.mp hq with rfl | hq
    · exact hleft
    · exact hright q (Option.mem_toList.mp hq)
  | concat hleft hright | union hleft hright | difference hleft hright
  | ambiguous hleft hright =>
    rcases List.mem_pair.mp hq with rfl | rfl
    · exact hleft
    · exact hright

theorem Mentions.isFree (hm : p.Mentions name) (h : p.Proper registry C) :
    registry.IsFree name := by
  induction hm with
  | «variable» =>
    cases h
    assumption
  | binding hb =>
    cases h with
    | bindings hname _ => exact hname _ hb
  | part hq _ ih => exact ih (h.part hq)

end Param

/-- A slot that the form of a signature fills with the name of a variable. -/
def Signature.isNameSlot (signature : Signature) (i : Nat) : Bool :=
  match signature.form with
  | .standard | .goTo => signature.params[i]? = some .name
  | _ => signature.holdsName i

/-- **The names of variables in the slots of a command** have a property. They stand where the form
of its signature has them; a command that is taken for a tier has one in its first slot. -/
def Command.SlotNames (registry : Registry) (line : Nat) (P : String → Prop) (c : Command) : Prop :=
  ∃ key signature, registry.signature? key = some signature ∧ c.name = signature.name ∧
    (signature.Written registry line c.params ∧
        (∀ i, signature.isNameSlot i → ∃ name, c.param i = .ofText name ∧ P name) ∨
      Signature.Redirected registry key c.params ∧ ∃ name, c.param 0 = .ofText name ∧ P name)

/-- **All names of variables in a command** have a property, outside of the commands in it. -/
structure Command.NamesSatisfy (registry : Registry) (line : Nat) (P : String → Prop)
    (c : Command) : Prop where
  mentions : ∀ p ∈ c.params, ∀ name, p.Mentions name → P name
  slots : c.SlotNames registry line P

/-! ### Barring names -/

/-- A command that cannot be written: it has no slots, but its form asks for three. -/
def CommandType.unwritable (name : String) : CommandType :=
  ⟨{ name, params := [], form := .conditional }, .host .nothing⟩

/-- **A registry that bars names**: besides what another one has, they are commands that cannot be
written. -/
structure Registry.Bars (registry registry' : Registry) (names : List String) : Prop where
  bars : ∀ name ∈ names, registry'.hasCommand name = true
  keeps : ∀ name, registry.hasCommand name = true → registry'.hasCommand name = true
  others : ∀ key signature, registry'.signature? key = some signature →
    registry.signature? key = some signature ∨
      ∃ name, signature = (CommandType.unwritable name).signature

section Bars

variable {registry registry' : Registry}

theorem Registry.Bars.nil : registry.Bars registry [] :=
  ⟨nofun, fun _ h => h, fun _ _ h => .inl h⟩

theorem Registry.signature?_unwritable (name : String) :
    (registry.register (.unwritable name)).signature? name =
      some (CommandType.unwritable name).signature := by
  have hget : (registry.register (.unwritable name)).get? name = some (.unwritable name) :=
    (Table.get?_insert _ _ _ _).trans (if_pos rfl)
  rw [Registry.signature?, hget]
  rfl

theorem Registry.Bars.isFree {names : List String} (h : registry.Bars registry' names)
    {name : String} (hfree : registry'.IsFree name) :
    registry.IsFree name ∧ name ∉ names := by
  refine ⟨⟨hfree.1, ?_⟩, fun hmem => ?_⟩
  · rw [Bool.eq_false_iff]
    intro hcommand
    exact absurd (h.keeps name hcommand) (by simp [hfree.2])
  · exact absurd (h.bars name hmem) (by simp [hfree.2])

/-- One more name is barred, which was no command before. -/
theorem Registry.Bars.cons {names : List String} {name : String}
    (h : registry.Bars registry' names) (hname : registry'.hasCommand name = false) :
    registry.Bars (registry'.register (.unwritable name)) (name :: names) := by
  have hextends : registry'.Extends (registry'.register (.unwritable name)) name :=
    Registry.extends_register hname
  have hkeeps : ∀ key, registry'.hasCommand key = true →
      (registry'.register (.unwritable name)).hasCommand key = true := by
    intro key hkey
    rw [hextends.hasCommand_eq fun heq => ?_]
    · exact hkey
    · rw [heq, hname] at hkey
      cases hkey
  refine ⟨?_, fun key hkey => hkeeps key (h.keeps key hkey), fun key signature hkey => ?_⟩
  · exact List.forall_mem_cons.mpr ⟨hextends.added, fun key hkey => hkeeps key (h.bars key hkey)⟩
  · by_cases heq : key = name
    · subst heq
      rw [Registry.signature?_unwritable] at hkey
      exact .inr ⟨key, (Option.some.inj hkey).symm⟩
    · rw [hextends.signature?_eq heq] at hkey
      exact h.others key signature hkey

/-- An unwritable command gives nothing of a known kind, no more than a name that is no command. -/
theorem Registry.sameKinds_unwritable {name : String} (hname : registry.hasCommand name = false) :
    registry.SameKinds (registry.register (.unwritable name)) := by
  have hextends : registry.Extends (registry.register (.unwritable name)) name :=
    Registry.extends_register hname
  intro key signature _
  unfold StaticKind.ofCommand
  by_cases heq : signature.name = name
  · have hnone : registry.signature? name = none := by simpa [hasCommand] using hname
    rw [heq, hnone, Registry.signature?_unwritable]
    rfl
  · rw [hextends.signature?_eq heq]

/-- **Words that are not in a line can be barred** without a change to what is read. -/
theorem Line.exists_barring {line : Line} {c : Command} (h : line.parse = .ok c)
    (names : List String)
    (hnames : ∀ name ∈ names, ∀ tokens, Token.ofLine line.number line.text = .ok tokens →
      Tokens.Lack name tokens) :
    ∃ registry', line.registry.Bars registry' names ∧
      (line.withRegistry registry').parse = .ok c := by
  induction names with
  | nil => exact ⟨line.registry, .nil, h⟩
  | cons name names ih =>
    obtain ⟨hname, hnames⟩ := List.forall_mem_cons.mp hnames
    obtain ⟨registry', hbars, hparse⟩ := ih hnames
    cases hcommand : registry'.hasCommand name with
    | true =>
      exact ⟨registry', ⟨List.forall_mem_cons.mpr ⟨hcommand, hbars.bars⟩, hbars.keeps,
        hbars.others⟩, hparse⟩
    | false =>
      exact ⟨_, hbars.cons hcommand, (line.withRegistry registry').parse_withRegistry
        (Registry.sameKinds_unwritable hcommand) (Registry.extends_register hcommand) hname hparse⟩

end Bars

/-! ### What is read with more names barred -/

section Mono

variable {registry registry' : Registry} {line : Nat}
  (hfree : ∀ {name}, registry'.IsFree name → registry.IsFree name)
include hfree

theorem ParamKind.Fits.mono {kind : ParamKind} {p : Param} (h : kind.Fits registry' line p) :
    kind.Fits registry line p := by
  cases kind with
  | name =>
    obtain ⟨name, hp, hname⟩ := h
    exact ⟨name, hp, hfree hname⟩
  | _ => exact h

theorem Registry.NamesValue.mono {params : List Param} (h : registry'.NamesValue params) :
    registry.NamesValue params := by
  obtain ⟨name, value, hparams, hname⟩ := h
  exact ⟨name, value, hparams, hfree hname⟩

theorem Registry.Names.mono {params : List Param} (h : registry'.Names params) :
    registry.Names params := by
  obtain ⟨name, hparams, hname⟩ := h
  exact ⟨name, hparams, hfree hname⟩

/-- What is written with more names barred is written without, too. One case for each form. -/
theorem Signature.Written.mono {signature : Signature} {params : List Param}
    (h : signature.Written registry' line params) : signature.Written registry line params := by
  obtain ⟨command, kinds, returns, form⟩ := signature
  cases form with
  | standard | goTo => exact List.Forall₂.imp (fun _ _ hfits => hfits.mono hfree) h
  | set => exact Registry.NamesValue.mono hfree h
  | unset => exact Registry.Names.mono hfree h
  | setFor =>
    obtain ⟨targets, others, hparams, htargets, hothers⟩ := h
    exact ⟨targets, others, hparams, htargets, hothers.mono hfree⟩
  | unsetFor =>
    obtain ⟨targets, others, hparams, htargets, hothers⟩ := h
    exact ⟨targets, others, hparams, htargets, hothers.mono hfree⟩
  | call | conditional => exact h

theorem Signature.Redirected.mono {key : String} {params : List Param}
    (h : Signature.Redirected registry' key params) : Signature.Redirected registry key params :=
  h.imp (.imp_right (·.mono hfree)) (.imp_right (·.mono hfree))

end Mono

namespace Signature

variable {registry : Registry} {line : Nat} {signature : Signature} {params : List Param}
  {key : String}

/-- A slot for a name holds one that is free. -/
theorem Written.nameSlot (h : signature.Written registry line params) {i : Nat}
    (hi : signature.isNameSlot i) :
    ∃ name, params.getD i .absent = .ofText name ∧ registry.IsFree name := by
  obtain ⟨command, kinds, returns, form⟩ := signature
  cases form with
  | standard | goTo => exact fits_of_forall₂ h (of_decide_eq_true hi)
  | _ => exact h.name hi

theorem Redirected.firstSlot (h : Redirected registry key params) :
    ∃ name, params.getD 0 .absent = .ofText name ∧ registry.IsFree name := by
  rcases h with ⟨-, name, value, rfl, hname⟩ | ⟨-, name, rfl, hname⟩
  all_goals exact ⟨name, rfl, hname⟩

theorem not_written_unwritable (hlength : params.length = 0) (name : String) :
    ¬ (CommandType.unwritable name).signature.Written registry line params := by
  rintro ⟨condition, c, otherwise, rfl, -⟩
  cases hlength

theorem Redirected.length_ne_zero (h : Redirected registry key params) : params.length ≠ 0 := by
  rcases h with ⟨-, name, value, rfl, -⟩ | ⟨-, name, rfl, -⟩ <;> simp

end Signature

theorem Command.mem_params_of_param {c : Command} {i : Nat} {name : String}
    (h : c.param i = .ofText name) : .ofText name ∈ c.params := by
  unfold Command.param at h
  rw [List.getD_eq_getElem?_getD] at h
  cases hi : c.params[i]? with
  | none =>
    rw [hi] at h
    cases h
  | some p =>
    rw [hi] at h
    subst h
    exact List.mem_of_getElem? hi

/-! ### Names are words of the line -/

namespace Line

variable {line : Line} {c d : Command} (h : line.parse = .ok c) (hd : d.Within c)
  {P : String → Prop}
  (hwords : ∀ tokens, Token.ofLine line.number line.text = .ok tokens → ∀ t ∈ tokens, ∀ s,
    t.kind = .word s → P s)
include h hd hwords

/-- With names barred that are no words of the line, what is read is well formed still. -/
theorem exists_wellFormed_barring (names : List String) (hnames : ∀ name ∈ names, ¬ P name) :
    ∃ registry', line.registry.Bars registry' names ∧ d.WellFormed registry' line.number := by
  obtain ⟨registry', hbars, hparse⟩ := exists_barring h names
    fun name hname tokens htokens t ht hs =>
      hnames name hname (hwords tokens htokens t ht name hs)
  exact ⟨registry', hbars, Line.parse_wellFormed hparse d hd⟩

theorem mentions_of_parse {p : Param} (hp : p ∈ d.params) {name : String} (hm : p.Mentions name) :
    P name := by
  by_contra hname
  obtain ⟨registry', hbars, hwell⟩ := exists_wellFormed_barring h hd hwords [name]
    (List.forall_mem_singleton.mpr hname)
  exact (hbars.isFree (hm.isFree (hwell.proper p hp))).2 (List.mem_singleton_self name)

/-- All texts in the slots that are no words of the line are barred at once. So the command has one
signature for all of its slots, and that is none of those that are added. -/
theorem slotNames_of_parse : d.SlotNames line.registry line.number P := by
  classical
  obtain ⟨registry', hbars, hwell⟩ := exists_wellFormed_barring h hd hwords
    ((d.params.filterMap Param.literalText?).filter fun name => ¬ P name) (by simp)
  have hfree : ∀ {name}, registry'.IsFree name → line.registry.IsFree name := fun hname =>
    (hbars.isFree hname).1
  have hslot : ∀ {i name}, d.param i = .ofText name → registry'.IsFree name → P name := by
    intro i name hi hname
    by_contra hP
    refine (hbars.isFree hname).2 (List.mem_filter.mpr ⟨?_, by simpa using hP⟩)
    exact List.mem_filterMap.mpr ⟨.ofText name, Command.mem_params_of_param hi, rfl⟩
  obtain ⟨key, signature, hkey, hname, hlength, hwritten⟩ := hwell.signed
  rcases hbars.others key signature hkey with hkey | ⟨added, rfl⟩
  · refine ⟨key, signature, hkey, hname, hwritten.imp (fun hw => ?_) fun hr => ?_⟩
    · refine ⟨hw.mono hfree, fun i hi => ?_⟩
      obtain ⟨name, hparam, hname⟩ := hw.nameSlot hi
      exact ⟨name, hparam, hslot hparam hname⟩
    · obtain ⟨name, hparam, hname⟩ := hr.firstSlot
      exact ⟨hr.mono hfree, name, hparam, hslot hparam hname⟩
  · rcases hwritten with hw | hr
    · exact absurd hw (Signature.not_written_unwritable hlength added)
    · exact absurd hlength hr.length_ne_zero

/-- **The names of variables are words of the line.** -/
theorem names_of_parse : d.NamesSatisfy line.registry line.number P :=
  ⟨fun _ hp _ hm => mentions_of_parse h hd hwords hp hm, slotNames_of_parse h hd hwords⟩

end Line

/-! ### Lines on their own -/

namespace Text

theorem trimStart_suffix (cs : List Char) : trimStart cs <:+ cs := List.dropWhile_suffix _

theorem isInfix_trim (cs : List Char) : trim cs <:+: cs := by
  have hend : trim cs <+: trimStart cs := by
    unfold trim dropWhileEnd
    rw [← List.reverse_suffix, List.reverse_reverse]
    exact List.dropWhile_suffix _
  exact hend.isInfix.trans (trimStart_suffix cs).isInfix

end Text

namespace LabelLine

theorem dropColon_suffix (cs : List Char) : dropColon cs <:+ cs := by
  unfold dropColon
  split
  · exact List.suffix_cons _ _
  · exact List.suffix_refl _

theorem brackets?_suffix {line inner rest : List Char} (h : brackets? line = some (inner, rest)) :
    rest <:+ line := by
  unfold brackets? at h
  split at h
  · next cs hcs =>
    dsimp only at h
    split at h
    · next after hafter =>
      split at h
      · cases h
      · cases h
        have hclosing : ']' :: rest <:+ cs := hafter ▸ List.dropWhile_suffix _
        have hopening : '[' :: cs <:+ line := hcs ▸ trimStart_suffix line
        exact (List.suffix_cons _ _).trans (hclosing.trans ((List.suffix_cons _ _).trans hopening))
    · cases h
  · cases h

/-- The command of a line stands in the line. -/
theorem isInfix_command {line : List Char} {index : Nat} {label : LabelLine}
    (h : ofLine? line index = .ok (some label)) : label.command <:+: line := by
  unfold ofLine? at h
  split at h
  · cases h
  · next inner rest hbrackets =>
    dsimp only at h
    split at h
    · cases h
    · split at h
      · cases h
      · cases h
        refine (isInfix_trim _).trans (List.IsSuffix.isInfix ?_)
        have hrest := (trimStart_suffix rest).trans (brackets?_suffix hbrackets)
        exact (dropColon_suffix _).trans hrest

end LabelLine

namespace CompiledLine

variable {registry : Registry} {text : List Char}

theorem parse_of_commandOf {c : Command} (h : commandOf registry text = .ok (some c)) :
    (Line.mk registry text 0).parse = .ok c := by
  unfold commandOf at h
  split at h
  · cases h
  · cases hparse : (Line.mk registry text 0).parse with
    | error f =>
      rw [hparse] at h
      cases h
    | ok c' =>
      rw [hparse] at h
      cases h
      rfl

/-- The command of a line is read from a part of it, with its comment off and its letters folded. -/
theorem exists_parse {compiled : CompiledLine} (h : compile registry text = .ok compiled)
    {c : Command} (hc : compiled.command = some c) :
    ∃ part, part <:+: foldCase (stripComment text) ∧
      (Line.mk registry part 0).parse = .ok c := by
  obtain ⟨label?, hlabel, h⟩ := exists_of_bind h
  cases label? with
  | none =>
    obtain ⟨command, hcommand, h⟩ := exists_of_bind h
    cases h
    exact ⟨_, List.infix_refl _, parse_of_commandOf (hc ▸ hcommand)⟩
  | some label =>
    obtain ⟨command, hcommand, h⟩ := exists_of_bind h
    cases h
    exact ⟨_, LabelLine.isInfix_command hlabel, parse_of_commandOf (hc ▸ hcommand)⟩

/-- **The names of variables are words**: they start with a letter or an underscore, so with no
digit and no dash, and go on with letters, numerals, dashes and underscores. But where the line has
`NOT-` directly before a name, it starts with any of these. -/
theorem names_are_words {compiled : CompiledLine} (h : compile registry text = .ok compiled)
    {c d : Command} (hc : compiled.command = some c) (hd : d.Within c) :
    d.NamesSatisfy registry 0 fun name => Token.IsName name.toList ∨
      Token.BehindNegation (foldCase (stripComment text)) name.toList := by
  obtain ⟨part, hpart, hparse⟩ := exists_parse h hc
  refine Line.names_of_parse hparse hd fun tokens htokens t ht s hs => ?_
  exact ((Token.pieces_of_readFrom htokens).isName_or_behindNegation ht hs).imp_right
    (·.mono hpart)

/-- What `return: not-5` is compiled to: the negation of a variable. -/
def notFive : Command := ⟨"RETURN", [.condition .not (.variable "5") none], 0⟩

theorem compile_notFive :
    compile Registry.builtin "return: not-5".toList = .ok ⟨none, some notFive⟩ := by
  with_unfolding_all rfl

theorem mentions_notFive : ∃ p ∈ notFive.params, p.Mentions "5" :=
  ⟨_, List.mem_singleton_self _, .part List.mem_cons_self .variable⟩

theorem names_are_words_notFive :
    compile Registry.builtin "return: not-5".toList = .ok ⟨none, some notFive⟩ ∧
      (Token.IsName "5".toList ∨
        Token.BehindNegation (foldCase (stripComment "return: not-5".toList)) "5".toList) := by
  obtain ⟨p, hp, hm⟩ := mentions_notFive
  have hnames := names_are_words compile_notFive rfl (.refl notFive)
  exact ⟨compile_notFive, hnames.mentions p hp "5" hm⟩

/-- **A variable whose name starts with a digit.** -/
theorem names_no_words_behind_not :
    ¬ ∀ (registry : Registry) (text : List Char) (compiled : CompiledLine),
      compile registry text = .ok compiled → ∀ c d : Command, compiled.command = some c →
        d.Within c → d.NamesSatisfy registry 0 fun name => Token.IsName name.toList := by
  intro hall
  obtain ⟨p, hp, hm⟩ := mentions_notFive
  obtain ⟨⟨c, hc, hstart, -⟩, -⟩ :=
    (hall _ _ _ compile_notFive _ _ rfl (.refl notFive)).mentions p hp "5" hm
  cases hc
  exact absurd hstart (by decide)

end CompiledLine

end StageScript
