import StageScript.Proofs.Grammar.StaticKind

/-!
# Reading with one more command

A registry may get a new command (`Registry.Extends`). What is read of a line with the old registry
is read with the new one too, if the name of the command is no word of the line: the grammar asks
the registry about words of the line, about the names of the commands for tiers, and about commands
that it has read before. The first are other names, and the others are looked up only if the old
registry has them. So tokens that lack the name make a correspondence between the two lines
(`Line.extending`), in which the commands that are read are well formed with the old registry.
-/

namespace StageScript

/-! ### Registries -/

/-- **The second registry has one more command**, under a name that the first one does not know. -/
structure Registry.Extends (registry registry' : Registry) (name : String) : Prop where
  fresh : registry.get? name = none
  added : registry'.hasCommand name = true
  others : ∀ key, key ≠ name → registry'.get? key = registry.get? key

/-- **What commands give is of the same kind with both registries**, for the commands of the first
one. -/
def Registry.SameKinds (registry registry' : Registry) : Prop :=
  ∀ key signature, registry.signature? key = some signature →
    StaticKind.ofCommand registry' signature.name = StaticKind.ofCommand registry signature.name

namespace Registry

variable {registry registry' : Registry} {name : String}

theorem extends_register {c : CommandType} (h : registry.hasCommand c.signature.name = false) :
    registry.Extends (registry.register c) c.signature.name where
  fresh := by simpa [hasCommand, signature?] using h
  added := by
    unfold hasCommand signature? register
    rw [Table.get?_insert, if_pos rfl]
    rfl
  others key hkey := by
    unfold register
    rw [Table.get?_insert, if_neg hkey]

namespace Extends

variable (h : registry.Extends registry' name)
include h

theorem get?_of_some {key : String} {c : CommandType} (hkey : registry.get? key = some c) :
    registry'.get? key = some c := by
  rw [h.others key fun heq => ?_, hkey]
  rw [heq, h.fresh] at hkey
  cases hkey

theorem signature?_of_some {key : String} {signature : Signature}
    (hkey : registry.signature? key = some signature) :
    registry'.signature? key = some signature := by
  obtain ⟨c, hc, rfl⟩ := Option.map_eq_some_iff.mp hkey
  unfold signature?
  rw [h.get?_of_some hc]
  rfl

theorem signature?_eq {key : String} (hkey : key ≠ name) :
    registry'.signature? key = registry.signature? key := by
  unfold signature?
  rw [h.others key hkey]

theorem hasCommand_eq {key : String} (hkey : key ≠ name) :
    registry'.hasCommand key = registry.hasCommand key := by
  unfold hasCommand
  rw [h.signature?_eq hkey]

theorem sameKinds (hk : registry.Keyed) : registry.SameKinds registry' := by
  intro key signature hkey
  obtain rfl := hk key signature hkey
  unfold StaticKind.ofCommand
  rw [hkey, h.signature?_of_some hkey]

/-- A variable that may be written with the second registry does not have the name. -/
theorem ne_of_isFree {key : String} (hkey : registry'.IsFree key) : key ≠ name := by
  rintro rfl
  have hunknown := hkey.2
  rw [h.added] at hunknown
  cases hunknown

end Extends

end Registry

/-! ### Reading the same -/

/-- No token is the word. -/
def Tokens.Lack (name : String) (ts : Tokens) : Prop := ∀ t ∈ ts, t.kind ≠ .word name

/-- The line read against another registry. -/
def Line.withRegistry (line : Line) (registry : Registry) : Line := { line with registry }

namespace Line

variable {line : Line} {registry' : Registry} {name : String}

/-- A command that was read has been in the registry, so its kind is the same. -/
theorem same_ofParam (hk : line.registry.SameKinds registry') {p : Param} (hp : line.Writes p) :
    StaticKind.ofParam registry' p = StaticKind.ofParam line.registry p := by
  cases hp with
  | @command c hc =>
    obtain ⟨key, signature, hkey, hname, -⟩ := (hc c (.refl c)).signed
    show StaticKind.ofCommand registry' c.name = StaticKind.ofCommand line.registry c.name
    rw [hname, hk key signature hkey]
  | _ => rfl

/-- **Reading with one more command**, from tokens that lack its name. -/
def extending (hk : line.registry.SameKinds registry') (h : line.registry.Extends registry' name) :
    Correspondence line (line.withRegistry registry') where
  tokens ts ts' := ts' = ts ∧ ts.Lack name
  words word := word ≠ name
  columns := Eq
  param p p' := p' = p ∧ line.Writes p
  command c c' := c' = c ∧ c.WellFormedThroughout line.registry line.number
  SameFaults := False
  relates := line.closed_writes.relates rfl fun _ hp => same_ofParam hk hp
  number_eq := rfl
  next := by
    rintro _ ts ⟨rfl, hts⟩
    cases ts with
    | nil => exact .ends (.inl rfl)
    | cons t ts =>
      obtain ⟨ht, hrest⟩ := List.forall_mem_cons.mp hts
      refine .cons rfl (fun word hword heq => ht ?_) rfl (fun _ => rfl) ⟨rfl, hrest⟩
      rw [hword, heq]
  signature?_eq hword := h.signature?_eq hword
  signature?_of_some hkey := h.signature?_of_some hkey
  line_eq h := h.elim
  tokens_eq h := h.elim

theorem parse_withRegistry {line : Line} (hk : line.registry.SameKinds registry')
    (h : line.registry.Extends registry' name)
    (hwords : ∀ tokens, Token.ofLine line.number line.text = .ok tokens →
      Tokens.Lack name tokens) {c : Command} (hc : line.parse = .ok c) :
    (line.withRegistry registry').parse = .ok c := by
  obtain ⟨tokens, htokens, hcommand⟩ := exists_of_bind hc
  obtain ⟨⟨d, rest⟩, hlevel, hrest⟩ := exists_of_bind hcommand
  have hfollows := (extending hk h).follows_level (Nat.le_refl (tokens.length + 1)) False.elim
    (tokens.length + 1)
  obtain ⟨_, _, hlevel', ⟨rfl, -⟩, rfl, -⟩ :=
    (hfollows.command ⟨rfl, hwords tokens htokens⟩).exists_of_ok hlevel
  have htokens' : Token.ofLine (line.withRegistry registry').number
      (line.withRegistry registry').text = .ok tokens := htokens
  unfold parse command
  rw [htokens']
  dsimp only [bind, Except.bind]
  rw [hlevel']
  dsimp only at hrest ⊢
  split at hrest
  · cases hrest
    rfl
  · cases hrest

end Line

/-! ### Scripts -/

/-- No line has the word among its tokens; the lines come with their numbers. -/
def LinesLack (name : String) (lines : List (List Char × Nat)) : Prop :=
  ∀ line ∈ lines, ∀ tokens, Token.ofLine line.2 line.1 = .ok tokens → Tokens.Lack name tokens

/-- No line of the prepared sources has the word among its tokens. -/
def Prepared.Lacks (prepared : Prepared) (name : String) : Prop :=
  LinesLack name prepared.lines.zipIdx

section Decidable

variable (name : String)

instance (kind : TokenKind) : Decidable (kind = .word name) :=
  decidable_of_iff (kind.isWord name = true) (by cases kind <;> simp [TokenKind.isWord])

instance (ts : Tokens) : Decidable (ts.Lack name) :=
  inferInstanceAs (Decidable (∀ t ∈ ts, t.kind ≠ .word name))

/-- What is said of a result is decided by looking at it. -/
instance decidableOfOk {ε α : Type} {P : α → Prop} [DecidablePred P] :
    (r : Except ε α) → Decidable (∀ a, r = .ok a → P a)
  | .ok a => decidable_of_iff (P a) ⟨fun h _ ha => Except.ok.inj ha ▸ h, fun h => h a rfl⟩
  | .error _ => .isTrue nofun

instance (prepared : Prepared) : Decidable (prepared.Lacks name) :=
  inferInstanceAs (Decidable (∀ line ∈ prepared.lines.zipIdx, ∀ tokens,
    Token.ofLine line.2 line.1 = .ok tokens → Tokens.Lack name tokens))

end Decidable

namespace Script

variable {registry registry' : Registry} {name : String} (hk : registry.Keyed)
  (h : registry.Extends registry' name)
include hk h

theorem compileLine_extends {index : Nat} {text : List Char} {c : Command}
    (hwords : ∀ tokens, Token.ofLine index text = .ok tokens → Tokens.Lack name tokens)
    (hc : compileLine registry index text = .ok c) : compileLine registry' index text = .ok c := by
  unfold compileLine at hc ⊢
  split at hc
  · next hparse =>
    cases hc
    have hparse' : ((Line.mk registry text index).withRegistry registry').parse = .ok c :=
      Line.parse_withRegistry (h.sameKinds hk) h hwords hparse
    rw [show (Line.mk registry' text index).parse = .ok c from hparse']
  · cases hc

theorem compileLines_extends {texts : List (List Char)} {index : Nat}
    {commands : List (Nat × Command)}
    (hwords : LinesLack name (texts.zipIdx index))
    (hcommands : compileLines registry index texts = .ok commands) :
    compileLines registry' index texts = .ok commands := by
  induction texts generalizing index commands with
  | nil => exact hcommands
  | cons text texts ih =>
    rw [List.zipIdx_cons] at hwords
    obtain ⟨htext, htexts⟩ := List.forall_mem_cons.mp hwords
    unfold compileLines at hcommands ⊢
    split at hcommands
    · next hblank =>
      rw [if_pos hblank]
      exact ih htexts hcommands
    · next hblank =>
      obtain ⟨c, hc, hcommands⟩ := exists_of_bind hcommands
      obtain ⟨others, hothers, hcommands⟩ := exists_of_bind hcommands
      rw [if_neg hblank, compileLine_extends hk h htext hc, ← hcommands]
      dsimp only [bind, Except.bind]
      rw [ih htexts hothers]

/-- **A script compiles to the same with one more command**, if the sources lack its name. -/
theorem compile_extends {sources : Sources} {script : Script}
    (hwords : ∀ prepared, Prepared.ofSources sources = .ok prepared → prepared.Lacks name)
    (hscript : compile registry sources = .ok script) : compile registry' sources = .ok script := by
  obtain ⟨prepared, hprepared, hscript⟩ := exists_of_bind hscript
  obtain ⟨commands, hcommands, hscript⟩ := exists_of_bind hscript
  unfold compile ofPrepared
  rw [hprepared]
  dsimp only [bind, Except.bind]
  rw [compileLines_extends hk h (hwords prepared hprepared) hcommands]
  exact hscript

end Script

end StageScript
