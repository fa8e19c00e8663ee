import StageScript.Proofs.Engine.ShortCircuit

/-!
# A variable in the place of a literal

Two lines return the same operator and the same tokens behind it, one with a literal to the left and
one with a variable that holds its value (`TwinLines`). How far they agree is said by
`settle_twins`.

The operator and what stands behind it are found at other columns in the two lines, so the second is
compared with the line that has the variable and all the rest where the first has it
(`TwinLines.slots`). Behind a number, a text or a collection, both are read in step. A literal truth
value is read differently, as the start of a condition.
-/

namespace StageScript

/-! ### Lines that return -/

/-- The command `RETURN`, as the language has it. -/
def returnType : CommandType := ⟨{ name := "RETURN", params := [.any] }, .returnValue⟩

/-- The tokens of a line that returns an operand, an operator and what stands behind it. -/
def returning (operand : Tokens) (operator : Token) (right : Tokens) : Tokens :=
  ⟨.word "RETURN", 0, 6⟩ :: ⟨.symbol ':', 6, 7⟩ :: (operand ++ operator :: right)

/-- What a line that returns is read as. -/
theorem command_returning {line : Line} {operand right : Tokens} {operator : Token} {c : Command}
    (hreturn : line.registry.signature? "RETURN" = some returnType.signature)
    (h : line.command (returning operand operator right) = .ok c) :
    ∃ p rest, line.valueSlot (line.level (returning operand operator right).length).primary
        (operand ++ operator :: right) = .ok (p, rest) ∧
      rest.dropWhile (·.kind.isSymbol ':') = [] ∧ c = ⟨"RETURN", [p], line.number⟩ := by
  obtain ⟨⟨c₁, rest⟩, hcommand, hend⟩ := exists_of_bind h
  obtain ⟨⟨name, ts⟩, hword, hcommand⟩ := exists_of_bind hcommand
  cases hword
  obtain ⟨signature, hsignature, hcommand⟩ := exists_of_bind hcommand
  cases (Line.signature?_of_lookUp hsignature).symm.trans hreturn
  obtain ⟨⟨⟨signed, params⟩, ts⟩, hparams, hcommand⟩ := exists_of_bind hcommand
  obtain ⟨⟨params', ts'⟩, hparams, hsigned⟩ := exists_of_bind hparams
  cases hsigned
  change line.standardParams _ returnType.signature [.any] _ = _ at hparams
  simp only [Line.standardParams] at hparams
  split at hparams
  · cases hparams
  · obtain ⟨⟨p, ts⟩, hslot, hparams⟩ := exists_of_bind hparams
    cases hparams
    cases hcommand
    refine ⟨p, ts, hslot, ?_⟩
    dsimp only at hend
    split at hend
    · next hnil =>
      cases hend
      exact ⟨hnil, rfl⟩
    · cases hend

/-- What `RETURN` does. -/
theorem settle_return {program : Program}
    (hreturn : program.registry.get? "RETURN" = some returnType) (fuel : Nat) (ctx : Context)
    (p : Param) (number : Nat) :
    settle program (fuel + 1) ctx ⟨"RETURN", [p], number⟩ = (do
      let v ← evaluate program (settle program fuel) ctx p
      return .signal (.returnValue v)) := by
  have hexecute : execute program (settle program fuel) fuel ctx ⟨"RETURN", [p], number⟩ = (do
      let v ← evaluate program (settle program fuel) ctx p
      return .signal (.returnValue v)) := by
    unfold execute
    rw [hreturn]
    show (do
      let v ← evaluate program (settle program fuel) (ctx.child _) p
      return .signal (.returnValue v) : Run Outcome) = _
    rw [evaluate_child (settle_child fuel)]
  show (execute program (settle program fuel) fuel ctx ⟨"RETURN", [p], number⟩ >>= fun o =>
    ultimate program (settle program fuel) fuel ctx program.options.maxTailCalls o) = _
  rw [hexecute]
  simp only [bind_assoc, pure_bind, ultimate_signal]

/-! ### The first operand -/

section Operand

variable {registry : Registry} {name : String}

theorem ne_of_isFree (h : registry.IsFree name) {word : String} (hw : isReserved word = true) :
    name ≠ word := by
  rintro rfl
  cases h.1.symm.trans hw

theorem startsCondition_of_isFree (h : registry.IsFree name) (hnot : name ≠ "NOT-") :
    startsCondition (.word name) = false := by
  have hreserved : name ≠ "NOT" ∧ name ≠ "TRUE" ∧ name ≠ "FALSE" :=
    ⟨ne_of_isFree h (by decide), ne_of_isFree h (by decide), ne_of_isFree h (by decide)⟩
  simp [startsCondition, isNot, TokenKind.isWord, TokenKind.isSymbol, hreserved, hnot]

/-- A free name is read as a variable. -/
theorem primary_variable (line : Line) (h : line.registry.IsFree name) (n start stop : Nat)
    (rest : Tokens) :
    (line.level (n + 1)).primary (⟨.word name, start, stop⟩ :: rest) =
      .ok (⟨.variable name, .unknown⟩, rest) := by
  show line.wordPrimary (line.level n) name (⟨.word name, start, stop⟩ :: rest) rest = _
  unfold Line.wordPrimary
  split
  · exact absurd rfl (ne_of_isFree h (by decide))
  · exact absurd rfl (ne_of_isFree h (by decide))
  · exact absurd rfl (ne_of_isFree h (by decide))
  · exact absurd rfl (ne_of_isFree h (by decide))
  · simp only [h.1, h.2, Bool.false_eq_true, if_false]

theorem evaluate_variable {program : Program} {settle : Settle} {ctx : Context} {s : State}
    {cell : CellId} {v : Value} (h : s.lookUp? ctx.scope ctx.actor.id name = some cell)
    (hv : s.memory.read cell = v) :
    evaluate program settle ctx (.variable name) s = .ok v s := by
  have hresolve : ctx.resolve name s = .ok cell s := by
    unfold Context.resolve
    have hlookUp : ctx.lookUp? name s = .ok (some cell) s := by
      show EStateM.Result.ok (s.lookUp? ctx.scope ctx.actor.id name) s = _
      rw [h]
    rw [Run.bind_of_ok hlookUp]
    rfl
  simp only [evaluate]
  rw [Run.bind_of_ok hresolve, ← hv]
  rfl

end Operand

namespace Literal

variable {lit : Tokens} {v : Value}

theorem known (h : Literal lit v) : StaticKind.ofValueKind v.kind ≠ .unknown := by
  cases h <;> nofun

theorem startsCondition_of_ne (h : Literal lit v) (hv : v.kind ≠ .boolean) (rest : Tokens) :
    Tokens.nextIs startsCondition (lit ++ rest) = false := by
  cases h <;> first | rfl | exact absurd rfl hv

theorem startsCondition_of_eq (h : Literal lit v) (hv : v.kind = .boolean) (rest : Tokens) :
    Tokens.nextIs startsCondition (lit ++ rest) = true := by
  cases h <;> first | rfl | cases hv

end Literal

/-! ### Two lines -/

/-- **Two lines that return**, one with a literal and one with a variable in its place, both with
the same operator and the same tokens behind it, wherever these stand in their lines. -/
structure TwinLines (registry : Registry) (line line' : Line) (v : Value) (name : String)
    (right : Tokens) (c c' : Command) : Prop where
  registry_early : line.registry = registry
  registry_late : line'.registry = registry
  number_late : line'.number = line.number
  tokens : ∃ lit operator operator' right' start stop, Literal lit v ∧
    joins operator.kind = true ∧ Moved (operator :: right) (operator' :: right') ∧
    Token.ofLine line.number line.text = .ok (returning lit operator right) ∧
    Token.ofLine line'.number line'.text =
      .ok (returning [⟨.word name, start, stop⟩] operator' right')
  parse : line.parse = .ok c
  parse_late : line'.parse = .ok c'

/-- What a line of known tokens is read as. -/
theorem Line.command_of_parse {line : Line} {tokens : Tokens} {c : Command}
    (ht : Token.ofLine line.number line.text = .ok tokens) (h : line.parse = .ok c) :
    line.command tokens = .ok c := by
  obtain ⟨tokens', ht', h⟩ := exists_of_bind h
  cases ht.symm.trans ht'
  exact h

namespace TwinLines

variable {program : Program} {line line' : Line} {v : Value} {name : String} {right : Tokens}
  {c c' : Command} (h : TwinLines program.registry line line' v name right c c')
  (hreturn : program.registry.get? "RETURN" = some returnType)
include h hreturn

/-- The slots of both lines, up to columns, are read from the same tokens by the parsers of one
level, as high as is asked for. -/
theorem slots (n : Nat) : ∃ m lit operator start stop p p' q rest,
    n ≤ m ∧ Literal lit v ∧ lit.length ≤ m + 1 ∧ joins operator.kind = true ∧
    c = ⟨"RETURN", [p], line.number⟩ ∧ c' = ⟨"RETURN", [p'], line.number⟩ ∧
    line.valueSlot (line.level (m + 1)).primary (lit ++ operator :: right) = .ok (q, rest) ∧
    rest.dropWhile (·.kind.isSymbol ':') = [] ∧ q.unplaced = p.unplaced ∧
    ∀ q' rest', line.valueSlot (line.level (m + 1)).primary
        (⟨.word name, start, stop⟩ :: operator :: right) = .ok (q', rest') →
      q'.unplaced = p'.unplaced := by
  obtain ⟨lit, operator, operator', right', start, stop, hlit, hjoins, hmoved, htokens, htokens'⟩ :=
    h.tokens
  have hsignature : program.registry.signature? "RETURN" = some returnType.signature := by
    unfold Registry.signature?
    rw [hreturn]
    rfl
  obtain ⟨p, rest, hslot, hrest, hc⟩ := command_returning (by rw [h.registry_early, hsignature])
    (Line.command_of_parse htokens h.parse)
  obtain ⟨p', rest', hslot', -, hc'⟩ := command_returning (by rw [h.registry_late, hsignature])
    (Line.command_of_parse htokens' h.parse_late)
  have hlate : line'.withText line.text = line := by
    have hregistry := h.registry_early.trans h.registry_late.symm
    have hnumber := h.number_late
    obtain ⟨registry, text, number⟩ := line
    obtain ⟨registry', text', number'⟩ := line'
    cases hregistry
    cases hnumber
    rfl
  -- a level that is high enough for both lines
  let m := n + (returning lit operator right).length +
    (returning [⟨.word name, start, stop⟩] operator' right').length
  have hlength : lit.length ≤ m + 1 := by
    simp only [m, returning, List.length_cons, List.length_append]
    omega
  obtain ⟨q, rest₁, hread, hq, hrest₁⟩ :=
    Line.valueSlot_of_level line.text (m := m + 1) (by omega) (.refl _) hslot
  obtain ⟨r, rest₂, hread', hr, -⟩ :=
    Line.valueSlot_of_level line.text (m := m + 1) (by omega) (.refl _) hslot'
  rw [hlate] at hread'
  rw [h.number_late] at hc'
  -- the variable touches the operator of the first line if it does so in the second
  obtain ⟨stop', htouches⟩ : ∃ stop', (operator'.start == stop) = (operator.start == stop') := by
    by_cases hstop : operator'.start = stop
    · exact ⟨operator.start, by simp [hstop]⟩
    · exact ⟨operator.start + 1, by simp [hstop]⟩
  refine ⟨m, lit, operator, start, stop', p, p', q, rest₁, by omega, hlit, hlength, hjoins, hc, hc',
    hread, hrest₁.dropWhile_eq_nil hrest, hq, fun q' rest' hq' => ?_⟩
  have hmoved' : Moved (⟨.word name, start, stop'⟩ :: operator :: right)
      (⟨.word name, start, stop⟩ :: operator' :: right') := .cons rfl htouches hmoved
  obtain ⟨r', rest₃, hread'', hr', -⟩ :=
    Line.valueSlot_of_level line.text (Nat.le_refl (m + 1)) hmoved' hq'
  cases hread'.symm.trans hread''
  exact hr'.symm.trans hr

/-- The values of the two lines, where the literal is no truth value. -/
theorem follows (hfree : program.registry.IsFree name) (hnot : name ≠ "NOT-")
    (hv : v.kind ≠ .boolean) : ∃ p p' number,
      c = ⟨"RETURN", [p], number⟩ ∧ c' = ⟨"RETURN", [p'], number⟩ ∧
      ∀ fuel (ctx : Context) (s : State) cell, s.choices = .afresh →
        s.lookUp? ctx.scope ctx.actor.id name = some cell → s.memory.read cell = v →
        Follows v.kind s (evaluate program (settle program fuel) ctx p)
          (evaluate program (settle program fuel) ctx p') := by
  obtain ⟨m, lit, operator, start, stop, p, p', q, rest, -, hlit, hlength, hjoins, hc, hc', hread,
    hrest, hq, hq'⟩ := h.slots hreturn 0
  refine ⟨p, p', line.number, hc, hc', fun fuel ctx s cell hs hcell hcellv => ?_⟩
  obtain ⟨literal, hliteral, hdenotes⟩ := hlit.reads line (m + 1) (operator :: right) hlength
  have hvariable := primary_variable line (by rw [h.registry_early]; exact hfree) m start
    stop (operator :: right)
  have hlockstep : Lockstep program fuel ctx s v.kind ⟨literal, .ofValueKind v.kind⟩
      ⟨.variable name, .unknown⟩ := by
    refine ⟨rfl, .inl rfl, ?_, .inl ?_⟩
    · rintro w ⟨t, t', hw⟩
      cases (hdenotes.evaluate _ _ _ _).symm.trans hw
      rfl
    · rw [hdenotes.evaluate, evaluate_variable hcell hcellv]
  obtain ⟨q', hread', hstep⟩ := hlockstep.valueSlot hs hlit.known hv hliteral hvariable
    (joins_cases hjoins).1 (hlit.startsCondition_of_ne hv _)
    (startsCondition_of_isFree hfree hnot) hread hrest
  unfold Follows
  rw [← evaluate_of_unplaced_eq hq hs, ← evaluate_of_unplaced_eq (hq' q' rest hread') hs]
  exact hstep.follows

/-- The values of the two lines, where the literal is a truth value and operands joined by `AND`
stand behind it, up to the end or an `OR`. -/
theorem shortCircuits (hfree : program.registry.IsFree name) (hnot : name ≠ "NOT-")
    (hv : v.kind = .boolean) {n : Nat} {last : Tokens}
    (hright : Conjoined (line.level n).primary right last) :
    ∃ p p' number, c = ⟨"RETURN", [p], number⟩ ∧ c' = ⟨"RETURN", [p'], number⟩ ∧
      ∀ fuel (ctx : Context) (s : State) cell, s.choices = .afresh →
        s.lookUp? ctx.scope ctx.actor.id name = some cell → s.memory.read cell = v →
        ∃ first first' alternatives, p.unplaced = (first.orElse alternatives).unplaced ∧
          p'.unplaced = (first'.orElse alternatives).unplaced ∧
          (last = [] → alternatives = []) ∧
          ShortCircuits (.boolean false) ctx.line s
            (evaluate program (settle program fuel) ctx first)
            (evaluate program (settle program fuel) ctx first') := by
  obtain ⟨m, lit, operator, start, stop, p, p', q, rest, hn, hlit, hlength, hjoins, hc, hc', hread,
    hrest, hq, hq'⟩ := h.slots hreturn n
  refine ⟨p, p', line.number, hc, hc', fun fuel ctx s cell hs hcell hcellv => ?_⟩
  obtain ⟨literal, hliteral, hdenotes⟩ := hlit.reads line (m + 1) (operator :: right) hlength
  rw [hv] at hliteral
  have hvariable := primary_variable line (by rw [h.registry_early]; exact hfree) m start
    stop (operator :: right)
  obtain ⟨last', hlast, hconjoined⟩ : ∃ last', Moved last last' ∧
      Conjoined (line.level (m + 1)).primary right last' :=
    hright.mono (fun hts hread => Line.primary_of_level line.text (by omega) hts hread)
      (.refl right)
  have hkind : (evaluate program (settle program fuel) ctx literal).Yields
      fun w => w.kind = .boolean := by
    rintro w ⟨t, t', hw⟩
    cases (hdenotes.evaluate _ _ _ _).symm.trans hw
    exact hv
  have hstart : ShortCircuits (.boolean false) ctx.line s
      (evaluate program (settle program fuel) ctx literal)
      (evaluate program (settle program fuel) ctx (.variable name)) := by
    left
    rw [hdenotes.evaluate, evaluate_variable hcell hcellv]
  obtain ⟨first, first', alternatives, rfl, hread', hnone, hcircuits⟩ :=
    hconjoined.valueSlot hs hjoins hliteral hvariable hkind hstart (hlit.opens _).1
      (hlit.startsCondition_of_eq hv _) (startsCondition_of_isFree hfree hnot) hread hrest
  refine ⟨first, first', alternatives, hq.symm, (hq' _ rest hread').symm, fun hnil => ?_, hcircuits⟩
  subst hnil
  cases hlast
  exact hnone rfl

/-! ### What the lines return -/

section Settle

variable (hfree : program.registry.IsFree name) (hnot : name ≠ "NOT-") (fuel : Nat)
  (ctx : Context) {s : State} {cell : CellId}
  (hcell : s.lookUp? ctx.scope ctx.actor.id name = some cell) (hv : s.memory.read cell = v)
include hfree hnot hcell hv

theorem settle_follows (hkind : v.kind ≠ .boolean) :
    Follows v.kind s.afresh (settle program fuel ctx c) (settle program fuel ctx c') := by
  obtain ⟨p, p', number, rfl, rfl, hp⟩ := h.follows hreturn hfree hnot hkind
  cases fuel with
  | zero => exact .inl rfl
  | succ fuel =>
    rw [settle_return hreturn, settle_return hreturn]
    exact (hp fuel ctx s.afresh cell rfl hcell hv).bind_same _

theorem settle_shortCircuits (hkind : v.kind = .boolean) {n : Nat}
    (hright : Conjoined (line.level n).primary right []) :
    ShortCircuits (.signal (.returnValue (.boolean false))) ctx.line s.afresh
      (settle program fuel ctx c) (settle program fuel ctx c') := by
  obtain ⟨p, p', number, rfl, rfl, hp⟩ := h.shortCircuits hreturn hfree hnot hkind hright
  cases fuel with
  | zero => exact .inl rfl
  | succ fuel =>
    obtain ⟨first, first', alternatives, hfirst, hfirst', hnone, hcircuits⟩ :=
      hp fuel ctx s.afresh cell rfl hcell hv
    obtain rfl := hnone rfl
    rw [settle_return hreturn, settle_return hreturn]
    refine ShortCircuits.map ?_ (fun v => Settled.signal (.returnValue v))
    unfold ShortCircuits
    rw [evaluate_of_unplaced_eq hfirst rfl, evaluate_of_unplaced_eq hfirst' rfl]
    exact hcircuits

/-- Both lines return the same, if both return when every choice is made afresh. -/
theorem settle_eq (hright : v.kind = .boolean → ∃ n, Conjoined (line.level n).primary right [])
    {r r' : Settled} {t t' : State} (hr : settle program fuel ctx c s.afresh = .ok r t)
    (hr' : settle program fuel ctx c' s.afresh = .ok r' t') : r = r' := by
  by_cases hkind : v.kind = .boolean
  · obtain ⟨n, hright⟩ := hright hkind
    rcases h.settle_shortCircuits hreturn hfree hnot fuel ctx hcell hv hkind hright with
      heq | ⟨u, hno, hno'⟩ | ⟨found, u, hrefused, -⟩
    · exact (EStateM.Result.ok.inj (hr.symm.trans (heq.trans hr'))).1
    · cases hr.symm.trans hno
      exact (hno' r' _ hr').symm
    · cases hr.symm.trans hrefused
  · rcases h.settle_follows hreturn hfree hnot fuel ctx hcell hv hkind with
      heq | ⟨-, f, symbol, found, u, hrefused, -⟩
    · exact (EStateM.Result.ok.inj (hr.symm.trans (heq.trans hr'))).1
    · cases hr'.symm.trans hrefused

end Settle

end TwinLines

/-- The command returns a param, but for the columns of its operators. -/
def Command.IsReturnOf (c : Command) (p : Param) : Prop :=
  ∃ q number, c = ⟨"RETURN", [q], number⟩ ∧ q.unplaced = p.unplaced

/-- **A variable in the place of a literal.** Two lines return the same operator behind a literal
and behind a variable that holds its value, with the same tokens to the right. If every open
operator is chosen when it is evaluated, then:

* behind a number or a text, both lines have the same result, be it a value or a fault;
* behind a collection they do too, or the variable refuses an operand that is no collection;
* behind a truth value, with operands joined by `AND` to the right, they do too, or the literal
  answers `FALSE` where the variable answers `FALSE` or fails, or both refuse an operand that is no
  truth value;
* behind a truth value, with operands joined by `AND` and then an `OR` to the right, this is so of
  what stands before the `OR`, and both lines go on with the same operands.

With choices that are remembered from before, and commands that hand errors on, each line ends as it
does without, or it fails on an operator, or it fails where it fails on an operator without. So both
lines return the same value if both return. -/
theorem settle_twins {program : Program} {line line' : Line} {v : Value} {name : String}
    {right : Tokens} {c c' : Command}
    (h : TwinLines program.registry line line' v name right c c')
    (hreturn : program.registry.get? "RETURN" = some returnType)
    (hfree : program.registry.IsFree name) (hnot : name ≠ "NOT-") (fuel : Nat) (ctx : Context)
    {s : State} {cell : CellId} (hcell : s.lookUp? ctx.scope ctx.actor.id name = some cell)
    (hv : s.memory.read cell = v) :
    (v.kind ≠ .boolean →
      Follows v.kind s.afresh (settle program fuel ctx c) (settle program fuel ctx c')) ∧
    (v.kind = .boolean → (∃ n, Conjoined (line.level n).primary right []) →
      ShortCircuits (.signal (.returnValue (.boolean false))) ctx.line s.afresh
        (settle program fuel ctx c) (settle program fuel ctx c')) ∧
    (v.kind = .boolean → (∃ n last, Conjoined (line.level n).primary right last) →
      ∃ first first' alternatives, c.IsReturnOf (first.orElse alternatives) ∧
        c'.IsReturnOf (first'.orElse alternatives) ∧
        ShortCircuits (.boolean false) ctx.line s.afresh
          (evaluate program (settle program fuel) ctx first)
          (evaluate program (settle program fuel) ctx first')) ∧
    (program.registry.PassesErrorsOn → s.choices.Sound →
      Recalls (settle program fuel ctx c s) (settle program fuel ctx c s.afresh) ∧
      Recalls (settle program fuel ctx c' s) (settle program fuel ctx c' s.afresh) ∧
      ((v.kind = .boolean → ∃ n, Conjoined (line.level n).primary right []) →
        ∀ r r' t t', settle program fuel ctx c s = .ok r t →
          settle program fuel ctx c' s = .ok r' t' → r = r')) := by
  refine ⟨h.settle_follows hreturn hfree hnot fuel ctx hcell hv, ?_, ?_, fun hpass hsound => ?_⟩
  · rintro hkind ⟨n, hright⟩
    exact h.settle_shortCircuits hreturn hfree hnot fuel ctx hcell hv hkind hright
  · rintro hkind ⟨n, last, hright⟩
    obtain ⟨p, p', number, rfl, rfl, hp⟩ := h.shortCircuits hreturn hfree hnot hkind hright
    obtain ⟨first, first', alternatives, hfirst, hfirst', -, hcircuits⟩ :=
      hp fuel ctx s.afresh cell rfl hcell hv
    exact ⟨first, first', alternatives, ⟨p, number, rfl, hfirst⟩, ⟨p', number, rfl, hfirst'⟩,
      hcircuits⟩
  · have hrecalls := (Simulated.settle hpass fuel ctx c).2 s hsound
    have hrecalls' := (Simulated.settle hpass fuel ctx c').2 s hsound
    refine ⟨hrecalls, hrecalls', fun hright r r' t t' hr hr' => ?_⟩
    -- a line that returns with remembered choices returns the same without them
    exact h.settle_eq hreturn hfree hnot fuel ctx hcell hv hright (hrecalls.of_ok hr)
      (hrecalls'.of_ok hr')

/-! ### Examples -/

/-- A program of the commands of the language. -/
def plainProgram : Program where
  script := default
  registry := Registry.builtin

/-- A line of the language, the first of its script. -/
def plainLine (text : String) : Line := ⟨Registry.builtin, text.toList, 0⟩

/-- The context of a line that a character executes. -/
def plainContext : Context := ⟨default, ⟨"c1", "BOB"⟩, 0, 0, none, 0⟩

/-- The state in which `A` holds a value for the program. -/
def holding (v : Value) : State where
  memory := { cells := #[v] }
  own := { shared := ⟨[("A", 0)]⟩ }

/-- What `RETURN: "a" + "b"` is read as. -/
def textCommand : Command := ⟨"RETURN", [.concat (.ofText "a") (.ofText "b")], 0⟩

/-- What `RETURN: FALSE & B` is read as. -/
def falseCommand : Command :=
  ⟨"RETURN", [.condition .and (.value (.boolean false)) (some (.variable "B"))], 0⟩

/-- What `RETURN: FALSE & B | C` is read as. -/
def falseOrCommand : Command :=
  ⟨"RETURN", [(Param.condition .and (.value (.boolean false)) (some (.variable "B"))).orElse
    [.variable "C"]], 0⟩

/-- What `RETURN: ["a"] + "b"` is read as. -/
def listCommand : Command :=
  ⟨"RETURN", [.union (.collection .any false false [.ofText "a"])
    (bareCollection .any (.ofText "b"))], 0⟩

/-- What a line with `A` in the place of the literal is read as. -/
def openCommand (right : Param) : Command :=
  ⟨"RETURN", [.ambiguous ⟨.plus, 0, 10⟩ (.variable "A") right], 0⟩

/-- What `RETURN: A & B | C` is read as. -/
def openOrCommand : Command :=
  ⟨"RETURN", [(Param.ambiguous ⟨.plus, 0, 10⟩ (.variable "A") (.variable "B")).orElse
    [.variable "C"]], 0⟩

theorem twins_text : TwinLines plainProgram.registry (plainLine "RETURN: \"a\" + \"b\"")
    (plainLine "RETURN: A + \"b\"") (.text "a") "A" [⟨.text "b", 14, 17⟩] textCommand
    (openCommand (.ofText "b")) :=
  ⟨rfl, rfl, rfl, ⟨_, ⟨.symbol '+', 12, 13⟩, ⟨.symbol '+', 10, 11⟩, [⟨.text "b", 12, 15⟩], 8, 9,
    .text "a" 8 11, rfl, .cons rfl rfl (.cons rfl rfl .nil), by with_unfolding_all rfl,
    by with_unfolding_all rfl⟩, by with_unfolding_all rfl, by with_unfolding_all rfl⟩

theorem twins_false : TwinLines plainProgram.registry (plainLine "RETURN: FALSE & B")
    (plainLine "RETURN: A & B") (.boolean false) "A" [⟨.word "B", 16, 17⟩] falseCommand
    (openCommand (.variable "B")) :=
  ⟨rfl, rfl, rfl, ⟨_, ⟨.symbol '&', 14, 15⟩, ⟨.symbol '&', 10, 11⟩, [⟨.word "B", 12, 13⟩], 8, 9,
    .isFalse 8 13, rfl, .cons rfl rfl (.cons rfl rfl .nil), by with_unfolding_all rfl,
    by with_unfolding_all rfl⟩, by with_unfolding_all rfl, by with_unfolding_all rfl⟩

/-- The tokens behind the operator of `RETURN: FALSE & B | C`. -/
def orTokens : Tokens := [⟨.word "B", 16, 17⟩, ⟨.symbol '|', 18, 19⟩, ⟨.word "C", 20, 21⟩]

theorem twins_false_or : TwinLines plainProgram.registry (plainLine "RETURN: FALSE & B | C")
    (plainLine "RETURN: A & B | C") (.boolean false) "A" orTokens falseOrCommand openOrCommand :=
  ⟨rfl, rfl, rfl, ⟨_, ⟨.symbol '&', 14, 15⟩, ⟨.symbol '&', 10, 11⟩,
    [⟨.word "B", 12, 13⟩, ⟨.symbol '|', 14, 15⟩, ⟨.word "C", 16, 17⟩], 8, 9, .isFalse 8 13, rfl,
    .cons rfl rfl (.cons rfl rfl (.cons rfl rfl (.cons rfl rfl .nil))), by with_unfolding_all rfl,
    by with_unfolding_all rfl⟩, by with_unfolding_all rfl, by with_unfolding_all rfl⟩

theorem twins_list : TwinLines plainProgram.registry (plainLine "RETURN: [\"a\"] + \"b\"")
    (plainLine "RETURN: A + \"b\"") (.collection .any [.text "a"]) "A" [⟨.text "b", 16, 19⟩]
    listCommand (openCommand (.ofText "b")) :=
  ⟨rfl, rfl, rfl, ⟨_, ⟨.symbol '+', 14, 15⟩, ⟨.symbol '+', 10, 11⟩, [⟨.text "b", 12, 15⟩], 8, 9,
    .collection 8 9 12 13 (.last (.text "a" 9 12)), rfl, .cons rfl rfl (.cons rfl rfl .nil),
    by with_unfolding_all rfl, by with_unfolding_all rfl⟩, by with_unfolding_all rfl,
    by with_unfolding_all rfl⟩

theorem settle_twins_plain :
    Follows .text (holding (.text "a")).afresh (settle plainProgram 1 plainContext textCommand)
        (settle plainProgram 1 plainContext (openCommand (.ofText "b"))) ∧
      ShortCircuits (.signal (.returnValue (.boolean false))) 0 (holding (.boolean false)).afresh
        (settle plainProgram 1 plainContext falseCommand)
        (settle plainProgram 1 plainContext (openCommand (.variable "B"))) ∧
      ∃ first first' alternatives, falseOrCommand.IsReturnOf (first.orElse alternatives) ∧
        openOrCommand.IsReturnOf (first'.orElse alternatives) ∧
        ShortCircuits (.boolean false) 0 (holding (.boolean false)).afresh
          (evaluate plainProgram (settle plainProgram 1) plainContext first)
          (evaluate plainProgram (settle plainProgram 1) plainContext first') := by
  have hfree : plainProgram.registry.IsFree "A" := ⟨by decide, by decide⟩
  have hcell : ∀ v, (holding v).lookUp? plainContext.scope plainContext.actor.id "A" =
      some (0 : CellId) := fun _ => rfl
  obtain ⟨htext, -⟩ := settle_twins twins_text rfl hfree (by decide) 1 plainContext (hcell _) rfl
  obtain ⟨-, hfalse, -⟩ :=
    settle_twins twins_false rfl hfree (by decide) 1 plainContext (hcell _) rfl
  obtain ⟨-, -, hor, -⟩ :=
    settle_twins twins_false_or rfl hfree (by decide) 1 plainContext (hcell _) rfl
  exact ⟨htext nofun, hfalse rfl ⟨1, .last rfl rfl (.inl rfl)⟩,
    hor rfl ⟨1, orTokens.tail, .last rfl rfl (.inr rfl)⟩⟩

/-- **Lines that do not agree.** A literal collection takes in a single operand, which a variable
with the same collection refuses; a literal `FALSE` does not ask for the right operand; and a
meaning that was chosen when the variable held a number does not fit the text it holds now. -/
theorem twins_disagree :
    (∃ c c' v t f t', TwinLines plainProgram.registry (plainLine "RETURN: [\"a\"] + \"b\"")
        (plainLine "RETURN: A + \"b\"") v "A" [⟨.text "b", 16, 19⟩] c c' ∧
      settle plainProgram 1 plainContext c (holding v) =
        .ok (.signal (.returnValue (.collection .any [.text "a", .text "b"]))) t ∧
      settle plainProgram 1 plainContext c' (holding v) = .error (.fault f) t' ∧
      f.code = "ENGINE_UNSUPPORTED_OPERATOR") ∧
    (∃ c c' v t f t', TwinLines plainProgram.registry (plainLine "RETURN: FALSE & B")
        (plainLine "RETURN: A & B") v "A" [⟨.word "B", 16, 17⟩] c c' ∧
      settle plainProgram 1 plainContext c (holding v) =
        .ok (.signal (.returnValue (.boolean false))) t ∧
      settle plainProgram 1 plainContext c' (holding v) = .error (.fault f) t' ∧
      f.code = "ENGINE_UNRESOLVED_VARIABLE") ∧
    ∃ c c' v s t f t', TwinLines plainProgram.registry (plainLine "RETURN: \"a\" + \"b\"")
        (plainLine "RETURN: A + \"b\"") v "A" [⟨.text "b", 14, 17⟩] c c' ∧
      s.afresh = (holding v).afresh ∧ s.choices = .kept [(⟨.plus, 0, 10⟩, .add)] ∧
      settle plainProgram 1 plainContext c s = .ok (.signal (.returnValue (.text "ab"))) t ∧
      settle plainProgram 1 plainContext c' s = .error (.fault f) t' ∧
      f.code = "ENGINE_UNSUPPORTED_OPERATOR" :=
  ⟨⟨_, _, _, _, _, _, twins_list, rfl, rfl, rfl⟩, ⟨_, _, _, _, _, _, twins_false, rfl, rfl, rfl⟩,
    _, _, _, { holding (.text "a") with choices := .kept [(⟨.plus, 0, 10⟩, .add)] }, _, _, _,
    twins_text, rfl, rfl, rfl, rfl, rfl⟩

end StageScript
