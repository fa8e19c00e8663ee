import StageScript.Proofs.Engine.Safe

/-!
# Where signals come from

A signal goes from a command to its frame, through the branches and loops it stands in. Each kind of
signal has its own senders (`Behaviour.Sends`), and what a command settles to is a value or a signal
of a command that it runs as a branch or as the body of a loop (`settle_ofCommand`). The invariant
is carried by the results of commands (`Settled.OfCommand`) and by what is left to be followed
(`Outcome.OfCommand`); frames take part in it because the frame of a `GO-TO` hands on how it ended.

It follows that signals keep to their lanes (`signals_keep_their_lanes`): calls and jumps settle to
few things, no command hands on that a frame went back, and a `GO-BACK` that finds no jump to go
back to is a fault of the first frame and of no other one.
-/

namespace StageScript

open Run Context

/-! ### Senders -/

/-- The signals that a command of this behaviour sends itself. -/
def Behaviour.Sends : Behaviour → Signal → Prop
  | .endAll, .endAll | .goBack, .goBack => True
  | .returnValue, .returnValue _ | .returnAll, .returnAll _ => True
  | .call, .endAll | .call, .returnAll _ => True
  | .goTo, .exit how => how ≠ .wentBack ∧ how ≠ .completed (some .unit)
  | _, _ => False

/-- The slots of the commands that are run in the place of a command or as its body. -/
def Behaviour.runSlots : Behaviour → List Nat
  | .branch _ => [1, 2]
  | behaviour => behaviour.bodySlot?.toList

/-- The behaviour that asks for a jump. -/
def JumpKind.behaviour : JumpKind → Behaviour
  | .goTo => .goTo
  | .call => .call

namespace Command

/-- A command of the language with a behaviour. -/
def Behaves (c : Command) (behaviour : Behaviour) : Prop :=
  ∃ signature, Registry.builtin.get? c.name = some ⟨signature, behaviour⟩

/-- **A command runs another one in its branches and loop bodies**, at any depth. -/
inductive Runs : Command → Command → Prop
  | refl (c : Command) : Runs c c
  | slot {c d e : Command} {behaviour : Behaviour} {i : Nat} (hc : c.Behaves behaviour)
      (hi : i ∈ behaviour.runSlots) (hd : c.param i = .command d) (he : Runs d e) : Runs c e

/-- The command sends the signal itself. -/
def Sends (c : Command) (signal : Signal) : Prop :=
  ∃ behaviour, c.Behaves behaviour ∧ behaviour.Sends signal

theorem Behaves.eq {c : Command} {b b' : Behaviour} (h : c.Behaves b) (h' : c.Behaves b') :
    b = b' := by
  obtain ⟨signature, h⟩ := h
  obtain ⟨signature', h'⟩ := h'
  cases h.symm.trans h'
  rfl

theorem behaves_do {c : Command} (h : c.name = "DO") : c.Behaves .call := by
  unfold Behaves
  rw [h]
  exact ⟨_, rfl⟩

theorem behaves_goTo {c : Command} (h : c.name = "GO-TO" ∨ c.name = "GOTO") :
    c.Behaves .goTo := by
  unfold Behaves
  rcases h with h | h
  all_goals
    rw [h]
    exact ⟨_, rfl⟩

theorem Behaves.name_of_goBack {c : Command} (h : c.Behaves .goBack) : c.name = "GO-BACK" := by
  have hall : ∀ type ∈ Registry.builtinCommands,
      (type.behaviour matches .goBack) = true → type.signature.name = "GO-BACK" := by decide
  obtain ⟨signature, h⟩ := h
  obtain ⟨hmem, hname⟩ := Registry.mem_of_builtin h
  rw [← hname]
  exact hall _ hmem rfl

theorem Behaves.not_isHost {c : Command} {b : Behaviour} (h : c.Behaves b) : b.isHost = false := by
  obtain ⟨signature, h⟩ := h
  exact Registry.ofLanguage_builtin.isHost h

/-- A command that jumps runs no other one. -/
theorem Runs.eq_of_jump {c d : Command} (h : c.Runs d) (kind : JumpKind)
    (hc : c.Behaves kind.behaviour) : d = c := by
  cases h with
  | refl => rfl
  | slot hc' hi _ _ =>
    cases hc.eq hc'
    cases kind <;> cases hi

end Command

/-! ### What commands hand back -/

/-- What a command can settle to. -/
def Settled.OfCommand (c : Command) : Settled → Prop
  | .value v => c.Behaves .goTo → v = .unit
  | .signal s => ∃ d, c.Runs d ∧ d.Sends s

/-- What a command can hand back, while there is something to be followed. -/
def Outcome.OfCommand (c : Command) : Outcome → Prop
  | .value v => c.Behaves .goTo → v = .unit
  | .signal s => ∃ d, c.Runs d ∧ d.Sends s
  | .tailCall d => ∃ negated, ∃ i ∈ (Behaviour.branch negated).runSlots,
      c.Behaves (.branch negated) ∧ c.param i = .command d
  | .jump j => c.Behaves j.kind.behaviour

/-- What is settled in the place of a command is settled by the command. -/
theorem Settled.OfCommand.lift {c d : Command} {behaviour : Behaviour} {i : Nat}
    (hc : c.Behaves behaviour) (hi : i ∈ behaviour.runSlots) (hd : c.param i = .command d) :
    ∀ {settled : Settled}, settled.OfCommand d → settled.OfCommand c
  | .value v, _ => fun hgoTo => by
    cases hc.eq hgoTo
    cases hi
  | .signal s, ⟨e, he, hs⟩ => ⟨e, .slot hc hi hd he, hs⟩

/-- **How the frame of a jump ends is what its command settles to.** -/
theorem JumpKind.outcome_ofCommand {kind : JumpKind} {c : Command}
    (hc : c.Behaves kind.behaviour) {how : Exit} (hhow : how ≠ .completed (some .unit)) :
    (kind.outcome how).OfCommand c := by
  have hvalue : ∀ v, kind = .call → (Outcome.value v).OfCommand c := by
    rintro v rfl hgoTo
    cases hc.eq hgoTo
  have hsignal : ∀ s, kind.behaviour.Sends s → (Outcome.signal s).OfCommand c :=
    fun s hs => ⟨c, .refl c, _, hc, hs⟩
  cases kind with
  | goTo =>
    cases how with
    | wentBack => exact fun _ => rfl
    | ended | returned v | returnedAll v => exact hsignal _ ⟨nofun, nofun⟩
    | completed last => exact hsignal _ ⟨nofun, hhow⟩
  | call =>
    cases how with
    | returned v => exact hvalue v rfl
    | wentBack | completed last => exact hvalue .unit rfl
    | ended | returnedAll v => exact hsignal _ trivial

section Execute

variable {program : Program} {settle : Settle} {budget : Nat} {ctx : Context} {c : Command}

/-- A loop hands back what its body settles to. -/
theorem Outcome.OfBody.ofCommand {body : Command} {behaviour : Behaviour} {i : Nat}
    (hs : ∀ ctx d, (settle ctx d).Yields (Settled.OfCommand d)) (hc : c.Behaves behaviour)
    (hi : behaviour.bodySlot? = some i) (hbody : c.param i = .command body) :
    ∀ {outcome : Outcome}, outcome.OfBody settle ctx body → outcome.OfCommand c
  | .value v, _ => fun hgoTo => by
    cases hc.eq hgoTo
    cases hi
  | .signal s, ⟨index, hret⟩ => by
    obtain ⟨d, hd, hsends⟩ := hs _ body _ hret
    have hslot : i ∈ behaviour.runSlots := by
      cases behaviour <;> simp_all [Behaviour.runSlots, Behaviour.bodySlot?]
    exact ⟨d, .slot hc hslot hbody hd, hsends⟩

theorem param_of_body {index : Nat} {d : Command} (h : (ctx.body index).Returns d) :
    ctx.param index = .command d := by
  obtain ⟨s, t, h⟩ := h
  unfold Context.body at h
  cases hp : ctx.param index <;> rw [hp] at h <;> cases h
  rfl

/-- **What executing a command hands back.** One case for each behaviour of the language; a loop
hands back a signal of its body. -/
theorem execute_ofCommand (hr : program.registry = Registry.builtin)
    (hs : ∀ ctx d, (settle ctx d).Yields (Settled.OfCommand d)) :
    (execute program settle budget ctx c).Yields (Outcome.OfCommand c) := by
  unfold execute
  rw [hr]
  cases htype : Registry.builtin.get? c.name with
  | none => exact yields_fail _
  | some type =>
  obtain ⟨signature, behaviour⟩ := type
  have hc : c.Behaves behaviour := ⟨signature, htype⟩
  have hown : ∀ {s}, behaviour.Sends s → (Outcome.signal s).OfCommand c := fun hsends =>
    ⟨c, .refl c, behaviour, hc, hsends⟩
  have hvalue : ∀ v, behaviour ≠ .goTo → (Outcome.value v).OfCommand c := fun v hne hgoTo =>
    absurd (hc.eq hgoTo) hne
  -- a loop looks up its body and goes on with it
  have hloop : ∀ {i : Nat} {f : Command → Run Outcome}, behaviour.bodySlot? = some i →
      (∀ body, (f body).Yields (Outcome.OfBody settle (ctx.child c) body)) →
        ((ctx.child c).body i >>= f).Yields (Outcome.OfCommand c) := by
    intro i f hi hf
    refine yields_bind_of (fun body hbody => param_of_body hbody) fun body hbody => ?_
    exact (hf body).mono (Outcome.OfBody.ofCommand hs hc hi hbody)
  cases behaviour with
  | endAll | goBack => exact yields_pure (hown trivial)
  | returnValue | returnAll => exact yields_bind fun v => yields_pure (hown trivial)
  | goTo => exact yields_bind fun line => yields_pure hc
  | call =>
    refine yields_bind fun line => yields_bind fun scope => ?_
    split
    · exact yields_bind fun _ => yields_pure hc
    · exact yields_pure hc
  | branch negated =>
    refine yields_bind fun condition => ?_
    split
    · next d hd =>
      have hd : c.param (if condition != negated then 1 else 2) = .command d := by
        cases hp : c.param (if condition != negated then 1 else 2) <;>
          simp_all [Context.param, Context.child, Param.command?]
      refine yields_pure ⟨negated, _, ?_, hc, hd⟩
      split <;> simp [Behaviour.runSlots]
    · exact yields_pure (hvalue _ (by simp))
  | strayElse | forEach => exact yields_fail _
  | repeatWhile negated => exact hloop rfl fun body => yields_whileLoop _ _ _
  | repeatFor => exact hloop rfl fun body => yields_bind fun target => yields_forLoop _ _ _
  | counted descending =>
    refine yields_bind fun count => hloop rfl fun body => ?_
    split
    · exact yields_countDown _ _
    · exact yields_countUp _ _ _
  | countdownWith => exact yields_bind fun cell => hloop rfl fun body => yields_countdownLoop _ _ _
  | countUpWith =>
    exact yields_bind fun cell => yields_bind fun limit => hloop rfl fun body =>
      yields_countUpLoop _ _ _ _
  | always => exact hloop rfl fun body => yields_alwaysLoop _ _
  | set tier =>
    exact yields_bind fun name => yields_bind fun v => yields_bind fun _ =>
      yields_pure (hvalue _ (by simp))
  | setHere =>
    refine yields_setHere.mono ?_
    rintro _ rfl
    exact hvalue .unit (by simp)
  | unset tier =>
    exact yields_bind fun name => yields_bind fun _ => yields_pure (hvalue _ (by simp))
  | setFor tier =>
    exact yields_bind fun ids => yields_bind fun name => yields_bind fun v => yields_bind fun _ =>
      yields_pure (hvalue _ (by simp))
  | unsetFor tier =>
    exact yields_bind fun ids => yields_bind fun name => yields_bind fun _ =>
      yields_pure (hvalue _ (by simp))
  | host action => cases hc.not_isHost

end Execute

/-! ### Calls, jumps and going back -/

namespace Settled.OfCommand

variable {c : Command} {settled : Settled}

theorem of_do (h : settled.OfCommand c) (hname : c.name = "DO") :
    (∃ v, settled = .value v) ∨ settled = .signal .endAll ∨
      ∃ v, settled = .signal (.returnAll v) := by
  have hdo := Command.behaves_do hname
  cases settled with
  | value v => exact .inl ⟨v, rfl⟩
  | signal signal =>
    obtain ⟨d, hd, behaviour, hb, hsends⟩ := h
    cases hd.eq_of_jump .call hdo
    cases hdo.eq hb
    cases signal with
    | endAll => exact .inr (.inl rfl)
    | returnAll v => exact .inr (.inr ⟨v, rfl⟩)
    | returnValue v | goBack | exit how => cases hsends

/-- How a frame ended is sent by a `GO-TO`, which keeps it to itself if the frame went back. -/
theorem exit {how : Exit} (h : (Settled.signal (.exit how)).OfCommand c) :
    how ≠ .wentBack ∧ how ≠ .completed (some .unit) := by
  obtain ⟨d, -, behaviour, -, hsends⟩ := h
  cases behaviour with
  | goTo => exact hsends
  | _ => cases hsends

theorem of_goTo (h : settled.OfCommand c) (hname : c.name = "GO-TO" ∨ c.name = "GOTO") :
    settled = .value .unit ∨ ∃ how, settled = .signal (.exit how) ∧ how ≠ .wentBack := by
  have hgoTo := Command.behaves_goTo hname
  cases settled with
  | value v =>
    cases h hgoTo
    exact .inl rfl
  | signal signal =>
    obtain ⟨d, hd, behaviour, hb, hsends⟩ := h
    cases hd.eq_of_jump .goTo hgoTo
    cases hgoTo.eq hb
    cases signal with
    | exit how => exact .inr ⟨how, rfl, hsends.1⟩
    | endAll | returnValue v | returnAll v | goBack => cases hsends

theorem goBack (h : (Settled.signal .goBack).OfCommand c) :
    ∃ d, c.Runs d ∧ d.name = "GO-BACK" := by
  obtain ⟨d, hd, behaviour, hb, hsends⟩ := h
  cases behaviour with
  | goBack => exact ⟨d, hd, hb.name_of_goBack⟩
  | _ => cases hsends

end Settled.OfCommand

/-! ### Frames -/

/-- The ways a frame of the language can end. A frame that no jump led to cannot go back. -/
def Exit.OfFrame (frame : Frame) (how : Exit) : Prop :=
  how ≠ .completed (some .unit) ∧ (frame.jumped = false → how ≠ .wentBack)

section Frame

variable {program : Program} {settle : Settle} {frame : Frame}

/-- A signal ends a frame as it should. -/
theorem receive_ofFrame {c : Command} {signal : Signal}
    (hs : (Settled.signal signal).OfCommand c) (line : Nat) :
    (frame.receive line signal).Yields (Exit.OfFrame frame) := by
  cases signal with
  | endAll | returnValue v | returnAll v => exact yields_pure ⟨by simp, by simp⟩
  | goBack =>
    simp only [Frame.receive]
    split
    · next hjumped =>
      refine yields_pure ⟨by simp, fun hfalse => ?_⟩
      rw [hjumped] at hfalse
      cases hfalse
    · exact yields_fail _
  | exit how => exact yields_pure ⟨hs.exit.2, fun _ => hs.exit.1⟩

theorem frameRun_ofFrame (hs : ∀ ctx d, (settle ctx d).Yields (Settled.OfCommand d)) (start : Nat) :
    (frame.run program settle start).Yields (Exit.OfFrame frame) := by
  -- the last value that is kept is not unit
  have hlines : ∀ remaining line last, last ≠ some .unit →
      (frame.runLines program settle remaining line last).Yields (Exit.OfFrame frame) := by
    intro remaining
    induction remaining with
    | zero =>
      exact fun line last hlast => yields_pure ⟨fun h => hlast (Exit.completed.inj h), nofun⟩
    | succ remaining ih =>
      intro line last hlast
      unfold Frame.runLines
      split
      · exact ih _ _ hlast
      · next c hc =>
        have hline : ((settle (frame.context c) c).atLine line).Yields (Settled.OfCommand c) := by
          rintro settled ⟨s, t, h⟩
          exact hs _ c _ ⟨s, t, atLine_eq_ok h⟩
        refine yields_bind_of hline fun settled hsettled => ?_
        cases settled with
        | signal signal => exact receive_ofFrame hsettled line
        | value v =>
          refine ih _ _ ?_
          split
          · exact hlast
          · next hunit =>
            intro h
            cases h
            exact hunit rfl
  unfold Frame.run
  split
  · exact yields_fail _
  · exact hlines _ _ _ nofun

end Frame

/-- A run gives the value that its first frame returns, unless this is unit, or the last value of
the frame. -/
theorem runWithin_ne_unit {program : Program} {fuel : Nat}
    (hframe : ∀ (frame : Frame) start, (frame.run program (settle program fuel) start).Yields
      (· ≠ .completed (some .unit)))
    (request : Request) (s t : State) (v : Value)
    (hrun : program.runWithin fuel request s = .ok (some v) t) : v ≠ .unit := by
  obtain ⟨scope, s₁, -, hrun⟩ := bind_eq_ok hrun
  obtain ⟨u, s₂, -, hrun⟩ := bind_eq_ok hrun
  obtain ⟨how, s₃, hhow, hrun⟩ := bind_eq_ok hrun
  have hne := hframe _ _ how ⟨s₂, s₃, hhow⟩
  rintro rfl
  cases how with
  | ended | wentBack => cases hrun
  | returned v | returnedAll v => cases v <;> cases hrun
  | completed last =>
    cases hrun
    exact hne rfl

/-! ### Settling -/

/-- Following keeps to what the command can settle to. A command that takes over is one that the
command runs, and the frame of a jump ends as frames do. -/
theorem ultimate_ofCommand {program : Program} {settle : Settle}
    (hr : program.registry = Registry.builtin)
    (hs : ∀ ctx d, (settle ctx d).Yields (Settled.OfCommand d)) (budget : Nat) (ctx : Context)
    (left : Nat) (c : Command) (outcome : Outcome) (ho : outcome.OfCommand c) :
    (ultimate program settle budget ctx left outcome).Yields (Settled.OfCommand c) := by
  induction left generalizing c outcome with
  | zero =>
    cases outcome with
    | value v | signal s => exact yields_pure ho
    | tailCall d | jump j => exact yields_fail _
  | succ left ih =>
    cases outcome with
    | value v | signal s => exact yields_pure ho
    | tailCall d =>
      obtain ⟨negated, i, hi, hc, hd⟩ := ho
      refine yields_bind_of (execute_ofCommand hr hs) fun outcome hout => ?_
      exact (ih d outcome hout).mono (Settled.OfCommand.lift hc hi hd)
    | jump j =>
      have hfollow : (follow program settle ctx j).Yields (Outcome.OfCommand c) :=
        yields_bind_of (frameRun_ofFrame hs _) fun how hhow =>
          yields_pure (JumpKind.outcome_ofCommand ho hhow.1)
      exact yields_bind_of hfollow fun outcome hout => ih c outcome hout

/-- **Where the result of a command comes from**, by induction on the fuel. -/
theorem settle_ofCommand {program : Program} (hr : program.registry = Registry.builtin)
    (fuel : Nat) (ctx : Context) (c : Command) :
    (settle program fuel ctx c).Yields (Settled.OfCommand c) := by
  induction fuel generalizing ctx c with
  | zero =>
    rintro settled ⟨s, t, h⟩
    cases h
  | succ fuel ih =>
    exact yields_bind_of (execute_ofCommand hr ih) fun outcome hout =>
      ultimate_ofCommand hr ih fuel ctx _ c outcome hout

/-! ### A frame without a jump -/

/-- **A frame meets a signal**: from a line on, in a state, all lines settle to values until one
sends the signal and leaves a state. -/
inductive Frame.Meets (program : Program) (settle : Settle) (frame : Frame) :
    (line : Nat) → State → (sender : Nat) → Signal → State → Prop
  | here {line : Nat} {s t : State} {c : Command} {signal : Signal}
      (hline : line < program.script.lineCount) (hc : program.script.commandAt? line = some c)
      (h : settle (frame.context c) c s = .ok (.signal signal) t) :
      Meets program settle frame line s line signal t
  | blank {line sender : Nat} {s t : State} {signal : Signal}
      (hline : line < program.script.lineCount) (hc : program.script.commandAt? line = none)
      (h : Meets program settle frame (line + 1) s sender signal t) :
      Meets program settle frame line s sender signal t
  | next {line sender : Nat} {s u t : State} {c : Command} {v : Value} {signal : Signal}
      (hline : line < program.script.lineCount) (hc : program.script.commandAt? line = some c)
      (hv : settle (frame.context c) c s = .ok (.value v) u)
      (h : Meets program settle frame (line + 1) u sender signal t) :
      Meets program settle frame line s sender signal t

section Meets

variable {program : Program} {settle : Settle} {frame : Frame}

/-- **A frame that meets a signal receives it.** -/
theorem Frame.Meets.runLines {line sender : Nat} {s t : State} {signal : Signal}
    (h : frame.Meets program settle line s sender signal t) (last : Option Value) :
    frame.runLines program settle (program.script.lineCount - line) line last s =
      frame.receive sender signal t := by
  have hsucc : ∀ {line}, line < program.script.lineCount →
      program.script.lineCount - line = program.script.lineCount - (line + 1) + 1 := by omega
  induction h generalizing last with
  | here hline hc h =>
    rw [hsucc hline, Frame.runLines, hc]
    exact bind_of_ok (atLine_of_ok _ h)
  | blank hline hc _ ih =>
    rw [hsucc hline, Frame.runLines, hc]
    exact ih last
  | next hline hc hv _ ih =>
    rw [hsucc hline, Frame.runLines, hc]
    exact (bind_of_ok (atLine_of_ok _ hv)).trans (ih _)

/-- A frame stops for want of a jump only because it meets a `GO-BACK`, if no command stops for
that. -/
theorem Frame.meets_of_runLines
    (hs : ∀ number c, program.script.commandAt? number = some c →
      ((settle (frame.context c) c).atLine number).Stops fun f =>
        f.code ≠ "ENGINE_NO_RETURN_TARGET")
    {remaining line : Nat} (hremaining : remaining = program.script.lineCount - line)
    {last : Option Value} {s t : State} {f : Fault}
    (h : frame.runLines program settle remaining line last s = .error (.fault f) t)
    (hcode : f.code = "ENGINE_NO_RETURN_TARGET") :
    ∃ sender, frame.Meets program settle line s sender .goBack t ∧
      f = .on sender .noReturnTarget := by
  induction remaining generalizing line last s with
  | zero => cases h
  | succ remaining ih =>
    have hline : line < program.script.lineCount := by omega
    have hrest : remaining = program.script.lineCount - (line + 1) := by omega
    unfold Frame.runLines at h
    cases hc : program.script.commandAt? line with
    | none =>
      simp only [hc] at h
      obtain ⟨sender, hmeets, hf⟩ := ih hrest h
      exact ⟨sender, .blank hline hc hmeets, hf⟩
    | some c =>
      simp only [hc] at h
      rcases bind_eq_error h with h | ⟨settled, u, hsettled, h⟩
      · exact absurd hcode (hs line c hc s f t h)
      · have hsettled := atLine_eq_ok hsettled
        cases settled with
        | value v =>
          obtain ⟨sender, hmeets, hf⟩ := ih hrest h
          exact ⟨sender, .next hline hc hsettled hmeets, hf⟩
        | signal signal =>
          cases signal with
          | goBack =>
            simp only [Frame.receive] at h
            split at h
            · cases h
            · cases h
              exact ⟨line, .here hline hc hsettled, rfl⟩
          | endAll | returnValue v | returnAll v | exit how => cases h

end Meets

/-! ### Lanes -/

/-- No cause of a compiled command is the want of a jump to go back to. -/
theorem Cause.code_ne_noReturnTarget {cause : Cause}
    (h : cause.isOrdinary = true ∨ cause.isLimit = true) :
    cause.code ≠ "ENGINE_NO_RETURN_TARGET" := by
  cases cause with
  | raised code text => rcases h with h | h <;> cases h
  | noReturnTarget => rcases h with h | h <;> cases h
  | _ => simp [Cause.code]

section Lanes

variable {program : Program} (hprogram : program.IsCompiled) (fuel : Nat)
include hprogram

theorem stops_line_code {frame : Frame} (number : Nat) (c : Command)
    (hc : program.script.commandAt? number = some c) :
    ((settle program fuel (frame.context c) c).atLine number).Stops fun f =>
      f.code ≠ "ENGINE_NO_RETURN_TARGET" := by
  refine (hprogram.stops_settle fuel _ number c (hprogram.lines number c hc)).atLine ?_
  intro f hf
  rw [f.code_atLine]
  exact Cause.code_ne_noReturnTarget hf

/-- What the first frame does when it meets a `GO-BACK`. -/
theorem firstFrame_goBack (actor : Character) (scope : ScopeId) (start : Nat) (s t : State)
    (f : Fault) :
    Frame.run program (settle program fuel) ⟨actor, scope, 0, false⟩ start s =
        .error (.fault f) t ∧ f.code = "ENGINE_NO_RETURN_TARGET" ↔
      ∃ sender, Frame.Meets program (settle program fuel) ⟨actor, scope, 0, false⟩ start s sender
        .goBack t ∧ f = .on sender .noReturnTarget := by
  have hrun : Frame.run program (settle program fuel) ⟨actor, scope, 0, false⟩ start s =
      Frame.runLines program (settle program fuel) ⟨actor, scope, 0, false⟩
        (program.script.lineCount - start) start none s := by
    unfold Frame.run
    rw [if_neg (Nat.not_lt_zero _)]
  rw [hrun]
  constructor
  · rintro ⟨h, hcode⟩
    exact Frame.meets_of_runLines (stops_line_code hprogram fuel) rfl h hcode
  · rintro ⟨sender, hmeets, rfl⟩
    exact ⟨hmeets.runLines none, rfl⟩

/-- **Signals keep to their lanes.** Of what commands settle to, at any nesting:
* a `DO` gives a value, the end of everything or a value returned from everything;
* a `GO-TO` gives unit, or how its frame ended, unless that went back;
* nothing settles to a frame that went back, or that was completed with the value unit;
* a signal to go back is sent by a `GO-BACK` that the command runs as a branch or in a loop.

Of frames: the first one never goes back, and it stops for want of a jump exactly if it meets a
`GO-BACK`; a frame that a jump led to never stops for that. And no run gives the value unit. -/
theorem signals_keep_their_lanes :
    (∀ ctx c settled, (settle program fuel ctx c).Returns settled →
      (c.name = "DO" → (∃ v, settled = .value v) ∨ settled = .signal .endAll ∨
        ∃ v, settled = .signal (.returnAll v)) ∧
      (c.name = "GO-TO" ∨ c.name = "GOTO" → settled = .value .unit ∨
        ∃ how, settled = .signal (.exit how) ∧ how ≠ .wentBack) ∧
      settled ≠ .signal (.exit .wentBack) ∧
      settled ≠ .signal (.exit (.completed (some .unit))) ∧
      (settled = .signal .goBack → ∃ d, c.Runs d ∧ d.name = "GO-BACK")) ∧
    (∀ actor scope start s t,
      (∀ how, Frame.run program (settle program fuel) ⟨actor, scope, 0, false⟩ start s = .ok how t →
        how ≠ .wentBack) ∧
      ∀ f, Frame.run program (settle program fuel) ⟨actor, scope, 0, false⟩ start s =
          .error (.fault f) t ∧ f.code = "ENGINE_NO_RETURN_TARGET" ↔
        ∃ sender, Frame.Meets program (settle program fuel) ⟨actor, scope, 0, false⟩ start s sender
          .goBack t ∧ f = .on sender .noReturnTarget) ∧
    (∀ (frame : Frame) start s f t, frame.jumped = true →
      frame.run program (settle program fuel) start s = .error (.fault f) t →
        f.code ≠ "ENGINE_NO_RETURN_TARGET") ∧
    ∀ request s t v, program.runWithin fuel request s = .ok (some v) t → v ≠ .unit := by
  have hsettle := settle_ofCommand hprogram.registry fuel
  have hframe : ∀ (frame : Frame) start, (frame.run program (settle program fuel) start).Yields
      (Exit.OfFrame frame) := fun frame => frameRun_ofFrame hsettle
  refine ⟨fun ctx c settled hret => ?_, fun actor scope start s t => ⟨fun how hrun => ?_, ?_⟩,
    fun frame start s f t hjumped hrun => ?_, ?_⟩
  · have hof := hsettle ctx c settled hret
    refine ⟨hof.of_do, hof.of_goTo, ?_, ?_, ?_⟩
    · rintro rfl
      exact hof.exit.1 rfl
    · rintro rfl
      exact hof.exit.2 rfl
    · rintro rfl
      exact hof.goBack
  · exact (hframe _ start how ⟨s, t, hrun⟩).2 rfl
  · exact firstFrame_goBack hprogram fuel actor scope start s t
  · refine stops_frameRun (fun _ => Cause.code_ne_noReturnTarget (.inr rfl)) (fun hfalse => ?_)
      (stops_line_code hprogram fuel) start s f t hrun
    rw [hjumped] at hfalse
    cases hfalse
  · exact runWithin_ne_unit fun frame start how hret => (hframe frame start how hret).1

end Lanes

/-- A line that goes back where no jump led to it. -/
theorem signals_keep_their_lanes_goBack :
    ∃ script f t, Script.compile Registry.builtin (Script.lineSource "go-back") = .ok script ∧
      Frame.run ⟨script, Registry.builtin, {}, {}⟩
        (settle ⟨script, Registry.builtin, {}, {}⟩ 1) ⟨⟨"c1", "BOB"⟩, 0, 0, false⟩ 0 {} =
          .error (.fault f) t ∧ f.code = "ENGINE_NO_RETURN_TARGET" := by
  have hline : Script.compiledAt? Registry.builtin (Script.lineSource "go-back") 0 =
      some ⟨"GO-BACK", [], 0⟩ := by with_unfolding_all rfl
  obtain ⟨script, hcompile, hcommand⟩ := Script.exists_of_compiledAt hline
  have hcount : script.lineCount = 1 := by
    have h : (Script.compile Registry.builtin (Script.lineSource "go-back")).toOption.map
        (·.lineCount) = some 1 := by with_unfolding_all rfl
    rw [hcompile] at h
    exact Option.some.inj h
  have hcompiled : Program.IsCompiled ⟨script, Registry.builtin, {}, {}⟩ :=
    ⟨rfl, fun number c hc => Script.compile_wellFormed hcompile hc⟩
  obtain ⟨-, hfirst, -⟩ := signals_keep_their_lanes hcompiled 1
  obtain ⟨hrun, hcode⟩ := ((hfirst ⟨"c1", "BOB"⟩ 0 0 {} {}).2 (.on 0 .noReturnTarget)).mpr
    ⟨0, .here (hcount ▸ Nat.one_pos) hcommand rfl, rfl⟩
  exact ⟨script, _, _, hcompile, hrun, hcode⟩

end StageScript
