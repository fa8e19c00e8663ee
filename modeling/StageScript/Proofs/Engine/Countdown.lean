import StageScript.Proofs.Engine.Safe

/-!
# Counting down while above zero

`COUNTDOWN-WITH` is to run its body while the comparison `V > 0` is TRUE of its variable. The loop
asks the opposite question, whether the number in the cell is at most zero. The two questions agree
on all numbers, the infinite ones and the two zeros included, but on not-a-number: arithmetic can
leave it in a variable, and it is neither above zero nor at most zero (`Number.countsOn_iff`).

To say what holds each time the body is started, at whatever pass, the loop gets a watcher, who is
told the number in the cell just before one is taken off (`Context.countdownWatched`). A watcher who
does nothing for the numbers above zero and for not-a-number never does anything. So the body is
started for no other number, and a loop that comes to one ends at once
(`countdownWith_above_zero`). With not-a-number in the cell it goes on.
-/

namespace StageScript

open Run Context

/-! ### The comparison with zero -/

namespace Number

/-- The comparison `V > 0` of a number, as scripts make it. -/
def aboveZero (n : Number) : Except Cause Bool :=
  Operator.ordered true (.number n) (.ofFloat 0.0)

/-- A countdown goes on with the number. -/
def CountsOn (n : Number) : Prop := ¬ n.float ≤ 0.0

section Model

open Float.Model (UnpackedFloat)

/-- The float zero, taken apart. -/
theorem unpack_zero : (0.0 : Float).toModel.unpack = .zero .positive := rfl

theorem aboveZero_eq (n : Number) : n.aboveZero =
    .ok ((UnpackedFloat.zero .positive).compare n.float.toModel.unpack == some .lt) := by
  rw [← unpack_zero]
  exact congrArg Except.ok (Bool.decide_eq_true.trans Bool.decide_eq_true)

theorem countsOn_iff_compare (n : Number) : n.CountsOn ↔
    (n.float.toModel.unpack.compare (.zero .positive)).any (·.isLE) ≠ true := by
  rw [← unpack_zero]
  exact not_congr decide_eq_true_iff

theorem aboveZero_of_isNaN {n : Number} (h : n.float.isNaN = true) : n.aboveZero = .ok false := by
  have hnan : n.float.toModel.unpack.isNaN = true := h
  rw [aboveZero_eq]
  cases hx : n.float.toModel.unpack with
  | notANumber => rfl
  | zero | infinity | finite =>
    rw [hx] at hnan
    cases hnan

/-- **A countdown goes on with the numbers above zero and with not-a-number.** -/
theorem countsOn_iff (n : Number) :
    n.CountsOn ↔ n.aboveZero = .ok true ∨ n.float.isNaN = true := by
  rw [countsOn_iff_compare, aboveZero_eq, Except.ok.injEq]
  show _ ↔ _ ∨ n.float.toModel.unpack.isNaN = true
  -- one case for each kind of float
  cases n.float.toModel.unpack with
  | notANumber => exact iff_of_true Bool.false_ne_true (.inr rfl)
  | zero sign =>
    exact iff_of_false (not_not.mpr rfl) (·.elim Bool.false_ne_true Bool.false_ne_true)
  | infinity sign | finite sign m e hm =>
    cases sign with
    | positive => exact iff_of_true Bool.false_ne_true (.inl rfl)
    | negative =>
      exact iff_of_false (not_not.mpr rfl) (·.elim Bool.false_ne_true Bool.false_ne_true)

end Model

end Number

/-! ### Watching a countdown -/

/-- One taken off the number in a cell. -/
def State.countedDown (s : State) (cell : CellId) (n : Number) : State :=
  { s with memory := s.memory.write cell (.ofFloat (n.float - 1.0)) }

namespace Context

variable (settle : Settle) (ctx : Context)

/-- **The loop of `COUNTDOWN-WITH` with a watcher**, who is told the number in the cell each time
the body is about to be started. -/
def countdownWatched (watch : Number → Run Unit) (cell : CellId) (body : Command) :
    Nat → Run Outcome
  | 0 => exhausted
  | budget + 1 => do
    let current ← ctx.counter cell
    if current ≤ 0.0 then return .unit
    else
      watch ⟨current⟩
      Run.write cell (.ofFloat (current - 1.0))
      match ← pass settle ctx body with
      | some s => return .signal s
      | none => countdownWatched watch cell body budget

/-- What a countdown does once the body is started. -/
def countdownPass (cell : CellId) (body : Command) (budget : Nat) : Run Outcome := do
  match ← pass settle ctx body with
  | some s => return .signal s
  | none => ctx.countdownLoop settle cell body budget

variable {settle} {ctx} {cell : CellId} {body : Command} {budget : Nat} {s : State} {n : Number}

/-- By induction on the passes: a watcher who does nothing as long as the countdown goes on. -/
theorem countdownWatched_eq {watch : Number → Run Unit}
    (hwatch : ∀ n : Number, n.CountsOn → watch n = pure ()) (cell : CellId) (body : Command)
    (budget : Nat) :
    ctx.countdownWatched settle watch cell body budget =
      ctx.countdownLoop settle cell body budget := by
  induction budget with
  | zero => rfl
  | succ budget ih =>
    unfold countdownWatched countdownLoop
    refine Run.bind_congr fun current _ => ?_
    split
    · rfl
    · next hn =>
      rw [hwatch ⟨current⟩ hn, pure_bind]
      refine Run.bind_congr fun _ _ => Run.bind_congr fun signal? _ => ?_
      cases signal? with
      | none => exact ih
      | some s => rfl

theorem counter_of_number (h : s.memory.read cell = .number n) :
    ctx.counter cell s = .ok n.float s := by
  have hread : Run.read cell s = .ok (.number n) s := by
    rw [← h]
    rfl
  unfold counter
  rw [bind_of_ok hread]
  rfl

theorem countdownLoop_of_countsOn (h : s.memory.read cell = .number n) (hn : n.CountsOn) :
    ctx.countdownLoop settle cell body (budget + 1) s =
      ctx.countdownPass settle cell body budget (s.countedDown cell n) := by
  unfold countdownLoop
  rw [bind_of_ok (counter_of_number h), if_neg hn]
  rfl

theorem countdownLoop_of_not_countsOn (h : s.memory.read cell = .number n) (hn : ¬ n.CountsOn) :
    ctx.countdownLoop settle cell body (budget + 1) s = .ok .unit s := by
  unfold countdownLoop
  rw [bind_of_ok (counter_of_number h), if_pos (not_not.mp hn)]
  rfl

/-- The command counts with the cell its variable stands for when it is reached. -/
theorem countdownWith_eq {name : String} (hname : ctx.param 0 = .variable name)
    (hcell : s.lookUp? ctx.scope ctx.actor.id name = some cell)
    (hbody : ctx.param 1 = .command body) (budget : Nat) :
    ctx.countdownWith settle budget s = ctx.countdownLoop settle cell body budget s := by
  have hslot : ctx.cellSlot 0 s = .ok cell s := by
    unfold cellSlot
    rw [hname]
    show ctx.resolve name s = _
    have hlook : ctx.lookUp? name s = .ok (some cell) s := by
      rw [← hcell]
      rfl
    unfold resolve
    rw [bind_of_ok hlook]
    rfl
  have hcommand : ctx.body 1 s = .ok body s := by
    unfold Context.body
    rw [hbody]
    rfl
  unfold countdownWith
  rw [bind_of_ok hslot, bind_of_ok hcommand]

end Context

/-- **When the body of a countdown is started.** A command counts with a variable; let its name
stand for a cell when the command is reached. From then on the command is the loop on this cell, and
of the loop the following holds.

* Each time the body is started, the comparison `V > 0` is TRUE of the number in the cell just
  before one is taken off, or it is not-a-number: a watcher who does nothing for these changes
  nothing, whatever it does for others.
* Whenever the loop comes to its test with a number in the cell: if the comparison is TRUE, one is
  taken off and the body is started; if it is FALSE, and not for want of a number, the loop ends at
  once with unit and changes nothing.
* For not-a-number the comparison is FALSE, and the body is started all the same. -/
theorem countdownWith_above_zero (settle : Settle) {ctx : Context} {name : String} {cell : CellId}
    {body : Command} {s : State} (hname : ctx.param 0 = .variable name)
    (hcell : s.lookUp? ctx.scope ctx.actor.id name = some cell)
    (hbody : ctx.param 1 = .command body) :
    (∀ budget, ctx.countdownWith settle budget s = ctx.countdownLoop settle cell body budget s) ∧
    (∀ watch : Number → Run Unit,
      (∀ n : Number, n.aboveZero = .ok true ∨ n.float.isNaN = true → watch n = pure ()) →
        ∀ budget, ctx.countdownLoop settle cell body budget =
          ctx.countdownWatched settle watch cell body budget) ∧
    ∀ (budget : Nat) (t : State) (n : Number), t.memory.read cell = .number n →
      (n.aboveZero = .ok true → ctx.countdownLoop settle cell body (budget + 1) t =
        ctx.countdownPass settle cell body budget (t.countedDown cell n)) ∧
      (n.aboveZero = .ok false → n.float.isNaN = false →
        ctx.countdownLoop settle cell body (budget + 1) t = .ok .unit t) ∧
      (n.float.isNaN = true → n.aboveZero = .ok false ∧
        ctx.countdownLoop settle cell body (budget + 1) t =
          ctx.countdownPass settle cell body budget (t.countedDown cell n)) := by
  refine ⟨countdownWith_eq hname hcell hbody, fun watch hwatch budget => ?_,
    fun budget t n hread => ?_⟩
  · exact (countdownWatched_eq (fun n hn => hwatch n (n.countsOn_iff.mp hn)) cell body budget).symm
  · refine ⟨fun habove => ?_, fun hfalse hnumber => ?_,
      fun hnan => ⟨Number.aboveZero_of_isNaN hnan, ?_⟩⟩
    · exact countdownLoop_of_countsOn hread (n.countsOn_iff.mpr (.inl habove))
    · refine countdownLoop_of_not_countsOn hread fun hn => ?_
      rcases n.countsOn_iff.mp hn with habove | hnan
      · cases hfalse.symm.trans habove
      · cases hnumber.symm.trans hnan
    · exact countdownLoop_of_countsOn hread (n.countsOn_iff.mpr (.inr hnan))

/-- The script of the lines `set: v = 0 / 0` and `countdown-with: v : return: "ran"`. -/
def nanScript : Script where
  labels := ⟨[("START", 0)]⟩
  lineLabels := ⟨[(0, "START")]⟩
  commands := ⟨[
    (0, ⟨"SET", [.ofText "V", .math .divide (.ofFloat 0.0) (some (.ofFloat 0.0))], 0⟩),
    (1, ⟨"COUNTDOWN-WITH", [.variable "V", .command ⟨"RETURN", [.ofText "ran"], 1⟩], 1⟩)]⟩
  startLine := 0
  lineCount := 2
  postStartText := "set: v = 0 / 0\ncountdown-with: v : return: \"ran\""
  rawText := "set: v = 0 / 0\ncountdown-with: v : return: \"ran\""

/-- The script with what it runs under. -/
def nanProgram : Program := ⟨nanScript, Registry.builtin, {}, {}⟩

/-- The second line of the script in its first frame. -/
def countdownContext : Context where
  command := ⟨"COUNTDOWN-WITH", [.variable "V", .command ⟨"RETURN", [.ofText "ran"], 1⟩], 1⟩
  actor := ⟨"c1", "BOB"⟩
  line := 1
  scope := 0
  loopIndex := none
  depth := 0

/-- A state in which the name `V` of the first scope stands for a number. -/
def countdownState (x : Float) : State where
  memory := ⟨#[.ofFloat x], #[⟨[("V", 0)]⟩]⟩

theorem countdownWith_minus_infinity :
    countdownContext.countdownWith (settle nanProgram 1) 1 (countdownState (-1.0 / 0.0)) =
      .ok .unit (countdownState (-1.0 / 0.0)) := by
  have hcell : (countdownState (-1.0 / 0.0)).lookUp? countdownContext.scope
      countdownContext.actor.id "V" = some 0 := rfl
  obtain ⟨hloop, -, htest⟩ := countdownWith_above_zero (settle nanProgram 1) rfl hcell rfl
  obtain ⟨-, hends, -⟩ := htest 0 (countdownState (-1.0 / 0.0)) ⟨-1.0 / 0.0⟩ rfl
  rw [hloop]
  exact hends rfl rfl

/-- **A body that is started though nothing is above zero.** The variable holds not-a-number, of
which the comparison is FALSE, and the run returns from within the body. -/
theorem countdown_starts_at_nan :
    Script.compile Registry.builtin
      (Script.lineSource "set: v = 0 / 0\ncountdown-with: v : return: \"ran\"") = .ok nanScript ∧
    (⟨0.0 / 0.0⟩ : Number).aboveZero = .ok false ∧
    ∃ t, nanProgram.runWithin 3 { actor := ⟨"c1", "BOB"⟩ } {} = .ok (some (.text "ran")) t :=
  ⟨by with_unfolding_all rfl, rfl, _, rfl⟩

end StageScript
