import StageScript.Proofs.Engine.Safe

/-!
# The lines of a fault

A frame that a fault passes attaches its line (`Fault.atLine`). As long as the trace is empty, a
line equal to that of the fault is dropped, since it may be the line of the same frame. It may as
well be that of another frame: one that calls itself on this line.

What is lost is seen by an engine that gives a fault a first entry in its trace where it is raised,
the depth of the frame there (`settleNoting`). In it every frame that is passed adds its line to the
trace, so that there are as many lines behind the depth as frames have been passed
(`Fault.NotedOn.passed_atLine`), and the entries after the first are the lines of all frames that
were active, innermost first (`Fault.frames`). The two engines run alike, up to the faults, and the
real fault is what is left of the noted one (`Fault.shown`) when the first entry and those behind it
that repeat the line of the fault are dropped. So the line of a fault is that of the innermost
frame, and its trace has the lines of the enclosing frames but for those directly around the
innermost one that are on the same line (`runWithin_trace`).
-/

namespace StageScript

open Run Context

/-! ### Runs up to their faults -/

namespace Run

variable {α β : Type} {g : Fault → Fault}

/-- Changes the fault of a run. -/
def mapFault (g : Fault → Fault) (m : Run α) : Run α := fun s =>
  match m s with
  | .error (.fault f) t => .error (.fault (g f)) t
  | result => result

theorem mapFault_of_ok {m : Run α} {s t : State} {a : α} (h : m s = .ok a t) :
    m.mapFault g s = .ok a t := by
  unfold mapFault
  rw [h]

theorem mapFault_of_fault {m : Run α} {s t : State} {f : Fault} (h : m s = .error (.fault f) t) :
    m.mapFault g s = .error (.fault (g f)) t := by
  unfold mapFault
  rw [h]

theorem mapFault_of_outOfFuel {m : Run α} {s t : State} (h : m s = .error .outOfFuel t) :
    m.mapFault g s = .error .outOfFuel t := by
  unfold mapFault
  rw [h]

theorem mapFault_mapFault (m : Run α) (k : Fault → Fault) (s : State) :
    (m.mapFault g).mapFault k s = m.mapFault (fun f => k (g f)) s := by
  cases h : m s with
  | ok a t => rw [mapFault_of_ok (mapFault_of_ok h), mapFault_of_ok h]
  | error e t =>
    cases e with
    | outOfFuel =>
      rw [mapFault_of_outOfFuel (mapFault_of_outOfFuel h), mapFault_of_outOfFuel h]
    | fault f => rw [mapFault_of_fault (mapFault_of_fault h), mapFault_of_fault h]

/-- Two ways to change faults that do the same to those of a run. -/
theorem mapFault_congr {m : Run α} {P : Fault → Prop} {g' : Fault → Fault} (h : m.Stops P)
    (hg : ∀ f, P f → g f = g' f) (s : State) : m.mapFault g s = m.mapFault g' s := by
  cases hm : m s with
  | ok a t => rw [mapFault_of_ok hm, mapFault_of_ok hm]
  | error e t =>
    cases e with
    | outOfFuel => rw [mapFault_of_outOfFuel hm, mapFault_of_outOfFuel hm]
    | fault f => rw [mapFault_of_fault hm, mapFault_of_fault hm, hg f (h s f t hm)]

theorem ok_of_mapFault {m : Run α} {s t : State} {a : α} (h : m.mapFault g s = .ok a t) :
    m s = .ok a t := by
  unfold mapFault at h
  split at h
  · cases h
  · exact h

theorem fault_of_mapFault {m : Run α} {s t : State} {f : Fault}
    (h : m.mapFault g s = .error (.fault f) t) :
    ∃ f', m s = .error (.fault f') t ∧ g f' = f := by
  cases hm : m s with
  | ok a u => cases (mapFault_of_ok hm).symm.trans h
  | error e u =>
    cases e with
    | outOfFuel => cases (mapFault_of_outOfFuel hm).symm.trans h
    | fault f' =>
      cases (mapFault_of_fault hm).symm.trans h
      exact ⟨f', rfl, rfl⟩

theorem mapFault_bind (m : Run α) (f : α → Run β) :
    (m >>= f).mapFault g = m.mapFault g >>= fun a => (f a).mapFault g := by
  funext s
  cases h : m s with
  | ok a t =>
    rw [bind_of_ok (mapFault_of_ok h)]
    unfold mapFault
    rw [bind_of_ok h]
  | error e t =>
    cases e with
    | outOfFuel =>
      rw [bind_of_error (mapFault_of_outOfFuel h), mapFault_of_outOfFuel (bind_of_error h)]
    | fault f => rw [bind_of_error (mapFault_of_fault h), mapFault_of_fault (bind_of_error h)]

theorem Stops.mapFault {m : Run α} {P Q : Fault → Prop} (h : m.Stops P)
    (hpq : ∀ f, P f → Q (g f)) : (m.mapFault g).Stops Q := by
  intro s f t hf
  cases hm : m s with
  | ok a u =>
    rw [mapFault_of_ok hm] at hf
    cases hf
  | error e u =>
    cases e with
    | outOfFuel =>
      rw [mapFault_of_outOfFuel hm] at hf
      cases hf
    | fault f' =>
      rw [mapFault_of_fault hm] at hf
      cases hf
      exact hpq f' (h s f' _ hm)

end Run

/-- **Two runs have the same results and, up to two views of them, the same faults**, unless the
first one is out of fuel. -/
def Views (g g' : Fault → Fault) (α : Type) (m m' : Run α) : Prop :=
  ∀ s, (∃ t, m s = .error .outOfFuel t) ∨ m.mapFault g s = m'.mapFault g' s

namespace Views

variable {α β : Type} {g g' : Fault → Fault} {m m' : Run α}

theorem lax : Lax (Views g g') := fun _ s => .inl ⟨s, rfl⟩

theorem bind {f f' : α → Run β} (hm : Views g g' α m m')
    (hf : ∀ a, m.Returns a → Views g g' β (f a) (f' a)) :
    Views g g' β (m >>= f) (m' >>= f') := by
  intro s
  rcases hm s with ⟨t, hfuel⟩ | heq
  · exact .inl ⟨t, bind_of_error hfuel⟩
  rw [mapFault_bind, mapFault_bind]
  cases h : m.mapFault g s with
  | error e t => exact .inr (by rw [bind_of_error h, bind_of_error (heq.symm.trans h)])
  | ok a t =>
    have hok : m s = .ok a t := ok_of_mapFault h
    rw [bind_of_ok h, bind_of_ok (heq.symm.trans h), bind_of_ok hok]
    exact hf a ⟨s, t, hok⟩ t

/-- What is seen alike stays so in a further view. -/
theorem comp (k : Fault → Fault) (h : Views g g' α m m') :
    Views (fun f => k (g f)) (fun f => k (g' f)) α m m' := by
  intro s
  rcases h s with hfuel | heq
  · exact .inl hfuel
  · have hview : ∀ n n' : Run α, n s = n' s → n.mapFault k s = n'.mapFault k s := by
      intro n n' hn
      unfold mapFault
      rw [hn]
    exact .inr (by rw [← mapFault_mapFault, hview _ _ heq, mapFault_mapFault])

section Fresh

variable (hg : ∀ f : Fault, f.trace = [] → g f = g' f)
include hg

/-- A run whose faults have passed no frame is seen alike. -/
theorem of_fresh (h : m.Stops fun f => f.trace = []) : Views g g' α m m :=
  fun s => .inr (mapFault_congr h hg s)

theorem quiet : Quiet (Views g g') where
  pure a := of_fresh hg (stops_pure a)
  fail f hf := of_fresh hg (stops_fail hf)
  bind := bind
  memory := of_fresh hg (stops_of_ok fun s => ⟨_, s, rfl⟩)
  lookUp ctx name := of_fresh hg (stops_lookUp ctx name)
  operate ctx place left _ _ hr := by
    have hctx : ctx.Admits fun f => f.trace = [] := fun _ _ => rfl
    refine bind (of_fresh hg (hctx.choice place left)) fun choice _ => bind hr fun right _ => ?_
    exact of_fresh hg (hctx.ofExcept fun _ he => Operator.apply_ordinary he)

omit hg in
theorem fresh_assignFor {program : Program} {ctx : Context} (tier : Tier) (name : String)
    (v : Value) (id : String) :
    (ctx.assignFor program tier name v id).Stops fun f => f.trace = [] := by
  -- a store refuses a name without a line
  have hassign : (Run.assign program.registry tier ctx.scope id name v).Stops fun f =>
      ∃ cause, f = { cause } := by
    intro s f t hf
    cases ha : s.assign program.registry tier ctx.scope id name v with
    | ok u =>
      rw [assign_of_ok ha] at hf
      cases hf
    | error g =>
      rw [assign_of_error ha] at hf
      cases hf
      unfold State.assign at ha
      split at ha
      · cases ha
      · split at ha <;> cases ha
        exact ⟨_, rfl⟩
  refine hassign.atLine ?_
  rintro f ⟨cause, rfl⟩
  rfl

theorem targets {program : Program} (ctx : Context) : Targets (Views g g') program ctx :=
  fun tier name id => ⟨fun v => of_fresh hg (fresh_assignFor tier name v id),
    of_fresh hg (stops_unassignFor tier name id)⟩

theorem inContext {program : Program} (ctx : Context) :
    CongruenceIn (Views g g') program ctx := by
  have hctx : ctx.Admits fun f => f.trace = [] := fun _ _ => rfl
  have hassign : ∀ tier name v, (ctx.assign program tier name v).Stops fun f => f.trace = [] :=
    fun tier name v => fresh_assignFor tier name v ctx.actor.id
  have hresolve : ∀ name, Views g g' CellId (ctx.resolve name) (ctx.resolve name) :=
    fun name => of_fresh hg (hctx.resolve name)
  exact {
    toQuiet := quiet hg
    resolved := fun name _ _ hk => bind (hresolve name) fun cell _ =>
      hk cell fun v => of_fresh hg (stops_write cell v)
    shareCell := fun name source =>
      of_fresh hg (hctx.shareCell (hassign .temp name) source)
    inNewScope := fun hk => bind (of_fresh hg (stops_of_ok fun _ => ⟨_, _, rfl⟩)) fun scope _ =>
      hk scope
        (fun name source => bind (hresolve source) fun cell _ =>
          of_fresh hg (stops_of_ok fun _ => ⟨(), _, rfl⟩))
        fun name v => of_fresh hg (stops_of_ok fun _ => ⟨(), _, rfl⟩)
    assign := fun tier name v => of_fresh hg (hassign tier name v)
    unassign := fun tier name => of_fresh hg (stops_unassignFor tier name _) }

end Fresh

end Views

/-! ### Noting where a fault is raised -/

namespace Fault

/-- Opens the trace of a fault that has none with the depth of the frame where it is raised. -/
def noted (depth line : Nat) (f : Fault) : Fault :=
  if f.trace = [] then { f with line := f.line.or (some line), trace := [depth] } else f

/-- What a fault with an opened trace looks like if it is not opened. -/
def shown (f : Fault) : Fault :=
  { f with trace := f.trace.tail.dropWhile fun line => decide (f.line = some line) }

/-- The depth of the frame where a fault with an opened trace was raised. A fault that the first
frame raises itself, between its lines, has no opened trace. -/
def depth (f : Fault) : Nat := f.trace.headD 0

/-- **The lines of the frames that a fault with an opened trace has passed**, innermost first. A
fault that the first frame raises itself, between its lines, has passed none; it is on the line the
frame has come to. -/
def frames (f : Fault) : List Nat :=
  match f.trace with
  | [] => f.line.toList
  | _ :: lines => lines

/-- The trace is not opened, and the fault can only be on this line. -/
def UnnotedOn (line : Nat) (f : Fault) : Prop :=
  f.trace = [] ∧ (f.line = none ∨ f.line = some line)

/-- The trace was opened, and all frames have been passed from the innermost one, whose line is that
of the fault, out to the one of some depth. Each of them has added its line. -/
def Passed (depth : Nat) (f : Fault) : Prop :=
  ∃ line lines, f.line = some line ∧ f.trace = (depth + lines.length) :: line :: lines

/-- The trace was opened in the frame of some depth, on this line, or in a frame further inside, and
all frames in that of this depth have been passed. -/
def NotedOn (depth line : Nat) (f : Fault) : Prop :=
  f.line = some line ∧ f.trace = [depth] ∨ f.Passed (depth + 1)

variable {f : Fault} {depth line : Nat}

theorem NotedOn.opened (h : f.NotedOn depth line) :
    ∃ first entry lines, f.line = some first ∧ f.trace = entry :: lines := by
  rcases h with ⟨hline, htrace⟩ | ⟨first, lines, hline, htrace⟩
  · exact ⟨line, depth, [], hline, htrace⟩
  · exact ⟨first, _, _, hline, htrace⟩

/-- Once a trace is opened, every frame adds its line. -/
theorem NotedOn.trace_atLine (h : f.NotedOn depth line) (number : Nat) :
    f.atLine number = { f with trace := f.trace ++ [number] } := by
  obtain ⟨first, entry, lines, hline, htrace⟩ := h.opened
  unfold atLine
  rw [hline, htrace]
  simp

/-- **A frame that is passed adds exactly one line.** -/
theorem NotedOn.passed_atLine (h : f.NotedOn depth line) : (f.atLine line).Passed depth := by
  rw [h.trace_atLine]
  rcases h with ⟨hline, htrace⟩ | ⟨first, lines, hline, htrace⟩
  · exact ⟨line, [], hline, by rw [htrace]; rfl⟩
  · refine ⟨first, lines ++ [line], hline, ?_⟩
    have hlength : depth + 1 + lines.length = depth + (lines ++ [line]).length := by
      simp only [List.length_append, List.length_singleton]
      omega
    rw [htrace, hlength]
    rfl

theorem notedOn_noted (h : f.UnnotedOn line ∨ f.NotedOn depth line) :
    (f.noted depth line).NotedOn depth line := by
  unfold noted
  rcases h with ⟨htrace, hline⟩ | h
  · rw [if_pos htrace]
    refine .inl ⟨?_, rfl⟩
    rcases hline with hline | hline <;> rw [hline] <;> rfl
  · obtain ⟨first, entry, lines, -, htrace⟩ := h.opened
    rw [if_neg (by rw [htrace]; exact List.cons_ne_nil _ _)]
    exact h

theorem shown_of_fresh (f : Fault) (h : f.trace = []) : id f = f.shown := by
  cases f
  cases h
  rfl

/-- Attaching a line goes with opening the trace: what is shown of it is the same. -/
theorem NotedOn.shown_atLine (h : f.NotedOn depth line) (number : Nat) :
    (f.atLine number).shown = f.shown.atLine number := by
  obtain ⟨first, entry, lines, hline, htrace⟩ := h.opened
  rw [h.trace_atLine]
  unfold shown Fault.atLine
  simp only [hline, htrace, List.cons_append, List.tail_cons, List.dropWhile_append]
  cases hdrop : lines.dropWhile fun line => decide (some first = some line) with
  | nil =>
    -- all lines so far repeat the first one, and the new one joins them or opens the trace
    by_cases hnumber : first = number <;> simp [hnumber]
  | cons other rest => simp

theorem shown_noted (h : f.UnnotedOn line ∨ f.NotedOn depth line) :
    (f.noted depth line).shown.atLine line = f.shown.atLine line := by
  unfold noted
  rcases h with ⟨htrace, hline⟩ | h
  · rw [if_pos htrace]
    unfold shown Fault.atLine
    rcases hline with hline | hline <;> simp [hline, htrace]
  · obtain ⟨first, entry, lines, -, htrace⟩ := h.opened
    rw [if_neg (by rw [htrace]; exact List.cons_ne_nil _ _)]

end Fault

/-! ### The engine that notes -/

/-- **Runs a command to its final result** as `settle` does, and opens the trace of a fault where it
is raised. -/
def settleNoting (program : Program) : (fuel : Nat) → Settle
  | 0 => fun _ _ => throw .outOfFuel
  | fuel + 1 => fun ctx command =>
    let run : Run Settled := do
      let outcome ← execute program (settleNoting program fuel) fuel ctx command
      ultimate program (settleNoting program fuel) fuel ctx program.options.maxTailCalls outcome
    run.mapFault (.noted ctx.depth ctx.line)

section Noting

variable {program : Program} (hprogram : program.IsCompiled) {fuel : Nat}
include hprogram

/-- The trace of a fault that leaves a line of a frame was opened in it or further inside. -/
theorem stops_noted_line {settle : Settle}
    (hs : ∀ ctx number (c : Command), c.WellFormedThroughout Registry.builtin number →
      (settle ctx c).Stops (Fault.NotedOn ctx.depth ctx.line))
    (frame : Frame) (number : Nat) (c : Command)
    (hc : program.script.commandAt? number = some c) :
    ((settle (frame.context c) c).atLine number).Stops (Fault.Passed frame.depth) := by
  have hwell := hprogram.lines number c hc
  have hline : (frame.context c).line = number := (hwell c (.refl c)).line_eq
  have h := hs (frame.context c) number c hwell
  rw [hline] at h
  exact h.atLine fun f hf => hf.passed_atLine

/-- What a command hands back, before the trace of a fault is opened. -/
theorem stops_unnoted {settle : Settle}
    (hs : ∀ ctx number (c : Command), c.WellFormedThroughout Registry.builtin number →
      (settle ctx c).Stops (Fault.NotedOn ctx.depth ctx.line))
    (budget : Nat) (ctx : Context) {number : Nat} {c : Command}
    (hc : c.WellFormedThroughout Registry.builtin number) :
    (execute program settle budget ctx c >>=
      ultimate program settle budget ctx program.options.maxTailCalls).Stops fun f =>
        f.UnnotedOn ctx.line ∨ f.NotedOn ctx.depth ctx.line := by
  have hctx : ctx.Admits fun f => f.UnnotedOn ctx.line ∨ f.NotedOn ctx.depth ctx.line :=
    fun cause _ => .inl ⟨rfl, .inr rfl⟩
  have hnested : ∀ ctx' : Context, ctx'.Beside ctx → ∀ d : Command,
      d.WellFormedThroughout Registry.builtin number →
        (settle ctx' d).Stops fun f => f.UnnotedOn ctx.line ∨ f.NotedOn ctx.depth ctx.line := by
    rintro ctx' ⟨hline, hdepth⟩ d hd
    rw [← hline, ← hdepth]
    exact (hs ctx' number d hd).mono .inr
  have hfollow : ∀ j, (follow program settle ctx j).Stops fun f =>
      f.UnnotedOn ctx.line ∨ f.NotedOn ctx.depth ctx.line := by
    intro j
    refine (stops_frameRun (fun _ => .inl ⟨rfl, .inl rfl⟩) (fun hjumped => by cases hjumped)
      (fun number d hd => ?_) _).bind fun how => stops_pure _
    exact (stops_noted_line hprogram hs _ number d hd).mono fun hf => .inr (.inr hf)
  refine (hprogram.stops_execute hctx
    (fun ctx' hbeside d hd => hnested ctx' hbeside d (hc.inner hd)) hc budget).bind_of
    fun o ho => ?_
  exact hprogram.stops_ultimate hctx (.inl ⟨rfl, .inr rfl⟩) hnested hfollow budget _ hc
    (execute_fits o ho)

/-- **The trace of every fault is opened**, by induction on the fuel. -/
theorem stops_settleNoting (ctx : Context) (number : Nat) (c : Command)
    (hc : c.WellFormedThroughout Registry.builtin number) :
    (settleNoting program fuel ctx c).Stops (Fault.NotedOn ctx.depth ctx.line) := by
  induction fuel generalizing ctx number c with
  | zero =>
    intro s f t hf
    cases hf
  | succ fuel ih =>
    exact (stops_unnoted hprogram ih fuel ctx hc).mapFault fun f hf => Fault.notedOn_noted hf

/-! ### The two engines -/

/-- A line of a frame is seen alike, once its number is attached. -/
theorem views_line {settle settle' : Settle}
    (hs' : ∀ ctx number (c : Command), c.WellFormedThroughout Registry.builtin number →
      (settle' ctx c).Stops (Fault.NotedOn ctx.depth ctx.line))
    (hs : ∀ ctx number (c : Command), c.WellFormedThroughout Registry.builtin number →
      Views (·.atLine ctx.line) (·.shown.atLine ctx.line) Settled (settle ctx c) (settle' ctx c))
    (frame : Frame) (number : Nat) (c : Command)
    (hc : program.script.commandAt? number = some c) :
    Views id Fault.shown Settled ((settle (frame.context c) c).atLine number)
      ((settle' (frame.context c) c).atLine number) := by
  have hwell := hprogram.lines number c hc
  have hline : (frame.context c).line = number := (hwell c (.refl c)).line_eq
  have hview := hs (frame.context c) number c hwell
  have hnoted := hs' (frame.context c) number c hwell
  rw [hline] at hview hnoted
  intro s
  rcases hview s with ⟨t, hfuel⟩ | heq
  · exact .inl ⟨t, atLine_of_error number hfuel⟩
  · right
    calc ((settle (frame.context c) c).atLine number).mapFault id s
        = (settle (frame.context c) c).mapFault (·.atLine number) s := mapFault_mapFault _ _ s
      _ = (settle' (frame.context c) c).mapFault (·.shown.atLine number) s := heq
      _ = (settle' (frame.context c) c).mapFault (fun f => (f.atLine number).shown) s :=
          mapFault_congr hnoted (fun f hf => (hf.shown_atLine number).symm) s
      _ = ((settle' (frame.context c) c).atLine number).mapFault Fault.shown s :=
          (mapFault_mapFault _ _ s).symm

/-- **Settling with and without opened traces**, by induction on the fuel. A fault without a line
may be given the line of its frame early, so the two are compared once that line is attached. -/
theorem settle_views (ctx : Context) (number : Nat) (c : Command)
    (hc : c.WellFormedThroughout Registry.builtin number) :
    Views (·.atLine ctx.line) (·.shown.atLine ctx.line) Settled (settle program fuel ctx c)
      (settleNoting program fuel ctx c) := by
  induction fuel generalizing ctx number c with
  | zero => exact Views.lax _
  | succ fuel ih =>
    have hfresh : ∀ f : Fault, f.trace = [] → f.atLine ctx.line = f.shown.atLine ctx.line :=
      fun f hf => congrArg (·.atLine ctx.line) (Fault.shown_of_fresh f hf)
    have hquiet := Views.quiet hfresh
    have hexec : ∀ d : Command, d.Within c →
        Views (·.atLine ctx.line) (·.shown.atLine ctx.line) Outcome
          (execute program (settle program fuel) fuel ctx d)
          (execute program (settleNoting program fuel) fuel ctx d) := by
      intro d hd
      refine (Views.inContext hfresh (ctx.child d)).execute (fun index e he => ?_)
        (fun _ _ _ => .more Views.lax (Nat.le_refl _)) (fun _ _ _ => Views.targets hfresh _)
        fun type htype action haction => ?_
      · exact ih { ctx.child d with loopIndex := index } number e
          fun e' he' => hc e' ((he'.trans (.inner he (.refl e))).trans hd)
      · exact absurd haction (hprogram.ofLanguage.ne_host htype action)
    have hfollow : ∀ j, Views (·.atLine ctx.line) (·.shown.atLine ctx.line) Outcome
        (follow program (settle program fuel) ctx j)
        (follow program (settleNoting program fuel) ctx j) := by
      intro j
      have hshown : Quiet (Views id Fault.shown) := Views.quiet Fault.shown_of_fresh
      have hframe : Views id Fault.shown Outcome (follow program (settle program fuel) ctx j)
          (follow program (settleNoting program fuel) ctx j) := by
        refine hshown.bind (hshown.frameRun (fun _ line d hd => ?_) _) fun how _ => hshown.pure _
        exact views_line hprogram (stops_settleNoting hprogram) ih _ line d hd
      exact hframe.comp (·.atLine ctx.line)
    have hrun := hquiet.bind (hexec c (.refl c)) fun o ho => hquiet.ultimate rfl hexec hfollow
      (.refl c) program.options.maxTailCalls o (execute_fits o ho)
    intro s
    rcases hrun s with hfuel | heq
    · exact .inl hfuel
    · right
      refine heq.trans ?_
      refine (mapFault_congr (stops_unnoted hprogram (stops_settleNoting hprogram) fuel ctx hc)
        (fun f hf => (Fault.shown_noted hf).symm) s).trans ?_
      exact (mapFault_mapFault (g := .noted ctx.depth ctx.line) _ (·.shown.atLine ctx.line) s).symm

/-! ### Runs of a program -/

/-- The first frame with and without opened traces. -/
theorem firstFrame_views (frame : Frame) (start : Nat) :
    Views id Fault.shown Exit (frame.run program (settle program fuel) start)
      (frame.run program (settleNoting program fuel) start) := by
  have hshown : Quiet (Views id Fault.shown) := Views.quiet Fault.shown_of_fresh
  exact hshown.frameRun (fun _ line c hc => views_line hprogram (stops_settleNoting hprogram)
    (settle_views hprogram) frame line c hc) start

/-- A fault that leaves the first frame has passed it, or is raised by it between two lines. -/
theorem stops_firstFrame (actor : Character) (scope : ScopeId) (start : Nat) :
    (Frame.run program (settleNoting program fuel) ⟨actor, scope, 0, false⟩ start).Stops fun f =>
      f.Passed 0 ∨ ∃ line, f = .on line .noReturnTarget := by
  refine stops_frameRun (fun hdepth => absurd hdepth (Nat.not_lt_zero _))
    (fun _ line => .inr ⟨line, rfl⟩) (fun number c hc => ?_) start
  exact (stops_noted_line hprogram (stops_settleNoting hprogram) _ number c hc).mono .inl

/-- **The line and the trace of a fault.** A run whose first frame was entered, the names of the
host being bound, stops with a fault. Let the frames that were active when it was raised be on the
lines `innermost :: enclosing`, so that it was raised in a frame with as many others around it. Then
the fault is on the line `innermost`, and its trace is `enclosing`, less the lines at its head that
are equal to `innermost`. -/
theorem runWithin_trace {request : Request} {s u t : State} {f : Fault}
    (hbound : program.bindHostNames s.memory.newScope.1 request.actor request.bindings.entries
      { s with memory := s.memory.newScope.2 } = .ok () u)
    (h : program.runWithin fuel request s = .error (.fault f) t) :
    ∃ noted innermost enclosing,
      Frame.run program (settleNoting program fuel) ⟨request.actor, s.memory.newScope.1, 0, false⟩
        (program.startLine request.start) u = .error (.fault noted) t ∧
      noted.cause = f.cause ∧ noted.frames = innermost :: enclosing ∧
      noted.depth = enclosing.length ∧
      f.line = some innermost ∧ f.trace = enclosing.dropWhile (· = innermost) := by
  have hrun : Frame.run program (settle program fuel)
      ⟨request.actor, s.memory.newScope.1, 0, false⟩ (program.startLine request.start) u =
        .error (.fault f) t := by
    rcases bind_eq_error h with h | ⟨scope, s₁, hscope, h⟩
    · cases h
    cases hscope
    rcases bind_eq_error h with h | ⟨_, u', hbound', h⟩
    · cases hbound.symm.trans h
    cases hbound.symm.trans hbound'
    rcases bind_eq_error h with h | ⟨how, _, -, h⟩
    · exact h
    · cases h
  -- the noting engine stops with a fault that looks like this one
  obtain ⟨noted, hnoted, rfl⟩ : ∃ noted, Frame.run program (settleNoting program fuel)
      ⟨request.actor, s.memory.newScope.1, 0, false⟩ (program.startLine request.start) u =
        .error (.fault noted) t ∧ noted.shown = f := by
    rcases firstFrame_views hprogram ⟨request.actor, s.memory.newScope.1, 0, false⟩
      (program.startLine request.start) u with ⟨_, hfuel⟩ | heq
    · cases hrun.symm.trans hfuel
    · rw [mapFault_of_fault hrun] at heq
      exact fault_of_mapFault heq.symm
  refine ⟨noted, ?_⟩
  rcases stops_firstFrame hprogram request.actor _ _ u noted t hnoted with
    ⟨line, lines, hline, htrace⟩ | ⟨line, rfl⟩
  · refine ⟨line, lines, hnoted, rfl, ?_, ?_, hline, ?_⟩
    · unfold Fault.frames
      rw [htrace]
    · unfold Fault.depth
      rw [htrace, Nat.zero_add]
      rfl
    · unfold Fault.shown
      simp [hline, htrace, eq_comm]
  · exact ⟨line, [], hnoted, rfl, rfl, rfl, rfl, rfl⟩

end Noting

/-! ### Examples -/

/-- The script of `do: a`, and below it `[a]: return: b`. -/
def innerFaultScript : Script where
  labels := ⟨[("A", 1), ("START", 0)]⟩
  lineLabels := ⟨[(0, "START"), (1, "A")]⟩
  commands := ⟨[(0, ⟨"DO", [.ofText "A", .bindings [], .ofLine 0], 0⟩),
    (1, ⟨"RETURN", [.variable "B"], 1⟩)]⟩
  startLine := 0
  lineCount := 2
  postStartText := "do: a\n[a]: return: b"
  rawText := "do: a\n[a]: return: b"

theorem runWithin_trace_innerFault :
    ∃ noted enclosing t,
      Frame.run ⟨innerFaultScript, Registry.builtin, {}, {}⟩
        (settleNoting ⟨innerFaultScript, Registry.builtin, {}, {}⟩ 3) ⟨⟨"c1", "BOB"⟩, 0, 0, false⟩ 0
          { memory := ({} : Memory).newScope.2 } = .error (.fault noted) t ∧
      noted.cause = .unresolved "B" ∧ noted.frames = 1 :: enclosing ∧
      noted.depth = enclosing.length ∧ enclosing.dropWhile (· = 1) = [0] := by
  have hcompile : Script.compile Registry.builtin
      (Script.lineSource "do: a\n[a]: return: b") = .ok innerFaultScript := by
    with_unfolding_all rfl
  have hcompiled : Program.IsCompiled ⟨innerFaultScript, Registry.builtin, {}, {}⟩ :=
    ⟨rfl, fun number c hc => Script.compile_wellFormed hcompile hc⟩
  have hrun : ∃ f t, Program.runWithin ⟨innerFaultScript, Registry.builtin, {}, {}⟩ 3
      { actor := ⟨"c1", "BOB"⟩ } {} = .error (.fault f) t ∧ f.cause = .unresolved "B" ∧
        f.line = some 1 ∧ f.trace = [0] := ⟨_, _, rfl, rfl, rfl, rfl⟩
  obtain ⟨f, t, hrun, hcause, hline, htrace⟩ := hrun
  obtain ⟨noted, innermost, enclosing, hnoted, hsame, hframes, hdepth, hline', htrace'⟩ :=
    runWithin_trace hcompiled rfl hrun
  cases hline.symm.trans hline'
  exact ⟨noted, enclosing, t, hnoted, hsame.trans hcause, hframes, hdepth,
    htrace'.symm.trans htrace⟩

/-- The script of the one line `[a]: do: a`, which calls itself. -/
def selfCallScript : Script where
  labels := ⟨[("A", 0), ("START", 0)]⟩
  lineLabels := ⟨[(0, "A")]⟩
  commands := ⟨[(0, ⟨"DO", [.ofText "A", .bindings [], .ofLine 0], 0⟩)]⟩
  startLine := 0
  lineCount := 1
  postStartText := "[a]: do: a"
  rawText := "[a]: do: a"

/-- **A trace without the enclosing frames.** The line calls itself, with room for two frames within
the first. Three frames are active on line 0 when the fourth is refused, and the trace is empty. -/
theorem trace_misses_frames :
    Script.compile Registry.builtin (Script.lineSource "[a]: do: a") = .ok selfCallScript ∧
    ∃ f noted t t',
      Program.runWithin ⟨selfCallScript, Registry.builtin, {}, { maxFrameDepth := 2 }⟩ 5
        { actor := ⟨"c1", "BOB"⟩ } {} = .error (.fault f) t ∧
      Frame.run ⟨selfCallScript, Registry.builtin, {}, { maxFrameDepth := 2 }⟩
        (settleNoting ⟨selfCallScript, Registry.builtin, {}, { maxFrameDepth := 2 }⟩ 5)
        ⟨⟨"c1", "BOB"⟩, 0, 0, false⟩ 0 { memory := ({} : Memory).newScope.2 } =
          .error (.fault noted) t' ∧
      noted.frames = [0, 0, 0] ∧ noted.depth = 2 ∧ f.line = some 0 ∧ f.trace = [] :=
  ⟨by with_unfolding_all rfl, _, _, _, _, rfl, rfl, rfl, rfl, rfl, rfl⟩

end StageScript
