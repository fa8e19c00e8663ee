import StageScript.Proofs.Engine.Safe
import StageScript.Proofs.Engine.TypedRun
import StageScript.Session

/-!
# Collections stay typed in a session

A host installs programs that were compiled, runs them with values it has made, and looks at what
comes back; between runs it may also take steps of its own, and give other commands to a program.
`Session.Hosted` says which sessions come about in this way, and which values the host has been
given by then: it may hand each of them on, or make collections from them. So may the commands it
has registered, with the values that they are given while they are executed. In all these sessions
every cell holds a typed value, and so does whatever a run gives or a param is evaluated to
(`Session.Hosted.collections_stay_typed`).

The invariant is that cells and given values are typed, that no literal of an installed script is a
collection, and that the commands of hosts build what they supply from typed values
(`Session.Sound`). What happens within a run is the work of `runWithin_keeps`.
-/

namespace StageScript

/-! ### Programs -/

/-- **Collections stay typed in a program**, at every step from a state with typed cells. An
operation that is refused leaves the state as its operands do. -/
structure Program.KeepsTyped (program : Program) : Prop where
  plain : program.IsPlain
  hosts : program.registry.SuppliesTyped
  evaluates : ∀ settle : Settle,
    (∀ ctx c, c.Plain → (settle ctx c).Keeps program.registry Settled.Typed) →
    ∀ ctx p, p.Plain → (evaluate program settle ctx p).Keeps program.registry Value.Typed
  settles : ∀ fuel ctx c, c.Plain →
    (settle program fuel ctx c).Keeps program.registry Settled.Typed
  runs : ∀ fuel request, (∀ b ∈ request.bindings.entries, b.2.Typed) →
    (program.runWithin fuel request).Keeps program.registry fun v => ∀ w ∈ v, w.Typed
  union_refused : ∀ (settle : Settle) ctx left right s x t y u e w,
    evaluate program settle ctx left s = .ok x t → evaluate program settle ctx right t = .ok y u →
    evaluate program settle ctx (.union left right) s = .error e w → w = u
  ambiguous_refused : ∀ (settle : Settle) ctx place left right s x t choice t' y u e w,
    evaluate program settle ctx left s = .ok x t → ctx.choice place x t = .ok choice t' →
    evaluate program settle ctx right t' = .ok y u →
    evaluate program settle ctx (.ambiguous place left right) s = .error e w → w = u
  collection_refused : ∀ (settle : Settle) ctx element bare items s values t e w,
    evaluateItems program settle ctx element items s = .ok values t →
    evaluate program settle ctx (.collection element bare false items) s = .error e w → w = t

theorem Program.IsPlain.keepsTyped {program : Program} (hp : program.IsPlain)
    (hhosts : program.registry.SuppliesTyped) : program.KeepsTyped where
  plain := hp
  hosts := hhosts
  evaluates _ hs ctx _ h := Context.keeps_evaluate (hs ctx) h
  settles := settle_keeps hp hhosts
  runs fuel _ hb := runWithin_keeps hp hhosts fuel hb
  union_refused _ _ _ _ _ _ _ _ _ _ _ := Context.state_of_union_refused
  ambiguous_refused _ _ _ _ _ _ _ _ _ _ _ _ _ _ := Context.state_of_ambiguous_refused
  collection_refused _ _ _ _ _ _ _ _ _ _ := Context.state_of_collection_refused

/-! ### Sessions -/

/-- The value that a run hands back, if it does. -/
def Run.returned (m : Run (Option Value)) (s : State) : List Value :=
  match m s with
  | .ok v _ => v.toList
  | .error _ _ => []

namespace Session

/-- Gives other commands to a program: those of a host may do something else from one run to the
next, as they learn what the host has been given. -/
def equip (s : Session) (id : String) (installed : Installed) (registry : Registry) : Session :=
  let equipped : Installed := { installed with program := { installed.program with registry } }
  { s with programs := s.programs.insert id equipped }

/-- **The sessions that a host can bring about, with the values it has been given.** It installs
compiled programs with commands that supply what they have built, and may go over to other such
commands. It runs programs with any fuel on what it has made, reads cells, evaluates params as its
commands do, and takes steps of its own that put nothing into cells but what it has made. -/
inductive Hosted : Session → List Value → Prop
  | start : Hosted {} []
  | install {s : Session} {given : List Value} {program : Program} {registry : Registry}
    {sources : Sources} (hs : Hosted s given)
    (hcompile : Script.compile registry sources = .ok program.script)
    (hhosts : program.registry.SuppliesBuilt given) (id : String) (isPrivate : Bool) :
    Hosted (s.install id program isPrivate) given
  | equip {s : Session} {given : List Value} {id : String} {installed : Installed}
    {registry : Registry} (hs : Hosted s given) (hi : s.programs.get? id = some installed)
    (hhosts : registry.SuppliesBuilt given) : Hosted (s.equip id installed registry) given
  | run {s : Session} {given : List Value} {id : String} {installed : Installed} {request : Request}
    (hs : Hosted s given) (hi : s.programs.get? id = some installed)
    (hb : ∀ b ∈ request.bindings.entries, b.2.Built (· ∈ given)) (fuel : Nat) :
    Hosted (s.takeBack id installed
        ((installed.program.runWithin fuel request).after (s.stateOf installed)))
      ((installed.program.runWithin fuel request).returned (s.stateOf installed) ++ given)
  | look {s : Session} {given : List Value} (hs : Hosted s given) (cell : CellId) :
    Hosted s (s.memory.read cell :: given)
  | evaluate {s : Session} {given : List Value} {id : String} {installed : Installed}
    {fuel : Nat} {ctx : Context} {p : Param} {v : Value} {t : State} (hs : Hosted s given)
    (hi : s.programs.get? id = some installed) (hp : p.Plain)
    (hv : StageScript.evaluate installed.program (settle installed.program fuel) ctx p
      (s.stateOf installed) = .ok v t) :
    Hosted (s.takeBack id installed t) (v :: given)
  | change {s : Session} {given : List Value} {id : String} {installed : Installed} {t : State}
    (hs : Hosted s given) (hi : s.programs.get? id = some installed)
    (hc : Change installed.program.registry (s.stateOf installed) t)
    (hcells : ∀ cell, t.memory.read cell = s.memory.read cell ∨
      (t.memory.read cell).Built (· ∈ given)) :
    Hosted (s.takeBack id installed t) given

/-- The invariant of hosted sessions. -/
structure Sound (s : Session) (given : List Value) : Prop where
  cells : s.memory.Typed
  given : ∀ v ∈ given, v.Typed
  plain : ∀ id installed, s.programs.get? id = some installed → installed.program.IsPlain
  hosts : ∀ id installed, s.programs.get? id = some installed →
    installed.program.registry.SuppliesTyped

namespace Sound

variable {s : Session} {given : List Value}

theorem start : Sound {} [] where
  cells _ := .unit
  given := by simp
  plain id installed h := by cases h
  hosts id installed h := by cases h

/-- A program is put in place, and the memory and what the host has been given may change. -/
theorem insert (h : s.Sound given) {installed : Installed} (hp : installed.program.IsPlain)
    (hhosts : installed.program.registry.SuppliesTyped) {memory : Memory} (hcells : memory.Typed)
    {given' : List Value} (hgiven : ∀ v ∈ given', v.Typed) (world : Store) (id : String) :
    Sound { memory, world, programs := s.programs.insert id installed } given' where
  cells := hcells
  given := hgiven
  plain other installed' hi := by
    rw [Table.get?_insert] at hi
    split at hi
    · cases hi
      exact hp
    · exact h.plain other installed' hi
  hosts other installed' hi := by
    rw [Table.get?_insert] at hi
    split at hi
    · cases hi
      exact hhosts
    · exact h.hosts other installed' hi

theorem install (h : s.Sound given) {program : Program} (hp : program.IsPlain)
    (hhosts : program.registry.SuppliesBuilt given) (id : String) (isPrivate : Bool) :
    (s.install id program isPrivate).Sound given :=
  h.insert hp ⟨given, h.given, hhosts⟩ h.cells h.given s.world id

theorem equip (h : s.Sound given) {id : String} {installed : Installed}
    (hi : s.programs.get? id = some installed) {registry : Registry}
    (hhosts : registry.SuppliesBuilt given) : (s.equip id installed registry).Sound given := by
  refine h.insert ?_ ?_ h.cells h.given s.world id
  · exact h.plain id installed hi
  · exact ⟨given, h.given, hhosts⟩

/-- A state with typed cells is taken back. -/
theorem takeBack (h : s.Sound given) {id : String} {installed : Installed}
    (hi : s.programs.get? id = some installed) {t : State} (ht : t.memory.Typed) {more : List Value}
    (hmore : ∀ v ∈ more, v.Typed) : (s.takeBack id installed t).Sound (more ++ given) := by
  refine h.insert ?_ ?_ ht (fun v hv => (List.mem_append.mp hv).elim (hmore v) (h.given v)) _ id
  · exact h.plain id installed hi
  · exact h.hosts id installed hi

theorem built (h : s.Sound given) {v : Value} (hv : v.Built (· ∈ given)) : v.Typed :=
  hv.typed_of h.given

theorem run (h : s.Sound given) {id : String} {installed : Installed} {request : Request}
    (hi : s.programs.get? id = some installed)
    (hb : ∀ b ∈ request.bindings.entries, b.2.Built (· ∈ given)) (fuel : Nat) :
    (s.takeBack id installed
        ((installed.program.runWithin fuel request).after (s.stateOf installed))).Sound
      ((installed.program.runWithin fuel request).returned (s.stateOf installed) ++ given) := by
  have hcells : (s.stateOf installed).memory.Typed := h.cells
  obtain ⟨hsteps, hret⟩ := runWithin_keeps (h.plain id installed hi) (h.hosts id installed hi)
    fuel
    (fun b hb' => h.built (hb b hb')) (s.stateOf installed) hcells
  refine h.takeBack hi (typed_of_typedChanges hcells hsteps) fun v hv => ?_
  unfold Run.returned at hv
  split at hv
  · next r t hrun => exact hret r t hrun v (Option.mem_toList.mp hv)
  · cases hv

end Sound

theorem Hosted.sound {s : Session} {given : List Value} (h : s.Hosted given) : s.Sound given := by
  induction h with
  | start => exact .start
  | install _ hcompile hhosts id isPrivate ih =>
    exact ih.install (fun _ _ hc => Script.compile_plain hcompile hc) hhosts id isPrivate
  | equip _ hi hhosts ih => exact ih.equip hi hhosts
  | run _ hi hb fuel ih => exact ih.run hi hb fuel
  | look _ cell ih =>
    exact { ih with given := List.forall_mem_cons.mpr ⟨ih.cells cell, ih.given⟩ }
  | @evaluate s given id installed fuel ctx p v t _ hi hp hv ih =>
    have hkeeps := evaluate_keeps (ih.plain id installed hi) (ih.hosts id installed hi) fuel ctx hp
    have hcells : (s.stateOf installed).memory.Typed := ih.cells
    have hvalue : v.Typed := (hkeeps _ hcells).2 v t hv
    exact ih.takeBack hi (hkeeps.typed hcells hv) (List.forall_mem_singleton.mpr hvalue)
  | @change s given id installed t _ hi _ hcells ih =>
    have ht : t.memory.Typed := fun cell => by
      rcases hcells cell with hsame | hbuilt
      · exact hsame ▸ ih.cells cell
      · exact ih.built hbuilt
    exact ih.takeBack hi ht (List.forall_mem_nil _)

/-- **Collections stay typed.** In a session that a host brings about, every cell holds a typed
value, and the values it is given and those it makes of them are typed. In every program there, each
step of a run leaves cells typed, and so is what a param is evaluated to or a run gives
(`Program.KeepsTyped`). An operation that is refused, by a host or in a run, leaves the collections
it was given as they are. -/
theorem Hosted.collections_stay_typed {s : Session} {given : List Value} (h : s.Hosted given) :
    s.memory.Typed ∧ (∀ v : Value, v.Built (· ∈ given) → v.Typed) ∧
    (∀ id installed, s.programs.get? id = some installed → installed.program.KeepsTyped) ∧
    (∀ (c : Collection) v fault, c.push v = .error fault →
      Collection.pushIn v c = .error fault c) ∧
    (∀ element items fault, Collection.typed element items = .error fault →
      Collection.typedIn element items = .error fault items) ∧
    ∀ (c other : Collection) fault, c.union other = .error fault →
      Collection.unionIn (c, other) = .error fault (c, other) := by
  have hsound := h.sound
  refine ⟨hsound.cells, fun v => hsound.built, fun id installed hi => ?_, ?_⟩
  · exact (hsound.plain id installed hi).keepsTyped (hsound.hosts id installed hi)
  · exact ⟨fun _ _ _ => Collection.pushIn_of_error, fun _ _ _ => Collection.typedIn_of_error,
      fun _ _ _ => Collection.unionIn_of_error⟩

/-- A command of a host that gives back a collection of two: the text in its slot, twice. -/
def twiceAction : HostAction := do
  let v ← HostProgram.value 0
  match Collection.typed .text [v, v] with
  | .ok c => return .value c.toValue
  | .error f => HostProgram.fail f

/-- The commands of the language and the one of the host. -/
def crewRegistry : Registry :=
  Registry.builtin.register ⟨{ name := "TWICE", params := [.any] }, .host twiceAction⟩

theorem twiceAction_suppliesBuilt (given : List Value) : twiceAction.SuppliesBuilt given := by
  refine .ask (List.forall_mem_nil _) (fun v => ?_) fun f => .fail f
  show HostAction.SuppliesBuilt _ (match Collection.typed .text [v, v] with
    | .ok c => .done (.value c.toValue)
    | .error f => HostProgram.fail f)
  have hanswer : Value.Built (· ∈ (Service.evaluate 0 []).gives v ++ given) v :=
    .given List.mem_cons_self
  have hitems := List.forall_mem_cons.mpr ⟨hanswer, List.forall_mem_singleton.mpr hanswer⟩
  cases hc : Collection.typed .text [v, v] with
  | ok c => exact .done (List.forall_mem_singleton.mpr (.typed hitems hc))
  | error f => exact .fail f

theorem crewRegistry_suppliesBuilt (given : List Value) : crewRegistry.SuppliesBuilt given := by
  intro name type action htype haction
  rcases Registry.eq_or_get?_of_register htype with ⟨rfl, -⟩ | htype
  · cases haction
    exact twiceAction_suppliesBuilt given
  · exact absurd haction (Registry.ofLanguage_builtin.ne_host htype action)

/-- The script of the line `return: crew with twice: "cid"`. -/
def crewScript : Script where
  labels := ⟨[("START", 0)]⟩
  lineLabels := ⟨[(0, "START")]⟩
  commands := ⟨[(0, ⟨"RETURN", [.union (.variable "CREW") (.collection .any true false
    [.command ⟨"TWICE", [.value (.text "cid")], 0⟩])], 0⟩)]⟩
  startLine := 0
  lineCount := 1
  postStartText := "return: crew with twice: \"cid\""
  rawText := "return: crew with twice: \"cid\""

/-- The script with the command of the host. -/
def crewProgram : Program where
  script := crewScript
  registry := crewRegistry

/-- The request that binds a crew of two. -/
def crewRequest : Request where
  actor := ⟨"c1", "BOB"⟩
  bindings := ⟨[("crew", .collection .text [.text "ann", .text "bob"])]⟩

/-- A host makes a crew of two, by a push to a crew of one, and is given a crew of four, two of whom
a command of the host has supplied. A push of a boolean to what it was given is refused. -/
theorem collections_stay_typed_crew :
    Script.compile crewRegistry (Script.lineSource "return: crew with twice: \"cid\"") =
      .ok crewProgram.script ∧
    ∃ s given crew, Session.Hosted s given ∧ given = [Collection.toValue crew] ∧
      crew.items.length = 4 ∧ crew.toValue.Typed ∧
      Collection.pushIn (.boolean true) crew =
        .error { cause := .misfit .boolean .text } crew := by
  have hcompile : Script.compile crewRegistry
      (Script.lineSource "return: crew with twice: \"cid\"") = .ok crewProgram.script := by
    with_unfolding_all rfl
  have htext : ∀ t, (Value.text t).Built (· ∈ ([] : List Value)) :=
    fun t => .scalar (by simp [Value.kind])
  have hone : Collection.typed .text [.text "ann"] = .ok ⟨.text, [.text "ann"]⟩ := rfl
  have htwo : Collection.push ⟨.text, [.text "ann"]⟩ (.text "bob") =
      .ok ⟨.text, [.text "ann", .text "bob"]⟩ := rfl
  have hcrew : ∀ b ∈ crewRequest.bindings.entries, b.2.Built (· ∈ ([] : List Value)) :=
    List.forall_mem_singleton.mpr
      (.push (.typed (List.forall_mem_singleton.mpr (htext _)) hone) (htext _) htwo)
  have hinstalled : (Session.install {} "p" crewProgram false).programs.get? "p" =
      some { program := crewProgram } := rfl
  have hhosted := (Hosted.start.install hcompile (crewRegistry_suppliesBuilt []) "p" false).run
    hinstalled hcrew 2
  obtain ⟨-, htyped, -, hpush, -⟩ := hhosted.collections_stay_typed
  exact ⟨hcompile, _, _, ⟨.text, [.text "ann", .text "bob", .text "cid", .text "cid"]⟩, hhosted,
    rfl, rfl, htyped _ (.given (List.mem_singleton_self _)), hpush _ _ _ rfl⟩

end Session

end StageScript
