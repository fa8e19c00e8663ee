import StageScript.Proofs.Session.Separation

/-!
# Names that collide between programs

A new name is checked against the stores that the run which creates it can see: the world and the
store of its own program. So the steps of a run never make two holders of one name for the program
that runs (`State.Collides.of_change`). They may do so for another program on the same world, which
holds the name in its own store: the run does not see that store.

This is the only way in which a name gets two holders (`Session.Reached.one_holder_or_trespass`).
Somewhere on the way to a session with such a name, another program gave the shared world a name
that was held in the store of this program (`Session.Trespass`). In a session where this never
happens, names are apart for every program, however the runs interleave.
-/

namespace StageScript

open Relation (ReflTransGen)

/-! ### The stores one run sees -/

/-- Two slots of different holders have variables of one name. -/
structure State.Collides (t : State) (j k : Slot) : Prop where
  name_eq : j.name = k.name
  holder_ne : j.holder ≠ k.holder
  left : (t.slot? j).isSome
  right : (t.slot? k).isSome

/-- **What a step fills.** It fills no slot, or it fills one, whose name no other holder has. -/
theorem State.filled_of_change {registry : Registry} {t t' : State} (hc : Change registry t t') :
    (∀ k, (t'.slot? k).isSome → (t.slot? k).isSome) ∨
    ∃ new, (∀ k, (t'.slot? k).isSome → k = new ∨ (t.slot? k).isSome) ∧
      ∀ k, k.name = new.name → (t.slot? k).isSome → k.holder = new.holder := by
  cases hc with
  | write cell v | bind scope name cell | set scope name v | newScope | choose place choice
  | note entry => exact .inl fun k hk => by cases k <;> exact hk
  | unassign tier scope id name =>
    refine .inl fun k hk => ?_
    rw [State.slot?_unassign] at hk
    split_ifs at hk
    · cases hk
    · exact hk
  | @assign _ tier scope id name v ha =>
    rcases State.assign_cases ha with ⟨cell, -, rfl⟩ | ⟨-, hr, rfl⟩
    · exact .inl fun k hk => by cases k <;> exact hk
    · have hslot := State.slot?_place { t with memory := (t.memory.newCell v).2 } tier scope id name
        t.memory.cells.size
      cases hnew : Slot.of? tier id name with
      | none =>
        refine .inl fun k hk => ?_
        rw [hslot, if_neg (by rw [hnew]; simp)] at hk
        cases k <;> exact hk
      | some new =>
        refine .inr ⟨new, fun k hk => ?_, fun k hname hk => ?_⟩
        · rw [hslot] at hk
          split_ifs at hk with hk'
          · rw [hnew, Option.some.injEq] at hk'
            exact .inl hk'.symm
          · cases k <;> exact .inr hk
        · have hseen := seenIn_of_slot hk
          rw [hname, Slot.name_of_of? hnew] at hseen
          exact holder_of_conflict (conflict_of_refusal hr) hnew hseen

namespace State.Collides

variable {registry : Registry} {t t' : State} {j k : Slot}

/-- **One step of a run makes no collision** in the stores that the run sees. -/
theorem of_change (hc : Change registry t t') (h : t'.Collides j k) : t.Collides j k := by
  rcases State.filled_of_change hc with hold | ⟨new, hold, hholder⟩
  · exact ⟨h.name_eq, h.holder_ne, hold j h.left, hold k h.right⟩
  · rcases hold j h.left with rfl | hj <;> rcases hold k h.right with rfl | hk
    · exact absurd rfl h.holder_ne
    · exact absurd (hholder k h.name_eq.symm hk).symm h.holder_ne
    · exact absurd (hholder j h.name_eq hj) h.holder_ne
    · exact ⟨h.name_eq, h.holder_ne, hj, hk⟩

theorem of_changes (hc : Changes registry t t') (h : t'.Collides j k) : t.Collides j k := by
  induction hc with
  | refl => exact h
  | tail _ hc ih => exact ih (h.of_change hc)

end State.Collides

/-- A slot of the world a program runs in, not of its own store. -/
def Slot.isShared : Slot → Bool
  | .world _ | .characterGlobal _ _ => true
  | .program _ | .characterLocal _ _ => false

/-- No character has a variable with the name of a shared variable of the same store. -/
def Store.Apart (store : Store) : Prop :=
  ∀ id name, (store.shared? name).isSome → (store.characters? id name).isSome → False

/-- In stores that are apart, only the program and its world can collide. -/
theorem State.Collides.isShared_ne {t : State} {j k : Slot} (h : t.Collides j k)
    (hown : t.own.Apart) (hworld : t.world.Apart) : j.isShared ≠ k.isShared := by
  obtain ⟨hname, hholder, hj, hk⟩ := h
  cases j <;> cases k <;> cases hname <;> simp_all [Slot.isShared, Slot.holder, State.slot?]
  · exact hworld _ _ hj hk
  · exact hown _ _ hj hk
  · exact hown _ _ hk hj
  · exact hworld _ _ hk hj

namespace Session

/-! ### Steps of a session -/

/-- A program of the session has made some steps. -/
def Works (s : Session) (id : String) (s' : Session) : Prop :=
  ∃ installed t, s.programs.get? id = some installed ∧
    Changes installed.program.registry (s.stateOf installed) t ∧ s' = s.takeBack id installed t

/-- **A step of a session**: a program is installed, or one makes some steps. -/
inductive Step (s : Session) : Session → Prop
  | install (id : String) (program : Program) (isPrivate : Bool) :
    Step s (s.install id program isPrivate)
  | work {id : String} {s' : Session} (h : s.Works id s') : Step s s'

theorem Reached.steps {s : Session} (h : s.Reached) : ReflTransGen Step {} s := by
  induction h with
  | start => exact .refl
  | install _ id program isPrivate ih => exact ih.tail (.install id program isPrivate)
  | @run s id installed _ hi fuel request ih =>
    have hchanges := runWithin_changes installed.program fuel request (s.stateOf installed)
    exact ih.tail (.work ⟨installed, _, hi, hchanges, rfl⟩)
  | @within _ _ installed t _ hi hc ih =>
    exact ih.tail (.work ⟨installed, t, hi, .single hc, rfl⟩)

variable {s s' : Session} {id : String} {installed : Installed}

/-! ### One store -/

/-- In every store of the session, the characters have no name of a shared variable. -/
def StoresApart (s : Session) : Prop :=
  ∀ name store, s.store? name = some store → store.Apart

theorem StoresApart.stateOf (h : s.StoresApart) (hi : s.programs.get? id = some installed) :
    (s.stateOf installed).own.Apart ∧ (s.stateOf installed).world.Apart := by
  obtain ⟨hown, hworld⟩ := store?_stateOf hi
  exact ⟨h _ _ hown, h _ _ hworld⟩

theorem StoresApart.step (h : s.StoresApart) (hstep : s.Step s') : s'.StoresApart := by
  intro name store hstore
  cases hstep with
  | install new program isPrivate =>
    rcases Separate.store?_install (s := s) new program isPrivate name with hsame | hempty
    · exact h name store (hsame ▸ hstore)
    · rw [hempty store hstore]
      intro _ _ hshared
      cases hshared
  | work hwork =>
    obtain ⟨installed, t, hi, hc, rfl⟩ := hwork
    obtain ⟨hown, hworld⟩ := h.stateOf hi
    rw [store?_takeBack hi] at hstore
    split_ifs at hstore
    · cases hstore
      intro actor name hshared hactor
      have hcollides : t.Collides (.program name) (.characterLocal actor name) :=
        ⟨rfl, by simp [Slot.holder], hshared, hactor⟩
      have hbefore := hcollides.of_changes hc
      exact hown actor name hbefore.left hbefore.right
    · cases hstore
      intro actor name hshared hactor
      have hcollides : t.Collides (.world name) (.characterGlobal actor name) :=
        ⟨rfl, by simp [Slot.holder], hshared, hactor⟩
      have hbefore := hcollides.of_changes hc
      exact hworld actor name hbefore.left hbefore.right
    · exact h name store hstore

theorem storesApart_of_steps (h : ReflTransGen Step {} s) : s.StoresApart := by
  induction h with
  | refl =>
    intro name store hstore
    cases name with
    | world =>
      cases hstore
      intro _ _ hshared
      cases hshared
    | own program | privateWorld program => cases hstore
  | tail _ hstep ih => exact ih.step hstep

/-! ### Two stores -/

/-- **A name has two holders for a program.** -/
def Collides (s : Session) (id : String) (j k : Slot) : Prop :=
  ∃ installed, s.programs.get? id = some installed ∧ (s.stateOf installed).Collides j k

theorem Collides.symm {j k : Slot} (h : s.Collides id j k) : s.Collides id k j :=
  let ⟨installed, hi, hc⟩ := h
  ⟨installed, hi, hc.name_eq.symm, hc.holder_ne.symm, hc.right, hc.left⟩

/-- **A trespass against a program**: by the steps of another program the shared world comes to
have a name that is held in the store of this one. -/
structure Trespass (s s' : Session) (id : String) (own shared : Slot) : Prop where
  work : ∃ other, other ≠ id ∧ s.Works other s'
  isShared : own.isShared = false ∧ shared.isShared = true
  before : ¬ s.Collides id own shared
  after : s'.Collides id own shared
  held : ∃ installed, s.programs.get? id = some installed ∧
    ((s.stateOf installed).slot? own).isSome ∧ (s.stateOf installed).slot? shared = none

section Work

variable {other : String}

/-- The program after its own steps sees the slots as the steps left them. -/
theorem slot?_stateOf_takeBack_self (t : State) {after : Installed}
    (hafter : (s.takeBack id installed t).programs.get? id = some after) (k : Slot) :
    ((s.takeBack id installed t).stateOf after).slot? k = t.slot? k := by
  simp only [takeBack, Table.get?_insert, if_true, Option.some.injEq] at hafter
  subst hafter
  cases hp : installed.privateWorld <;> cases k <;> simp [stateOf, takeBack, State.slot?, hp]

/-- A program keeps its own store while another one works. -/
theorem slot?_stateOf_takeBack_other (installed' : Installed) (t : State) {k : Slot}
    (hk : k.isShared = false) :
    ((s.takeBack other installed' t).stateOf installed).slot? k =
      (s.stateOf installed).slot? k := by
  cases k <;> first | rfl | cases hk

theorem get?_programs_takeBack (hne : other ≠ id) (installed' : Installed) (t : State) :
    (s.takeBack other installed' t).programs.get? id = s.programs.get? id := by
  simp [takeBack, Table.get?_insert, hne.symm]

/-- The steps of a program make no collision for the program itself. -/
theorem Collides.of_works_self {j k : Slot} (hw : s.Works id s') (h : s'.Collides id j k) :
    s.Collides id j k := by
  obtain ⟨installed, t, hi, hc, rfl⟩ := hw
  obtain ⟨after, hafter, hname, hholder, hj, hk⟩ := h
  rw [slot?_stateOf_takeBack_self t hafter] at hj hk
  have ht : t.Collides j k := ⟨hname, hholder, hj, hk⟩
  exact ⟨installed, hi, ht.of_changes hc⟩

/-- The steps of another program make a collision only by a trespass. -/
theorem Collides.of_works_other {own shared : Slot} (hw : s.Works other s') (hne : other ≠ id)
    (hown : own.isShared = false) (hshared : shared.isShared = true)
    (h : s'.Collides id own shared) :
    s.Collides id own shared ∨ s.Trespass s' id own shared := by
  have hwork := hw
  obtain ⟨installed', t, hi', hc, rfl⟩ := hw
  have hafter := h
  obtain ⟨installed, hi, hname, hholder, hj, -⟩ := h
  rw [get?_programs_takeBack hne] at hi
  rw [slot?_stateOf_takeBack_other installed' t hown] at hj
  cases hk : (s.stateOf installed).slot? shared with
  | some cell => exact .inl ⟨installed, hi, hname, hholder, hj, by rw [hk]; rfl⟩
  | none =>
    refine .inr ⟨⟨other, hne, hwork⟩, ⟨hown, hshared⟩, ?_, hafter, installed, hi, hj, hk⟩
    rintro ⟨installed₂, hi₂, -, -, -, hk₂⟩
    cases hi.symm.trans hi₂
    rw [hk] at hk₂
    cases hk₂

end Work

/-- Installing a program makes no collision: a new program has an empty store. -/
theorem Collides.of_install {new : String} {program : Program} {isPrivate : Bool}
    {own shared : Slot} (hown : own.isShared = false)
    (h : (s.install new program isPrivate).Collides id own shared) : s.Collides id own shared := by
  obtain ⟨installed, hi, hname, hholder, hj, hk⟩ := h
  have hget : (s.install new program isPrivate).programs.get? id = if id = new then
      some { program, privateWorld := if isPrivate then some {} else none } else
      s.programs.get? id := Table.get?_insert _ _ _ _
  rw [hget] at hi
  by_cases hid : id = new
  · rw [if_pos hid] at hi
    cases hi
    cases own <;> first | cases hj | cases hown
  · rw [if_neg hid] at hi
    exact ⟨installed, hi, hname, hholder, hj, hk⟩

/-- **Every collision goes back to a trespass**, which came first or is the last step. -/
theorem trespass_of_steps (h : ReflTransGen Step {} s) {own shared : Slot}
    (hown : own.isShared = false) (hshared : shared.isShared = true)
    (hc : s.Collides id own shared) :
    ∃ before after, ReflTransGen Step {} before ∧ before.Trespass after id own shared ∧
      ReflTransGen Step after s := by
  induction h with
  | refl =>
    obtain ⟨installed, hi, -⟩ := hc
    cases hi
  | @tail s s' hsteps hstep ih =>
    have hlater : s.Collides id own shared → ∃ before after, ReflTransGen Step {} before ∧
        before.Trespass after id own shared ∧ ReflTransGen Step after s' := fun hold =>
      let ⟨before, after, hbefore, htrespass, hafter⟩ := ih hold
      ⟨before, after, hbefore, htrespass, hafter.tail hstep⟩
    cases hstep with
    | install new program isPrivate => exact hlater (hc.of_install hown)
    | @work other _ hw =>
      by_cases hne : other = id
      · subst hne
        exact hlater (hc.of_works_self hw)
      · rcases hc.of_works_other hw hne hown hshared with hold | htrespass
        · exact hlater hold
        · exact ⟨s, s', hsteps, htrespass, .refl⟩

/-- **A name has one holder unless another program trespassed.** In a session that can be reached,
by any runs of any programs in any order, two holders of one name that a program sees are the same,
or the name came to the shared world on the way by the steps of another program, while this one held
it in its own store. -/
theorem Reached.one_holder_or_trespass {s : Session} (h : s.Reached) {id : String}
    {installed : Installed} (hi : s.programs.get? id = some installed) (name : String)
    (holder holder' : Holder) (hholds : (s.stateOf installed).Holds holder name)
    (hholds' : (s.stateOf installed).Holds holder' name) :
    holder = holder' ∨
    ∃ before after own shared, ReflTransGen Step {} before ∧
      before.Trespass after id own shared ∧ ReflTransGen Step after s ∧
      own.name = name ∧ shared.name = name ∧
      (own.holder = holder ∧ shared.holder = holder' ∨
        own.holder = holder' ∧ shared.holder = holder) := by
  obtain ⟨j, rfl, rfl, hj⟩ := hholds
  obtain ⟨k, rfl, hname, hk⟩ := hholds'
  by_cases hholder : j.holder = k.holder
  · exact .inl hholder
  · have hc : (s.stateOf installed).Collides j k := ⟨hname.symm, hholder, hj, hk⟩
    have hsteps := h.steps
    obtain ⟨hown, hworld⟩ := (storesApart_of_steps hsteps).stateOf hi
    have hne := hc.isShared_ne hown hworld
    have hs : s.Collides id j k := ⟨installed, hi, hc⟩
    -- one of the two is in the store of the program, the other in its world
    cases hjs : j.isShared with
    | false =>
      have hks : k.isShared = true := by simpa [hjs] using hne.symm
      obtain ⟨before, after, hbefore, htrespass, hafter⟩ := trespass_of_steps hsteps hjs hks hs
      exact .inr ⟨before, after, j, k, hbefore, htrespass, hafter, rfl, hname, .inl ⟨rfl, rfl⟩⟩
    | true =>
      have hks : k.isShared = false := by simpa [hjs] using hne.symm
      obtain ⟨before, after, hbefore, htrespass, hafter⟩ :=
        trespass_of_steps hsteps hks hjs hs.symm
      exact .inr ⟨before, after, k, j, hbefore, htrespass, hafter, hname, rfl, .inr ⟨rfl, rfl⟩⟩

/-! ### An example -/

/-- The script of one line that sets `GOLD` by a command. -/
def goldScript (command : String) : Script where
  labels := Table.empty
  lineLabels := Table.empty
  commands := ⟨[(0, ⟨command, [.value (.text "GOLD"), .value (.text "x")], 0⟩)]⟩
  startLine := 0
  lineCount := 1

/-- The script under the commands of the language. -/
def goldProgram (command : String) : Program where
  script := goldScript command
  registry := Registry.builtin

/-- Two programs that share a world: `p` sets `GOLD` for itself, `q` for the world. -/
def goldStart : Session :=
  (Session.install {} "p" (goldProgram "SET-FOR-PROGRAM") false).install "q"
    (goldProgram "SET-FOR-WORLD") false

/-- A session after a run of one of the two. -/
def goldAfter (s : Session) (id command : String) : Session :=
  s.takeBack id { program := goldProgram command }
    (((goldProgram command).runWithin 1 { actor := ⟨"c1", "BOB"⟩ }).after
      (s.stateOf { program := goldProgram command }))

/-- The session after a run of `p` and then one of `q`. -/
def goldSession : Session :=
  goldAfter (goldAfter goldStart "p" "SET-FOR-PROGRAM") "q" "SET-FOR-WORLD"

theorem goldSession_reached : goldSession.Reached := by
  have hstart : goldStart.Reached := .install (.install .start _ _ _) _ _ _
  have hfirst : (goldAfter goldStart "p" "SET-FOR-PROGRAM").Reached := .run hstart rfl 1 _
  have hq : (goldAfter goldStart "p" "SET-FOR-PROGRAM").programs.get? "q" =
      some { program := goldProgram "SET-FOR-WORLD" } := rfl
  exact .run hfirst hq 1 _

theorem goldSession_holders :
    ∃ installed, goldSession.programs.get? "p" = some installed ∧
      (goldSession.stateOf installed).Holds .world "GOLD" ∧
      (goldSession.stateOf installed).Holds .program "GOLD" :=
  ⟨_, rfl, ⟨.world "GOLD", rfl, rfl, rfl⟩, ⟨.program "GOLD", rfl, rfl, rfl⟩⟩

/-- **Two holders of one name.** After these runs `p` sees `GOLD` in the world and in its own store;
in the other order the run of `p` is refused the name. -/
theorem two_holders_gold :
    goldSession.Reached ∧
    (∃ installed, goldSession.programs.get? "p" = some installed ∧
      (goldSession.stateOf installed).Holds .world "GOLD" ∧
      (goldSession.stateOf installed).Holds .program "GOLD") ∧
    ∃ fault t, (goldProgram "SET-FOR-PROGRAM").runWithin 1 { actor := ⟨"c1", "BOB"⟩ }
        ((goldAfter goldStart "q" "SET-FOR-WORLD").stateOf
          { program := goldProgram "SET-FOR-PROGRAM" }) = .error (.fault fault) t ∧
      fault.cause = .tierConflict .program "GOLD" .world := by
  exact ⟨goldSession_reached, goldSession_holders, _, _, rfl, rfl⟩

theorem one_holder_or_trespass_gold :
    ∃ before after : Session, before.Trespass after "p" (.program "GOLD") (.world "GOLD") ∧
      ReflTransGen Step after goldSession := by
  obtain ⟨installed, hp, hworld, hprogram⟩ := goldSession_holders
  have h := goldSession_reached.one_holder_or_trespass hp "GOLD" .program .world hprogram hworld
  rcases h with h | ⟨before, after, own, shared, -, htrespass, hafter, hown, hshared, hholder⟩
  · cases h
  · have hprivate := htrespass.isShared
    rcases hholder with ⟨ho, hs⟩ | ⟨ho, hs⟩
    · cases own <;> cases ho
      cases shared <;> cases hs
      cases hown
      cases hshared
      exact ⟨before, after, htrespass, hafter⟩
    · cases own <;> cases ho
      cases hprivate.1

end Session

end StageScript
