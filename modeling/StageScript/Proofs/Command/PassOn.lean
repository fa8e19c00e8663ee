import StageScript.Engine.Host
import StageScript.Proofs.Command.Language

/-!
# Commands of a host that hand errors on

A service that is asked for may answer with a fault, and a command of a host may look at it and go
on. A program hands errors on if it never does so: where it gets a fault instead of an answer, it
fails with this fault (`HostProgram.PassesErrorsOn`). Programs that are put together from calls do
(`passesErrorsOn_call`, `PassesErrorsOn.andThen`), and carrying them out is going on from the
answers alone (`carryOut_ask_of_passesErrorsOn`).
-/

namespace StageScript

namespace HostProgram

variable {α β : Type}

/-- **A program hands errors on**: the fault of a service is its own fault. -/
inductive PassesErrorsOn : HostProgram α → Prop
  | done (a : α) : PassesErrorsOn (.done a)
  | fail (f : Fault) : PassesErrorsOn (.fail f)
  | ask {index : Option Number} {service : Service}
    {next : Except Fault service.Answer → HostProgram α}
    (hok : ∀ answer, PassesErrorsOn (next (.ok answer)))
    (hfault : ∀ f, next (.error f) = .fail f) : PassesErrorsOn (.ask index service next)

theorem PassesErrorsOn.andThen {p : HostProgram α} {f : α → HostProgram β}
    (hp : p.PassesErrorsOn) (hf : ∀ a, (f a).PassesErrorsOn) : (p.andThen f).PassesErrorsOn := by
  induction hp with
  | done a => exact hf a
  | fail fault => exact .fail fault
  | ask _ hfault ih =>
    refine .ask ih fun fault => ?_
    rw [hfault]
    rfl

end HostProgram

open HostProgram

/-- Whatever is no command of a host hands errors on. -/
def Behaviour.PassesErrorsOn : Behaviour → Prop
  | .host action => action.PassesErrorsOn
  | _ => True

/-- **All commands hand errors on.** -/
def Registry.PassesErrorsOn (registry : Registry) : Prop :=
  ∀ name type, registry.get? name = some type → type.behaviour.PassesErrorsOn

namespace Registry

theorem OfLanguage.passesErrorsOn {registry : Registry} (h : registry.OfLanguage) :
    registry.PassesErrorsOn := by
  intro name type htype
  cases hbehaviour : type.behaviour with
  | host action => exact absurd hbehaviour (h.ne_host htype action)
  | _ => trivial

theorem passesErrorsOn_builtin : builtin.PassesErrorsOn := ofLanguage_builtin.passesErrorsOn

theorem PassesErrorsOn.register {registry : Registry} {c : CommandType}
    (h : registry.PassesErrorsOn) (hc : c.behaviour.PassesErrorsOn) :
    (registry.register c).PassesErrorsOn := by
  intro name type htype
  rcases eq_or_get?_of_register htype with ⟨rfl, -⟩ | htype
  · exact hc
  · exact h name type htype

end Registry

/-! ### Faults as results -/

namespace Run

variable {α β : Type} {m : Run α} {s t : State}

theorem attempt_of_ok {a : α} (h : m s = .ok a t) : m.attempt s = .ok (.ok a) t := by
  unfold attempt
  rw [h]

theorem attempt_of_fault {f : Fault} (h : m s = .error (.fault f) t) :
    m.attempt s = .ok (.error f) t := by
  unfold attempt
  rw [h]

theorem attempt_of_outOfFuel (h : m s = .error .outOfFuel t) :
    m.attempt s = .error .outOfFuel t := by
  unfold attempt
  rw [h]

/-- To look at a fault and fail with it is not to look at it. -/
theorem attempt_bind {k : Except Fault α → Run β} (hk : ∀ f, k (.error f) = Run.fail f) :
    m.attempt >>= k = m >>= fun a => k (.ok a) := by
  funext s
  show EStateM.bind _ _ s = EStateM.bind _ _ s
  unfold EStateM.bind
  cases h : m s with
  | ok a t => rw [attempt_of_ok h]
  | error e t =>
    cases e with
    | outOfFuel => rw [attempt_of_outOfFuel h]
    | fault f =>
      rw [attempt_of_fault h]
      exact congrFun (hk f) t

end Run

theorem Context.carryOut_ask_of_passesErrorsOn {α : Type} (program : Program) (settle : Settle)
    (ctx : Context) (signature : Signature) {index : Option Number} {service : Service}
    {next : Except Fault service.Answer → HostProgram α}
    (hfault : ∀ f, next (.error f) = .fail f) :
    ctx.carryOut program settle signature (.ask index service next) = (do
      let answer ← (ctx.rebound index).answer program settle signature service
      ctx.carryOut program settle signature (next (.ok answer))) :=
  Run.attempt_bind fun f => by rw [hfault, carryOut]

end StageScript
