import StageScript.Command.Registry
import StageScript.Proofs.Value.Typed

/-!
# Values that commands of a host supply

A command of a host comes by values in two ways: its host has given them to it, and services answer
with them (`Service.gives`). It brings values into a run in two ways as well: it hands them to a
service (`Service.takes`), and it gives them back. `HostAction.SuppliesBuilt` says that each value
it brings into a run is built from those it has come by until then.
-/

namespace StageScript

/-! ### Values in results -/

/-- The values that an exit hands on. -/
def Exit.values : Exit → List Value
  | .returned v | .returnedAll v => [v]
  | .completed last => last.toList
  | .ended | .wentBack => []

/-- The values that a signal carries. -/
def Signal.values : Signal → List Value
  | .returnValue v | .returnAll v => [v]
  | .exit how => how.values
  | .endAll | .goBack => []

/-- The value of a final result, or those that its signal carries. -/
def Settled.values : Settled → List Value
  | .value v => [v]
  | .signal s => s.values

/-- The values that a command of a host gives back. -/
def HostReply.values : HostReply → List Value
  | .value v => [v]
  | .signal s => s.values
  | .tailCall _ | .jump _ _ _ => []

/-! ### Values in services -/

/-- The values that a service is handed. -/
def Service.takes : Service → List Value
  | .assign _ _ v _ | .write _ v | .setIn _ _ v => [v]
  | _ => []

/-- **The values in an answer.** Those that are no collections need not be listed. -/
def Service.gives : (service : Service) → service.Answer → List Value
  | .evaluate _ _, v => [v]
  | .collection _, c => [c.toValue]
  | .run _, settled => settled.values
  | .read _, v => [v]
  | .contents _, names => names.map (·.2)
  | _, _ => []

/-- **A command of a host supplies no values but built ones**, from those it was given and those in
the answers it gets. -/
inductive HostAction.SuppliesBuilt : (given : List Value) → HostAction → Prop
  | done {given : List Value} {reply : HostReply}
    (hreply : ∀ v ∈ reply.values, v.Built (· ∈ given)) : SuppliesBuilt given (.done reply)
  | fail {given : List Value} (f : Fault) : SuppliesBuilt given (HostProgram.fail f)
  | ask {given : List Value} {index : Option Number} {service : Service}
    {next : Except Fault service.Answer → HostAction}
    (htakes : ∀ v ∈ service.takes, v.Built (· ∈ given))
    (hok : ∀ answer, SuppliesBuilt (service.gives answer ++ given) (next (.ok answer)))
    (hfault : ∀ f, SuppliesBuilt given (next (.error f))) :
    SuppliesBuilt given (.ask index service next)

/-- **All commands of a host supply built values.** -/
def Registry.SuppliesBuilt (registry : Registry) (given : List Value) : Prop :=
  ∀ name type action, registry.get? name = some type → type.behaviour = .host action →
    action.SuppliesBuilt given

end StageScript
