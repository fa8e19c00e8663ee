import StageScript.Command.Service

/-!
# Programs of a host

What a command of a host does is a tree: it asks its context for a service and goes on from the
answer, or from the fault if there is none, until it is done or fails. Programs are put together
with `do`; then a fault that a service answers with is handed on (`HostProgram.call`).

The end of the module has the commands with which hosts try out a context.
-/

namespace StageScript

/-- **A program of a host.** -/
inductive HostProgram (α : Type) where
  | done (result : α)
  | fail (fault : Fault)
  /-- Asks for a service, where `LOOP-INDEX` may be bound for the occasion. -/
  | ask (index : Option Number) (service : Service)
    (next : Except Fault service.Answer → HostProgram α)

namespace HostProgram

variable {α β : Type}

/-- One program after another. -/
def andThen : HostProgram α → (α → HostProgram β) → HostProgram β
  | done a, f => f a
  | fail fault, _ => fail fault
  | ask index service next, f => ask index service fun answer => (next answer).andThen f

instance : Monad HostProgram where
  pure := done
  bind := andThen

/-- Goes on from the answer; a fault is handed on. -/
def handOn (next : α → HostProgram β) : Except Fault α → HostProgram β
  | .ok a => next a
  | .error fault => fail fault

/-- Asks for a service and hands on a fault. -/
def call (service : Service) (index : Option Number := none) : HostProgram service.Answer :=
  ask index service (handOn done)

/-- Asks for a service and looks at a fault. -/
def attempt (service : Service) : HostProgram (Except Fault service.Answer) :=
  ask none service done

/-- The value of a slot. -/
def value (index : Nat) : HostProgram Value := call (.evaluate index [])

/-- Fails with a code and a text on the line where the command is executed. -/
def raise (code text : String) : HostProgram α := do
  let site ← call .site
  fail (.on site.line (.raised code text))

end HostProgram

/-- What a command of a host hands back. -/
inductive HostReply where
  | value (v : Value)
  | signal (s : Signal)
  /-- The command in a slot is to be run in its place. -/
  | tailCall (index : Nat)
  | jump (kind : JumpKind) (line : Nat) (scope : ScopeId)

namespace HostReply

/-- Nothing to hand back. -/
def unit : HostReply := .value .unit

/-- A final result as a reply. -/
def ofSettled : Settled → HostReply
  | .value v => .value v
  | .signal s => .signal s

end HostReply

/-- **What a command of a host does.** -/
abbrev HostAction := HostProgram HostReply

namespace HostAction

open HostProgram

/-! ### Trying out a context -/

/-- Logs the text of its first slot. -/
def say : HostAction := do
  let v ← value 0
  call (.note (.said v.display))
  return .unit

/-- The values of the slots from `index` on. -/
def valuesFrom : (count index : Nat) → HostProgram (List Value)
  | 0, _ => pure []
  | count + 1, index => do
    let v ← value index
    let vs ← valuesFrom count (index + 1)
    return v :: vs

/-- Logs the values of all slots. -/
def values : HostAction := do
  let site ← call .site
  let vs ← valuesFrom site.command.params.length 0
  call (.note (.values vs))
  return .unit

/-- A slot read by its declared kind; a signal of a command it holds is handed on. -/
def readSlot (kind : ParamKind) (index : Nat) : HostProgram (Except Signal SlotReading) := do
  match kind with
  | .number => return .ok (.value (.number (← call (.number index))))
  | .text => return .ok (.value (.text (← call (.text index))))
  | .boolean => return .ok (.value (.boolean (← call (.boolean index))))
  | .collection _ => return .ok (.value (← call (.collection index)).toValue)
  | .name => return .ok (.value (.text (← call (.name index))))
  | .label => return .ok (.line (← call (.labelTarget index)))
  | .line => return .ok (.line (← call (.lineParam index)))
  | .command =>
    match ← call (.run index) with
    | .value v => return .ok (.value v)
    | .signal s => return .error s
  | .any | .bindings => return .ok (.value (← value index))

/-- The slots from `index` on, each read by its declared kind, up to the first signal. -/
def readSlots : (kinds : List ParamKind) → (index : Nat) →
    HostProgram (Except Signal (List SlotReading))
  | [], _ => pure (.ok [])
  | kind :: kinds, index => do
    match ← readSlot kind index with
    | .error s => return .error s
    | .ok reading =>
      match ← readSlots kinds (index + 1) with
      | .error s => return .error s
      | .ok readings => return .ok (reading :: readings)

/-- Logs all slots, each read by its declared kind. -/
def typed : HostAction := do
  let site ← call .site
  match ← readSlots site.signature.params 0 with
  | .error s => return .signal s
  | .ok readings =>
    call (.note (.readings readings))
    return .unit

/-- Gives back its first slot. -/
def echo : HostAction := do
  let v ← value 0
  return .value v

/-- Gives the number of items of its first slot. -/
def count : HostAction := do
  let c ← call (.collection 0)
  return .value (.number (.ofInt c.items.length))

/-- Runs the command in its first slot. -/
def run : HostAction := do
  let settled ← call (.run 0)
  return .ofSettled settled

/-- Is replaced by the command in its first slot. -/
def tail : HostAction := return .tailCall 0

/-- Runs the command in the second slot with `LOOP-INDEX` going up from `index`. -/
def repeatFrom : (count index : Nat) → HostAction
  | 0, _ => return .unit
  | count + 1, index => do
    match ← call (.run 1) (some (.ofInt index)) with
    | .signal s => return .signal s
    | .value _ => repeatFrom count (index + 1)

/-- Runs the command in its second slot as often as the first says. -/
def repeated : HostAction := do
  let count ← call (.number 0)
  repeatFrom count.int.toNat 0

/-- Logs the temporary scope. -/
def scope : HostAction := do
  let site ← call .site
  let contents ← call (.contents site.scope)
  call (.note (.scope contents))
  return .unit

/-- Logs where it is executed. -/
def whereabouts : HostAction := do
  let site ← call .site
  call (.note (.place site.line site.actor site.command.name site.loopIndex))
  return .unit

/-- Fails on its line with the text of its first slot. -/
def fail : HostAction := do
  let v ← value 0
  raise "HOST_FAIL" v.display

/-- Fails without a line. -/
def failPlain : HostAction := HostProgram.fail { cause := .raised "HOST_FAIL" "no line" }

/-- The tier a slot names. -/
def tierSlot (index : Nat) : HostProgram Tier := do
  let word ← call (.text index)
  match Tier.ofName? word with
  | some tier => return tier
  | none => raise "HOST_TIER" word

/-- The character a slot names, if the command has that slot, or else the actor. -/
def characterSlot (index : Nat) : HostProgram String := do
  let site ← call .site
  if index < site.command.params.length then call (.text index) else return site.actor.id

/-- Sets a variable of a tier; the character may be named in the last slot. -/
def put : HostAction := do
  let tier ← tierSlot 0
  let name ← call (.text 1)
  let v ← value 2
  let id ← characterSlot 3
  call (.assign tier name v id)
  return .unit

/-- Removes a variable of a tier; the character may be named in the last slot. -/
def drop : HostAction := do
  let tier ← tierSlot 0
  let name ← call (.text 1)
  let id ← characterSlot 2
  call (.unassign tier name id)
  return .unit

/-- Writes the second slot into the cell behind the first. -/
def poke : HostAction := do
  let v ← value 1
  let cell ← call (.cell 0)
  call (.write cell v)
  return .unit

/-- Does nothing. -/
def nothing : HostAction := return .unit

end HostAction

end StageScript
