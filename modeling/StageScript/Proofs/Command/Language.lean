import StageScript.Command.Registry

/-!
# The commands of the language

What is in a registry follows from how it was made: under a name there is the command registered
last (`Registry.eq_or_get?_of_register`). So the registry that is built in holds the commands of the
language and no others (`Registry.mem_of_builtin`), and none of them is a command of a host
(`Registry.OfLanguage.isHost`).
-/

namespace StageScript

/-- Commands that a host adds. -/
def Behaviour.isHost : Behaviour → Bool
  | .host _ => true
  | _ => false

namespace Registry

variable {r : Registry} {name : String} {type : CommandType}

theorem eq_or_get?_of_register {c : CommandType} (h : (r.register c).get? name = some type) :
    type = c ∧ c.signature.name = name ∨ r.get? name = some type := by
  rw [register, Table.get?_insert] at h
  split at h
  · next hname =>
    cases h
    exact .inl ⟨rfl, hname.symm⟩
  · exact .inr h

theorem get?_registerAll {cs : List CommandType} (h : (r.registerAll cs).get? name = some type) :
    r.get? name = some type ∨ type ∈ cs ∧ type.signature.name = name := by
  induction cs generalizing r with
  | nil => exact .inl h
  | cons c cs ih =>
    rcases ih h with h | ⟨hmem, hname⟩
    · rcases eq_or_get?_of_register h with ⟨rfl, hname⟩ | h
      · exact .inr ⟨List.mem_cons_self, hname⟩
      · exact .inl h
    · exact .inr ⟨List.mem_cons_of_mem c hmem, hname⟩

theorem mem_of_builtin (h : builtin.get? name = some type) :
    type ∈ builtinCommands ∧ type.signature.name = name := by
  rcases get?_registerAll h with h | h
  · cases h
  · exact h

theorem isHost_of_mem (h : type ∈ builtinCommands) : type.behaviour.isHost = false := by
  have hall : ∀ type ∈ builtinCommands, type.behaviour.isHost = false := by decide
  exact hall type h

/-- All commands of the registry are commands of the language. -/
def OfLanguage (registry : Registry) : Prop :=
  ∀ key type, registry.get? key = some type → type ∈ builtinCommands

theorem ofLanguage_builtin : builtin.OfLanguage := fun _ _ htype => (mem_of_builtin htype).1

theorem OfLanguage.isHost (h : r.OfLanguage) (htype : r.get? name = some type) :
    type.behaviour.isHost = false := isHost_of_mem (h name type htype)

theorem OfLanguage.ne_host (h : r.OfLanguage) (htype : r.get? name = some type)
    (action : HostAction) : type.behaviour ≠ .host action := by
  intro haction
  have hnone := h.isHost htype
  rw [haction] at hnone
  cases hnone

end Registry

end StageScript
