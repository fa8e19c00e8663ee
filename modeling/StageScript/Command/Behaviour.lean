import StageScript.Command.Action

/-!
# Behaviours of commands

What a command does when it is executed. The commands of the language have a behaviour each; what a
command of a host does is a program of the host.
-/

namespace StageScript

/-- **What a command does.** -/
inductive Behaviour where
  | endAll
  | goBack
  | goTo
  | call
  | branch (negated : Bool)
  | strayElse
  | returnValue
  | returnAll
  | repeatWhile (negated : Bool)
  | repeatFor
  | counted (descending : Bool)
  | countdownWith
  | countUpWith
  | always
  | forEach
  | set (tier : Tier)
  | setHere
  | unset (tier : Tier)
  | setFor (tier : Tier)
  | unsetFor (tier : Tier)
  | host (action : HostAction)

end StageScript
