import StageScript.Value.Display

/-!
# How a stretch of lines comes to an end

A frame is a stretch of lines run one after the other. `Exit` says how a frame finished. A `Signal`
is what a command sends to the frame it runs in, and `Settled` is the final result of a command: a
value, or a signal. A jump enters a frame of its `JumpKind`.
-/

namespace StageScript

/-- How a frame finished. -/
inductive Exit where
  | ended
  | returned (value : Value)
  | returnedAll (value : Value)
  | wentBack
  /-- It ran past the last line; the last value of a line that is not unit is kept. -/
  | completed (last : Option Value)

/-- What a command sends to its frame. -/
inductive Signal where
  | endAll
  | returnValue (value : Value)
  | returnAll (value : Value)
  | goBack
  /-- A frame that took over the rest of this one finished. -/
  | exit (how : Exit)

/-- The final result of a command. -/
inductive Settled where
  | value (v : Value)
  | signal (s : Signal)

/-- Whether a jump keeps the scope and the rest of the frame, or comes back like a call. -/
inductive JumpKind where
  | goTo
  | call
deriving DecidableEq, Repr

/-- The description of an exit. -/
def Exit.describe : Exit → String
  | .ended => "Ended"
  | .returned v => "Returned(" ++ v.describe ++ ")"
  | .returnedAll v => "ReturnedAll(" ++ v.describe ++ ")"
  | .wentBack => "WentBack"
  | .completed none => "Completed(None)"
  | .completed (some v) => "Completed(Some(" ++ v.describe ++ "))"

/-- The description of a signal. -/
def Signal.describe : Signal → String
  | .endAll => "End"
  | .returnValue v => "Return(" ++ v.describe ++ ")"
  | .returnAll v => "ReturnAll(" ++ v.describe ++ ")"
  | .goBack => "GoBack"
  | .exit how => "Exit(" ++ how.describe ++ ")"

end StageScript
