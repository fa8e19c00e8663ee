import StageScript.Number
import StageScript.Text.Blank
import StageScript.Text.Letter
import StageScript.Text.Hidden
import StageScript.Text.UpperCase
import StageScript.Text.Quoted
import StageScript.Value.Collection
import StageScript.Directory.Json
import StageScript.Keyword
import StageScript.Command.Registry
import StageScript.Token.Lexer
import StageScript.Syntax.Param
import StageScript.Suggestion
import StageScript.Grammar.Command
import StageScript.Script
import StageScript.Store.State
import StageScript.Engine.Evaluate
import StageScript.Engine.Run
import StageScript.Session
import StageScript.Main
import StageScript.Proofs.Syntax.Nesting
import StageScript.Proofs.Syntax.Column
import StageScript.Proofs.Engine.Choice
import StageScript.Proofs.Engine.History
import StageScript.Proofs.Engine.Isolation
import StageScript.Proofs.Store.Names
import StageScript.Proofs.Session.Separation
import StageScript.Proofs.Session.Ownership
import StageScript.Proofs.Session.Collision
import StageScript.Proofs.Grammar.WellFormed
import StageScript.Proofs.Engine.Termination
import StageScript.Proofs.Machine.Refinement
import StageScript.Proofs.Engine.Safe
import StageScript.Proofs.Grammar.StaticKind
import StageScript.Proofs.Engine.Column
import StageScript.Proofs.Grammar.Level
import StageScript.Proofs.Grammar.Literal
import StageScript.Proofs.Engine.LateChoice
import StageScript.Proofs.Engine.ShortCircuit
import StageScript.Proofs.Engine.Agreement
import StageScript.Proofs.Engine.Parentheses
import StageScript.Proofs.Engine.Limits
import StageScript.Proofs.Engine.Signals
import StageScript.Proofs.Engine.Trace
import StageScript.Proofs.Source.Labels
import StageScript.Proofs.Source.Jump
import StageScript.Proofs.Source.Spelling
import StageScript.Proofs.Engine.Extension
import StageScript.Proofs.Engine.CalleeScope
import StageScript.Proofs.Source.Literals
import StageScript.Proofs.Json.RoundTrip
import StageScript.Proofs.Session.Typed
import StageScript.Proofs.Engine.AllOrNothing
import StageScript.Proofs.Grammar.Condition
import StageScript.Proofs.Token.Reading
import StageScript.Proofs.Grammar.Slots
import StageScript.Proofs.Source.OneLine
import StageScript.Proofs.Source.Arithmetic
import StageScript.Proofs.Grammar.Branching
import StageScript.Proofs.Value.Difference
import StageScript.Proofs.Engine.CollectionSlot
import StageScript.Proofs.Source.SingleLine
import StageScript.Proofs.Engine.HostNames
import StageScript.Proofs.Engine.Countdown
import StageScript.Proofs.Engine.TailCalls
import StageScript.Proofs.Token.Pieces
import StageScript.Proofs.Source.VariableNames
import StageScript.Proofs.Grammar.Progress
import StageScript.Proofs.Token.Coverage
import StageScript.Proofs.Source.Continuation
