import StageScript.Grammar.Expression
import StageScript.Keyword
import StageScript.Suggestion

/-!
# Commands

A command is a word that names it and the slots its signature asks for. A primary may again be a
command, and a command holds expressions, so the two are read by parsers of levels: those of level
`n + 1` use those of level `n` for what stands behind their first token. A level serves the lists
with fewer tokens than it, so the level above the number of tokens of a line reads all of it.
-/

namespace StageScript

/-- The parsers of one level. -/
structure Level where
  command : Tokens → Except Fault (Command × Tokens)
  primary : Tokens → Except Fault (Operand × Tokens)

/-- A command from its params, if their number is that of the signature. -/
def Command.ofParams (signature : Signature) (params : List Param) (line : Nat) :
    Except Fault Command :=
  if params.length = signature.params.length then .ok ⟨signature.name, params, line⟩
  else .error (.on line (.paramCount signature.name signature.params.length params.length))

namespace Line

variable (line : Line)

/-! ### Names -/

/-- The signature of a command. -/
def lookUp (name : String) : Except Fault Signature :=
  match line.registry.signature? name with
  | some signature => .ok signature
  | none =>
    .error (line.fault (.unknownCommand name (Suggestion.closest? name line.registry.names)))

/-- A label. -/
def labelName (ts : Tokens) : Except Fault (String × Tokens) := do
  let (label, ts) ← line.word "a label name" ts
  if label ≠ startLabel && isReserved label then throw (line.fault (.reservedLabel label))
  else return (label, ts)

/-- The name of a variable. -/
def variableName (ts : Tokens) : Except Fault (String × Tokens) := do
  let (name, ts) ← line.word "a variable name" ts
  if isReserved name then throw (line.fault (.reservedVariable name))
  else if line.registry.hasCommand name then throw (line.fault (.commandAsVariable name))
  else return (name, ts)

/-- The tokens behind a setter. -/
def setter? (ts : Tokens) : Option Tokens :=
  ts.eat? fun t => t.isSymbol '=' || t.isWordOf ["TO", "IS", "AS", "EQUALS"]

section Nested

variable (nested : Level)

/-! ### Forms -/

/-- `NAME = value` -/
def assignment (ts : Tokens) : Except Fault ((String × Param) × Tokens) := do
  let (name, ts) ← line.variableName ts
  match setter? ts with
  | none => throw (line.expected "'=', TO, IS, AS or EQUALS" ts)
  | some ts =>
    let (value, ts) ← line.valueSlot nested.primary ts
    return ((name, value), ts)

/-- `NAME = value` as the params of a command. -/
def setParams (ts : Tokens) : Except Fault (List Param × Tokens) := do
  let ((name, value), ts) ← line.assignment nested ts
  return ([.ofText name, value], ts)

/-- `NAME` as the params of a command. -/
def unsetParams (ts : Tokens) : Except Fault (List Param × Tokens) := do
  let (name, ts) ← line.variableName ts
  return ([.ofText name], ts)

/-- One binding of a `WITH` list; a name alone stands for the variable of that name. -/
def binding (ts : Tokens) : Except Fault ((String × Param) × Tokens) := do
  let (name, ts) ← line.variableName ts
  match setter? ts with
  | some ts =>
    let (value, ts) ← line.comparisons nested.primary ts
    return ((name, value), ts)
  | none => return ((name, .variable name), ts)

/-- A `WITH` list. -/
def bindingList (ts : Tokens) : Except Fault (Param × Tokens) :=
  match ts.eat? (·.isSymbol '[') with
  | none => .error (line.expected "'[' to open the WITH bindings" ts)
  | some ts =>
    match ts.eat? (·.isSymbol ']') with
    | some ts => .ok (.bindings [], ts)
    | none => do
      let (list, ts) ← separated line .unterminatedBindings (line.binding nested) ts.length ts
      return (.bindings list, ts)

/-- One slot. -/
def slot (kind : ParamKind) (ts : Tokens) : Except Fault (Param × Tokens) :=
  match kind with
  | .command => do
    let (command, ts) ← nested.command ts
    return (.command command, ts)
  | .label => do
    let (label, ts) ← line.labelName ts
    return (.ofText label, ts)
  | .name => do
    let (name, ts) ← line.variableName ts
    return (.ofText name, ts)
  | .bindings => line.bindingList nested ts
  | .line => .ok (.ofLine line.number, ts)
  | .collection element => line.collectionSlot nested.primary element ts
  | .boolean => line.conditionSlot nested.primary ts
  | .any | .number | .text => line.valueSlot nested.primary ts

/-- The number of slots that are written. -/
def writtenSlots (kinds : List ParamKind) : Nat := kinds.countP (· ≠ .line)

/-- One slot after the other, with a colon allowed before each. -/
def standardParams (signature : Signature) :
    List ParamKind → Tokens → Except Fault (List Param × Tokens)
  | [], ts => .ok ([], ts)
  | .line :: kinds, ts => do
    let (params, ts) ← standardParams signature kinds ts
    return (.ofLine line.number :: params, ts)
  | kind :: kinds, ts => do
    let ts := ts.skipSymbol ':'
    if ts.atParamEnd then
      throw (line.fault (.tooFewParams signature.name (writtenSlots signature.params)))
    let (param, ts) ← line.slot nested kind ts
    let (params, ts) ← standardParams signature kinds ts
    return (param :: params, ts)

/-- The tokens behind `WORLD` or `PROGRAM`, with the word. -/
def tierWord? : Tokens → Option (String × Tokens)
  | [] => none
  | t :: ts =>
    if t.kind.isWord "WORLD" then some ("WORLD", ts)
    else if t.kind.isWord "PROGRAM" then some ("PROGRAM", ts)
    else none

/-- The params of a command that sets or removes a variable for some targets. The word `WORLD` or
`PROGRAM` in their place turns it into the command for that tier. -/
def targetParams (signature : Signature) (setting : Bool) (ts : Tokens) :
    Except Fault ((Signature × List Param) × Tokens) := do
  let rest := if setting then line.setParams nested else line.unsetParams
  match tierWord? ts with
  | some (tier, ts) =>
    let redirected ← line.lookUp ((if setting then "SET-FOR-" else "UN-SET-FOR-") ++ tier)
    let (params, ts) ← rest (ts.skipSymbol ':')
    return ((redirected, params), ts)
  | none =>
    let (targets, ts) ← line.collectionSlot nested.primary .character ts
    let (params, ts) ← rest (ts.skipSymbol ':')
    return ((signature, targets :: params), ts)

/-- The `WITH` list of a call; without the word nothing is taken. -/
def withList (ts : Tokens) : Except Fault (Param × Tokens) :=
  match (ts.skipSymbol ':').eat? (·.isWord "WITH") with
  | some ts => line.bindingList nested (ts.skipSymbol ':')
  | none => .ok (.bindings [], ts)

/-- `LABEL WITH [bindings]` -/
def callParams (ts : Tokens) : Except Fault (List Param × Tokens) := do
  let (label, ts) ← line.labelName ts
  let (bindings, ts) ← line.withList nested ts
  return ([.ofText label, bindings, .ofLine line.number], ts)

/-- The `ELSE` branch; without the word nothing is taken. -/
def elseBranch (ts : Tokens) : Except Fault (Param × Tokens) :=
  match (ts.skipSymbol ':').eat? (·.isWord "ELSE") with
  | some ts => do
    let (command, ts) ← nested.command (ts.skipSymbol ':')
    return (.command command, ts)
  | none => .ok (.absent, ts)

/-- `condition : command : ELSE : command` -/
def conditionalParams (ts : Tokens) : Except Fault (List Param × Tokens) := do
  let (condition, ts) ← line.conditionSlot nested.primary ts
  let (command, ts) ← nested.command (ts.skipSymbol ':')
  let (otherwise, ts) ← elseBranch nested ts
  return ([condition, .command command, otherwise], ts)

/-- The params of a command, with the signature they belong to. -/
def params (signature : Signature) (ts : Tokens) :
    Except Fault ((Signature × List Param) × Tokens) :=
  let same (read : Except Fault (List Param × Tokens)) :
      Except Fault ((Signature × List Param) × Tokens) := do
    let (params, ts) ← read
    return ((signature, params), ts)
  match signature.form with
  | .standard | .goTo => same (line.standardParams nested signature signature.params ts)
  | .set => same (line.setParams nested (ts.skipSymbol ':'))
  | .unset => same (line.unsetParams (ts.skipSymbol ':'))
  | .setFor => line.targetParams nested signature true (ts.skipSymbol ':')
  | .unsetFor => line.targetParams nested signature false (ts.skipSymbol ':')
  | .call => same (line.callParams nested (ts.skipSymbol ':'))
  | .conditional => same (line.conditionalParams nested (ts.skipSymbol ':'))

/-- A command. -/
def commandOver (ts : Tokens) : Except Fault (Command × Tokens) := do
  let (name, ts) ← line.word "a command name" ts
  let signature ← line.lookUp name
  let ((signature, params), ts) ← line.params nested signature ts
  let command ← Command.ofParams signature params line.number
  return (command, ts)

/-! ### Primaries -/

/-- A primary that starts with a word; `ts` starts with it and `rest` is behind it. -/
def wordPrimary (word : String) (ts rest : Tokens) : Except Fault (Operand × Tokens) :=
  match word with
  | "TRUE" => .ok (⟨.value (.boolean true), .boolean⟩, rest)
  | "FALSE" => .ok (⟨.value (.boolean false), .boolean⟩, rest)
  | "LOOP-INDEX" => .ok (⟨.loopIndex, .number⟩, rest)
  | "LOOP-OBJECT" => .ok (⟨.loopObject, .unknown⟩, rest)
  | _ =>
    if line.registry.hasCommand word then do
      let (command, ts) ← line.commandOver nested ts
      return (⟨.command command, .ofCommand line.registry word⟩, ts)
    else if isReserved word then .error (line.fault (.reservedValue word))
    else .ok (⟨.variable word, .unknown⟩, rest)

/-- A number directly behind a minus sign, with the tokens behind it. -/
def negativeLiteral? (minus : Token) : Tokens → Option (Float × Tokens)
  | ⟨.number x, start, _⟩ :: rest => if start = minus.stop then some (-x, rest) else none
  | _ => none

/-- A primary. -/
def primaryOver (ts : Tokens) : Except Fault (Operand × Tokens) :=
  match ts with
  | [] => .error (line.expected "a value" ts)
  | t :: rest =>
    match t.kind with
    | .symbol '(' => do
      let (inner, ts) ← line.valueSlot nested.primary rest
      match ts.eat? (·.isSymbol ')') with
      | some ts => return (⟨inner, .ofParam line.registry inner⟩, ts)
      | none => throw (line.fault .unterminatedCondition)
    | .symbol '[' => do
      let (literal, ts) ← line.collectionLiteral nested.primary .any rest
      return (⟨literal, .collection⟩, ts)
    | .symbol '-' =>
      match negativeLiteral? t rest with
      | some (x, rest) => .ok (⟨.ofFloat x, .number⟩, rest)
      | none => .error (line.expected "a value" ts)
    | .symbol _ => .error (line.expected "a value" ts)
    | .text s => .ok (⟨.ofText s, .text⟩, rest)
    | .number x => .ok (⟨.ofFloat x, .number⟩, rest)
    | .word s => line.wordPrimary nested s ts rest

end Nested

/-! ### Levels -/

/-- The parsers of each level. Level zero serves no list. -/
def level : Nat → Level
  | 0 => ⟨fun ts => .error (line.expected "a command name" ts),
      fun ts => .error (line.expected "a value" ts)⟩
  | n + 1 => ⟨line.commandOver (level n), line.primaryOver (level n)⟩

/-- The command of the whole line; colons behind it are passed over. -/
def command (tokens : Tokens) : Except Fault Command := do
  let (command, rest) ← (line.level (tokens.length + 1)).command tokens
  match rest.dropWhile (·.kind.isSymbol ':') with
  | [] => return command
  | t :: _ => throw (line.fault (.trailingText (line.textFrom t)))

/-- Reads the command of a line of text. -/
def parse : Except Fault Command := do
  let tokens ← Token.ofLine line.number line.text
  line.command tokens

end Line

end StageScript
