import StageScript.Proofs.Source.Labels
import StageScript.Proofs.Token.Reading
import StageScript.Engine.Slot

/-!
# Jumping to a label by its name

A label is declared by one grammar and named by another. In front of a line any capitals, digits,
underscores and dashes may stand in the brackets; behind `GO-TO` or `DO` the label has to be one
word of the line. So a label that starts with a digit or a dash, or with `NOT-` and goes on, can be
declared but not jumped to by its name (`Token.isOneWord`).

The text behind the command is read up to its first token (`Token.readFrom_word`); what the parsers
make of that token is the same for both commands (`Line.labelName`).
-/

namespace StageScript

open Text LabelLine

/-- The line that jumps to a label: a command, a colon and the label. -/
def jumpLine (name label : String) : List Char := name.toList ++ ':' :: ' ' :: label.toList

/-- The registry has the commands of the language. -/
def Registry.HasBuiltins (registry : Registry) : Prop :=
  ∀ c ∈ Registry.builtinCommands, registry.signature? c.signature.name = some c.signature

theorem Registry.hasBuiltins_builtin : Registry.builtin.HasBuiltins := by
  unfold HasBuiltins
  decide +kernel

/-! ### Tokens of a jump -/

namespace Token

/-- **Whether a label is one word of a line.** A word does not start with a digit or a dash, and
`NOT-` is cut off what follows it. -/
def isOneWord (label : List Char) : Bool :=
  (label.head?.map isWordStart).getD false &&
    !(negation.isPrefixOf label && !(label.drop negation.length).isEmpty)

variable {line start : Nat} {word rest : List Char}

/-- Characters of a label that start a word are read to their end. -/
theorem readFrom_word (hname : isLabelName word = true)
    (hstart : (word.head?.map isWordStart).getD false = true)
    (hrest : ∀ c ∈ rest.head?, isWordChar c = false) :
    readFrom line start (word ++ rest) = do
      let tokens ← readFrom line (start + byteLength word) rest
      return ofWord start word ++ tokens := by
  cases word with
  | nil => cases hname
  | cons c cs =>
    obtain ⟨-, hcs⟩ : isLabelChar c = true ∧ ∀ d ∈ cs, isLabelChar d = true := by
      simpa [isLabelName] using hname
    have hall : ∀ d ∈ cs, isWordChar d = true := fun d hd => (lexed_of_isLabelChar (hcs d hd)).2.2.1
    exact readFrom_wordChars hstart hall hrest

theorem readFrom_word_end (hname : isLabelName word = true)
    (hstart : (word.head?.map isWordStart).getD false = true) :
    readFrom line start word = .ok (ofWord start word) := by
  have hread : readFrom line start (word ++ []) = _ := readFrom_word hname hstart nofun
  rw [List.append_nil, readFrom] at hread
  rw [hread]
  exact congrArg Except.ok (List.append_nil _)

theorem ofWord_of_isOneWord (h : isOneWord word = true) :
    ofWord start word = [⟨.word (String.ofList word), start, start + byteLength word⟩] := by
  have hcut : ¬ (negation.isPrefixOf word && !(word.drop negation.length).isEmpty) = true := by
    rw [Bool.not_eq_true, ← Bool.not_eq_true']
    exact (Bool.and_eq_true_iff.mp h).2
  exact if_neg hcut

/-- The tokens behind a command are those of the label. -/
theorem ofLine_jumpLine {name label : String} (hname : isLabelName name.toList = true)
    (hword : isOneWord name.toList = true) :
    ofLine line (jumpLine name label) = do
      let tokens ← readFrom line (byteLength name.toList + 2) label.toList
      return ⟨.word name, 0, byteLength name.toList⟩ ::
        ⟨.symbol ':', byteLength name.toList, byteLength name.toList + 1⟩ :: tokens := by
  have hstart := (Bool.and_eq_true_iff.mp hword).1
  have hcolon : ∀ c ∈ (':' :: ' ' :: label.toList).head?, isWordChar c = false := by
    rintro c ⟨⟩
    decide
  unfold ofLine jumpLine
  rw [readFrom_word hname hstart hcolon, ofWord_of_isOneWord hword, readFrom_symbol (by decide),
    readFrom_blank (by decide), bind_assoc, Nat.zero_add, String.ofList_toList]
  rfl

/-- A label that is one word is one token. -/
theorem readFrom_of_isOneWord {label : String} (hname : isLabelName label.toList = true)
    (hword : isOneWord label.toList = true) :
    readFrom line start label.toList =
      .ok [⟨.word label, start, start + byteLength label.toList⟩] := by
  rw [readFrom_word_end hname (Bool.and_eq_true_iff.mp hword).1, ofWord_of_isOneWord hword,
    String.ofList_toList]

/-- A label that is not one word starts with another token than a word, or is cut behind `NOT-`. -/
theorem readFrom_of_not_isOneWord {label : List Char} (hname : isLabelName label = true)
    (hword : isOneWord label = false) {tokens : List Token}
    (h : readFrom line start label = .ok tokens) :
    (∃ t ts, tokens = t :: ts ∧ ∀ s, t.kind ≠ .word s) ∨
      ∃ rest a b c, tokens = [⟨.word "NOT-", start, a⟩, ⟨.word rest, b, c⟩] := by
  cases label with
  | nil => cases hname
  | cons c cs =>
    have hc : isLabelChar c = true := (Bool.and_eq_true_iff.mp (Bool.and_eq_true_iff.mp hname).2).1
    obtain ⟨hblank, hquote, -, hclass, -⟩ := lexed_of_isLabelChar hc
    by_cases hstart : isWordStart c = true
    · -- the label is a word that is cut
      rw [readFrom_word_end hname hstart] at h
      cases h
      unfold isOneWord at hword
      rw [List.head?_cons, Option.map_some, Option.getD_some, hstart, Bool.true_and,
        Bool.not_eq_false'] at hword
      have hcut : ofWord start (c :: cs) = [_, _] := if_pos hword
      rw [hcut]
      exact .inr ⟨_, _, _, _, rfl⟩
    · rcases hclass with hdigit | hclass | rfl
      · rw [readFrom, if_neg (by simp [hblank]), if_neg hquote, if_pos hdigit] at h
        obtain ⟨t, ht, h⟩ := exists_of_bind h
        obtain ⟨ts, -, h⟩ := exists_of_bind h
        cases h
        unfold ofNumber at ht
        split at ht
        · cases ht
        · cases ht
          exact .inl ⟨_, _, rfl, fun s => TokenKind.noConfusion⟩
      · exact absurd hclass hstart
      · rw [readFrom_symbol (by decide)] at h
        obtain ⟨ts, -, h⟩ := exists_of_bind h
        cases h
        exact .inl ⟨_, _, rfl, fun s => TokenKind.noConfusion⟩

end Token

/-! ### Commands that jump -/

namespace Line

variable {line : Line} {ts rest : Tokens} {label : String}

theorem labelName_of_word (hlabel : label = startLabel ∨ isReserved label = false) (a b : Nat) :
    line.labelName (⟨.word label, a, b⟩ :: rest) = .ok (label, rest) := by
  unfold labelName word
  dsimp only [bind, Except.bind]
  rw [if_neg (by rcases hlabel with rfl | h <;> simp [*])]
  rfl

theorem lookUp_of_mem (h : line.registry.HasBuiltins) {c : CommandType}
    (hc : c ∈ Registry.builtinCommands) :
    line.lookUp c.signature.name = .ok c.signature := by
  unfold lookUp
  rw [h c hc]

theorem skipSymbol_colon (c d : Nat) :
    Tokens.skipSymbol ':' (⟨.symbol ':', c, d⟩ :: ts) = ts := rfl

theorem commandOver_goTo (h : line.registry.HasBuiltins) (nested : Level) (a b c d : Nat) :
    line.commandOver nested (⟨.word "GO-TO", a, b⟩ :: ⟨.symbol ':', c, d⟩ :: ts) =
      if ts.atParamEnd then .error (line.fault (.tooFewParams "GO-TO" 1)) else do
        let (label, rest) ← line.labelName ts
        return (⟨"GO-TO", [.ofText label, .ofLine line.number], line.number⟩, rest) := by
  have hlook := lookUp_of_mem h
    (c := ⟨{ name := "GO-TO", params := [.label, .line], form := .goTo }, .goTo⟩)
    (by simp [Registry.builtinCommands, Registry.flowCommands])
  dsimp only at hlook
  unfold commandOver
  dsimp only [word, bind, Except.bind]
  rw [hlook]
  dsimp only [params, standardParams, bind, Except.bind]
  rw [skipSymbol_colon]
  by_cases hend : ts.atParamEnd = true
  · rw [if_pos hend, if_pos hend]
    rfl
  · rw [if_neg hend, if_neg hend]
    dsimp only [slot, bind, Except.bind]
    cases line.labelName ts <;> rfl

theorem commandOver_call (h : line.registry.HasBuiltins) (nested : Level) (a b c d : Nat) :
    line.commandOver nested (⟨.word "DO", a, b⟩ :: ⟨.symbol ':', c, d⟩ :: ts) = do
      let (label, rest) ← line.labelName ts
      let (bindings, rest) ← line.withList nested rest
      return (⟨"DO", [.ofText label, bindings, .ofLine line.number], line.number⟩, rest) := by
  have hlook := lookUp_of_mem h
    (c := ⟨{ name := "DO", params := [.label, .bindings, .line], form := .call }, .call⟩)
    (by simp [Registry.builtinCommands, Registry.flowCommands])
  dsimp only at hlook
  unfold commandOver
  dsimp only [word, bind, Except.bind]
  rw [hlook]
  dsimp only [params, callParams, bind, Except.bind]
  rw [skipSymbol_colon]
  cases line.labelName ts with
  | error f => rfl
  | ok read =>
    dsimp only
    cases line.withList nested read.2 <;> rfl

/-- A line is read as a command with nothing but colons behind it. -/
theorem command_eq_ok_iff {tokens : Tokens} {c : Command} :
    line.command tokens = .ok c ↔
      ∃ rest, line.commandOver (line.level tokens.length) tokens = .ok (c, rest) ∧
        rest.dropWhile (·.kind.isSymbol ':') = [] := by
  unfold command
  constructor
  · intro h
    obtain ⟨⟨c', rest⟩, hread, h⟩ := exists_of_bind h
    dsimp only at h
    split at h
    · next hrest =>
      cases h
      exact ⟨rest, hread, hrest⟩
    · cases h
  · rintro ⟨rest, hread, hrest⟩
    have hlevel : (line.level (tokens.length + 1)).command tokens = .ok (c, rest) := hread
    rw [hlevel]
    dsimp only [bind, Except.bind]
    rw [hrest]
    rfl

/-- Behind a word of its own, a word is left that no call takes. -/
theorem withList_of_word {nested : Level} {word : String} {a b : Nat} {p : Param}
    (h : line.withList nested [⟨.word word, a, b⟩] = .ok (p, rest)) :
    rest = [⟨.word word, a, b⟩] := by
  unfold withList at h
  split at h
  · next ts hts =>
    -- behind `WITH` the opening bracket is missing
    have : ts = [] := by
      simp only [Tokens.skipSymbol, Tokens.eat?, TokenKind.isSymbol, Bool.false_eq_true, if_false,
        Option.getD_none] at hts
      split at hts
      · exact (Option.some.inj hts).symm
      · cases hts
    subst this
    cases h
  · cases h
    rfl

theorem kind_of_labelName {t : Token} (h : line.labelName (t :: ts) = .ok (label, rest)) :
    t.kind = .word label ∧ rest = ts := by
  obtain ⟨⟨word, ts'⟩, hword, h⟩ := exists_of_bind h
  obtain ⟨kind, a, b⟩ := t
  unfold Line.word at hword
  split at hword
  · next heq =>
    cases heq
    cases hword
    dsimp only at h
    split at h
    · cases h
    · cases h
      exact ⟨rfl, rfl⟩
  · cases hword

end Line

/-! ### Jumps -/

namespace Script

open Token

variable {registry : Registry} {label : String} {number : Nat} {c : Command}

theorem compileLine_eq_ok_iff {text : List Char} :
    compileLine registry number text = .ok c ↔ (Line.mk registry text number).parse = .ok c := by
  unfold compileLine
  split <;> simp_all

theorem compileLine_goTo (h : registry.HasBuiltins) (hname : isLabelName label.toList = true)
    (hlabel : label = startLabel ∨ isReserved label = false)
    (hword : isOneWord label.toList = true) (number : Nat) :
    compileLine registry number (jumpLine "GO-TO" label) =
      .ok ⟨"GO-TO", [.ofText label, .ofLine number], number⟩ := by
  rw [compileLine_eq_ok_iff]
  unfold Line.parse
  dsimp only
  rw [ofLine_jumpLine (by decide) (by decide), readFrom_of_isOneWord hname hword]
  refine Line.command_eq_ok_iff.mpr ⟨[], ?_, rfl⟩
  rw [Line.commandOver_goTo h]
  refine (if_neg Bool.false_ne_true).trans ?_
  rw [Line.labelName_of_word hlabel]
  rfl

theorem compileLine_call (h : registry.HasBuiltins) (hname : isLabelName label.toList = true)
    (hlabel : label = startLabel ∨ isReserved label = false)
    (hword : isOneWord label.toList = true) (number : Nat) :
    compileLine registry number (jumpLine "DO" label) =
      .ok ⟨"DO", [.ofText label, .bindings [], .ofLine number], number⟩ := by
  rw [compileLine_eq_ok_iff]
  unfold Line.parse
  dsimp only
  rw [ofLine_jumpLine (by decide) (by decide), readFrom_of_isOneWord hname hword]
  refine Line.command_eq_ok_iff.mpr ⟨[], ?_, rfl⟩
  rw [Line.commandOver_call h, Line.labelName_of_word hlabel]
  rfl

/-- What is read of a line that jumps and compiles. -/
theorem exists_tokens_of_jump {name : String} (hname : isLabelName name.toList = true)
    (hword : isOneWord name.toList = true)
    (h : compileLine registry number (jumpLine name label) = .ok c) :
    ∃ (line : Line) (tokens rest : Tokens) (start a b d : Nat), line.registry = registry ∧
      readFrom number start label.toList = .ok tokens ∧
      line.commandOver (line.level (tokens.length + 2))
        (⟨.word name, 0, a⟩ :: ⟨.symbol ':', b, d⟩ :: tokens) = .ok (c, rest) ∧
      rest.dropWhile (·.kind.isSymbol ':') = [] := by
  rw [compileLine_eq_ok_iff] at h
  obtain ⟨tokens, htokens, h⟩ := exists_of_bind h
  rw [ofLine_jumpLine hname hword] at htokens
  obtain ⟨tokens, hread, htokens⟩ := exists_of_bind htokens
  cases htokens
  obtain ⟨rest, h, hcolons⟩ := Line.command_eq_ok_iff.mp h
  exact ⟨_, tokens, rest, _, _, _, _, rfl, hread, h, hcolons⟩

/-- The text behind the command of a jump is one word, unless a word is left over behind it. -/
theorem isOneWord_of_labelName {line : Line} (hname : isLabelName label.toList = true)
    {start : Nat} {tokens : Tokens} (hread : readFrom number start label.toList = .ok tokens)
    {word : String} {rest : Tokens} (hlabel : line.labelName tokens = .ok (word, rest))
    (hrest : ∀ word a b, rest ≠ [⟨.word word, a, b⟩]) : isOneWord label.toList = true := by
  by_contra hword
  rcases readFrom_of_not_isOneWord hname (by simpa using hword) hread with
    ⟨t, ts, rfl, ht⟩ | ⟨other, a, b, c, rfl⟩
  · exact ht word (Line.kind_of_labelName hlabel).1
  · exact hrest other b c (Line.kind_of_labelName hlabel).2

theorem isOneWord_of_goTo (h : registry.HasBuiltins) (hname : isLabelName label.toList = true)
    (hc : compileLine registry number (jumpLine "GO-TO" label) = .ok c) :
    isOneWord label.toList = true := by
  obtain ⟨line, tokens, rest, start, a, b, d, rfl, hread, hc, hcolons⟩ :=
    exists_tokens_of_jump (by decide) (by decide) hc
  rw [Line.commandOver_goTo h] at hc
  split at hc
  · cases hc
  · obtain ⟨⟨word, rest⟩, hlabel, hc⟩ := exists_of_bind hc
    cases hc
    refine isOneWord_of_labelName hname hread hlabel fun word a b hrest => ?_
    subst hrest
    cases hcolons

theorem isOneWord_of_call (h : registry.HasBuiltins) (hname : isLabelName label.toList = true)
    (hc : compileLine registry number (jumpLine "DO" label) = .ok c) :
    isOneWord label.toList = true := by
  obtain ⟨line, tokens, rest, start, a, b, d, rfl, hread, hc, hcolons⟩ :=
    exists_tokens_of_jump (by decide) (by decide) hc
  rw [Line.commandOver_call h] at hc
  obtain ⟨⟨word, behind⟩, hlabel, hc⟩ := exists_of_bind hc
  obtain ⟨⟨bindings, rest⟩, hwith, hc⟩ := exists_of_bind hc
  cases hc
  refine isOneWord_of_labelName hname hread hlabel fun word a b hbehind => ?_
  subst hbehind
  rw [Line.withList_of_word hwith] at hcolons
  cases hcolons

end Script

/-- A text that is a label leads to its line. -/
theorem Context.labelTarget_of_label {program : Program} {ctx : Context} {index line : Nat}
    {label : String} (hparam : ctx.param index = .ofText label)
    (hline : program.script.lineOf? label = some line) (s : State) :
    ctx.labelTarget program index s = .ok line s := by
  have hname : ctx.name index = pure label := by
    unfold Context.name
    rw [hparam]
    rfl
  unfold labelTarget
  rw [hname, pure_bind, hline]
  rfl

namespace Prepared

variable {sources : Sources} {prepared : Prepared} {label : String} {line : Nat}

theorem LabelsOf.isLabelName (h : prepared.LabelsOf sources)
    (hlabel : prepared.labels.get? label = some line) :
    isLabelName label.toList = true ∧ (label = startLabel ∨ isReserved label = false) := by
  by_cases hstart : label = startLabel
  · subst hstart
    exact ⟨by decide, .inl rfl⟩
  · obtain ⟨text, -, htext⟩ := Option.bind_eq_some_iff.mp ((h.written hstart line).mp hlabel)
    exact isLabelName_of_labelOf? htext

/-- **The labels that can be jumped to by name** are those that are one word. Then both commands
compile on every line, with the label as literal text that leads to the line it is declared on; for
any other label neither command compiles. -/
theorem jump_iff_isOneWord (h : ofSources sources = .ok prepared)
    (hlabel : prepared.labels.get? label = some line) {registry : Registry}
    (hregistry : registry.HasBuiltins) (number : Nat) :
    (Token.isOneWord label.toList = true →
      Script.compileLine registry number (jumpLine "GO-TO" label) =
        .ok ⟨"GO-TO", [.ofText label, .ofLine number], number⟩ ∧
      Script.compileLine registry number (jumpLine "DO" label) =
        .ok ⟨"DO", [.ofText label, .bindings [], .ofLine number], number⟩ ∧
      ∀ (program : Program) (ctx : Context) (s : State), program.script.labels = prepared.labels →
        ctx.param 0 = .ofText label → ctx.labelTarget program 0 s = .ok line s) ∧
    (Token.isOneWord label.toList = false → ∀ c,
      Script.compileLine registry number (jumpLine "GO-TO" label) ≠ .ok c ∧
      Script.compileLine registry number (jumpLine "DO" label) ≠ .ok c) := by
  obtain ⟨hname, hallowed⟩ := (labelsOf_ofSources h).isLabelName hlabel
  refine ⟨fun hword => ⟨?_, ?_, fun program ctx s hlabels hparam => ?_⟩, fun hword c => ⟨?_, ?_⟩⟩
  · exact Script.compileLine_goTo hregistry hname hallowed hword number
  · exact Script.compileLine_call hregistry hname hallowed hword number
  · refine Context.labelTarget_of_label hparam ?_ s
    rw [← hlabel, ← hlabels]
    rfl
  · intro hc
    rw [Script.isOneWord_of_goTo hregistry hname hc] at hword
    cases hword
  · intro hc
    rw [Script.isOneWord_of_call hregistry hname hc] at hword
    cases hword

/-! ### Examples -/

/-- A line with a label that is a word, and one with a label that starts with a digit. -/
def stageSources : Sources := ⟨[("main", "[pay-1]: end\n[1st]: end")]⟩

theorem labels_stageSources : ∃ prepared, ofSources stageSources = .ok prepared ∧
    prepared.labels.get? "PAY-1" = some 0 ∧ prepared.labels.get? "1ST" = some 1 := by
  have hlabels : (ofSources stageSources).toOption.map
      (fun prepared => (prepared.labels.get? "PAY-1", prepared.labels.get? "1ST")) =
        some (some 0, some 1) := by
    decide +kernel
  cases hprepared : ofSources stageSources with
  | error f =>
    rw [hprepared] at hlabels
    cases hlabels
  | ok prepared =>
    rw [hprepared] at hlabels
    exact ⟨prepared, rfl, Prod.mk.inj (Option.some.inj hlabels)⟩

theorem jump_to_pay :
    ∃ prepared, ofSources stageSources = .ok prepared ∧
      Script.compileLine Registry.builtin 5 (jumpLine "DO" "PAY-1") =
        .ok ⟨"DO", [.ofText "PAY-1", .bindings [], .ofLine 5], 5⟩ ∧
      ∀ c, Script.compileLine Registry.builtin 5 (jumpLine "DO" "1ST") ≠ .ok c := by
  obtain ⟨prepared, h, hpay, hfirst⟩ := labels_stageSources
  have hbuiltin := Registry.hasBuiltins_builtin
  exact ⟨prepared, h, ((jump_iff_isOneWord h hpay hbuiltin 5).1 (by decide)).2.1,
    fun c => ((jump_iff_isOneWord h hfirst hbuiltin 5).2 (by decide) c).2⟩

/-- Not every label can be jumped to by its name. -/
theorem no_jump_to_digit :
    ∃ prepared, ofSources stageSources = .ok prepared ∧ prepared.labels.get? "1ST" = some 1 ∧
      Registry.builtin.HasBuiltins ∧ ∀ number c,
        Script.compileLine Registry.builtin number (jumpLine "GO-TO" "1ST") ≠ .ok c ∧
        Script.compileLine Registry.builtin number (jumpLine "DO" "1ST") ≠ .ok c := by
  obtain ⟨prepared, h, -, hfirst⟩ := labels_stageSources
  refine ⟨prepared, h, hfirst, Registry.hasBuiltins_builtin, fun number c => ⟨fun hc => ?_,
    fun hc => ?_⟩⟩
  · have := Script.isOneWord_of_goTo Registry.hasBuiltins_builtin (by decide) hc
    exact absurd this (by decide)
  · have := Script.isOneWord_of_call Registry.hasBuiltins_builtin (by decide) hc
    exact absurd this (by decide)

end Prepared

end StageScript
