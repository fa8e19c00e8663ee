import StageScript.Proofs.Token.Pieces

/-!
# Where the grammar finds fault

Whatever is wrong with a line, the fault lies on that line (`Line.line_of_parse`), and what it
quotes, it quotes from one of the tokens on (`Line.quotesFrom_of_parse`). What stops the lexer
quotes nothing; of the parsers it is said where they follow themselves
(`Line.Closed.follows_level`).
-/

namespace StageScript

/-- What stops the lexer lies on the line and quotes nothing of it. By induction along the text. -/
theorem Token.blames_of_readFrom {number start : Nat} {cs : List Char} {f : Fault}
    (h : readFrom number start cs = .error f) :
    f.line = some number ∧ f.cause.quoted? = none := by
  induction start, cs using reading_induction with
  | nil start =>
    rw [readFrom] at h
    cases h
  | obstacle start text code cause hobstacle =>
    cases (readFrom_obstacle hobstacle).symm.trans h
    cases hobstacle <;> exact ⟨rfl, rfl⟩
  | blank start c rest hc ih =>
    rw [readFrom_blank hc] at h
    exact ih h
  | piece start spelled us rest hpiece hwhole ih =>
    rw [readFrom_piece hpiece hwhole] at h
    cases hrest : readFrom number (start + Text.byteLength spelled) rest with
    | error g =>
      rw [hrest] at h
      cases h
      exact ih hrest
    | ok more =>
      rw [hrest] at h
      cases h

namespace Line

variable {line : Line} {f : Fault}

/-- What the levels do not read and what they leave has a fault on the line. -/
theorem blames_of_command {tokens : Tokens} (h : line.command tokens = .error f) :
    line.Blames tokens f := by
  have hfollows := (line.closed_true.follows_level (tokens.length + 1)
    (tokens.length + 1)).command (rfl : tokens = tokens)
  have hlevel := hfollows (Nat.lt_succ_self _)
  unfold command at h
  cases hread : (line.level (tokens.length + 1)).command tokens with
  | error g =>
    rw [hread] at h hlevel
    cases h
    cases hlevel with
    | error hblames => exact hblames
  | ok read =>
    obtain ⟨c, rest⟩ := read
    rw [hread] at h hlevel
    dsimp only [bind, Except.bind] at h
    split at h
    · cases h
    · next t others hdrop =>
      cases h
      refine ⟨rfl, ?_⟩
      rintro _ ⟨⟩
      have hmem : t ∈ rest := (List.dropWhile_suffix _).mem (hdrop ▸ List.mem_cons_self)
      cases hlevel with
      | ok => exact ⟨t, List.mem_append_right _ hmem, rfl⟩

section Parse

variable (h : line.parse = .error f)
include h

/-- **A line that cannot be read has its fault on itself.** -/
theorem line_of_parse : f.line = some line.number := by
  unfold parse at h
  cases htokens : Token.ofLine line.number line.text with
  | error g =>
    rw [htokens] at h
    cases h
    exact (Token.blames_of_readFrom htokens).1
  | ok tokens =>
    rw [htokens] at h
    exact (blames_of_command h).line_eq

/-- **What a fault quotes of a line, it quotes from one of the tokens on.** -/
theorem quotesFrom_of_parse {rest : String} (hrest : f.cause.quoted? = some rest) :
    ∃ tokens, Token.ofLine line.number line.text = .ok tokens ∧
      ∃ t ∈ tokens, rest = line.textFrom t := by
  unfold parse at h
  cases htokens : Token.ofLine line.number line.text with
  | error g =>
    rw [htokens] at h
    cases h
    cases (Token.blames_of_readFrom htokens).2.symm.trans hrest
  | ok tokens =>
    rw [htokens] at h
    exact ⟨tokens, rfl, (blames_of_command h).quotesFrom rest hrest⟩

end Parse

end Line

end StageScript
