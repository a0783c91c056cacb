import RelSchema.Proofs.Framing.Steps
import RelSchema.Sql.Definition

namespace RelSchema.Sql.Script

/-- Outside of comments and quotations, in any depth of parentheses. -/
structure Place.IsOutside (p : Place) : Prop where
  code : p.mode = .code
  unquoted : p.scan.quote = none

section Comment

variable {w rest : List Char}

theorem pieces_blockComment (p : Place) (within : ¬ ['*', '/'] <:+: w) :
    pieces { p with mode := .blockComment } (w ++ '*' :: '/' :: rest) =
      pieces { p with mode := .code, before := some '/' } rest := by
  induction w generalizing p with
  | nil => rfl
  | cons c w ih =>
    have tail : ¬ ['*', '/'] <:+: w := fun inside => within (inside.trans (w.suffix_cons c).isInfix)
    have stays : ¬ (c = '*' ∧ (w ++ '*' :: '/' :: rest).head? = some '/') := by
      rintro ⟨rfl, second⟩
      cases w with
      | nil => cases second
      | cons d w =>
        obtain rfl : d = '/' := Option.some.inj second
        exact within ⟨[], w, rfl⟩
    rw [List.cons_append, pieces]
    simp only [if_neg stays]
    exact ih { p with before := some c } tail

theorem pieces_lineComment (p : Place) (within : '\n' ∉ w) :
    pieces { p with mode := .lineComment } (w ++ '\n' :: rest) =
      consPiece '\n' (pieces ({ p with mode := .code }.take '\n') rest) := by
  induction w generalizing p with
  | nil => rfl
  | cons c w ih =>
    simp only [List.mem_cons, not_or] at within
    rw [List.cons_append, pieces]
    simp only [if_neg (Ne.symm within.1)]
    exact ih { p with before := some c } within.2

variable {p : Place} (outside : p.IsOutside)

include outside

theorem take_space {c : Char} (space : c = ' ' ∨ c = '\n') :
    p.take c = { p with before := some c } := by
  have plain : isPlain c = true := by rcases space with rfl | rfl <;> decide
  have blank : Text.isBlank c = true := by rcases space with rfl | rfl <;> decide
  have level : p.scan = atLevel p.scan.depth := by rw [atLevel, ← outside.unquoted]
  have stays : p.scan.step c = p.scan := by rw [level, step_plain plain]
  simp [Place.take, stays, blank]

theorem pieces_space {c : Char} (space : c = ' ' ∨ c = '\n') (rest : List Char) :
    pieces p (c :: rest) = consPiece c (pieces { p with before := some c } rest) := by
  have plain : isPlain c = true := by rcases space with rfl | rfl <;> decide
  have noWord : startsNoCreate c = true := by rcases space with rfl | rfl <;> decide
  obtain ⟨semicolon, slash, dash, -⟩ := isPlain_ne plain
  have noBreak : breaksBefore p (c :: rest) = false := by
    rw [breaksBefore, startsCreate_cons noWord, Bool.and_false]
  rw [pieces_cons outside.code (fun _ => semicolon) (fun _ => ⟨slash, fun same => absurd same dash⟩)
    (fun _ => noBreak), take_space outside space]

theorem pieces_block (within : ¬ ['*', '/'] <:+: w) :
    pieces p ('/' :: '*' :: (w ++ '*' :: '/' :: rest)) = pieces p (' ' :: rest) := by
  have opened : pieces p ('/' :: '*' :: (w ++ '*' :: '/' :: rest)) =
      consPiece ' ' (pieces { p with mode := .blockComment, before := some '*' }
        (w ++ '*' :: '/' :: rest)) := by
    simp [pieces, outside.code, outside.unquoted]
  have back : { p with mode := .code, before := some '/' } = { p with before := some '/' } := by
    rw [← outside.code]
  rw [opened, pieces_blockComment { p with before := some '*' } within,
    pieces_space outside (.inl rfl), back]
  -- What follows sees a slash before it, or a space: neither belongs to a word.
  exact congrArg _ (pieces_before_congr p (by decide) rest)

theorem pieces_line (within : '\n' ∉ w) :
    pieces p ('-' :: '-' :: (w ++ '\n' :: rest)) = pieces p ('\n' :: rest) := by
  have opened : pieces p ('-' :: '-' :: (w ++ '\n' :: rest)) =
      pieces { p with mode := .lineComment, before := some '-' } (w ++ '\n' :: rest) := by
    have dash : '-' ≠ '\n' := by decide
    simp [pieces, outside.code, outside.unquoted, dash]
  have back : Place.take { p with mode := .code, before := some '-' } '\n' =
      { p with before := some '\n' } := by
    rw [← take_space outside (.inr rfl), Place.take, Place.take, ← outside.code]
  rw [opened, pieces_lineComment { p with before := some '-' } within,
    pieces_space outside (.inr rfl), back]

end Comment

def EndsOutside (script : String) : Prop := (Place.after {} script.toList).IsOutside

/-- Two scripts with the same statements, which are read alike. -/
structure ReadAlike (script script' : String) : Prop where
  statements : statements script = statements script'
  reading : ∀ d item, readWith d item script = readWith d item script'

theorem ReadAlike.of_pieces {script script' : String}
    (same : pieces {} script.toList = pieces {} script'.toList) : ReadAlike script script' where
  statements := by rw [Script.statements, Script.statements, statementChars, statementChars, same]
  reading := by
    intro d item
    rw [readWith, readWith, statementChars, statementChars, same]

theorem pieces_seam {before rest : List Char} {mark : Char}
    (outside : (Place.after {} before).IsOutside) (word : Text.isWordChar mark = false)
    (star : mark ≠ '*') (dash : before.getLast? = some '-' → mark ≠ '-') :
    pieces {} (before ++ mark :: rest) =
      glue (pieces {} before) (pieces (Place.after {} before) (mark :: rest)) := by
  refine pieces_append ⟨?_, ?_, ?_, ?_⟩
  · rintro m ⟨⟩
    exact word
  · simpa using dash
  · simpa using star
  · intro comment
    rw [outside.code] at comment
    cases comment

/-- A comment after a text that ends outside of quotations and comments is read as white space. -/
theorem statements_commented {before comment after : String} (outside : EndsOutside before) :
    (¬ "*/".toList <:+: comment.toList →
      ReadAlike (before ++ "/*" ++ comment ++ "*/" ++ after) (before ++ " " ++ after)) ∧
    ('\n' ∉ comment.toList → before.toList.getLast? ≠ some '-' →
      ReadAlike (before ++ "--" ++ comment ++ "\n" ++ after) (before ++ "\n" ++ after)) := by
  constructor
  · intro within
    have commented : (before ++ "/*" ++ comment ++ "*/" ++ after).toList =
        before.toList ++ '/' :: '*' :: (comment.toList ++ '*' :: '/' :: after.toList) := by simp
    have spaced : (before ++ " " ++ after).toList = before.toList ++ ' ' :: after.toList := by simp
    apply ReadAlike.of_pieces
    rw [commented, spaced, pieces_seam outside (by decide) (by decide) (fun _ => by decide),
      pieces_seam outside (by decide) (by decide) (fun _ => by decide), pieces_block outside within]
  · intro within single
    have commented : (before ++ "--" ++ comment ++ "\n" ++ after).toList =
        before.toList ++ '-' :: '-' :: (comment.toList ++ '\n' :: after.toList) := by simp
    have broken : (before ++ "\n" ++ after).toList = before.toList ++ '\n' :: after.toList := by
      simp
    apply ReadAlike.of_pieces
    rw [commented, broken,
      pieces_seam outside (by decide) (by decide) (fun last => absurd last single),
      pieces_seam outside (by decide) (by decide) (fun _ => by decide), pieces_line outside within]

theorem dividedColumn_commented :
    EndsOutside "CREATE TABLE t (a INT CHECK (a /" ∧
      ReadAlike ("CREATE TABLE t (a INT CHECK (a /" ++ "/*" ++ "it's /*; -- (CREATE *" ++ "*/" ++
          "create))")
        ("CREATE TABLE t (a INT CHECK (a /" ++ " " ++ "create))") ∧
      ReadAlike ("CREATE TABLE t (a INT CHECK (a /" ++ "--" ++ "it's /*; -- (CREATE *" ++ "\n" ++
          "create))")
        ("CREATE TABLE t (a INT CHECK (a /" ++ "\n" ++ "create))") := by
  have outside : EndsOutside "CREATE TABLE t (a INT CHECK (a /" :=
    ⟨by decide +kernel, by decide +kernel⟩
  exact ⟨outside, (statements_commented outside).1 (by decide +kernel),
    (statements_commented outside).2 (by decide +kernel) (by decide +kernel)⟩

end RelSchema.Sql.Script
