import RelSchema.Proofs.Markup
import RelSchema.Sql.Display

namespace RelSchema.Sql

namespace Lexer

def IsForward (p : Piece) : Prop := ∀ t ∈ p.1, t.start ≤ t.stop

variable {d : Dialect} {afterParameter : Bool} {pos : Nat} {text : List Char}

theorem spanned_forward (kind : TokenKind) (found key : String) (before rest : List Char) :
    IsForward (spanned kind found key pos before rest) := by
  rintro t ⟨⟩
  exact Nat.le_add_right _ _

theorem none_forward (left : List Char) : IsForward (none, left) := by
  rintro t ⟨⟩

theorem ite_forward {condition : Prop} [Decidable condition] {p q : Piece} (yes : IsForward p)
    (no : IsForward q) : IsForward (if condition then p else q) := by
  split
  · exact yes
  · exact no

theorem basedNumber_forward (kind : TokenKind) : IsForward (basedNumber d kind pos text) :=
  ite_forward (spanned_forward _ _ _ _ _) (spanned_forward _ _ _ _ _)

theorem number_forward : IsForward (number d afterParameter pos text) := by
  have digits (plain : List Char → List Char → Piece)
      (forward : ∀ found rest, IsForward (plain found rest)) :
      IsForward (number.ofDigits d afterParameter pos text plain) :=
    ite_forward (spanned_forward _ _ _ _ _) (forward _ _)
  have plain (found rest : List Char) :
      IsForward (spanned .number (String.ofList found) "" pos text rest) :=
    spanned_forward _ _ _ _ _
  unfold number
  split
  · exact ite_forward (ite_forward (basedNumber_forward _) (plain _ _))
      (ite_forward (ite_forward (basedNumber_forward _) (plain _ _)) (digits _ plain))
  · exact digits _ plain

theorem dollarString_forward {p : Piece} (found : dollarString pos text = some p) :
    IsForward p := by
  simp only [dollarString] at found
  split at found
  · rw [← Option.some.inj found]
    exact spanned_forward _ _ _ _ _
  · obtain ⟨_, -, rfl⟩ := Option.map_eq_some_iff.mp found
    exact spanned_forward _ _ _ _ _

theorem stringToken?_forward {p : Piece} (found : stringToken? d pos text = some (some p)) :
    IsForward p := by
  obtain ⟨mark, -, found⟩ := Option.map_eq_some_iff.mp found
  split at found
  · exact dollarString_forward found
  · split at found
    · split at found
      · rw [← Option.some.inj found]
        exact spanned_forward _ _ _ _ _
      · cases found
    · cases found

theorem phraseOr_forward (found : Option (String × List Char)) :
    IsForward (phraseOr d afterParameter pos text found) := by
  cases found with
  | some phrase => exact spanned_forward _ _ _ _ _
  | none =>
    cases text with
    | nil => exact none_forward _
    | cons c rest => exact ite_forward (spanned_forward _ _ _ _ _) (spanned_forward _ _ _ _ _)

theorem piece?_forward {last : Option Token} {p : Piece} (found : piece? d last pos text = some p) :
    IsForward p := by
  simp only [piece?] at found
  split at found
  · rw [← Option.some.inj found]
    exact none_forward _
  · split at found
    · rw [← Option.some.inj found]
      exact number_forward
    · split at found
      · obtain ⟨_, -, rfl⟩ := Option.map_eq_some_iff.mp found
        exact spanned_forward _ _ _ _ _
      · split at found
        · rename_i result read
          subst found
          exact stringToken?_forward read
        · split at found <;> rw [← Option.some.inj found]
          · exact none_forward _
          · exact phraseOr_forward _

theorem commandRest?_forward {fuel start : Nat} {last : Option Token} {after : List Char}
    {first stop : Nat} (forward : start ≤ pos)
    (found : commandRest? d fuel last start pos text = some (after, first, stop)) :
    first ≤ stop := by
  induction fuel generalizing last start pos text with
  | zero =>
    rw [commandRest?] at found
    cases found
    exact forward
  | succ fuel ih =>
    have goesOn {last : Option Token} {start pos : Nat} {left : List Char} (forward : start ≤ pos)
        (found : commandRest?.goOn d fuel last start pos left = some (after, first, stop)) :
        first ≤ stop := by
      rw [commandRest?.goOn] at found
      split at found
      · cases found
        exact forward
      · exact ih forward found
    cases text with
    | nil =>
      rw [commandRest?] at found
      cases found
      exact forward
    | cons c rest =>
      rw [commandRest?] at found
      split at found
      · exact goesOn (Nat.le_refl _) found
      · split at found
        · exact goesOn (Nat.le_succ _) found
        · obtain ⟨piece, -, found⟩ := Option.bind_eq_some_iff.mp found
          exact goesOn (Nat.le_add_right _ _) found

theorem tokensFrom_forward {fuel : Nat} {last : Option Token} {list : List Token}
    (found : tokensFrom d fuel last pos text = some list) : ∀ t ∈ list, t.start ≤ t.stop := by
  induction fuel generalizing last pos text list with
  | zero =>
    rw [tokensFrom] at found
    cases found
    simp
  | succ fuel ih =>
    have adds (first : List Token) (forward : ∀ t ∈ first, t.start ≤ t.stop) {last : Option Token}
        {pos : Nat} {text : List Char}
        (found : (tokensFrom d fuel last pos text).bind (fun later => some (first ++ later)) =
          some list) : ∀ t ∈ list, t.start ≤ t.stop := by
      obtain ⟨later, read, found⟩ := Option.bind_eq_some_iff.mp found
      rw [← Option.some.inj found]
      intro t member
      rcases List.mem_append.mp member with here | there
      · exact forward t here
      · exact ih read t there
    cases text with
    | nil =>
      rw [tokensFrom] at found
      cases found
      simp
    | cons c rest =>
      rw [tokensFrom] at found
      split at found
      · exact ih found
      · obtain ⟨⟨token, left⟩, read, found⟩ := Option.bind_eq_some_iff.mp found
        have forward := piece?_forward read
        cases token with
        | none => exact ih found
        | some t =>
          have this := forward t rfl
          simp only at found
          split at found
          · obtain ⟨⟨after, first, stop⟩, command, found⟩ := Option.bind_eq_some_iff.mp found
            have ends := commandRest?_forward (Nat.le_add_right _ _) command
            simp only at found
            split at found
            · exact adds [t] (by simpa using this) found
            · exact adds [t, _] (by simpa using ⟨this, ends⟩) found
          · exact adds [t] (by simpa using this) found

theorem tokens?_forward {list : List Token} (found : tokens? d text = some list) :
    ∀ t ∈ list, t.start ≤ t.stop :=
  tokensFrom_forward found

end Lexer

namespace Display

open Text (Mark marks marks_chars marks_tag escapeChars escapeChars_append escapeChars_isPlain)

def opening (k : SpanClass) : List Char := "span class=\"".toList ++ k.name.toList ++ ['"']

def closing : List Char := "/span".toList

def isSpanTag (inside : List Char) : Bool :=
  inside == closing || "span class=\"".toList.isPrefixOf inside

def unspanned (list : List Mark) : List Char :=
  list.flatMap fun
    | .char c => [c]
    | .tag inside => if isSpanTag inside then [] else '<' :: inside ++ ['>']

def withoutSpans (shown : String) : String := String.ofList (unspanned (marks shown.toList))

inductive Spanned : List Mark → Prop
  | nil : Spanned []
  | char {c : Char} {rest : List Mark} : c ≠ '<' ∧ c ≠ '>' → Spanned rest →
      Spanned (.char c :: rest)
  | span {k : SpanClass} {inside : List Char} {rest : List Mark} : Text.IsPlain inside →
      Spanned rest → Spanned (.tag (opening k) :: (inside.map .char ++ .tag closing :: rest))

/-- The display has spans and no other markup, and what it shows is the text. -/
structure IsDisplayOf (R : Text.References) (shown sql : String) : Prop where
  spans : Spanned (marks shown.toList)
  text : R.unescape (withoutSpans shown) = sql

/-- What is written for a part of the text. -/
structure Shows (shown text : List Char) : Prop where
  spans : Spanned (marks shown)
  text : unspanned (marks shown) = escapeChars text

variable {shown text raw : List Char}

theorem unspanned_chars (inside : List Char) (rest : List Mark) :
    unspanned (inside.map .char ++ rest) = inside ++ unspanned rest := by
  induction inside with
  | nil => rfl
  | cons c more ih => exact congrArg (c :: ·) ih

theorem unspanned_tag {inside : List Char} (span : isSpanTag inside = true) (rest : List Mark) :
    unspanned (.tag inside :: rest) = unspanned rest := by
  rw [unspanned, List.flatMap_cons]
  simp only [span, if_true, List.nil_append]
  rfl

theorem Spanned.chars {inside : List Char} (plain : Text.IsPlain inside) {rest : List Mark}
    (spans : Spanned rest) : Spanned (inside.map .char ++ rest) := by
  induction inside with
  | nil => exact spans
  | cons c more ih =>
    simp only [Text.IsPlain, List.mem_cons, not_or] at plain
    obtain ⟨⟨opens, unopened⟩, closes, unclosed⟩ := plain
    exact .char ⟨Ne.symm opens, Ne.symm closes⟩ (ih ⟨unopened, unclosed⟩)

theorem Shows.nil : Shows [] [] := ⟨.nil, rfl⟩

theorem Shows.escaped (raw : List Char) (after : Shows shown text) :
    Shows (escapeChars raw ++ shown) (raw ++ text) := by
  have cut := marks_chars (escapeChars_isPlain raw).1 shown
  constructor
  · rw [cut]
    exact after.spans.chars (escapeChars_isPlain raw)
  · rw [cut, unspanned_chars, after.text, escapeChars_append]

theorem spanned_some (k : SpanClass) (raw : List Char) : spanned (some k) raw =
    "<span class=\"".toList ++ k.name.toList ++ "\">".toList ++ escapeChars raw ++
      "</span>".toList :=
  rfl

theorem marks_span (k : SpanClass) (raw rest : List Char) : marks (spanned (some k) raw ++ rest) =
    .tag (opening k) :: ((escapeChars raw).map .char ++ .tag closing :: marks rest) := by
  have opens : '>' ∉ opening k := by cases k <;> decide
  have closes : '>' ∉ closing := by decide
  have written : spanned (some k) raw ++ rest =
      '<' :: opening k ++ '>' :: (escapeChars raw ++ ('<' :: closing ++ '>' :: rest)) := by
    rw [spanned_some]
    unfold opening closing
    simp only [String.reduceToList, List.cons_append, List.nil_append, List.append_assoc]
  rw [written, marks_tag opens, marks_chars (escapeChars_isPlain raw).1, marks_tag closes]

theorem Shows.spanned (spanClass : Option SpanClass) (raw : List Char) (after : Shows shown text) :
    Shows (spanned spanClass raw ++ shown) (raw ++ text) := by
  cases spanClass with
  | none => exact after.escaped raw
  | some k =>
    have opens : isSpanTag (opening k) = true := by cases k <;> decide
    have closes : isSpanTag closing = true := by decide
    constructor
    · rw [marks_span]
      exact .span (escapeChars_isPlain raw) after.spans
    · rw [marks_span, unspanned_tag opens, unspanned_chars, unspanned_tag closes, after.text,
        escapeChars_append]

theorem Shows.token (kind : TokenKind) (before raw : List Char) (after : Shows shown text) :
    Shows (escapeChars before ++ Display.spanned (classify kind raw) raw ++ shown)
      (before ++ (raw ++ text)) := by
  rw [List.append_assoc]
  exact (after.spanned (classify kind raw) raw).escaped before

theorem annotateFrom_shows {tokens : List Token} (forward : ∀ t ∈ tokens, t.start ≤ t.stop)
    (cursor : Nat) (text : List Char) : Shows (annotateFrom cursor text tokens) text := by
  induction tokens generalizing cursor text with
  | nil => simpa [annotateFrom] using Shows.nil.escaped text
  | cons t rest ih =>
    obtain ⟨ends, forward⟩ := List.forall_mem_cons.mp forward
    rw [annotateFrom]
    split
    · exact ih forward cursor text
    · rename_i inside
      have reach : t.stop - cursor = (t.stop - t.start) + (t.start - cursor) := by omega
      have parts : text.take (t.start - cursor) ++
          ((text.drop (t.start - cursor)).take (t.stop - t.start) ++
            text.drop (t.stop - cursor)) = text := by
        rw [reach, Nat.add_comm, ← List.drop_drop, List.take_append_drop, List.take_append_drop]
      have whole := (ih forward t.stop (text.drop (t.stop - cursor))).token t.kind
        (text.take (t.start - cursor)) ((text.drop (t.start - cursor)).take (t.stop - t.start))
      rw [parts] at whole
      exact whole

theorem Shows.isDisplayOf {shown sql : String} (whole : Shows shown.toList sql.toList)
    (R : Text.References) : IsDisplayOf R shown sql := by
  refine ⟨whole.spans, ?_⟩
  rw [withoutSpans, whole.text, Text.References.unescape, String.toList_ofList,
    Text.References.unescapeFrom_escapeChars, String.ofList_toList]

theorem shows_formatWith {tokens : Option (List Token)}
    (forward : ∀ list ∈ tokens, ∀ t ∈ list, t.start ≤ t.stop) (sql : String) :
    Shows (formatWith tokens sql).toList sql.toList := by
  cases tokens with
  | none => simpa [formatWith] using Shows.nil.escaped sql.toList
  | some list =>
    simpa [formatWith, annotate] using annotateFrom_shows (forward list rfl) 0 sql.toList

theorem format_isDisplayOf (R : Text.References) (d : Dialect) (sql : String) :
    IsDisplayOf R (format d sql) sql :=
  (shows_formatWith (fun _ found => Lexer.tokens?_forward found) sql).isDisplayOf R

/-- A display loses no text, whatever the tokens are. -/
theorem format_shows (R : Text.References) (sql : String) (tokens : Option (List Token))
    (forward : ∀ list ∈ tokens, ∀ t ∈ list, t.start ≤ t.stop) :
    IsDisplayOf R (formatWith tokens sql) sql := (shows_formatWith forward sql).isDisplayOf R

def unordered : List Token :=
  [{ kind := .quotedName, text := "a", start := 0, stop := 3 },
    { kind := .string, text := "b&lt;", start := 4, stop := 11 },
    { kind := .symbol, text := "<", start := 3, stop := 4 },
    { kind := .number, text := "1", start := 11, stop := 12 }]

theorem unordered_shown : (∀ list ∈ some unordered, ∀ t ∈ list, t.start ≤ t.stop) ∧
    formatWith (some unordered) "\"a\"<'b&lt;'" =
      "<span class=\"identifier\">&quot;a&quot;</span>&lt;" ++
        "<span class=\"literal\">&#x27;b&amp;lt;&#x27;</span>" ∧
    IsDisplayOf .own (formatWith (some unordered) "\"a\"<'b&lt;'") "\"a\"<'b&lt;'" := by
  have forward : ∀ list ∈ some unordered, ∀ t ∈ list, t.start ≤ t.stop := by
    rintro list ⟨⟩
    decide
  exact ⟨forward, by decide, format_shows .own "\"a\"<'b&lt;'" (some unordered) forward⟩

end Display

end RelSchema.Sql
