import RelSchema.Proofs.Framing.Steps

namespace RelSchema.Sql.Script

/-- A semicolon after the text ends it, and the text is one statement. -/
def IsClosed (s : String) : Prop := statements (s ++ ";x") = [s, "x"]

instance (s : String) : Decidable (IsClosed s) :=
  inferInstanceAs (Decidable (statements (s ++ ";x") = [s, "x"]))

def kept (list : List (List Char)) : List (List Char) :=
  (list.map Text.trimChars).filter (!·.isEmpty)

/-- Nothing follows, or a semicolon. -/
def IsEnd (rest : List Char) : Prop := rest = [] ∨ ∃ more, rest = ';' :: more

theorem kept_append (first second : List (List Char)) :
    kept (first ++ second) = kept first ++ kept second := by
  rw [kept, List.map_append, List.filter_append]
  rfl

section Count

def solidCount (w : List Char) : Nat := w.countP fun c => !Text.isBlank c

theorem solidCount_trimLeft (w : List Char) : solidCount (Text.trimLeft w) = solidCount w := by
  induction w with
  | nil => rfl
  | cons c rest ih =>
    simp only [solidCount, Text.trimLeft] at ih ⊢
    by_cases blank : Text.isBlank c = true
    · simp [blank, ih]
    · simp [blank]

theorem solidCount_trimChars (w : List Char) : solidCount (Text.trimChars w) = solidCount w := by
  have reversed (w : List Char) : solidCount w.reverse = solidCount w := List.countP_reverse
  rw [Text.trimChars, Text.trimRight, reversed, solidCount_trimLeft, reversed,
    solidCount_trimLeft]

theorem solidCount_kept (list : List (List Char)) :
    solidCount (kept list).flatten = solidCount list.flatten := by
  rw [kept, List.flatten_filter_not_isEmpty]
  induction list with
  | nil => rfl
  | cons piece more ih =>
    have first := solidCount_trimChars piece
    simp only [solidCount, List.map_cons, List.flatten_cons, List.countP_append] at ih first ⊢
    rw [ih, first]

theorem flatten_consPiece (c : Char) (list : List (List Char)) :
    (consPiece c list).flatten = c :: list.flatten := by
  cases list <;> rfl

theorem solidCount_pieces (p : Place) (text : List Char) :
    solidCount (pieces p text).flatten ≤ solidCount text := by
  induction text generalizing p with
  | nil => exact Nat.le_refl _
  | cons c rest ih =>
    have space : Text.isBlank ' ' = true := by decide
    simp only [solidCount] at ih ⊢
    rw [pieces, List.countP_cons]
    split <;> repeat' split
    all_goals grind [flatten_consPiece]

end Count

theorem IsEnd.apart {rest : List Char} (ends : IsEnd rest) (p : Place) (w : List Char) :
    Apart p w rest := by
  have semicolon : Text.isWordChar ';' = false := by decide
  rcases ends with rfl | ⟨more, rfl⟩ <;> constructor <;> simp [semicolon]

theorem pieces_letter {q : Place} (ready : q.mode = .code) : pieces q ['x'] = [['x']] := by
  have other : startsCreate ['x'] = false := by decide
  simp [pieces, ready, breaksBefore, other, consPiece]

theorem pieces_semicolon (q : Place) (opened : q.mode ≠ .blockClosing) :
    (∀ rest, pieces q (';' :: rest) = [] :: pieces { before := some ';' } rest) ∨
      pieces q [';', 'x'] = [[';', 'x']] ∨ pieces q [';', 'x'] = [[]] := by
  cases mode : q.mode with
  | lineComment => exact .inr (.inr (by simp [pieces, mode]))
  | blockOpening => exact .inr (.inr (by simp [pieces, mode]))
  | blockComment => exact .inr (.inr (by simp [pieces, mode]))
  | blockClosing => contradiction
  | code =>
    by_cases top : q.scan.isTop = true
    · have unquoted : ¬ q.scan.quote.isSome = true := by
        rw [isTop_iff.mp top]
        decide
      exact .inl fun rest => by simp [pieces, mode, top, unquoted]
    · have step : pieces q [';', 'x'] = consPiece ';' (pieces (q.take ';') ['x']) := by
        rw [pieces]
        simp [mode, top, breaksBefore]
      rw [step, pieces_letter (q := q.take ';') mode]
      exact .inr (.inl rfl)

theorem pieces_before (before : Option Char) (text : List Char) :
    pieces { before } text = pieces {} text := by
  -- Only a break before CREATE looks back, and there is none before a statement has started.
  cases text with
  | nil => rfl
  | cons c rest => simp [pieces, breaksBefore, Place.take]

theorem IsClosed.cut {s : String} (closed : IsClosed s) :
    kept (pieces {} s.toList) = [s.toList] ∧ ∀ rest,
      pieces {} (s.toList ++ ';' :: rest) = pieces {} s.toList ++ pieces {} rest := by
  have whole : kept (pieces {} (s.toList ++ [';', 'x'])) = [s.toList, ['x']] := by
    have texts := congrArg (List.map String.toList) closed
    simpa [statements, statementChars, kept, Function.comp_def] using texts
  have opened := after_ne_closing (p := {}) (w := s.toList) fun closing => by cases closing
  have lead := fun rest (ends : IsEnd rest) => pieces_append (ends.apart {} s.toList)
  rw [lead _ (.inr ⟨['x'], rfl⟩)] at whole
  obtain ⟨init, last, own⟩ : ∃ init last, pieces {} s.toList = init ++ [last] :=
    ⟨_, _, (List.dropLast_concat_getLast (pieces_ne_nil {} s.toList)).symm⟩
  rcases pieces_semicolon _ opened with ends | inside | hidden
  · have cut : ∀ rest, pieces {} (s.toList ++ ';' :: rest) =
        pieces {} s.toList ++ pieces {} rest := by
      intro rest
      rw [lead _ (.inr ⟨rest, rfl⟩), ends, pieces_before (some ';'), own, glue_concat]
      simp
    have letter : kept (pieces {} ['x']) = [['x']] := by decide
    rw [← lead _ (.inr ⟨['x'], rfl⟩), cut, kept_append, letter] at whole
    exact ⟨List.append_cancel_right (whole.trans rfl), cut⟩
  · exfalso
    rw [own, inside, glue_concat, kept_append] at whole
    have solid : solidCount (last ++ [';', 'x']) = solidCount last + 2 := List.countP_append
    have trimmed := solidCount_trimChars (last ++ [';', 'x'])
    have some : Text.trimChars (last ++ [';', 'x']) ≠ [] := by
      intro none
      rw [none, solid] at trimmed
      cases trimmed
    have single : kept [last ++ [';', 'x']] = [Text.trimChars (last ++ [';', 'x'])] := by
      simp [kept, some]
    rw [single] at whole
    have letter : [Text.trimChars (last ++ [';', 'x'])] = [['x']] :=
      (List.append_inj' (whole.trans (List.singleton_append (x := s.toList)).symm) rfl).2
    rw [List.head_eq_of_cons_eq letter, solid] at trimmed
    have one : solidCount ['x'] = 1 := by decide
    omega
  · exfalso
    rw [hidden, own, glue_concat, List.append_nil, ← own] at whole
    have counted := solidCount_kept (pieces {} s.toList)
    have letter : solidCount [s.toList, ['x']].flatten = solidCount s.toList + 1 :=
      List.countP_append
    have bound := solidCount_pieces {} s.toList
    rw [whole, letter] at counted
    omega

theorem statementChars_join {ss : List String} (closed : ∀ s ∈ ss, IsClosed s) :
    statementChars (";".intercalate ss).toList = ss.map String.toList := by
  have semicolon : ";".toList = [';'] := rfl
  rw [String.toList_intercalate, semicolon]
  change kept (pieces {} _) = _
  induction ss with
  | nil => decide
  | cons s rest ih =>
    rw [List.forall_mem_cons] at closed
    obtain ⟨own, cut⟩ := closed.1.cut
    cases rest with
    | nil => rwa [List.map_singleton, List.intercalate_singleton]
    | cons next more =>
      have tail := ih closed.2
      rw [List.map_cons, List.map_cons, List.intercalate_cons_cons, List.append_assoc,
        List.singleton_append, cut, kept_append, own, ← List.map_cons, tail]
      rfl

end RelSchema.Sql.Script
