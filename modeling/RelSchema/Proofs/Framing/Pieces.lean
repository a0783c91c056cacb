import RelSchema.Proofs.Framing.Level

namespace RelSchema.Sql

/-- Read at a depth of open parentheses, the text ends outside quotations and parentheses. A
parenthesis that closes nothing is passed over. -/
inductive Closes : Nat → List Char → Prop
  | nil : Closes 0 []
  | plain {depth : Nat} {c : Char} {w : List Char} (plain : isBracketing c = false)
      (rest : Closes depth w) : Closes depth (c :: w)
  | quoted {depth : Nat} {opening closing : Char} {inside w : List Char}
      (closes : closing? opening = some closing) (within : closing ∉ inside)
      (rest : Closes depth w) : Closes depth (opening :: (inside ++ closing :: w))
  | opening {depth : Nat} {w : List Char} (rest : Closes (depth + 1) w) : Closes depth ('(' :: w)
  | closing {depth : Nat} {w : List Char} (rest : Closes depth w) : Closes (depth + 1) (')' :: w)
  | stray {w : List Char} (rest : Closes 0 w) : Closes 0 (')' :: w)

theorem isBracketing_of_closing? {c : Char} (none : closing? c = none) (opening : c ≠ '(')
    (closing : c ≠ ')') : isBracketing c = false := by
  unfold closing? at none
  split at none
  · cases none
  split at none
  · cases none
  · simp_all [isBracketing]

theorem isTop_iff {s : Scan} : s.isTop = true ↔ s = {} := by
  obtain ⟨quote, depth⟩ := s
  simp [Scan.isTop, Option.isNone_iff_eq_none]

theorem Scan.run_append (s : Scan) (w rest : List Char) :
    s.run (w ++ rest) = (s.run w).run rest := List.foldl_append

theorem run_quotation {closing : Char} {inside : List Char} (within : closing ∉ inside) (k : Nat)
    (w : List Char) : Scan.run { quote := some closing, depth := k } (inside ++ closing :: w) =
      (atLevel k).run w := by
  induction inside with
  | nil => simp [Scan.run, Scan.step]
  | cons c inside ih =>
    rw [List.mem_cons, not_or] at within
    rw [List.cons_append, Scan.run, List.foldl_cons]
    have stays : Scan.step { quote := some closing, depth := k } c =
        { quote := some closing, depth := k } := by
      simp [Scan.step, Ne.symm within.1]
    rw [stays]
    exact ih within.2

theorem Closes.run {depth : Nat} {w : List Char} (closes : Closes depth w) :
    (atLevel depth).run w = {} := by
  induction closes with
  | nil => rfl
  | plain plain _ ih =>
    rw [Scan.run, List.foldl_cons, step_unbracketing plain]
    exact ih
  | quoted closes within _ ih =>
    rw [Scan.run, List.foldl_cons, step_closing closes]
    exact (run_quotation within _ _).trans ih
  | opening _ ih => exact ih
  | closing _ ih => exact ih
  | stray _ ih => exact ih

theorem closes_of_run {s : Scan} {w : List Char} (ends : s.run w = {}) :
    match s.quote with
    | none => Closes s.depth w
    | some closing => ∃ inside rest, w = inside ++ closing :: rest ∧ closing ∉ inside ∧
        Closes s.depth rest := by
  induction w generalizing s with
  | nil =>
    obtain rfl : s = {} := ends
    exact .nil
  | cons c w ih =>
    obtain ⟨quote, depth⟩ := s
    have later := ih (s := Scan.step ⟨quote, depth⟩ c) ends
    cases quote with
    | some closing =>
      by_cases same : c = closing
      · simp only [Scan.step, same, ↓reduceIte] at later
        exact ⟨[], w, by rw [same, List.nil_append], List.not_mem_nil, later⟩
      · simp only [Scan.step, same, ↓reduceIte] at later
        obtain ⟨inside, rest, rfl, within, closes⟩ := later
        refine ⟨c :: inside, rest, rfl, ?_, closes⟩
        rw [List.mem_cons, not_or]
        exact ⟨Ne.symm same, within⟩
    | none =>
      cases opens : closing? c with
      | some closing =>
        have quotation := step_closing opens depth
        rw [quotation] at later
        obtain ⟨inside, rest, rfl, within, closes⟩ := later
        exact .quoted opens within closes
      | none =>
        by_cases opening : c = '('
        · subst opening
          exact .opening later
        by_cases closing : c = ')'
        · subst closing
          cases depth with
          | zero => exact .stray later
          | succ depth => exact .closing later
        · have plain := isBracketing_of_closing? opens opening closing
          rw [step_unbracketing plain] at later
          exact .plain plain later

theorem closes_iff {depth : Nat} {w : List Char} :
    Closes depth w ↔ (atLevel depth).run w = {} :=
  ⟨Closes.run, closes_of_run⟩

instance (depth : Nat) (w : List Char) : Decidable (Closes depth w) :=
  decidable_of_iff _ closes_iff.symm

theorem Level.closes_append {ok : Char → Bool} {w : List Char} (level : Level ok w) {depth : Nat}
    {rest : List Char} (closes : Closes depth rest) : Closes depth (w ++ rest) := by
  induction level generalizing depth rest with
  | nil => exact closes
  | plain isPlain _ _ ih => exact .plain (isBracketing_of_isPlain isPlain) (ih closes)
  | minus _ _ ih => exact .plain rfl (ih closes)
  | quoted opens within _ ih => simpa using Closes.quoted opens within (ih closes)
  | group _ _ inner outer => simpa using Closes.opening (inner (Closes.closing (outer closes)))

theorem Level.closes {ok : Char → Bool} {w : List Char} (level : Level ok w) : Closes 0 w := by
  have whole := level.closes_append .nil
  rwa [List.append_nil] at whole

def IsUndivided (separator : Char) (w : List Char) : Prop :=
  ∀ before after, w = before ++ separator :: after → ¬ Closes 0 before

/-- The pieces join to the text, all but the last close what they open, and none holds a separator
outside its quotations and parentheses. -/
structure Decomposes (separator : Char) (text : List Char) (pieces : List (List Char)) : Prop where
  nonempty : pieces ≠ []
  joined : [separator].intercalate pieces = text
  closed : ∀ piece ∈ pieces.dropLast, Closes 0 piece
  undivided : ∀ piece ∈ pieces, IsUndivided separator piece

@[simp] theorem foldr_consPiece (w piece : List Char) (more : List (List Char)) :
    w.foldr consPiece (piece :: more) = (w ++ piece) :: more := by
  induction w with
  | nil => rfl
  | cons c rest ih => simp [consPiece, ih]

theorem splitFrom_append {separator : Char} {s : Scan} {w : List Char}
    (uncut : ∀ before after, w = before ++ separator :: after → (s.run before).isTop = false)
    (rest : List Char) :
    splitFrom separator s (w ++ rest) = w.foldr consPiece (splitFrom separator (s.run w) rest) := by
  induction w generalizing s with
  | nil => rfl
  | cons c w ih =>
    have within : separates separator s c = false := by
      by_cases same : c = separator
      · have top : s.isTop = false := uncut [] w (by rw [same, List.nil_append])
        simp [separates, top]
      · simp [separates, same]
    have later := ih (s := s.step c) fun before after split =>
      uncut (c :: before) after (by rw [split, List.cons_append])
    rw [List.cons_append, splitFrom, within, later]
    rfl

section Undivided

variable {separator : Char} {piece : List Char} (undivided : IsUndivided separator piece)

include undivided

theorem IsUndivided.splitFrom (rest : List Char) : splitFrom separator {} (piece ++ rest) =
    piece.foldr consPiece (Sql.splitFrom separator (Scan.run {} piece) rest) := by
  apply splitFrom_append
  intro before after split
  rw [Bool.eq_false_iff, ne_eq, isTop_iff]
  intro top
  exact undivided before after split (closes_iff.mpr top)

theorem splitTopLevel_undivided : splitTopLevel piece separator = [piece] := by
  have whole := undivided.splitFrom []
  rwa [List.append_nil, splitFrom, foldr_consPiece, List.append_nil] at whole

theorem splitTopLevel_first (free : isBracketing separator = false) (closed : Closes 0 piece)
    (rest : List Char) :
    splitTopLevel (piece ++ separator :: rest) separator =
      piece :: splitTopLevel rest separator := by
  have cut : splitFrom separator {} (separator :: rest) = [] :: splitTopLevel rest separator := by
    have cuts : separates separator {} separator = true := by simp [separates, Scan.isTop, free]
    rw [splitFrom, cuts, if_pos rfl]
    rfl
  rw [splitTopLevel, undivided.splitFrom, closed.run, cut, foldr_consPiece, List.append_nil]

end Undivided

theorem exists_cut (separator : Char) (text : List Char) : IsUndivided separator text ∨
    ∃ piece rest, text = piece ++ separator :: rest ∧ Closes 0 piece ∧
      IsUndivided separator piece := by
  by_cases undivided : IsUndivided separator text
  · exact .inl undivided
  · simp only [IsUndivided, Classical.not_forall, Classical.not_not] at undivided
    obtain ⟨before, after, split, closed⟩ := undivided
    have shorter : before.length < text.length := by
      rw [split, List.length_append, List.length_cons]
      omega
    rcases exists_cut separator before with own | ⟨piece, rest, split', closed', own⟩
    · exact .inr ⟨before, after, split, closed, own⟩
    · refine .inr ⟨piece, rest ++ separator :: after, ?_, closed', own⟩
      rw [split, split', List.append_assoc, List.cons_append]
termination_by text.length

section Separator

variable {separator : Char} (free : isBracketing separator = false)

include free

/-- What holds of an undivided text as its only piece, and passes from the rest of a text to the
text with its first piece, holds of every text and its pieces. -/
theorem splitTopLevel_induct {motive : List Char → List (List Char) → Prop}
    (whole : ∀ piece, IsUndivided separator piece → motive piece [piece])
    (first : ∀ piece rest, Closes 0 piece → IsUndivided separator piece →
      motive rest (splitTopLevel rest separator) →
      motive (piece ++ separator :: rest) (piece :: splitTopLevel rest separator))
    (text : List Char) : motive text (splitTopLevel text separator) := by
  rcases exists_cut separator text with undivided | ⟨piece, rest, split, closed, undivided⟩
  · rw [splitTopLevel_undivided undivided]
    exact whole text undivided
  · have shorter : rest.length < text.length := by
      rw [split, List.length_append, List.length_cons]
      omega
    rw [split, splitTopLevel_first undivided free closed]
    exact first piece rest closed undivided (splitTopLevel_induct whole first rest)
termination_by text.length

theorem splitTopLevel_decomposes (text : List Char) :
    Decomposes separator text (splitTopLevel text separator) := by
  apply splitTopLevel_induct free
  · intro piece undivided
    refine ⟨List.cons_ne_nil _ _, List.intercalate_singleton, ?_, ?_⟩
    · intro other member
      cases member
    · intro other member
      rw [List.mem_singleton] at member
      rwa [member]
  · intro piece rest closed undivided later
    obtain ⟨next, more, cut⟩ := List.exists_cons_of_ne_nil later.nonempty
    rw [cut] at later ⊢
    refine ⟨List.cons_ne_nil _ _, ?_, ?_, ?_⟩
    · rw [List.intercalate_cons_cons, later.joined, List.append_assoc, List.singleton_append]
    · rw [List.dropLast_cons_cons, List.forall_mem_cons]
      exact ⟨closed, later.closed⟩
    · rw [List.forall_mem_cons]
      exact ⟨undivided, later.undivided⟩

theorem Decomposes.eq {text : List Char} {pieces : List (List Char)}
    (decomposes : Decomposes separator text pieces) : pieces = splitTopLevel text separator := by
  obtain ⟨nonempty, joined, closed, undivided⟩ := decomposes
  subst joined
  induction pieces with
  | nil => contradiction
  | cons piece rest ih =>
    rw [List.forall_mem_cons] at undivided
    cases rest with
    | nil => rw [List.intercalate_singleton, splitTopLevel_undivided undivided.1]
    | cons next more =>
      rw [List.dropLast_cons_cons, List.forall_mem_cons] at closed
      rw [List.intercalate_cons_cons, List.append_assoc, List.singleton_append,
        splitTopLevel_first undivided.1 free closed.1,
        ← ih (List.cons_ne_nil _ _) closed.2 undivided.2]

theorem splitTopLevel_append {p : List Char} (closed : Closes 0 p) (q : List Char) :
    splitTopLevel (p ++ separator :: q) separator =
      splitTopLevel p separator ++ splitTopLevel q separator := by
  revert closed
  apply splitTopLevel_induct free (motive := fun p pieces => Closes 0 p →
    splitTopLevel (p ++ separator :: q) separator = pieces ++ splitTopLevel q separator)
  · intro piece undivided closed
    rw [splitTopLevel_first undivided free closed, List.singleton_append]
  · intro piece rest closed undivided later whole
    have ends : Closes 0 rest := by
      have run := whole.run
      rw [Scan.run_append, closed.run, Scan.run, List.foldl_cons, step_unbracketing free] at run
      exact closes_iff.mpr run
    rw [List.append_assoc, List.cons_append, splitTopLevel_first undivided free closed, later ends,
      List.cons_append]

end Separator

/-- The pieces between the separators at the top are the only decomposition of a text, where a text
closes what it opens if a scan of it ends at the top. Each piece is its own only piece, and the
pieces of a text that closes what it opens stay the same when a separator and another text follow
it. -/
theorem splitTopLevel_unique {separator : Char} (free : isBracketing separator = false)
    (text : List Char) :
    (∀ w, Closes 0 w ↔ (Scan.run {} w).isTop = true) ∧
      (∀ pieces, Decomposes separator text pieces ↔ pieces = splitTopLevel text separator) ∧
      (∀ piece ∈ splitTopLevel text separator, splitTopLevel piece separator = [piece]) ∧
      ∀ p q, Closes 0 p → splitTopLevel (p ++ separator :: q) separator =
        splitTopLevel p separator ++ splitTopLevel q separator := by
  have decomposes := splitTopLevel_decomposes free text
  refine ⟨fun w => closes_iff.trans isTop_iff.symm, fun pieces => ⟨Decomposes.eq free, ?_⟩, ?_, ?_⟩
  · rintro rfl
    exact decomposes
  · intro piece member
    exact splitTopLevel_undivided (decomposes.undivided piece member)
  · intro p q closed
    exact splitTopLevel_append free closed q

def looseText : List Char := "a), [b,(] ,(c,')',d),e \",f".toList

theorem looseText_decomposes :
    isBracketing ',' = false ∧
      Decomposes ',' looseText
        ["a)".toList, " [b,(] ".toList, "(c,')',d)".toList, "e \",f".toList] ∧
      (∀ piece ∈ splitTopLevel looseText ',', splitTopLevel piece ',' = [piece]) ∧
      Closes 0 "a), [b,(] ".toList ∧
      splitTopLevel ("a), [b,(] ".toList ++ ',' :: "(c,')',d),e \",f".toList) ',' =
        splitTopLevel "a), [b,(] ".toList ',' ++ splitTopLevel "(c,')',d),e \",f".toList ',' := by
  have free : isBracketing ',' = false := by decide
  obtain ⟨-, only, own, joined⟩ := splitTopLevel_unique free looseText
  have cut : ["a)".toList, " [b,(] ".toList, "(c,')',d)".toList, "e \",f".toList] =
      splitTopLevel looseText ',' := by decide
  have closed : Closes 0 "a), [b,(] ".toList := by decide
  exact ⟨free, (only _).mpr cut, own, closed, joined _ _ closed⟩

end RelSchema.Sql
