import RelSchema.Proofs.Blanks
import RelSchema.Proofs.Framing.Joined

namespace RelSchema.Sql

/-- The quotation that is open, if one is, does not end at white space. -/
def Scan.IsVisible (s : Scan) : Prop := ∀ closing ∈ s.quote, Text.isBlank closing = false

theorem Scan.IsVisible.step {s : Scan} (visible : s.IsVisible) (c : Char) :
    (s.step c).IsVisible := by
  unfold Scan.step
  repeat' split
  all_goals intro closing opened
  · cases opened
  · exact visible closing opened
  · rename_i mark
    obtain rfl : c = closing := Option.some.inj opened
    simp only [isQuoteMark, Bool.or_eq_true, beq_iff_eq] at mark
    rcases mark with (rfl | rfl) | rfl <;> decide
  · obtain rfl : ']' = closing := Option.some.inj opened
    decide
  all_goals exact visible closing opened

theorem Scan.IsVisible.run {s : Scan} (visible : s.IsVisible) (w : List Char) :
    (s.run w).IsVisible := by
  induction w generalizing s with
  | nil => exact visible
  | cons c rest ih => exact ih (visible.step c)

theorem isPlain_of_isBlank {c : Char} (blank : Text.isBlank c = true) : isPlain c = true :=
  isPlain_of_kind (by decide) blank

theorem Scan.IsVisible.step_blank {s : Scan} (visible : s.IsVisible) {c : Char}
    (blank : Text.isBlank c = true) : s.step c = s := by
  obtain ⟨quote, depth⟩ := s
  cases quote with
  | none => exact step_plain (isPlain_of_isBlank blank) depth
  | some closing =>
    have other : c ≠ closing := by
      rintro rfl
      rw [visible c rfl] at blank
      cases blank
    simp [Scan.step, other]

theorem Scan.IsVisible.run_blanks {s : Scan} (visible : s.IsVisible) {blanks : List Char}
    (blank : ∀ c ∈ blanks, Text.isBlank c = true) : s.run blanks = s := by
  induction blanks with
  | nil => rfl
  | cons c rest ih =>
    rw [List.forall_mem_cons] at blank
    rw [Scan.run, List.foldl_cons, visible.step_blank blank.1]
    exact ih blank.2

theorem Scan.IsVisible.run_trimChars {s : Scan} (visible : s.IsVisible) (w : List Char) :
    s.run (Text.trimChars w) = s.run w := by
  obtain ⟨before, after, blank, blank', split⟩ := Text.exists_trimChars w
  calc s.run (Text.trimChars w)
      = (s.run (Text.trimChars w)).run after := ((visible.run _).run_blanks blank').symm
    _ = s.run (Text.trimChars w ++ after) := (Scan.run_append ..).symm
    _ = (s.run before).run (Text.trimChars w ++ after) := by rw [visible.run_blanks blank]
    _ = s.run w := by rw [← Scan.run_append, ← split]

namespace Script

/-- At this place, outside quotations, a character neither begins a comment nor ends a statement. -/
structure Place.Takes (p : Place) (c : Char) (rest : List Char) : Prop where
  lineComment : ¬ (c = '-' ∧ rest.head? = some '-')
  blockComment : ¬ (c = '/' ∧ rest.head? = some '*')
  semicolon : ¬ (c = ';' ∧ p.scan.isTop = true)
  create : breaksBefore p (c :: rest) = false

def Keeps (p : Place) : List Char → Prop
  | [] => True
  | c :: rest => (p.scan.quote = none → p.Takes c rest) ∧ Keeps (p.take c) rest

section Keeps

variable {p : Place} {w : List Char}

theorem step_takes {c : Char} {rest : List Char} (ready : p.mode = .code)
    (takes : p.scan.quote = none → p.Takes c rest) :
    p.step c rest = ⟨p.take c, consPiece c⟩ := by
  rw [Place.step]
  simp only [ready]
  cases quote : p.scan.quote with
  | some closing => simp
  | none =>
    obtain ⟨lineComment, blockComment, semicolon, create⟩ := takes quote
    simp [lineComment, blockComment, semicolon, create]

theorem Keeps.pieces (keeps : Keeps p w) (ready : p.mode = .code) : pieces p w = [w] := by
  induction w generalizing p with
  | nil => rfl
  | cons c rest ih =>
    rw [pieces_step, step_takes ready keeps.1, ih keeps.2 ready]
    rfl

theorem Keeps.after (keeps : Keeps p w) (ready : p.mode = .code) :
    (p.after w).mode = .code ∧ (p.after w).scan = p.scan.run w := by
  induction w generalizing p with
  | nil => exact ⟨ready, rfl⟩
  | cons c rest ih =>
    rw [Place.after, step_takes ready keeps.1]
    exact ih keeps.2 ready

theorem Keeps.pieces_semicolon (keeps : Keeps p w) (ready : p.mode = .code)
    (complete : (p.scan.run w).isTop = true) (rest : List Char) :
    Script.pieces p (w ++ ';' :: rest) = w :: Script.pieces {} rest := by
  have apart : Apart p w (';' :: rest) := IsEnd.apart (.inr ⟨rest, rfl⟩) p w
  obtain ⟨mode, scan⟩ := keeps.after ready
  have ends : Script.pieces (p.after w) (';' :: rest) = [] :: Script.pieces {} rest := by
    rw [← scan] at complete
    have unquoted : ¬ (p.after w).scan.quote.isSome = true := by
      rw [isTop_iff.mp complete]
      decide
    rw [Script.pieces]
    simp [mode, unquoted, complete, pieces_before]
  rw [pieces_append apart, keeps.pieces ready, ends]
  simp [glue]

theorem Keeps.of_before {before : Option Char} (keeps : Keeps { before } w) : Keeps {} w := by
  cases w with
  | nil => trivial
  | cons c rest =>
    refine ⟨fun unquoted => ?_, keeps.2⟩
    obtain ⟨lineComment, blockComment, semicolon, -⟩ := keeps.1 unquoted
    exact ⟨lineComment, blockComment, semicolon, rfl⟩

theorem Keeps.of_append {rest : List Char}
    (word : ∀ m, rest.head? = some m → Text.isWordChar m = false)
    (keeps : Keeps p (w ++ rest)) : Keeps p w := by
  induction w generalizing p with
  | nil => trivial
  | cons c w ih =>
    rw [List.cons_append] at keeps
    refine ⟨fun unquoted => ?_, ih keeps.2⟩
    obtain ⟨lineComment, blockComment, semicolon, create⟩ := keeps.1 unquoted
    have head {m : Char} (second : w.head? = some m) : (w ++ rest).head? = some m := by
      rw [List.head?_append, second, Option.some_or]
    refine ⟨?_, ?_, semicolon, ?_⟩
    · exact fun mark => lineComment ⟨mark.1, head mark.2⟩
    · exact fun mark => blockComment ⟨mark.1, head mark.2⟩
    · rwa [breaksBefore, ← List.cons_append, startsCreate_append word] at create

end Keeps

theorem Keeps.of_blanks {blanks w : List Char} (blank : ∀ c ∈ blanks, Text.isBlank c = true)
    {before : Option Char} (keeps : Keeps { before } (blanks ++ w)) : Keeps {} w := by
  induction blanks generalizing before with
  | nil => exact keeps.of_before
  | cons c rest ih =>
    rw [List.forall_mem_cons] at blank
    have visible : Scan.IsVisible {} := fun _ opened => by cases opened
    have passed : ({ before } : Place).take c = { before := some c } := by
      have stays : Scan.step {} c = {} := visible.step_blank blank.1
      simp [Place.take, stays, blank.1]
    have tail := keeps.2
    rw [passed] at tail
    exact ih blank.2 tail

theorem Keeps.trimChars {w : List Char} (keeps : Keeps {} w) : Keeps {} (Text.trimChars w) := by
  obtain ⟨before, after, blank, blank', split⟩ := Text.exists_trimChars w
  rw [split] at keeps
  refine (keeps.of_blanks blank).of_append fun m head => ?_
  exact Text.isWordChar_of_isBlank (blank' m (List.mem_of_head? head))

end Script

end RelSchema.Sql
