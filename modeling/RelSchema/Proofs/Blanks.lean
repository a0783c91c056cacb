import RelSchema.Proofs.Words
import RelSchema.Text.Character

namespace RelSchema.Text

theorem blankRanges_noWord : ∀ r ∈ blankRanges, wordRanges.holdNone r.1 r.2 = true := by
  decide +kernel

theorem isWordChar_of_isBlank {c : Char} (blank : isBlank c = true) : isWordChar c = false := by
  obtain ⟨r, member, low, high⟩ := (Ranges.contains_iff _ c).mp blank
  rw [isWordChar_eq, Bool.eq_false_iff, ne_eq, Ranges.contains_iff]
  rintro ⟨r', member', low', high'⟩
  have apart := List.all_eq_true.mp (blankRanges_noWord r member) r' member'
  simp only [Bool.or_eq_true, Nat.blt_eq] at apart
  omega

theorem head_dropWhile {α : Type} {kind : α → Bool} {w : List α} {a : α}
    (head : (w.dropWhile kind).head? = some a) : kind a = false := by
  have first := List.head?_dropWhile_not kind w
  rw [head] at first
  simpa using first

theorem trimLeft_eq_self {w : List Char} (head : ∀ c ∈ w.head?, isBlank c = false) :
    trimLeft w = w := by
  cases w with
  | nil => rfl
  | cons c rest => simp [trimLeft, head c rfl]

theorem trimChars_eq_self {w : List Char} (head : ∀ c ∈ w.head?, isBlank c = false)
    (last : ∀ c ∈ w.getLast?, isBlank c = false) : trimChars w = w := by
  have backwards : ∀ c ∈ w.reverse.head?, isBlank c = false := by
    rwa [List.head?_reverse]
  rw [trimChars, trimLeft_eq_self head, trimRight, trimLeft_eq_self backwards,
    List.reverse_reverse]

theorem exists_trimLeft (w : List Char) :
    ∃ blanks, (∀ c ∈ blanks, isBlank c = true) ∧ w = blanks ++ trimLeft w :=
  ⟨w.takeWhile isBlank, List.all_eq_true.mp List.all_takeWhile,
    List.takeWhile_append_dropWhile.symm⟩

theorem exists_trimRight (w : List Char) :
    ∃ blanks, (∀ c ∈ blanks, isBlank c = true) ∧ w = trimRight w ++ blanks := by
  obtain ⟨blanks, blank, split⟩ := exists_trimLeft w.reverse
  refine ⟨blanks.reverse, fun c member => blank c (List.mem_reverse.mp member), ?_⟩
  rw [trimRight, ← List.reverse_append, ← split, List.reverse_reverse]

theorem exists_trimChars (w : List Char) : ∃ before after, (∀ c ∈ before, isBlank c = true) ∧
    (∀ c ∈ after, isBlank c = true) ∧ w = before ++ (trimChars w ++ after) := by
  obtain ⟨before, blank, left⟩ := exists_trimLeft w
  obtain ⟨after, blank', right⟩ := exists_trimRight (trimLeft w)
  exact ⟨before, after, blank, blank', left.trans (congrArg (before ++ ·) right)⟩

structure IsTrimmed (w : List Char) : Prop where
  nonempty : w ≠ []
  head : ∀ c ∈ w.head?, isBlank c = false
  last : ∀ c ∈ w.getLast?, isBlank c = false

theorem IsTrimmed.trimChars_eq {w : List Char} (trimmed : IsTrimmed w) : trimChars w = w :=
  trimChars_eq_self trimmed.head trimmed.last

theorem isTrimmed_trimChars {w : List Char} (visible : trimChars w ≠ []) :
    IsTrimmed (trimChars w) where
  nonempty := visible
  head := by
    intro c head
    obtain ⟨blanks, -, split⟩ := exists_trimRight (trimLeft w)
    have first : (w.dropWhile isBlank).head? = some c := by
      change (trimLeft w).head? = _
      rw [split, List.head?_append, show (trimRight (trimLeft w)).head? = _ from head,
        Option.some_or]
    exact head_dropWhile first
  last := by
    intro c last
    rw [trimChars, trimRight, List.getLast?_reverse] at last
    exact head_dropWhile last

end RelSchema.Text
