import Mathlib.Data.List.TakeDrop
import RelSchema.Json.Basic
import RelSchema.Json.Reader
import RelSchema.Proofs.Numerals

namespace RelSchema

namespace Text

theorem toDigits_head? {n : Nat} (positive : 0 < n) : (Nat.toDigits 10 n).head? ≠ some '0' := by
  induction n using Nat.strongRecOn with
  | ind n ih =>
    rcases Nat.lt_or_ge n 10 with small | large
    · have digit : ∀ k < 10, 0 < k → (Nat.digitChar k) ≠ '0' := by decide
      rw [Nat.toDigits_of_lt_base small]
      simpa using digit n small positive
    · have first : (Nat.toDigits 10 (n / 10)).head? ≠ none := by
        rw [ne_eq, List.head?_eq_none_iff]
        exact Nat.toDigits_ne_nil
      have before := ih (n / 10) (by omega) (by omega)
      rw [Nat.toDigits_of_base_le (by decide) large, List.head?_append]
      cases head : (Nat.toDigits 10 (n / 10)).head? with
      | none => exact absurd head first
      | some c => simpa [head] using before

end Text

namespace Json

def EndsNumber (rest : List Char) : Prop :=
  ∀ c ∈ rest.head?, c.isDigit = false ∧ c ≠ '.' ∧ c ≠ 'e' ∧ c ≠ 'E'

theorem span_digits {digits rest : List Char} (all : ∀ c ∈ digits, c.isDigit = true)
    (ends : EndsNumber rest) : (digits ++ rest).span Char.isDigit = (digits, rest) := by
  rw [List.span_eq_takeWhile_dropWhile, List.takeWhile_append_of_pos all,
    List.dropWhile_append_of_pos all]
  cases rest with
  | nil => simp
  | cons c rest =>
    have other := (ends c rfl).1
    simp [other]

theorem spanWhole_repr (n : Nat) {rest : List Char} (ends : EndsNumber rest) :
    spanWhole (n.repr.toList ++ rest) = (n.repr.toList, rest) := by
  rcases Nat.eq_zero_or_pos n with rfl | positive
  · rfl
  · have leading := Text.toDigits_head? positive
    have spanned := span_digits (Text.repr_isDigit n) ends
    rw [← Nat.toList_repr] at leading
    cases shape : n.repr.toList with
    | nil => exact absurd shape (Text.repr_ne_nil n)
    | cons c digits =>
      rw [shape] at leading spanned
      have nonzero : c ≠ '0' := by simpa using leading
      rw [← spanned, List.cons_append]
      exact spanWhole.eq_2 (c :: (digits ++ rest)) fun _ same => nonzero (List.cons.inj same).1

theorem digitsValue_repr (n : Nat) : digitsValue n.repr.toList = n := by
  have value := Nat.ofDigitChars_ten_toDigits (n := n)
  rw [Nat.ofDigitChars_eq_foldl] at value
  simpa only [digitsValue, Nat.toList_repr, Nat.mul_comm] using value

theorem spanFraction_ends {rest : List Char} (ends : EndsNumber rest) :
    spanFraction rest = ([], rest) := by
  cases rest with
  | nil => rfl
  | cons c rest =>
    have point := (ends c rfl).2.1
    exact spanFraction.eq_2 (c :: rest) fun _ same => point (List.cons.inj same).1

theorem spanExponent_ends {rest : List Char} (ends : EndsNumber rest) :
    spanExponent rest = (none, rest) := by
  cases rest with
  | nil => rfl
  | cons c rest =>
    obtain ⟨-, -, small, large⟩ := ends c rfl
    simp [spanExponent, small, large]

theorem readNumber_repr (start : List Char) (negative : Bool) {n : Nat} {rest : List Char}
    (short : n.repr.length ≤ maxDigits) (ends : EndsNumber rest) :
    readNumber start negative (n.repr.toList ++ rest) =
      .ok (.int ((if negative then -1 else 1) * n), rest) := by
  have some : n.repr.toList.isEmpty = false := List.isEmpty_eq_false_iff.mpr (Text.repr_ne_nil n)
  have fits : ¬ n.repr.toList.length > maxDigits := by
    rw [String.length_toList]
    omega
  simp only [readNumber, spanWhole_repr n ends, spanFraction_ends ends, spanExponent_ends ends,
    some, fits, digitsValue_repr]
  rfl

theorem ne_of_digit {c d : Char} (digit : c.isDigit = true) (other : d.isDigit = false) :
    c ≠ d := by
  rintro rfl
  rw [digit] at other
  contradiction

theorem readWord?_digit {c : Char} (digit : c.isDigit = true) (rest : List Char) :
    readWord? (c :: rest) = none := by
  have other {d : Char} (letter : d.isDigit = false) : d ≠ c := (ne_of_digit digit letter).symm
  simp [readWord?, wordValues, afterWord?, other]

theorem readWord?_minus {c : Char} (digit : c.isDigit = true) (rest : List Char) :
    readWord? ('-' :: c :: rest) = none := by
  have other : 'I' ≠ c := (ne_of_digit digit rfl).symm
  simp [readWord?, wordValues, afterWord?, other]

theorem readScalar_digit {c : Char} (digit : c.isDigit = true) (rest : List Char) :
    readScalar (c :: rest) = readNumber (c :: rest) false (c :: rest) := by
  rw [readScalar, readWord?_digit digit]
  intro _ same
  exact ne_of_digit digit rfl (List.cons.inj same).1

theorem readScalar_minus {c : Char} (digit : c.isDigit = true) (rest : List Char) :
    readScalar ('-' :: c :: rest) = readNumber ('-' :: c :: rest) true (c :: rest) := by
  rw [readScalar, readWord?_minus digit]

theorem toString_int (i : Int) :
    ∃ c more, c.isDigit = true ∧ i.natAbs.repr.toList = c :: more ∧
      (0 ≤ i ∧ (toString i).toList = c :: more ∨
        i < 0 ∧ (toString i).toList = '-' :: c :: more) := by
  have all := Text.repr_isDigit i.natAbs
  cases digits : i.natAbs.repr.toList with
  | nil => exact absurd digits (Text.repr_ne_nil i.natAbs)
  | cons c more =>
    rw [digits, List.forall_mem_cons] at all
    refine ⟨c, more, all.1, rfl, ?_⟩
    rw [Int.toString_eq_repr, Int.repr_eq_if]
    by_cases positive : 0 ≤ i
    · have size : i.toNat = i.natAbs := by omega
      rw [if_pos positive, size]
      exact .inl ⟨positive, digits⟩
    · have size : (-i).toNat = i.natAbs := by omega
      rw [if_neg positive, size, String.toList_append, digits]
      exact .inr ⟨by omega, rfl⟩

theorem readScalar_int (i : Int) {rest : List Char} (short : i.natAbs.repr.length ≤ maxDigits)
    (ends : EndsNumber rest) :
    readScalar ((toString i).toList ++ rest) = .ok (.int i, rest) := by
  obtain ⟨c, more, digit, digits, ⟨positive, written⟩ | ⟨negative, written⟩⟩ := toString_int i
  · have value : 1 * (i.natAbs : Int) = i := by omega
    rw [written, List.cons_append, readScalar_digit digit, ← List.cons_append, ← digits,
      readNumber_repr _ false short ends]
    simp only [Bool.false_eq_true, ↓reduceIte, value]
  · have value : -1 * (i.natAbs : Int) = i := by omega
    rw [written, List.cons_append, List.cons_append, readScalar_minus digit, ← List.cons_append,
      ← digits, readNumber_repr _ true short ends]
    simp only [↓reduceIte, value]

end Json

end RelSchema
