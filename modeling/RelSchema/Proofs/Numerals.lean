import RelSchema.Text.Quoted

namespace RelSchema.Text

theorem decimalValue?_digit {c : Char} (h : c.isDigit = true) :
    decimalValue? c = some (c.toNat - '0'.toNat) := by
  have ascii : isAscii c = true := by
    have range := Char.isDigit_iff_toNat.mp h
    have nine : '9'.toNat = 57 := rfl
    simp only [isAscii, decide_eq_true_eq]
    omega
  simp [decimalValue?, ascii, h]

theorem foldl_digits {digits : List Char} (h : ∀ c ∈ digits, c.isDigit = true) (start : Nat) :
    digits.foldl (fun value c => do return (← value) * 10 + (← decimalValue? c)) (some start) =
      some (Nat.ofDigitChars 10 digits start) := by
  induction digits generalizing start with
  | nil => rfl
  | cons c rest ih =>
    rw [List.forall_mem_cons] at h
    have tail := ih h.2 (start * 10 + (c.toNat - '0'.toNat))
    simp only [List.foldl_cons, Option.bind_eq_bind, Option.bind_some, decimalValue?_digit h.1,
      Option.pure_def] at tail ⊢
    rw [tail]
    simp [Nat.ofDigitChars_cons, Nat.mul_comm]

theorem repr_isDigit (n : Nat) : ∀ c ∈ n.repr.toList, c.isDigit = true := by
  intro c member
  rw [Nat.toList_repr] at member
  exact Nat.isDigit_of_mem_toDigits (by decide) (by decide) member

theorem repr_ne_nil (n : Nat) : n.repr.toList ≠ [] := by
  rw [Nat.toList_repr]
  exact Nat.toDigits_ne_nil

theorem natOfDigits?_repr (n : Nat) : natOfDigits? n.repr.toList = some n := by
  unfold natOfDigits?
  split
  · rename_i none
    exact absurd none (repr_ne_nil n)
  · rw [foldl_digits (repr_isDigit n), Nat.toList_repr, Nat.ofDigitChars_ten_toDigits]

theorem number_repr {n : Nat} (short : n.repr.length ≤ maxNumberDigits) :
    number n.repr = .ok n := by
  rw [number, natOfDigits?_repr]
  exact if_neg (by omega)

theorem length_repr_pow {k : Nat} (positive : 0 < k) : ¬ (Nat.pow 10 k).repr.length ≤ k := by
  rw [Nat.length_repr_le_iff positive]
  exact Nat.lt_irrefl _

theorem isDigits_repr (n : Nat) : isDigits n.repr = true := by
  have some : n.repr.isEmpty = false := by
    rw [String.isEmpty_eq_false_iff]
    intro empty
    exact repr_ne_nil n (by rw [empty]; rfl)
  simp only [isDigits, some, Bool.not_false, Bool.true_and, List.all_eq_true]
  intro c member
  simp [isDigit, isDecimal, decimalValue?_digit (repr_isDigit n c member)]

def IsNumeral (digits : String) : Prop :=
  (∀ c ∈ digits.toList, isDecimal c = true) ∧ digits.length ≤ maxNumberDigits

theorem foldl_digits_isSome (digits : List Char) (start : Nat) :
    (digits.foldl (fun value c => do return (← value) * 10 + (← decimalValue? c))
      (some start)).isSome = true ↔ ∀ c ∈ digits, isDecimal c = true := by
  induction digits generalizing start with
  | nil => simp
  | cons c rest ih =>
    rw [List.foldl_cons, List.forall_mem_cons]
    cases value : decimalValue? c with
    | some d =>
      have decimal : isDecimal c = true := by simp [isDecimal, value]
      simpa [decimal, value] using ih (start * 10 + d)
    | none =>
      have stuck : ∀ more : List Char, more.foldl
          (fun (value : Option Nat) c => do return (← value) * 10 + (← decimalValue? c)) none =
            none := by
        intro more
        induction more with
        | nil => rfl
        | cons d more stuck => simpa using stuck
      simp only [isDecimal, value, Option.pure_def, Option.bind_eq_bind, Option.bind_none,
        Option.isSome_none, Bool.false_eq_true, false_and, iff_false, Bool.not_eq_true,
        Option.isSome_eq_false_iff, Option.isNone_iff_eq_none]
      exact stuck rest

theorem number_ok_iff {digits : String} (some : digits.isEmpty = false) :
    (∃ n, number digits = .ok n) ↔ IsNumeral digits := by
  have letters : digits.toList ≠ [] := by simpa using some
  have spelled : (natOfDigits? digits.toList).isSome = true ↔
      ∀ c ∈ digits.toList, isDecimal c = true := by
    rw [← foldl_digits_isSome digits.toList 0]
    unfold natOfDigits?
    split
    · contradiction
    · rfl
  unfold number IsNumeral
  rw [← spelled]
  cases natOfDigits? digits.toList with
  | none => simp
  | some n =>
    rcases Nat.lt_or_ge maxNumberDigits digits.length with long | short
    · simp [long]
    · simp [short, Nat.not_lt.mpr short]

end RelSchema.Text
