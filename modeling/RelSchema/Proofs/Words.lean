import RelSchema.Proofs.Numerals
import RelSchema.Text.Case
import RelSchema.Text.Letter

namespace RelSchema.Text

def asciiWordRanges : Ranges := [(0x30, 0x39), (0x41, 0x5A), (0x5F, 0x5F), (0x61, 0x7A)]

def wordRanges : Ranges := asciiWordRanges ++ (letterRanges ++ numeralRanges)

theorem Ranges.contains_append (a b : Ranges) (c : Char) :
    (a ++ b).contains c = (a.contains c || b.contains c) := by
  simp [Ranges.contains, List.any_append]

theorem asciiWord_iff (c : Char) :
    asciiWordRanges.contains c = (c == '_' || c.isAlphanum) := by
  have alphanumeric : c.isAlphanum =
      ((decide ('A'.val ≤ c.val ∧ c.val ≤ 'Z'.val) ||
        decide ('a'.val ≤ c.val) && decide (c.val ≤ 'z'.val)) ||
        decide ('0'.val ≤ c.val) && decide (c.val ≤ '9'.val)) := rfl
  rw [Bool.eq_iff_iff, Ranges.contains_iff, alphanumeric]
  simp only [asciiWordRanges, List.mem_cons, List.not_mem_nil, or_false, exists_eq_or_imp,
    exists_eq_left, Bool.or_eq_true, beq_iff_eq, decide_eq_true_eq, Bool.and_eq_true,
    UInt32.le_iff_toNat_le, Char.toNat_val, ← Char.toNat_inj, Char.reduceVal, Char.reduceToNat,
    UInt32.reduceToNat]
  omega

theorem beyondAscii : ∀ r ∈ letterRanges ++ numeralRanges, 128 ≤ r.1 := by decide +kernel

theorem isWordChar_eq (c : Char) : isWordChar c = wordRanges.contains c := by
  rw [wordRanges, Ranges.contains_append, asciiWord_iff, Ranges.contains_append]
  unfold isWordChar isAlphanumeric
  by_cases ascii : isAscii c = true
  · have none : (letterRanges ++ numeralRanges).contains c = false := by
      rw [Bool.eq_false_iff, ne_eq, Ranges.contains_iff]
      rintro ⟨r, member, low, -⟩
      have := beyondAscii r member
      simp only [isAscii, decide_eq_true_eq] at ascii
      omega
    rw [Ranges.contains_append] at none
    simp [ascii, none]
  · have none : asciiWordRanges.contains c = false := by
      rw [Bool.eq_false_iff, ne_eq, Ranges.contains_iff]
      simp only [isAscii, decide_eq_true_eq] at ascii
      simp only [asciiWordRanges, List.mem_cons, List.not_mem_nil, or_false, exists_eq_or_imp,
        exists_eq_left]
      omega
    rw [asciiWord_iff, Bool.or_eq_false_iff] at none
    simp [ascii, none]

def Ranges.holdAll (ranges : Ranges) (first last : Nat) : Bool :=
  ranges.any fun r => Nat.ble r.1 first && Nat.ble last r.2

def Ranges.holdNone (ranges : Ranges) (first last : Nat) : Bool :=
  ranges.all fun r => Nat.blt r.2 first || Nat.blt last r.1

def CaseRun.staysInWords (run : CaseRun) : Bool :=
  wordRanges.holdAll (run.first + run.shift).toNat (run.last + run.shift).toNat ||
    wordRanges.holdNone run.first run.last

theorem lowerRuns_stayInWords : ∀ run ∈ lowerRuns, run.staysInWords = true := by decide +kernel

theorem wordRanges_valid : ∀ r ∈ wordRanges, r.2 < 0xD800 ∨ 0xDFFF < r.1 ∧ r.2 < 0x110000 := by
  decide +kernel

theorem toNat_ofNat_of_valid {n : Nat} (valid : n < 0xD800 ∨ 0xDFFF < n ∧ n < 0x110000) :
    (Char.ofNat n).toNat = n := by
  have isValid : n.isValidChar := valid
  rw [Char.ofNat, dif_pos isValid]
  rfl

theorem mapCase_isWordChar {c : Char} (h : isWordChar c = true) :
    isWordChar (mapCase lowerRuns c) = true := by
  unfold mapCase
  split
  · rename_i run found
    have covers := List.find?_some found
    have stays := lowerRuns_stayInWords run (List.mem_of_find?_eq_some found)
    simp only [CaseRun.covers, Bool.and_eq_true, decide_eq_true_eq, beq_iff_eq] at covers
    rw [isWordChar_eq, Ranges.contains_iff] at h ⊢
    simp only [CaseRun.staysInWords, Ranges.holdAll, Ranges.holdNone, Bool.or_eq_true,
      List.any_eq_true, List.all_eq_true, Bool.and_eq_true, Nat.ble_eq, Nat.blt_eq] at stays
    rcases stays with ⟨r, member, low, high⟩ | apart
    · refine ⟨r, member, ?_⟩
      have valid := wordRanges_valid r member
      rw [toNat_ofNat_of_valid (by omega)]
      omega
    · obtain ⟨r, member, low, high⟩ := h
      have := apart r member
      omega
  · exact h

def combiningDot : Char := Char.ofNat 0x307

/-- Word characters, and combining dots after the letter i. -/
def Spelled : Char → List Char → Prop
  | _, [] => True
  | before, c :: rest =>
    (isWordChar c = true ∨ (before = 'i' ∧ c = combiningDot)) ∧ Spelled c rest

theorem ascii_forall {p : Char → Prop} (all : ∀ n < 128, p (Char.ofNat n)) {c : Char}
    (ascii : isAscii c = true) : p c := by
  simp only [isAscii, decide_eq_true_eq] at ascii
  have here := all c.toNat ascii
  rwa [Char.ofNat_toNat] at here

theorem toLower_isWordChar {c : Char} (ascii : isAscii c = true) (h : isWordChar c = true) :
    isWordChar c.toLower = true :=
  ascii_forall (p := fun c => isWordChar c = true → isWordChar c.toLower = true)
    (by decide +kernel) ascii h

theorem lowerChar_cases {c : Char} (h : isWordChar c = true) (before after : List Char) :
    (∃ l, isWordChar l = true ∧ lowerChar before c after = [l]) ∨
      lowerChar before c after = ['i', combiningDot] := by
  unfold lowerChar
  split
  · rename_i ascii
    exact .inl ⟨_, toLower_isWordChar ascii h, rfl⟩
  · split
    · exact .inr rfl
    · split
      · refine .inl ⟨_, ?_, rfl⟩
        split <;> decide
      · exact .inl ⟨_, mapCase_isWordChar h, rfl⟩

theorem spelled_lowerFrom {w : List Char} (h : ∀ c ∈ w, isWordChar c = true) (b : Char)
    (before : List Char) : Spelled b (lowerFrom before w) := by
  induction w generalizing b before with
  | nil => trivial
  | cons c rest ih =>
    rw [List.forall_mem_cons] at h
    rw [lowerFrom]
    rcases lowerChar_cases h.1 before rest with ⟨l, word, lowered⟩ | lowered
    · rw [lowered]
      exact ⟨.inl word, ih h.2 l _⟩
    · rw [lowered]
      exact ⟨.inl (by decide), .inr ⟨rfl, rfl⟩, ih h.2 combiningDot _⟩

theorem lowerFrom_concat {c : Char} (ascii : isAscii c = true) (before w : List Char) :
    ∃ front, lowerFrom before (w ++ [c]) = front ++ [c.toLower] := by
  induction w generalizing before with
  | nil => exact ⟨[], by simp [lowerFrom, lowerChar, ascii]⟩
  | cons d rest ih =>
    obtain ⟨front, lowered⟩ := ih (d :: before)
    exact ⟨lowerChar before d (rest ++ [c]) ++ front, by simp [lowerFrom, lowered]⟩

theorem lowerFrom_ascii {w : List Char} (ascii : ∀ c ∈ w, isAscii c = true) (before : List Char) :
    lowerFrom before w = w.map Char.toLower := by
  induction w generalizing before with
  | nil => rfl
  | cons c rest ih =>
    rw [List.forall_mem_cons] at ascii
    rw [lowerFrom, ih ascii.2, lowerChar, if_pos ascii.1]
    rfl

section Seam

variable {c : Char} (stops : isCaseIgnorable c = false) (uncased : isCased c = false)

include stops uncased

theorem nextIsCased_append (w rest : List Char) : nextIsCased (w ++ c :: rest) = nextIsCased w := by
  induction w with
  | nil => simp [nextIsCased, stops, uncased]
  | cons d w ih =>
    by_cases ignored : isCaseIgnorable d = true
    · simpa [nextIsCased, ignored] using ih
    · simp [nextIsCased, ignored]

/-- Before a character that no case is seen through, a text is in lower case as it is by itself. -/
theorem lowerFrom_append (before w rest : List Char) :
    lowerFrom before (w ++ c :: rest) =
      lowerFrom before w ++ lowerFrom (w.reverse ++ before) (c :: rest) := by
  induction w generalizing before with
  | nil => rfl
  | cons d w ih =>
    have first : lowerChar before d (w ++ c :: rest) = lowerChar before d w := by
      rw [lowerChar, lowerChar, nextIsCased_append stops uncased]
    rw [List.cons_append, lowerFrom, lowerFrom, first, ih, List.reverse_cons, List.append_assoc,
      List.append_assoc]
    rfl

end Seam

theorem lowerFrom_digits {digits : List Char} (all : ∀ c ∈ digits, c.isDigit = true)
    (before : List Char) : lowerFrom before digits = digits := by
  have own : ∀ c ∈ digits, isAscii c = true ∧ c.toLower = c := by
    intro c member
    have range := Char.isDigit_iff_toNat.mp (all c member)
    have zero : '0'.toNat = 48 := rfl
    have nine : '9'.toNat = 57 := rfl
    constructor
    · simp only [isAscii, decide_eq_true_eq]
      omega
    · refine dif_neg fun upper => ?_
      have first : 65 ≤ c.toNat := UInt32.le_iff_toNat_le.mp upper.1
      omega
  rw [lowerFrom_ascii fun c member => (own c member).1]
  exact (List.map_congr_left fun c member => (own c member).2).trans (List.map_id' _)

theorem lower_numbered (name : String) (n : Nat) :
    lower s!"{name}_{n}" = lower name ++ "_" ++ n.repr := by
  have underscore : isCaseIgnorable '_' = false ∧ isCased '_' = false := by decide +kernel
  have chars : (s!"{name}_{n}").toList = name.toList ++ '_' :: n.repr.toList := by
    change (name ++ "_" ++ n.repr).toList = _
    simp only [String.toList_append, List.append_assoc]
    rfl
  have small : ∀ before after, lowerChar before '_' after = ['_'] := fun _ _ => rfl
  rw [← String.toList_inj, lower, chars, String.toList_ofList,
    lowerFrom_append underscore.1 underscore.2, lowerFrom, small,
    lowerFrom_digits (repr_isDigit n), lower]
  simp

end RelSchema.Text
