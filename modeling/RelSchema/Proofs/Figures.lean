import Mathlib.Data.List.Basic
import RelSchema.Measure
import RelSchema.Text.Timestamp

namespace RelSchema

def isFigure (c : Char) : Bool := c.isDigit || "+-.:Taefin".toList.contains c

def IsFigures (text : List Char) : Prop := ∀ c ∈ text, isFigure c = true

instance (text : List Char) : Decidable (IsFigures text) :=
  decidable_of_iff (text.all isFigure = true) List.all_eq_true

namespace IsFigures

@[simp] theorem nil : IsFigures [] := List.forall_mem_nil _

@[simp] theorem cons_iff {c : Char} {text : List Char} :
    IsFigures (c :: text) ↔ isFigure c = true ∧ IsFigures text :=
  List.forall_mem_cons

@[simp] theorem append_iff {a b : List Char} : IsFigures (a ++ b) ↔ IsFigures a ∧ IsFigures b :=
  List.forall_mem_append

theorem sublist {a b : List Char} (inside : List.Sublist a b) (figures : IsFigures b) :
    IsFigures a :=
  fun c member => figures c (inside.subset member)

@[simp] theorem toDigits (n : Nat) : IsFigures (Nat.toDigits 10 n) := by
  intro c member
  rw [isFigure, Nat.isDigit_of_mem_toDigits (by decide) (by decide) member, Bool.true_or]

@[simp] theorem repr (n : Nat) : IsFigures n.repr.toList := by
  rw [Nat.toList_repr]
  exact toDigits n

@[simp] theorem replicate_zero (n : Nat) : IsFigures (List.replicate n '0') := by
  intro c member
  rw [List.eq_of_mem_replicate member]
  rfl

end IsFigures

open IsFigures

namespace Decimal

theorem zeros_isFigures (n : Nat) : IsFigures (zeros n) := replicate_zero n

theorem signed_isFigures {text : List Char} (figures : IsFigures text) (negative : Bool) :
    IsFigures (signed negative text) := by
  cases negative with
  | false => exact figures
  | true => exact cons_iff.mpr ⟨rfl, figures⟩

theorem layOut_isFigures {digits : List Char} (figures : IsFigures digits) (exponent : Int) :
    IsFigures (layOut digits exponent) := by
  have before (n : Nat) : IsFigures (digits.take n) := figures.sublist (List.take_sublist n digits)
  have after (n : Nat) : IsFigures (digits.drop n) := figures.sublist (List.drop_sublist n digits)
  have size (n : Nat) : IsFigures
      (if (Nat.toDigits 10 n).length < 2 then '0' :: Nat.toDigits 10 n else Nat.toDigits 10 n) := by
    split <;> simp [isFigure]
  have sign (power : Int) : isFigure (if power < 0 then '-' else '+') = true := by
    split <;> rfl
  simp only [layOut]
  split
  · split
    · simp [isFigure, zeros_isFigures, figures]
    · split
      · simp [isFigure, zeros_isFigures, figures]
      · simp [isFigure, before, after]
  · refine append_iff.mpr ⟨append_iff.mpr ⟨before 1, ?_⟩, ?_⟩
    · split
      · exact nil
      · exact cons_iff.mpr ⟨rfl, figures.sublist (List.tail_sublist digits)⟩
    · exact cons_iff.mpr ⟨rfl, cons_iff.mpr ⟨sign _, size _⟩⟩

theorem reduced_isFigures (s : Scientific) : IsFigures s.reduced.1 := by
  refine (toDigits s.digits).sublist ?_
  rw [Scientific.reduced, ← List.reverse_sublist, List.reverse_reverse]
  exact List.dropWhile_sublist _

theorem shortest_isFigures (x : Float) : IsFigures (shortest x).toList := by
  rw [shortest, String.toList_ofList]
  split
  · decide
  · exact signed_isFigures (by decide) _
  · exact signed_isFigures (by decide) _
  · exact signed_isFigures (layOut_isFigures (reduced_isFigures _) _) _

theorem placed_isFigures (places units : Nat) : IsFigures (placed places units) := by
  have padded : IsFigures
      (List.replicate (places + 1 - (Nat.toDigits 10 units).length) '0' ++ Nat.toDigits 10 units) :=
    append_iff.mpr ⟨replicate_zero _, toDigits units⟩
  rw [placed, append_iff]
  refine ⟨padded.sublist (List.take_sublist _ _), ?_⟩
  split
  · exact nil
  · exact cons_iff.mpr ⟨rfl, padded.sublist (List.drop_sublist _ _)⟩

theorem fixed_isFigures (places : Nat) (signedZero : Bool) (x : Float) :
    IsFigures (fixed places signedZero x).toList := by
  have negated {text : List Char} (figures : IsFigures text) (condition : Bool) :
      IsFigures (if condition then '-' :: text else text) := by
    split
    · exact cons_iff.mpr ⟨rfl, figures⟩
    · exact figures
  rw [fixed, String.toList_ofList]
  split
  · decide
  · split <;> decide
  · exact negated (placed_isFigures _ _) _
  · exact negated (placed_isFigures _ _) _

end Decimal

namespace Measure

theorem text_isFigures (m : Measure) : IsFigures m.text.toList := by
  cases m with
  | real x => exact Decimal.shortest_isFigures x
  | whole n =>
    cases n with
    | ofNat n => exact repr n
    | negSucc n =>
      have written : (text (whole (.negSucc n))).toList = '-' :: (n + 1).repr.toList :=
        String.toList_append
      rw [written]
      exact cons_iff.mpr ⟨rfl, repr (n + 1)⟩

theorem hundredths_isFigures (m : Measure) : IsFigures m.hundredths.toList :=
  Decimal.fixed_isFigures _ _ _

end Measure

namespace Text

theorem twoDigits_isFigures (n : Nat) : IsFigures (twoDigits n).toList := by
  unfold twoDigits
  split
  · rw [String.toList_append]
    exact append_iff.mpr ⟨by decide, repr n⟩
  · exact repr n

theorem zeroPadded_isFigures (width n : Nat) : IsFigures (zeroPadded width n).toList := by
  rw [zeroPadded, String.toList_ofList, append_iff]
  exact ⟨replicate_zero _, toDigits n⟩

theorem Timestamp.text_isFigures (t : Timestamp) : IsFigures t.text.toList := by
  have clock (hours minutes seconds : Nat) :
      IsFigures (":".intercalate ([hours, minutes, seconds].map twoDigits)).toList := by
    simp only [List.map_cons, List.map_nil, String.intercalate_cons_cons,
      String.intercalate_singleton, String.toList_append, append_iff]
    have colon : IsFigures ":".toList := by decide
    exact ⟨⟨twoDigits_isFigures hours, colon⟩, ⟨twoDigits_isFigures minutes, colon⟩,
      twoDigits_isFigures seconds⟩
  have fraction : IsFigures
      (if t.microseconds = 0 then "" else "." ++ zeroPadded 6 t.microseconds).toList := by
    split
    · exact nil
    · rw [String.toList_append]
      exact append_iff.mpr ⟨by decide, zeroPadded_isFigures 6 t.microseconds⟩
  have dash : IsFigures "-".toList := by decide
  simp only [Timestamp.text, String.toList_append, append_iff]
  exact ⟨⟨⟨⟨⟨⟨⟨⟨repr _, dash⟩, twoDigits_isFigures _⟩, dash⟩, twoDigits_isFigures _⟩, by decide⟩,
    clock _ _ _⟩, fraction⟩, by decide⟩

end Text

end RelSchema
