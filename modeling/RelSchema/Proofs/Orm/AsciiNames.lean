import RelSchema.Proofs.Orm.Attributes

namespace RelSchema

def IsAscii (name : String) : Prop := ∀ c ∈ name.toList, Text.isAscii c = true

instance (name : String) : Decidable (IsAscii name) := List.decidableBAll _ name.toList

namespace IsAscii

variable {name : String}

theorem ofList {w : List Char} (ascii : ∀ c ∈ w, Text.isAscii c = true) :
    IsAscii (String.ofList w) := by
  rwa [IsAscii, String.toList_ofList]

theorem append {rest : String} (ascii : IsAscii name) (ascii' : IsAscii rest) :
    IsAscii (name ++ rest) := by
  intro c member
  rw [String.toList_append] at member
  exact (List.mem_append.mp member).elim (ascii c) (ascii' c)

theorem repr (n : Nat) : IsAscii n.repr := by
  intro c member
  have range := Char.isDigit_iff_toNat.mp (Text.repr_isDigit n c member)
  have nine : '9'.toNat = 57 := rfl
  rw [Text.isAscii, decide_eq_true_eq]
  omega

theorem singularize (ascii : IsAscii name) : IsAscii (singularize name) := by
  have front (n : Nat) : ∀ c ∈ name.toList.take n, Text.isAscii c = true :=
    fun c member => ascii c (List.mem_of_mem_take member)
  unfold RelSchema.singularize
  dsimp only
  split
  · refine ofList fun c member => ?_
    rcases List.mem_append.mp member with member | member
    · exact front _ c member
    · rw [List.mem_singleton.mp member]
      split <;> decide
  · split
    · exact ofList (front _)
    · split
      · exact ofList (front _)
      · exact ascii

theorem stem (ascii : IsAscii name) : IsAscii (Orm.stem name) := by
  have without {w : List Char} (ascii : ∀ c ∈ w, Text.isAscii c = true) :
      ∀ c ∈ Orm.withoutIdEnding w, Text.isAscii c = true := by
    unfold Orm.withoutIdEnding
    split
    · exact fun c member => ascii c (List.mem_of_mem_take member)
    · exact ascii
  unfold Orm.stem
  refine ofList ?_
  split
  · intro c member
    rcases List.mem_append.mp member with member | member
    · exact without (fun d inside => ascii d (List.dropLast_subset _ inside)) c member
    · rw [List.mem_singleton.mp member]
      decide
  · exact without ascii

theorem candidate (ascii : IsAscii name) (n : Nat) : IsAscii (Orm.candidate name n) := by
  cases n with
  | zero => exact ascii
  | succ n => exact (ascii.append (by decide)).append (repr _)

end IsAscii

def Schema.HasAsciiNames (s : Schema) : Prop :=
  ∀ t ∈ s.tables, IsAscii t.name ∧ ∀ c ∈ t.columns, IsAscii c.name

instance (s : Schema) : Decidable s.HasAsciiNames :=
  inferInstanceAs (Decidable (∀ t ∈ s.tables, IsAscii t.name ∧ ∀ c ∈ t.columns, IsAscii c.name))

namespace Orm

theorem nameLinks_candidates {list : List Link} {taken : Taken} {r : Relation}
    (member : r ∈ nameLinks taken list) :
    (∃ n, r.name = candidate r.preferredName n) ∧
      ∃ n, r.reverseName = candidate r.preferredReverse n := by
  induction list generalizing taken with
  | nil => cases member
  | cons l rest ih =>
    rcases List.mem_cons.mp member with rfl | later
    · obtain ⟨n, named, -⟩ := freeName_isFirstFree (taken.getD l.child.place []) l.preferredName
      obtain ⟨n', named', -⟩ := freeName_isFirstFree
        ((taken.claim l.child.place l.preferredName).2.getD l.parent.place []) l.preferredReverse
      exact ⟨⟨n, named⟩, n', named'⟩
    · exact ih later

theorem attributesAt_ascii {s : Schema} (ascii : s.HasAsciiNames) {place : Nat} :
    ∀ name ∈ attributesAt (relations s) place, IsAscii name := by
  intro name member
  obtain ⟨r, inside, ends⟩ := mem_ends.mp member
  have own := (relations_onePerKey s).own r inside
  obtain ⟨table, columns⟩ := ascii _ (List.mem_of_getElem? own.child)
  have column := columns _ (List.mem_of_getElem? own.column)
  obtain ⟨⟨n, named⟩, n', named'⟩ := nameLinks_candidates inside
  obtain ⟨-, rfl⟩ | ⟨-, rfl⟩ := ends
  · rw [named]
    refine .candidate ?_ n
    unfold Link.preferredName
    dsimp only
    split
    · exact column.append (by decide)
    · exact column.stem
  · rw [named']
    refine .candidate ?_ n'
    unfold Link.preferredReverse
    split
    · exact table.singularize
    · exact table

end Orm

end RelSchema
