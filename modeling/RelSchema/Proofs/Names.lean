import Mathlib.Data.List.Forall2
import Mathlib.Data.List.Nodup
import Mathlib.Data.List.Perm.Subperm
import RelSchema.Schema.Basic

namespace RelSchema

variable {α β : Type}

theorem nodup_eraseDups [BEq α] [LawfulBEq α] (list : List α) : list.eraseDups.Nodup := by
  -- What follows the first element is filtered, so the induction is on the length.
  induction h : list.length using Nat.strongRecOn generalizing list with
  | ind n ih =>
    cases list with
    | nil => exact List.nodup_nil
    | cons a rest =>
      have shorter := List.length_filter_le (fun b => !b == a) rest
      rw [List.length_cons] at h
      rw [List.eraseDups_cons, List.nodup_cons]
      exact ⟨by simp, ih _ (by omega) _ rfl⟩

theorem nodup_iff_eraseDups [BEq α] [LawfulBEq α] {list : List α} :
    list.Nodup ↔ list.length ≤ list.eraseDups.length := by
  have same : list.eraseDups ⊆ list := fun a member => List.mem_eraseDups.mp member
  have back : list ⊆ list.eraseDups := fun a member => List.mem_eraseDups.mpr member
  constructor
  · intro nodup
    exact (nodup.subperm back).length_le
  · intro enough
    have perm := ((nodup_eraseDups list).subperm same).perm_of_length_le enough
    exact perm.nodup_iff.mp (nodup_eraseDups list)

/-- No two of the names are the same but for their case. -/
def DistinctNames (names : List String) : Prop := (names.map Text.lower).Nodup

instance (names : List String) : Decidable (DistinctNames names) :=
  inferInstanceAs (Decidable (names.map Text.lower).Nodup)

theorem sameName_iff {a b : String} : Text.sameName a b = true ↔ Text.lower a = Text.lower b := by
  simp [Text.sameName]

theorem sameName_self (a : String) : Text.sameName a a = true := by simp [Text.sameName]

theorem sameName_comm (a b : String) : Text.sameName a b = Text.sameName b a := by
  simp only [Text.sameName]
  exact BEq.comm

theorem DistinctNames.cons {name : String} {names : List String} :
    DistinctNames (name :: names) ↔
      (∀ other ∈ names, Text.sameName name other = false) ∧ DistinctNames names := by
  simp only [DistinctNames, List.map_cons, List.nodup_cons, List.mem_map, not_exists, not_and,
    Text.sameName, beq_eq_false_iff_ne]
  exact and_congr_left' (forall₂_congr fun _ _ => ne_comm)

theorem DistinctNames.eq_of_sameName {name : α → String} {list : List α} {a b : α}
    (distinct : DistinctNames (list.map name)) (ha : a ∈ list) (hb : b ∈ list)
    (same : Text.sameName (name a) (name b) = true) : a = b := by
  rw [DistinctNames, List.map_map] at distinct
  exact List.inj_on_of_nodup_map distinct ha hb (sameName_iff.mp same)

theorem DistinctNames.find?_eq {name : α → String} {list : List α} {a : α} {wanted : String}
    (distinct : DistinctNames (list.map name)) (ha : a ∈ list)
    (same : Text.sameName (name a) wanted = true) :
    list.find? (fun b => Text.sameName (name b) wanted) = some a := by
  cases found : list.find? (fun b => Text.sameName (name b) wanted) with
  | none =>
    have none := List.find?_eq_none.mp found a ha
    contradiction
  | some b =>
    have hb := List.mem_of_find?_eq_some found
    have named := List.find?_some found
    have both : Text.sameName (name b) (name a) = true :=
      sameName_iff.mpr ((sameName_iff.mp named).trans (sameName_iff.mp same).symm)
    rw [distinct.eq_of_sameName hb ha both]

theorem DistinctNames.perm {names names' : List String} (distinct : DistinctNames names)
    (order : names.Perm names') : DistinctNames names' :=
  (order.map Text.lower).nodup_iff.mp distinct

theorem DistinctNames.find?_perm {name : α → String} {list list' : List α}
    (distinct : DistinctNames (list.map name)) (order : list.Perm list') (wanted : String) :
    list.find? (fun b => Text.sameName (name b) wanted) =
      list'.find? (fun b => Text.sameName (name b) wanted) := by
  cases found : list.find? (fun b => Text.sameName (name b) wanted) with
  | none =>
    refine (List.find?_eq_none.mpr fun b member => ?_).symm
    exact List.find?_eq_none.mp found b (order.mem_iff.mpr member)
  | some a =>
    have inside := order.mem_iff.mp (List.mem_of_find?_eq_some found)
    have named : Text.sameName (name a) wanted = true := by simpa using List.find?_some found
    exact ((distinct.perm (order.map name)).find?_eq inside named).symm

theorem DistinctNames.find?_reverse {name : α → String} {list : List α} (wanted : String)
    (distinct : DistinctNames (list.map name)) :
    list.reverse.find? (fun b => Text.sameName (name b) wanted) =
      list.find? (fun b => Text.sameName (name b) wanted) :=
  (distinct.find?_perm (List.reverse_perm list).symm wanted).symm

theorem DistinctNames.find?_partner {r : α → β → Prop} {name : α → String} {name' : β → String}
    {found : List α} {list : List β} (distinct : DistinctNames (found.map name))
    (pairs : List.Forall₂ r found list) (named : ∀ a b, r a b → name a = name' b) {b : β}
    (member : b ∈ list) :
    ∃ a, found.find? (fun a => Text.sameName (name a) (name' b)) = some a ∧ r a b := by
  have partner : ∃ a ∈ found, r a b := by
    clear distinct
    induction pairs with
    | nil => cases member
    | cons first _ ih =>
      rcases List.mem_cons.mp member with rfl | later
      · exact ⟨_, List.mem_cons_self, first⟩
      · obtain ⟨a, inside, related⟩ := ih later
        exact ⟨a, List.mem_cons_of_mem _ inside, related⟩
  obtain ⟨a, inside, related⟩ := partner
  refine ⟨a, distinct.find?_eq inside ?_, related⟩
  rw [named a b related]
  exact sameName_self _

theorem DistinctNames.append_new {name : α → String} {list : List α} {a : α}
    (distinct : DistinctNames (list.map name))
    (new : list.find? (fun b => Text.sameName (name b) (name a)) = none) :
    DistinctNames ((list ++ [a]).map name) := by
  simp only [DistinctNames, List.map_append, List.map_cons, List.map_nil] at distinct ⊢
  refine distinct.append (by simp) ?_
  simp only [List.disjoint_singleton, List.mem_map, not_exists, not_and]
  rintro lowered ⟨b, here, rfl⟩ same
  exact List.find?_eq_none.mp new b here (sameName_iff.mpr same)

def firstOfName (name : α → String) (list : List α) : List α :=
  list.eraseDupsBy fun a b => Text.sameName (name a) (name b)

@[simp] theorem firstOfName_nil (name : α → String) : firstOfName name [] = [] := rfl

theorem firstOfName_cons (name : α → String) (a : α) (list : List α) :
    firstOfName name (a :: list) =
      a :: firstOfName name (list.filter fun b => !Text.sameName (name b) (name a)) := by
  simp [firstOfName, List.eraseDupsBy_cons]

theorem firstOfName_subset (name : α → String) (list : List α) :
    ∀ a ∈ firstOfName name list, a ∈ list := by
  induction h : list.length using Nat.strongRecOn generalizing list with
  | ind n ih =>
    cases list with
    | nil => simp
    | cons a rest =>
      intro b member
      rw [firstOfName_cons, List.mem_cons] at member
      rcases member with rfl | member
      · exact List.mem_cons_self
      · have shorter := List.length_filter_le (fun b => !Text.sameName (name b) (name a)) rest
        have inner := ih _ (by simp at h; omega) _ rfl b member
        exact List.mem_cons_of_mem _ (List.mem_filter.mp inner).1

theorem distinct_firstOfName (name : α → String) (list : List α) :
    DistinctNames ((firstOfName name list).map name) := by
  -- What follows the first element is filtered, so the induction is on the length.
  induction h : list.length using Nat.strongRecOn generalizing list with
  | ind n ih =>
    cases list with
    | nil => simp [DistinctNames]
    | cons a rest =>
      have shorter := List.length_filter_le (fun b => !Text.sameName (name b) (name a)) rest
      rw [firstOfName_cons, List.map_cons, DistinctNames.cons]
      refine ⟨?_, ih _ (by simp at h; omega) _ rfl⟩
      intro other member
      obtain ⟨b, hb, rfl⟩ := List.mem_map.mp member
      have kept := (List.mem_filter.mp (firstOfName_subset _ _ b hb)).2
      rw [sameName_comm]
      simpa using kept

theorem firstOfName_of_distinct {name : α → String} {list : List α}
    (distinct : DistinctNames (list.map name)) : firstOfName name list = list := by
  induction list with
  | nil => rfl
  | cons a rest ih =>
    rw [List.map_cons, DistinctNames.cons] at distinct
    have all : rest.filter (fun b => !Text.sameName (name b) (name a)) = rest := by
      rw [List.filter_eq_self]
      intro b hb
      rw [sameName_comm, distinct.1 _ (List.mem_map_of_mem hb)]
      rfl
    rw [firstOfName_cons, all, ih distinct.2]

end RelSchema
