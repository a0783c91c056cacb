import Mathlib.Data.List.Perm.Basic
import Mathlib.Data.Prod.Basic
import RelSchema.Proofs.Names
import RelSchema.Schema.Diff

namespace RelSchema

variable {α : Type}

/-- A list in which no key comes twice and every key is the name of its bearer, in lower case. -/
structure Roster.OfNames (name : α → String) (r : Roster α) : Prop where
  distinct : (r.map (·.1)).Nodup
  named : ∀ entry ∈ r, entry.1 = Text.lower (name entry.2)

namespace Roster

theorem keys_put (r : Roster α) (key : String) (a : α) :
    (r.put key a).map (·.1) =
      if key ∈ r.map (·.1) then r.map (·.1) else r.map (·.1) ++ [key] := by
  induction r with
  | nil => rfl
  | cons entry rest ih =>
    obtain ⟨k, b⟩ := entry
    rw [put]
    by_cases here : k = key
    · simp [here]
    · have apart : key ≠ k := Ne.symm here
      simp only [here, ↓reduceIte, List.map_cons, ih, List.mem_cons, apart, false_or]
      split <;> rfl

theorem mem_put {r : Roster α} {key : String} {a : α} {entry : String × α}
    (member : entry ∈ r.put key a) : entry = (key, a) ∨ entry ∈ r := by
  induction r with
  | nil => exact .inl (List.mem_singleton.mp member)
  | cons first rest ih =>
    obtain ⟨k, b⟩ := first
    rw [put] at member
    split at member
    · rename_i here
      rcases List.mem_cons.mp member with rfl | later
      · exact .inl (by rw [here])
      · exact .inr (List.mem_cons_of_mem _ later)
    · rcases List.mem_cons.mp member with rfl | later
      · exact .inr List.mem_cons_self
      · exact (ih later).imp_right (List.mem_cons_of_mem _)

theorem OfNames.put {name : α → String} {r : Roster α} (ofNames : r.OfNames name) (a : α) :
    (r.put (Text.lower (name a)) a).OfNames name := by
  constructor
  · rw [keys_put]
    split
    · exact ofNames.distinct
    · rename_i new
      exact ofNames.distinct.append (List.nodup_singleton _) (by simpa using new)
  · intro entry member
    rcases mem_put member with rfl | before
    · rfl
    · exact ofNames.named entry before

theorem ofList_ofNames (name : α → String) (list : List α) : (ofList name list).OfNames name := by
  have each : ∀ r : Roster α, r.OfNames name →
      (list.foldl (fun r a => r.put (Text.lower (name a)) a) r).OfNames name := by
    induction list with
    | nil => exact fun _ ofNames => ofNames
    | cons a rest ih => exact fun _ ofNames => ih _ (ofNames.put a)
  exact each [] ⟨List.nodup_nil, by simp⟩

theorem put_new {r : Roster α} {key : String} (new : key ∉ r.map (·.1)) (a : α) :
    r.put key a = r ++ [(key, a)] := by
  induction r with
  | nil => rfl
  | cons entry rest ih =>
    obtain ⟨k, b⟩ := entry
    rw [List.map_cons, List.mem_cons, not_or] at new
    rw [put, if_neg (Ne.symm new.1), ih new.2]
    rfl

theorem ofList_distinct {name : α → String} {list : List α}
    (distinct : DistinctNames (list.map name)) :
    ofList name list = list.map fun a => (Text.lower (name a), a) := by
  have each : ∀ r : Roster α, (r.map (·.1) ++ (list.map name).map Text.lower).Nodup →
      list.foldl (fun r a => r.put (Text.lower (name a)) a) r =
        r ++ list.map fun a => (Text.lower (name a), a) := by
    clear distinct
    induction list with
    | nil => simp
    | cons a rest ih =>
      intro r once
      have new : Text.lower (name a) ∉ r.map (·.1) := by
        intro member
        exact (List.nodup_append.mp once).2.2 _ member _ List.mem_cons_self rfl
      rw [List.foldl_cons, put_new new, ih _ (by simpa using once)]
      simp
  exact each [] distinct

theorem get?_eq_some_iff {r : Roster α} (distinct : (r.map (·.1)).Nodup) {key : String} {a : α} :
    r.get? key = some a ↔ (key, a) ∈ r := by
  induction r with
  | nil => simp [get?]
  | cons entry rest ih =>
    obtain ⟨k, b⟩ := entry
    rw [List.map_cons, List.nodup_cons] at distinct
    have later := ih distinct.2
    rw [get?] at later
    rw [get?, List.lookup_cons]
    by_cases here : key = k
    · have none : (k, a) ∉ rest := fun member => distinct.1 (List.mem_map.mpr ⟨_, member, rfl⟩)
      simp [here, none, eq_comm]
    · simp [beq_false_of_ne here, here, later]

theorem get?_eq_none_iff {r : Roster α} {key : String} :
    r.get? key = none ↔ key ∉ r.map (·.1) := by
  simp only [get?, List.lookup_eq_none_iff, List.mem_map, not_exists, not_and, bne_iff_ne]
  exact forall₂_congr fun _ _ => ne_comm

end Roster

namespace SchemaDiff

open Roster

theorem mem_matched {old new : Roster α} (distinct : (old.map (·.1)).Nodup) {a b : α} :
    (a, b) ∈ matched old new ↔ ∃ key, (key, a) ∈ old ∧ (key, b) ∈ new := by
  simp only [matched, List.mem_filterMap, Option.map_eq_some_iff, Prod.exists, Prod.mk.injEq]
  constructor
  · rintro ⟨key, _, member, _, found, rfl, rfl⟩
    exact ⟨key, (get?_eq_some_iff distinct).mp found, member⟩
  · rintro ⟨key, first, second⟩
    exact ⟨key, b, second, a, (get?_eq_some_iff distinct).mpr first, rfl, rfl⟩

variable {old new : Roster α} {name : α → String}

theorem matched_nodup (olds : old.OfNames name) (distinct : (new.map (·.1)).Nodup) :
    (matched old new).Nodup := by
  refine List.Nodup.filterMap ?_ (List.Nodup.of_map _ distinct)
  rintro ⟨key, b⟩ ⟨key', b'⟩ ⟨a, _⟩ here there
  simp only [Option.mem_def, Option.map_eq_some_iff, Prod.mk.injEq] at here there
  obtain ⟨_, found, rfl, rfl⟩ := here
  obtain ⟨_, found', rfl, rfl⟩ := there
  have first := olds.named _ ((get?_eq_some_iff olds.distinct).mp found)
  have second := olds.named _ ((get?_eq_some_iff olds.distinct).mp found')
  rw [Prod.mk.injEq]
  exact ⟨first.trans second.symm, rfl⟩

theorem matched_swap (olds : old.OfNames name) (news : new.OfNames name) :
    (matched new old).Perm ((matched old new).map Prod.swap) := by
  rw [List.perm_ext_iff_of_nodup (matched_nodup news olds.distinct)
    ((matched_nodup olds news.distinct).map Prod.swap_injective)]
  rintro ⟨b, a⟩
  rw [mem_matched news.distinct, List.mem_map]
  constructor
  · rintro ⟨key, first, second⟩
    exact ⟨(a, b), (mem_matched olds.distinct).mpr ⟨key, second, first⟩, rfl⟩
  · rintro ⟨⟨_, _⟩, member, ⟨⟩⟩
    obtain ⟨key, first, second⟩ := (mem_matched olds.distinct).mp member
    exact ⟨key, second, first⟩

theorem sameName_of_matched (olds : old.OfNames name) (news : new.OfNames name) {pair : α × α}
    (member : pair ∈ matched old new) : Text.sameName (name pair.1) (name pair.2) = true := by
  obtain ⟨key, first, second⟩ := (mem_matched olds.distinct).mp member
  rw [sameName_iff, ← olds.named _ first, ← news.named _ second]

end SchemaDiff

end RelSchema
