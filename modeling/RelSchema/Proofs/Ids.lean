import Mathlib.Data.List.Nodup
import Mathlib.Data.List.Perm.Subperm
import RelSchema.Schema.Basic
import RelSchema.Suggestion.Apply

namespace RelSchema

theorem repr_injective : Function.Injective Nat.repr := by
  intro a b same
  have digits : Nat.toDigits 10 a = Nat.toDigits 10 b := by
    simpa only [Nat.toList_repr] using congrArg String.toList same
  have numbers := congrArg (fun text => Nat.ofDigitChars 10 text 0) digits
  simpa only [Nat.ofDigitChars_ten_toDigits] using numbers

theorem numbered_injective (kind : String) : Function.Injective (numbered kind) := by
  intro a b same
  simp only [numbered] at same
  exact repr_injective ((String.append_right_inj _).mp same)

theorem numbered_nodup (kind : String) (start count : Nat) :
    ((List.range count).map fun i => numbered kind (start + i)).Nodup := by
  refine List.Nodup.map ?_ List.nodup_range
  intro a b same
  have := numbered_injective kind same
  omega

theorem exists_untaken {α : Type} {name : Nat → α} (injective : Function.Injective name)
    (taken : List α) : ∃ n < taken.length + 1, name n ∉ taken := by
  by_contra none
  have all : (List.range (taken.length + 1)).map name ⊆ taken := by
    intro a member
    obtain ⟨n, inside, rfl⟩ := List.mem_map.mp member
    by_contra untaken
    exact none ⟨n, List.mem_range.mp inside, untaken⟩
  have few := ((List.nodup_range.map injective).subperm all).length_le
  simp only [List.length_map, List.length_range] at few
  omega

namespace Suggestion

theorem freshId_eq (kind : String) (taken : List String) :
    freshId kind taken =
      (((List.range (taken.length + 1)).map fun i =>
        numbered kind (taken.eraseDups.length + 1 + i)).find? (!taken.contains ·)).getD "" := rfl

theorem freshId_not_mem (kind : String) (taken : List String) : freshId kind taken ∉ taken := by
  rw [freshId_eq]
  cases found : ((List.range (taken.length + 1)).map fun i =>
      numbered kind (taken.eraseDups.length + 1 + i)).find? (!taken.contains ·) with
  | some id =>
    have free := List.find?_some found
    simpa using free
  | none =>
    have different : Function.Injective fun i =>
        numbered kind (taken.eraseDups.length + 1 + i) := fun i j same =>
      Nat.add_left_cancel (numbered_injective kind same)
    obtain ⟨n, inside, untaken⟩ := exists_untaken different taken
    have member := List.mem_map_of_mem (f := fun i =>
      numbered kind (taken.eraseDups.length + 1 + i)) (List.mem_range.mpr inside)
    have occupied := List.find?_eq_none.mp found _ member
    simp [untaken] at occupied

end Suggestion

end RelSchema
