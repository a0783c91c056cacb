import Mathlib.Data.List.Induction
import RelSchema.Proofs.Names
import RelSchema.Schema.Naming

namespace RelSchema.Convention

def votes (names : List String) (label : Option Convention) : Nat := (names.map of?).count label

theorem add_tally {keys : List (Option Convention)} (nodup : keys.Nodup)
    (amount : Option Convention → Nat) (label : Option Convention) :
    Tally.add (keys.map fun l => (l, amount l)) label =
      (keys.map fun l => (l, amount l + if l = label then 1 else 0)) ++
        if label ∈ keys then [] else [(label, 1)] := by
  induction keys with
  | nil => rfl
  | cons key rest ih =>
    rw [List.nodup_cons] at nodup
    rw [List.map_cons, List.map_cons, Tally.add]
    by_cases same : key = label
    · subst same
      have untouched : (rest.map fun l => (l, amount l + if l = key then 1 else 0)) =
          rest.map fun l => (l, amount l) := by
        refine List.map_congr_left fun l member => ?_
        have other : l ≠ key := fun same => nodup.1 (same ▸ member)
        rw [if_neg other, Nat.add_zero]
      simp [untouched]
    · rw [if_neg same, ih nodup.2]
      simp [same, Ne.symm same]

theorem foldl_add (labels : List (Option Convention)) :
    labels.foldl Tally.add [] = labels.eraseDups.map fun l => (l, labels.count l) := by
  induction labels using List.reverseRecOn with
  | nil => rfl
  | append_singleton labels label ih =>
    have counts (l : Option Convention) :
        (labels ++ [label]).count l = labels.count l + if l = label then 1 else 0 := by
      rw [List.count_append, List.count_singleton]
      simp only [beq_iff_eq, eq_comm (a := l)]
    rw [List.foldl_append, List.foldl_cons, List.foldl_nil, ih,
      add_tally (nodup_eraseDups labels), List.eraseDups_append]
    by_cases known : label ∈ labels
    · simp [counts, known, List.removeAll]
    · simp [counts, known, List.removeAll, List.eraseDups_cons, List.count_eq_zero.mpr known]

theorem ranked_perm (names : List String) : (ranked names).Perm
    ((names.map of?).eraseDups.map fun label => (label, votes names label)) := by
  have tally := foldl_add (names.map of?)
  rw [List.foldl_map] at tally
  rw [ranked, tally]
  exact List.mergeSort_perm _ _

theorem ranked_sorted (names : List String) :
    (ranked names).Pairwise fun more less => less.2 ≤ more.2 := by
  have sorted := @List.pairwise_mergeSort (Option Convention × Nat)
    (fun more less => decide (less.2 ≤ more.2))
    (by simp only [decide_eq_true_eq]; omega)
    (by simp only [Bool.or_eq_true, decide_eq_true_eq]; omega)
    (names.foldl (fun t name => Tally.add t (of? name)) [])
  exact sorted.imp of_decide_eq_true

theorem ranked_nodup (names : List String) : ((ranked names).map Prod.fst).Nodup := by
  rw [((ranked_perm names).map Prod.fst).nodup_iff, List.map_map]
  exact (List.map_id _).symm ▸ nodup_eraseDups (names.map of?)

section Ranked

variable {names : List String}

theorem mem_ranked {label : Option Convention} {n : Nat} :
    (label, n) ∈ ranked names ↔ 0 < n ∧ n = votes names label := by
  rw [(ranked_perm names).mem_iff, List.mem_map]
  constructor
  · rintro ⟨l, member, same⟩
    cases same
    exact ⟨List.count_pos_iff.mpr (List.mem_eraseDups.mp member), rfl⟩
  · rintro ⟨positive, rfl⟩
    exact ⟨label, List.mem_eraseDups.mpr (List.count_pos_iff.mp positive), rfl⟩

theorem dominant_of_ranked {label : Option Convention} {n : Nat} {rest : Tally} {c : Convention}
    (first : ranked names = (label, n) :: rest) :
    dominant names = some c ↔ label = some c ∧ ∀ p ∈ rest, p.2 < n := by
  have sorted := ranked_sorted names
  rw [first, List.pairwise_cons] at sorted
  unfold dominant
  rw [first]
  cases rest with
  | nil => simp
  | cons second rest =>
    have below : (∀ p ∈ second :: rest, p.2 < n) ↔ n ≠ second.2 := by
      constructor
      · intro all
        exact Nat.ne_of_gt (all _ List.mem_cons_self)
      · intro different p member
        have most : second.2 ≤ n := sorted.1 _ List.mem_cons_self
        have least : p.2 ≤ second.2 := by
          rcases List.mem_cons.mp member with rfl | later
          · exact Nat.le_refl _
          · exact (List.pairwise_cons.mp sorted.2).1 p later
        omega
    rw [below]
    by_cases tie : n = second.2
    · simp [tie]
    · simp [tie]

theorem votes_le_first {label : Option Convention} {n : Nat} {rest : Tally}
    (first : ranked names = (label, n) :: rest) (other : Option Convention) :
    votes names other ≤ n := by
  have sorted := ranked_sorted names
  rw [first, List.pairwise_cons] at sorted
  by_cases some : 0 < votes names other
  · have member := mem_ranked.mpr ⟨some, rfl⟩
    rw [first] at member
    rcases List.mem_cons.mp member with same | later
    · exact Nat.le_of_eq (congrArg Prod.snd same)
    · exact sorted.1 _ later
  · omega

end Ranked

theorem dominant_eq_some_iff (names : List String) (c : Convention) :
    dominant names = some c ↔
      ∀ label, label ≠ some c → votes names label < votes names (some c) := by
  cases first : ranked names with
  | nil =>
    have empty (label : Option Convention) : votes names label = 0 := by
      have absent : (label, votes names label) ∉ ranked names := first ▸ List.not_mem_nil
      simpa only [mem_ranked, and_true, Nat.not_lt, Nat.le_zero] using absent
    refine iff_of_false ?_ fun leads => ?_
    · simp [dominant, first]
    · have none := leads none nofun
      rw [empty, empty] at none
      exact Nat.lt_irrefl _ none
  | cons top rest =>
    obtain ⟨label, n⟩ := top
    have listed {other : Option Convention} {m : Nat} (member : (other, m) ∈ (label, n) :: rest) :
        0 < m ∧ m = votes names other := mem_ranked.mp (first ▸ member)
    have number := listed List.mem_cons_self
    have nodup := ranked_nodup names
    rw [first, List.map_cons, List.nodup_cons] at nodup
    rw [dominant_of_ranked first]
    constructor
    · rintro ⟨rfl, below⟩ other different
      rw [← number.2]
      by_cases some : 0 < votes names other
      · have member := mem_ranked.mpr ⟨some, rfl⟩
        rw [first] at member
        rcases List.mem_cons.mp member with same | later
        · exact absurd (congrArg Prod.fst same) different
        · exact below _ later
      · omega
    · intro leads
      have same : label = some c := by
        by_contra different
        have fewer := leads label different
        have most := votes_le_first first (some c)
        omega
      subst same
      refine ⟨rfl, ?_⟩
      rintro ⟨other, m⟩ member
      have different : other ≠ some c := by
        rintro rfl
        have again := List.mem_map_of_mem (f := Prod.fst) member
        exact nodup.1 again
      have fewer := leads other different
      rwa [← number.2, ← (listed (List.mem_cons_of_mem _ member)).2] at fewer

theorem votes_perm {names names' : List String} (perm : names.Perm names')
    (label : Option Convention) : votes names label = votes names' label :=
  (perm.map of?).count_eq label

/-- The convention that prevails has strictly more names than any other label; so it is the same in
whatever order the names come. -/
theorem dominant_isPlurality (names : List String) :
    (∀ c, dominant names = some c ↔
      ∀ label, label ≠ some c → votes names label < votes names (some c)) ∧
    ∀ names', names.Perm names' → dominant names' = dominant names := by
  refine ⟨dominant_eq_some_iff names, fun names' perm => ?_⟩
  refine Option.ext fun c => ?_
  simp only [dominant_eq_some_iff, votes_perm perm]

theorem mixedNames_dominant :
    ["%", "users", "OrderItems", "orders", "a b", "roles"].Perm
        ["OrderItems", "roles", "orders", "users", "a b", "%"] ∧
      dominant ["OrderItems", "roles", "orders", "users", "a b", "%"] =
        dominant ["%", "users", "OrderItems", "orders", "a b", "roles"] ∧
      dominant ["%", "users", "OrderItems", "orders", "a b", "roles"] = some .snakeCase := by
  have perm : ["%", "users", "OrderItems", "orders", "a b", "roles"].Perm
      ["OrderItems", "roles", "orders", "users", "a b", "%"] := by decide +kernel
  obtain ⟨prevails, inAnyOrder⟩ :=
    dominant_isPlurality ["%", "users", "OrderItems", "orders", "a b", "roles"]
  refine ⟨perm, inAnyOrder _ perm, (prevails _).mpr ?_⟩
  rintro (_ | _ | _ | _) different
  · decide +kernel
  · exact absurd rfl different
  · decide +kernel
  · decide +kernel

end RelSchema.Convention
