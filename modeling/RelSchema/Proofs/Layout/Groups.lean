import Mathlib.Data.List.Forall2
import Mathlib.Data.List.GetD
import RelSchema.Proofs.Layout.Distance

namespace RelSchema.Layout.Graph

/-- The levels of a group are those of the nodes that are not placed yet, by their distance from the
nodes with which the group starts. -/
structure IsGroup (g : Graph) (placed start : List String) (group : List (List String)) : Prop where
  first : group.head? = some start
  nonempty : ∀ level ∈ group, level ≠ []
  once : group.flatten.Nodup
  distance : ∀ n node, node ∈ group.getD n [] ↔ node ∉ placed ∧ g.Distance start n node

/-- Groups of levels one after the other, until all nodes are placed. After the first, each starts
with the first of the nodes that are left. -/
inductive AreGroups (g : Graph) : List String → List String → List (List (List String)) → Prop
  | done {placed : List String} (all : g.left placed = []) : AreGroups g placed [] []
  | group {placed start : List String} {group : List (List String)}
    {more : List (List (List String))} (isGroup : IsGroup g placed start group)
    (rest : AreGroups g (placed ++ group.flatten)
      ((g.left (placed ++ group.flatten)).take 1) more) :
    AreGroups g placed start (group :: more)

structure Settled (g : Graph) (placed : List String) : Prop where
  inside : placed ⊆ g.nodes
  closed : ∀ {a b}, (a, b) ∈ g.arcs → a ∈ placed → b ∈ placed

theorem mem_left {g : Graph} {placed : List String} {node : String} :
    node ∈ g.left placed ↔ node ∈ g.nodes ∧ node ∉ placed := by
  simp [left]

theorem mem_flatten_iff {levels : List (List String)} {node : String} :
    node ∈ levels.flatten ↔ ∃ n, node ∈ levels.getD n [] := by
  rw [List.mem_flatten]
  constructor
  · rintro ⟨level, member, own⟩
    obtain ⟨n, inside, rfl⟩ := List.getElem_of_mem member
    exact ⟨n, by rwa [List.getD_eq_getElem _ _ inside]⟩
  · rintro ⟨n, own⟩
    by_cases inside : n < levels.length
    · rw [List.getD_eq_getElem _ _ inside] at own
      exact ⟨levels[n], List.getElem_mem inside, own⟩
    · rw [List.getD_eq_default _ _ (by omega)] at own
      cases own

theorem getD_filter_nonempty {levels : List (List String)}
    (last : ∀ n, levels.getD n [] = [] → levels.getD (n + 1) [] = []) (n : Nat) :
    (levels.filter (!·.isEmpty)).getD n [] = levels.getD n [] := by
  induction levels generalizing n with
  | nil => rfl
  | cons level rest ih =>
    have later : ∀ n, rest.getD n [] = [] → rest.getD (n + 1) [] = [] := fun n => last (n + 1)
    cases level with
    | nil =>
      have none : ∀ n, ([] :: rest).getD n [] = [] := by
        intro n
        induction n with
        | zero => rfl
        | succ n ihn => exact last n ihn
      rw [List.filter_cons_of_neg (by simp), ih later]
      exact (none (n + 1)).trans (none n).symm
    | cons node others =>
      rw [List.filter_cons_of_pos (by simp)]
      cases n with
      | zero => rfl
      | succ n => exact ih later n

theorem groupFrom_flatten (walk : Walk) (g : Graph) (placed start : List String) :
    (g.groupFrom walk placed start).flatten =
      (walk g start).flatten.filter fun node => !placed.contains node := by
  rw [groupFrom, List.flatten_filter_not_isEmpty, List.filter_flatten]

section Group

variable {walk : Walk} {g : Graph} {placed start : List String}

theorem groupFrom_isGroup (byLevels : walk.GoesByLevels) (settled : g.Settled placed)
    (once : start.Nodup) (some : start ≠ []) (free : start ⊆ g.left placed) :
    g.IsGroup placed start (g.groupFrom walk placed start) := by
  have inside : start ⊆ g.nodes := fun node member => (mem_left.mp (free member)).1
  have successive := byLevels g start once inside
  have fresh : start.filter (fun node => !placed.contains node) = start := by
    rw [List.filter_eq_self]
    intro node member
    simpa using (mem_left.mp (free member)).2
  have levelled : ∀ n node, node ∈ ((walk g start).map fun level =>
      level.filter fun node => !placed.contains node).getD n [] ↔
        node ∉ placed ∧ g.Distance start n node := by
    intro n node
    have filtered := List.getD_map (l := walk g start) (n := n) (d := []) (f := fun level =>
      level.filter fun node => !placed.contains node)
    rw [List.filter_nil] at filtered
    rw [filtered, List.mem_filter, successive.mem_start_iff, and_comm]
    simp
  -- Placed nodes lead to placed nodes only, so the last link on the way to a node that is not
  -- placed comes from another such node, and no level before its own is empty.
  have last : ∀ n, ((walk g start).map fun level =>
      level.filter fun node => !placed.contains node).getD n [] = [] →
        ((walk g start).map fun level =>
          level.filter fun node => !placed.contains node).getD (n + 1) [] = [] := by
    intro n none
    rw [List.eq_nil_iff_forall_not_mem] at none ⊢
    intro node member
    obtain ⟨unplaced, distance⟩ := (levelled (n + 1) node).mp member
    obtain ⟨a, nearer, arc⟩ := distance.before
    exact none a ((levelled n a).mpr ⟨fun known => unplaced (settled.closed arc known), nearer⟩)
  refine ⟨?_, fun level member => ?_, ?_, fun n node => ?_⟩
  · cases shape : walk g start with
    | nil =>
      rw [shape] at successive
      cases successive
      exact absurd rfl some
    | cons first others =>
      rw [shape] at successive
      cases successive
      rw [groupFrom, shape, List.map_cons, fresh, List.filter_cons_of_pos (by simpa using some)]
      rfl
  · simpa using (List.mem_filter.mp member).2
  · rw [groupFrom_flatten]
    exact (successive.nodup once (List.Subset.refl _)).filter _
  · rw [groupFrom, getD_filter_nonempty last, levelled]

theorem IsGroup.mem_flatten {group : List (List String)} (isGroup : g.IsGroup placed start group)
    {node : String} : node ∈ group.flatten ↔ node ∉ placed ∧ ∃ n, g.Reaches start n node := by
  rw [mem_flatten_iff]
  simp only [isGroup.distance, exists_and_left]
  refine and_congr_right fun _ => ⟨fun ⟨n, distance⟩ => ⟨n, distance.reaches⟩, ?_⟩
  rintro ⟨n, reaches⟩
  obtain ⟨m, -, distance⟩ := reaches.distance
  exact ⟨m, distance⟩

theorem IsGroup.start_subset {group : List (List String)}
    (isGroup : g.IsGroup placed start group) : start ⊆ group.flatten := by
  intro node member
  obtain ⟨others, rfl⟩ := List.head?_eq_some_iff.mp isGroup.first
  exact List.mem_append_left _ member

theorem Reaches.inside {n : Nat} {node : String} (reaches : g.Reaches start n node)
    (inside : start ⊆ g.nodes) : node ∈ g.nodes := by
  cases reaches with
  | start member => exact inside member
  | link _ arc => exact (arc_nodes arc).2

theorem IsGroup.settled {group : List (List String)} (isGroup : g.IsGroup placed start group)
    (settled : g.Settled placed) (inside : start ⊆ g.nodes) :
    g.Settled (placed ++ group.flatten) := by
  constructor
  · refine List.append_subset.mpr ⟨settled.inside, fun node member => ?_⟩
    obtain ⟨-, n, reaches⟩ := isGroup.mem_flatten.mp member
    exact reaches.inside inside
  · intro a b arc member
    by_cases known : b ∈ placed
    · exact List.mem_append_left _ known
    · rcases List.mem_append.mp member with before | new
      · exact absurd (settled.closed arc before) known
      · obtain ⟨-, n, reaches⟩ := isGroup.mem_flatten.mp new
        exact List.mem_append_right _ (isGroup.mem_flatten.mpr ⟨known, n + 1, .link reaches arc⟩)

theorem IsGroup.left_shorter {group : List (List String)} (isGroup : g.IsGroup placed start group)
    (some : start ≠ []) (free : start ⊆ g.left placed) :
    (g.left (placed ++ group.flatten)).length < (g.left placed).length := by
  have fewer : g.left (placed ++ group.flatten) =
      (g.left placed).filter fun node => !group.flatten.contains node := by
    simp [left, List.filter_filter, Bool.and_comm]
  obtain ⟨node, member⟩ := List.exists_mem_of_ne_nil start some
  rw [fewer, List.length_filter_lt_length_iff_exists]
  exact ⟨node, free member, by simpa using isGroup.start_subset member⟩

theorem groupsFrom_areGroups (byLevels : walk.GoesByLevels) {fuel : Nat}
    (settled : g.Settled placed) (once : start.Nodup) (some : start ≠ [])
    (free : start ⊆ g.left placed) (enough : (g.left placed).length ≤ fuel) :
    g.AreGroups placed start (g.groupsFrom walk fuel placed start) := by
  have isGroup := groupFrom_isGroup byLevels settled once some free
  have fewer := isGroup.left_shorter some free
  induction fuel generalizing placed start with
  | zero => omega
  | succ fuel ih =>
    have inside : start ⊆ g.nodes := fun node member => (mem_left.mp (free member)).1
    have next := isGroup.settled settled inside
    simp only [groupsFrom]
    split
    · rename_i none
      refine .group isGroup ?_
      rw [none]
      exact .done none
    · rename_i node others shape
      have free : [node] ⊆ g.left (placed ++ (g.groupFrom walk placed start).flatten) := by
        simp [shape]
      refine .group isGroup ?_
      rw [shape]
      have more := groupFrom_isGroup byLevels next (List.nodup_singleton node)
        (List.cons_ne_nil _ _) free
      exact ih next (List.nodup_singleton node) (List.cons_ne_nil _ _) free (by omega) more
        (more.left_shorter (List.cons_ne_nil _ _) free)

end Group

theorem groupsBy_areGroups {walk : Walk} (byLevels : walk.GoesByLevels) {g : Graph}
    (distinct : g.nodes.Nodup) : g.AreGroups [] g.roots (g.groupsBy walk) := by
  cases nodes : g.nodes with
  | nil =>
    have roots : g.roots = [] := by simp [Graph.roots, nodes]
    have groups : g.groupsBy walk = [] := by simp [groupsBy, nodes]
    rw [roots, groups]
    exact .done (by simp [left, nodes])
  | cons node others =>
    have groups : g.groupsBy walk = g.groupsFrom walk g.nodes.length [] g.roots := by
      simp [groupsBy, nodes]
    have settled : g.Settled [] := ⟨List.nil_subset _, fun _ member => nomatch member⟩
    have all : g.left [] = g.nodes := by simp [left]
    have roots : g.roots ≠ [] ∧ g.roots.Sublist g.nodes := by
      unfold Graph.roots
      split
      · exact ⟨by simp [nodes], List.take_sublist _ _⟩
      · rename_i some
        exact ⟨some, List.filter_sublist⟩
    rw [groups]
    exact groupsFrom_areGroups byLevels settled (roots.2.nodup distinct) roots.1
      (all ▸ roots.2.subset) (Nat.le_of_eq (congrArg List.length all))

theorem AreGroups.fresh {g : Graph} {placed start : List String} {groups : List (List (List String))}
    (areGroups : g.AreGroups placed start groups) :
    groups.flatten.flatten.Nodup ∧ ∀ node ∈ groups.flatten.flatten, node ∉ placed := by
  induction areGroups with
  | done => simp
  | group isGroup rest ih =>
    obtain ⟨once, new⟩ := ih
    simp only [List.flatten_cons, List.flatten_append]
    refine ⟨isGroup.once.append once fun node here there => ?_, fun node member => ?_⟩
    · exact new node there (List.mem_append_right _ here)
    · rcases List.mem_append.mp member with here | there
      · exact (isGroup.mem_flatten.mp here).1
      · exact fun known => new node there (List.mem_append_left _ known)

theorem AreGroups.mem_iff {g : Graph} {placed start : List String}
    {groups : List (List (List String))} (areGroups : g.AreGroups placed start groups)
    (settled : g.Settled placed) (inside : start ⊆ g.nodes) (node : String) :
    node ∈ placed ++ groups.flatten.flatten ↔ node ∈ g.nodes := by
  induction areGroups with
  | @done placed all =>
    simp only [List.flatten_nil, List.append_nil]
    refine ⟨fun member => settled.inside member, fun member => ?_⟩
    by_contra unplaced
    have found := mem_left.mpr ⟨member, unplaced⟩
    rw [all] at found
    cases found
  | @group placed start group more isGroup rest ih =>
    have next : (g.left (placed ++ group.flatten)).take 1 ⊆ g.nodes :=
      fun node member => (mem_left.mp (List.mem_of_mem_take member)).1
    rw [← ih (isGroup.settled settled inside) next, List.flatten_cons, List.flatten_append,
      List.append_assoc]

theorem roots_subset (g : Graph) : g.roots ⊆ g.nodes := by
  unfold roots
  split
  · exact List.take_subset _ _
  · exact List.filter_subset_self _

theorem AreGroups.perm {g : Graph} {groups : List (List (List String))} (distinct : g.nodes.Nodup)
    (areGroups : g.AreGroups [] g.roots groups) : groups.flatten.flatten.Perm g.nodes := by
  have settled : g.Settled [] := ⟨List.nil_subset _, fun _ member => nomatch member⟩
  rw [List.perm_ext_iff_of_nodup areGroups.fresh.1 distinct]
  exact areGroups.mem_iff settled g.roots_subset

section Order

variable {g g' : Graph}

theorem Reaches.congr (arcs : ∀ arc, arc ∈ g'.arcs ↔ arc ∈ g.arcs) {start : List String} {n : Nat}
    {node : String} (reaches : g.Reaches start n node) : g'.Reaches start n node := by
  induction reaches with
  | start member => exact .start member
  | link _ arc ih => exact .link ih ((arcs _).mpr arc)

theorem Distance.congr (arcs : ∀ arc, arc ∈ g'.arcs ↔ arc ∈ g.arcs) {start : List String} {n : Nat}
    {node : String} : g'.Distance start n node ↔ g.Distance start n node := by
  have back : ∀ arc, arc ∈ g.arcs ↔ arc ∈ g'.arcs := fun arc => (arcs arc).symm
  constructor
  · rintro ⟨reaches, least⟩
    exact ⟨reaches.congr back, fun m less nearer => least m less (nearer.congr arcs)⟩
  · rintro ⟨reaches, least⟩
    exact ⟨reaches.congr arcs, fun m less nearer => least m less (nearer.congr back)⟩

theorem IsGroup.length_le {placed start : List String} {group group' : List (List String)}
    (isGroup : g.IsGroup placed start group)
    (same : ∀ n node, node ∈ group.getD n [] ↔ node ∈ group'.getD n []) :
    group.length ≤ group'.length := by
  by_contra more
  have inside : group'.length < group.length := by omega
  have some := isGroup.nonempty _ (List.getElem_mem inside)
  obtain ⟨node, member⟩ := List.exists_mem_of_ne_nil _ some
  rw [← List.getD_eq_getElem _ [] inside, same, List.getD_eq_default _ _ (Nat.le_refl _)] at member
  cases member

theorem IsGroup.congr (arcs : ∀ arc, arc ∈ g'.arcs ↔ arc ∈ g.arcs) {placed placed' : List String}
    (known : ∀ node, node ∈ placed' ↔ node ∈ placed) {start : List String}
    {group group' : List (List String)} (isGroup : g.IsGroup placed start group)
    (isGroup' : g'.IsGroup placed' start group') : List.Forall₂ List.Perm group group' := by
  have same : ∀ n node, node ∈ group.getD n [] ↔ node ∈ group'.getD n [] := by
    intro n node
    rw [isGroup.distance, isGroup'.distance, known, Distance.congr arcs]
  have lengths : group.length = group'.length :=
    Nat.le_antisymm (isGroup.length_le same)
      (isGroup'.length_le fun n node => (same n node).symm)
  rw [List.forall₂_iff_get]
  refine ⟨lengths, fun n inside inside' => ?_⟩
  have once := (List.nodup_flatten.mp isGroup.once).1 _ (List.get_mem group ⟨n, inside⟩)
  have once' := (List.nodup_flatten.mp isGroup'.once).1 _ (List.get_mem group' ⟨n, inside'⟩)
  rw [List.perm_ext_iff_of_nodup once once']
  intro node
  have here := same n node
  rwa [List.getD_eq_getElem _ _ inside, List.getD_eq_getElem _ _ inside'] at here

theorem AreGroups.congr (nodes : g'.nodes = g.nodes) (arcs : ∀ arc, arc ∈ g'.arcs ↔ arc ∈ g.arcs)
    {placed placed' : List String} (known : ∀ node, node ∈ placed' ↔ node ∈ placed)
    {start : List String} {groups groups' : List (List (List String))}
    (areGroups : g.AreGroups placed start groups) (areGroups' : g'.AreGroups placed' start groups') :
    List.Forall₂ (List.Forall₂ List.Perm) groups groups' := by
  have notEmpty {g : Graph} {placed : List String} {group : List (List String)}
      (isGroup : g.IsGroup placed [] group) : False :=
    isGroup.nonempty [] (List.mem_of_head? isGroup.first) rfl
  induction areGroups generalizing placed' groups' with
  | done =>
    cases areGroups' with
    | done => exact .nil
    | group isGroup' => exact (notEmpty isGroup').elim
  | @group placed start group more isGroup rest ih =>
    cases areGroups' with
    | done => exact (notEmpty isGroup).elim
    | @group _ _ group' more' isGroup' rest' =>
      have levels := isGroup.congr arcs known isGroup'
      have placedSame : ∀ node, node ∈ placed' ++ group'.flatten ↔
          node ∈ placed ++ group.flatten := by
        intro node
        rw [List.mem_append, List.mem_append, known, (List.Perm.flatten_congr levels).mem_iff]
      have left : g'.left (placed' ++ group'.flatten) = g.left (placed ++ group.flatten) := by
        rw [Graph.left, Graph.left, nodes]
        refine List.filter_congr fun node _ => ?_
        simp only [List.contains_eq_mem, placedSame]
      rw [left] at rest'
      exact .cons levels (ih placedSame rest')

theorem roots_congr (nodes : g'.nodes = g.nodes) (arcs : ∀ arc, arc ∈ g'.arcs ↔ arc ∈ g.arcs) :
    g'.roots = g.roots := by
  have same : g'.isRoot = g.isRoot := by
    funext node
    rw [Bool.eq_iff_iff]
    simp only [isRoot, List.all_eq_true, arcs]
  rw [roots, roots, nodes, same]

theorem numbered_congr {groups groups' : List (List (List String))}
    (same : List.Forall₂ (List.Forall₂ List.Perm) groups groups') (first : Nat) :
    List.Forall₂ (fun a b => a.2 = b.2 ∧ a.1.Perm b.1)
      (groups.mapIdx fun number group => group.map (·, first + number)).flatten
      (groups'.mapIdx fun number group => group.map (·, first + number)).flatten := by
  induction same generalizing first with
  | nil => exact .nil
  | @cons group group' more more' levels _ ih =>
    have here : List.Forall₂ (fun a b => a.2 = b.2 ∧ a.1.Perm b.1) (group.map (·, first))
        (group'.map (·, first)) := by
      rw [List.forall₂_map_left_iff, List.forall₂_map_right_iff]
      exact levels.imp fun _ _ perm => ⟨rfl, perm⟩
    have there := ih (first + 1)
    simp only [Nat.add_assoc, Nat.add_comm 1] at there
    simpa only [List.mapIdx_cons, List.flatten_cons, Nat.add_zero] using List.rel_append here there

end Order

theorem numbered_flatMap (groups : List (List (List String))) (first : Nat) :
    ((groups.mapIdx fun number group => group.map (·, first + number)).flatten).flatMap (·.1) =
      groups.flatten.flatten := by
  induction groups generalizing first with
  | nil => rfl
  | cons group more ih =>
    have there := ih (first + 1)
    simp only [Nat.add_assoc, Nat.add_comm 1] at there
    simp only [List.mapIdx_cons, List.flatten_cons, List.flatMap_append, List.flatten_append, there,
      List.flatMap_map, List.flatMap_id']

theorem levelsBy_perm {walk : Walk} (byLevels : walk.GoesByLevels) {g : Graph}
    (distinct : g.nodes.Nodup) : ((g.levelsBy walk).flatMap (·.1)).Perm g.nodes := by
  have levels : (g.levelsBy walk).flatMap (·.1) = (g.groupsBy walk).flatten.flatten := by
    simpa only [levelsBy, Nat.zero_add] using numbered_flatMap (g.groupsBy walk) 0
  rw [levels]
  exact (groupsBy_areGroups byLevels distinct).perm distinct

theorem mem_arcs_of_perm {g : Graph} {links : List (String × String)} (order : links.Perm g.links)
    (arc : String × String) : arc ∈ ({ g with links } : Graph).arcs ↔ arc ∈ g.arcs :=
  (order.filter _).mem_iff

/-- Whatever walk goes level by level: the levels come in numbered groups, the first of which starts
with the roots and each later one with the first node that is left; they hold every node once, at
its distance from the start of its group, and the order of the links does not tell on them. -/
theorem levelsBy_distance {walk : Walk} (byLevels : walk.GoesByLevels) {g : Graph}
    (distinct : g.nodes.Nodup) :
    (∃ groups, g.AreGroups [] g.roots groups ∧
      g.levelsBy walk = (groups.mapIdx fun number group => group.map (·, number)).flatten) ∧
    ((g.levelsBy walk).flatMap (·.1)).Perm g.nodes ∧
    ∀ links, links.Perm g.links → List.Forall₂ (fun a b => a.2 = b.2 ∧ a.1.Perm b.1)
      (g.levelsBy walk) (({ g with links } : Graph).levelsBy walk) := by
  have areGroups := groupsBy_areGroups byLevels distinct
  refine ⟨⟨_, areGroups, rfl⟩, levelsBy_perm byLevels distinct, fun links order => ?_⟩
  have arcs := mem_arcs_of_perm order
  have roots : ({ g with links } : Graph).roots = g.roots := roots_congr rfl arcs
  have areGroups' := groupsBy_areGroups byLevels (g := { g with links }) distinct
  rw [roots] at areGroups'
  have nodes : ({ g with links } : Graph).nodes = g.nodes := rfl
  have same := areGroups.congr nodes arcs (fun _ => Iff.rfl) areGroups'
  simpa only [levelsBy, Nat.zero_add] using numbered_congr same 0

def ringGraph : Graph :=
  { nodes := ["a", "b", "c", "d"]
    links := [("b", "b"), ("b", "c"), ("c", "b"), ("a", "d"), ("c", "d"), ("e", "a")] }

theorem ringGraph_levels :
    ((ringGraph.levelsBy breadthFirst).flatMap (·.1)).Perm ringGraph.nodes ∧
      ∃ groups, ringGraph.AreGroups [] ringGraph.roots groups ∧
        ringGraph.levels = (groups.mapIdx fun number group => group.map (·, number)).flatten := by
  have levels := levelsBy_distance breadthFirst_goesByLevels (g := ringGraph) (by decide)
  exact ⟨levels.2.1, levels.1⟩

example : ringGraph.levels = [(["a"], 0), (["d"], 0), (["b"], 1), (["c"], 1)] := by decide +kernel

end RelSchema.Layout.Graph
