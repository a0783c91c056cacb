import RelSchema.Layout.Placement
import RelSchema.Proofs.Layout.Groups

namespace RelSchema

variable {α β : Type}

theorem eraseDups_filter [BEq α] [LawfulBEq α] (p : α → Bool) (list : List α) :
    (list.filter p).eraseDups = list.eraseDups.filter p := by
  -- What follows the first element is filtered, so the induction is on the length.
  induction h : list.length using Nat.strongRecOn generalizing list with
  | ind n ih =>
    cases list with
    | nil => rfl
    | cons a rest =>
      have shorter := List.length_filter_le (fun b => !b == a) rest
      rw [List.length_cons] at h
      have later := ih _ (by omega) (rest.filter fun b => !b == a) rfl
      rw [List.eraseDups_cons]
      by_cases kept : p a = true
      · rw [List.filter_cons_of_pos kept, List.filter_cons_of_pos kept, List.eraseDups_cons,
          ← later, List.filter_filter, List.filter_filter]
        simp only [Bool.and_comm]
      · rw [List.filter_cons_of_neg kept, List.filter_cons_of_neg kept, ← later,
          List.filter_filter]
        congr 1
        refine List.filter_congr fun b _ => ?_
        by_cases same : b = a
        · simp [same, kept]
        · simp [same]

theorem eraseDups_map [BEq α] [LawfulBEq α] [BEq β] [LawfulBEq β] (f : α → β) (list : List α) :
    (list.eraseDups.map f).eraseDups = (list.map f).eraseDups := by
  induction h : list.length using Nat.strongRecOn generalizing list with
  | ind n ih =>
    cases list with
    | nil => rfl
    | cons a rest =>
      have shorter := List.length_filter_le (fun b => !b == a) rest
      rw [List.length_cons] at h
      have later := ih _ (by omega) (rest.filter fun b => !b == a) rfl
      rw [List.eraseDups_cons, List.map_cons, List.map_cons, List.eraseDups_cons,
        List.eraseDups_cons, eraseDups_filter, later, ← eraseDups_filter, List.filter_map,
        List.filter_map, List.filter_filter]
      congr 3
      refine List.filter_congr fun b _ => ?_
      by_cases same : b = a
      · simp [same]
      · simp [same]

theorem eraseDups_flatMap_congr [BEq β] [LawfulBEq β] {f g : α → List β} {list : List α}
    (same : ∀ a ∈ list, (f a).eraseDups = (g a).eraseDups) :
    (list.flatMap f).eraseDups = (list.flatMap g).eraseDups := by
  induction list with
  | nil => rfl
  | cons a rest ih =>
    rw [List.forall_mem_cons] at same
    have members : ∀ b, b ∈ f a ↔ b ∈ g a := by
      intro b
      rw [← List.mem_eraseDups, same.1, List.mem_eraseDups]
    rw [List.flatMap_cons, List.flatMap_cons, List.eraseDups_append, List.eraseDups_append,
      same.1, List.removeAll, List.removeAll, eraseDups_filter, eraseDups_filter, ih same.2]
    simp only [List.elem_eq_contains, List.contains_eq_mem, members]

theorem filter_contains_of_sublist [BEq α] [LawfulBEq α] {part list : List α}
    (sublist : part.Sublist list) (once : list.Nodup) :
    (list.filter fun a => part.contains a) = part := by
  induction sublist with
  | slnil => rfl
  | @cons part list a sublist ih =>
    rw [List.nodup_cons] at once
    have absent : part.contains a = false := by
      simpa using fun member => once.1 (sublist.subset member)
    rw [List.filter_cons_of_neg (by rw [absent]; decide), ih once.2]
  | @cons_cons part list a sublist ih =>
    rw [List.nodup_cons] at once
    rw [List.filter_cons_of_pos (by simp)]
    congr 1
    refine Eq.trans (List.filter_congr fun b member => ?_) (ih once.2)
    have other : b ≠ a := fun same => once.1 (same ▸ member)
    simp [other]

namespace Layout

namespace Graph

def keeping (g : Graph) (keep : String × String → Bool) : Graph :=
  { g with links := (g.arcs.filter keep).eraseDups }

def firstLinks (g : Graph) : Graph := g.keeping fun _ => true

def hierarchy (g : Graph) : Graph := g.keeping fun (a, b) => a != b

variable {g g' : Graph} {keep : String × String → Bool}

theorem arcs_keeping (g : Graph) (keep : String × String → Bool) :
    (g.keeping keep).arcs = (g.arcs.filter keep).eraseDups := by
  refine List.filter_eq_self.mpr fun arc member => ?_
  have inside : arc ∈ g.arcs := List.mem_of_mem_filter (List.mem_eraseDups.mp member)
  exact (List.mem_filter.mp inside).2

theorem InOrder.unique {met level : List String} {levels levels' : List (List String)}
    (same : ∀ met level, level ⊆ met → g'.next met level = g.next met level) (known : level ⊆ met)
    (inOrder : g.InOrder met level levels) (inOrder' : g'.InOrder met level levels') :
    levels' = levels := by
  induction inOrder generalizing levels' with
  | stop =>
    cases inOrder' with
    | stop => rfl
    | step some _ => contradiction
  | step some _ ih =>
    cases inOrder' with
    | stop => contradiction
    | step _ rest' =>
      rw [same _ _ known] at rest'
      rw [ih (List.subset_append_right _ _) rest']

theorem next_keeping (ways : ∀ arc ∈ g.arcs, arc.1 ≠ arc.2 → keep arc = true)
    (met level : List String) (known : level ⊆ met) :
    (g.keeping keep).next met level = g.next met level := by
  have targets (g : Graph) (node : String) :
      (g.children node).filter (fun b => !met.contains b) =
        (g.arcs.filter fun arc => !met.contains arc.2 && arc.1 == node).map (·.2) := by
    rw [children, List.filter_map, List.filter_filter]
    rfl
  rw [next, next, List.filter_flatMap, List.filter_flatMap]
  refine eraseDups_flatMap_congr fun node member => ?_
  rw [targets, targets, arcs_keeping, ← eraseDups_filter, eraseDups_map, List.filter_filter]
  congr 2
  refine List.filter_congr fun arc inside => ?_
  have kept := ways arc inside
  have placed : node ∈ met := known member
  by_cases loop : arc.1 = arc.2 <;> grind

variable {walk : Walk}

theorem walk_keeping (follows : walk.FollowsLinks)
    (ways : ∀ arc ∈ g.arcs, arc.1 ≠ arc.2 → keep arc = true) {start : List String}
    (once : start.Nodup) (inside : start ⊆ g.nodes) :
    walk (g.keeping keep) start = walk g start :=
  InOrder.unique (next_keeping ways) (List.Subset.refl _) (follows g start once inside)
    (follows (g.keeping keep) start once inside)

theorem groupsFrom_keeping (follows : walk.FollowsLinks)
    (ways : ∀ arc ∈ g.arcs, arc.1 ≠ arc.2 → keep arc = true) (fuel : Nat)
    {placed start : List String} (once : start.Nodup) (inside : start ⊆ g.nodes) :
    (g.keeping keep).groupsFrom walk fuel placed start = g.groupsFrom walk fuel placed start := by
  induction fuel generalizing placed start with
  | zero => rfl
  | succ fuel ih =>
    have group : (g.keeping keep).groupFrom walk placed start = g.groupFrom walk placed start := by
      rw [groupFrom, groupFrom, walk_keeping follows ways once inside]
    have left (placed : List String) : (g.keeping keep).left placed = g.left placed := rfl
    rw [groupsFrom, groupsFrom, group]
    simp only [left]
    split
    · rfl
    · rename_i node others shape
      have member : node ∈ g.nodes := (mem_left.mp (shape ▸ List.mem_cons_self)).1
      rw [ih (List.nodup_singleton node) (by simpa using member)]

theorem roots_sublist (g : Graph) : g.roots.Sublist g.nodes := by
  unfold roots
  split
  · exact List.take_sublist _ _
  · exact List.filter_sublist

/-- The links that are left out have a say in the roots only. -/
theorem levelsBy_keeping (follows : walk.FollowsLinks)
    (ways : ∀ arc ∈ g.arcs, arc.1 ≠ arc.2 → keep arc = true) (distinct : g.nodes.Nodup)
    (roots : (g.keeping keep).roots = g.roots) :
    (g.keeping keep).levelsBy walk = g.levelsBy walk := by
  have groups : (g.keeping keep).groupsBy walk = g.groupsBy walk := by
    have nodes : (g.keeping keep).nodes = g.nodes := rfl
    rw [groupsBy, groupsBy, nodes, roots,
      groupsFrom_keeping follows ways g.nodes.length ((roots_sublist g).nodup distinct)
        (roots_sublist g).subset]
  rw [levelsBy, levelsBy, groups]

theorem roots_firstLinks (g : Graph) : g.firstLinks.roots = g.roots := by
  refine roots_congr rfl fun arc => ?_
  rw [firstLinks, arcs_keeping, List.mem_eraseDups, List.filter_true]

theorem levelsBy_head (byLevels : walk.GoesByLevels) (distinct : g.nodes.Nodup) {node : String}
    (member : node ∈ g.nodes) : (g.levelsBy walk)[0]? = some (g.roots, 0) := by
  have areGroups := groupsBy_areGroups byLevels distinct
  rw [levelsBy]
  generalize g.groupsBy walk = groups, g.roots = roots at areGroups ⊢
  cases areGroups with
  | done all =>
    have found : node ∈ g.left [] := mem_left.mpr ⟨member, List.not_mem_nil⟩
    rw [all] at found
    cases found
  | group isGroup _ =>
    obtain ⟨others, rfl⟩ := List.head?_eq_some_iff.mp isGroup.first
    simp

/-- The place of a node in the order of the levels. -/
def StandsOn (levels : List (List String × Nat)) (node : String) (k : Nat) : Prop :=
  ∃ level, levels[k]? = some level ∧ node ∈ level.1

theorem exists_standsOn (byLevels : walk.GoesByLevels) (distinct : g.nodes.Nodup) {node : String}
    (member : node ∈ g.nodes) : ∃ k, StandsOn (g.levelsBy walk) node k := by
  obtain ⟨level, inside, own⟩ :=
    List.mem_flatMap.mp ((levelsBy_perm byLevels distinct).mem_iff.mpr member)
  obtain ⟨k, found⟩ := List.getElem?_of_mem inside
  exact ⟨k, level, found, own⟩

theorem StandsOn.unique {levels : List (List String × Nat)} (once : (levels.flatMap (·.1)).Nodup)
    {node : String} {j k : Nat} (first : StandsOn levels node j) (second : StandsOn levels node k) :
    j = k := by
  obtain ⟨level, here, own⟩ := first
  obtain ⟨level', there, own'⟩ := second
  obtain ⟨inside, rfl⟩ := List.getElem?_eq_some_iff.mp here
  obtain ⟨inside', rfl⟩ := List.getElem?_eq_some_iff.mp there
  have apart := (List.nodup_flatMap.mp once).2
  rw [List.pairwise_iff_getElem] at apart
  by_contra different
  rcases Nat.lt_or_gt_of_ne different with less | greater
  · exact apart j k inside inside' less own own'
  · exact apart k j inside' inside greater own' own

theorem StandsOn.isRoot_iff (byLevels : walk.GoesByLevels) (distinct : g.nodes.Nodup)
    {node : String} {k : Nat} (stands : StandsOn (g.levelsBy walk) node k) :
    k = 0 ↔ node ∈ g.roots := by
  have all := levelsBy_perm byLevels distinct
  have member : node ∈ g.nodes := by
    obtain ⟨level, found, own⟩ := stands
    exact all.mem_iff.mp (List.mem_flatMap.mpr ⟨level, List.mem_of_getElem? found, own⟩)
  have head := levelsBy_head byLevels distinct member
  constructor
  · rintro rfl
    obtain ⟨level, found, own⟩ := stands
    rw [head] at found
    cases found
    exact own
  · intro root
    exact stands.unique (all.nodup_iff.mpr distinct) ⟨_, head, root⟩

end Graph

section Tree

variable {walk : Walk}

theorem treeMoveBy_eq (walk : Walk) (o : Options) (links : List (String × String))
    (nodes : List (String × Point)) :
    treeMoveBy walk o links nodes = nodes.map fun node =>
      (node.1, ((treePointsBy walk o ⟨nodes.map (·.1), links⟩).lookup node.1).getD node.2) := by
  rw [treeMoveBy, treeBy, List.map_map, List.zipWith_map_right, List.zipWith_self]
  rfl

def stepOptions : Options :=
  { spacing := some (.whole 1), padding := some (.whole 0), groupPadding := .whole 0 }

theorem levelDepths_step (levels : List (List String × Nat)) :
    levelDepths stepOptions levels = levels.mapIdx fun index _ => .whole index := by
  have direction : stepOptions.treeDirection.isReversed = false := by decide
  have depth (index group : Nat) : treePadding stepOptions + (index : Measure) *
      treeSpacing stepOptions + (group : Measure) * stepOptions.groupPadding = .whole index := by
    change Measure.whole (0 + index * 1 + group * 0) = .whole index
    simp
  rw [levelDepths, direction]
  simp only [depth]

theorem levelPoints_names (o : Options) (level : List String) (depth : Measure) :
    (levelPoints o level depth).map (·.1) = level := by
  apply List.ext_getElem
  · simp [levelPoints]
  · intro i _ _
    simp [levelPoints]

theorem levelPoints_step (level : List String) (depth : Measure) {node : String} {p : Point}
    (member : (node, p) ∈ levelPoints stepOptions level depth) : node ∈ level ∧ p.y = depth := by
  have direction : stepOptions.treeDirection.isHorizontal = false := by decide
  obtain ⟨index, inside, made⟩ := List.mem_mapIdx.mp member
  rw [direction] at made
  cases made
  exact ⟨List.getElem_mem inside, rfl⟩

theorem mem_treePointsBy_step {g : Graph} {node : String} {p : Point}
    (member : (node, p) ∈ treePointsBy walk stepOptions g) :
    ∃ k : Nat, Graph.StandsOn (g.levelsBy walk) node k ∧ p.y = .whole k := by
  rw [treePointsBy, List.mem_reverse, levelDepths_step] at member
  obtain ⟨⟨level, depth⟩, inside, own⟩ := List.mem_flatMap.mp member
  obtain ⟨here, y⟩ := levelPoints_step level.1 depth own
  obtain ⟨k, bound, pair⟩ := List.getElem_of_mem inside
  rw [List.getElem_zip, List.getElem_mapIdx, Prod.mk.injEq] at pair
  exact ⟨k, ⟨level, pair.1 ▸ List.getElem?_eq_getElem _, here⟩, y.trans pair.2.symm⟩

theorem exists_treePoint {g : Graph} {node : String} {k : Nat}
    (stands : Graph.StandsOn (g.levelsBy walk) node k) :
    ∃ p, (node, p) ∈ treePointsBy walk stepOptions g := by
  obtain ⟨level, found, own⟩ := stands
  have pair : (level, Measure.whole k) ∈
      (g.levelsBy walk).zip (levelDepths stepOptions (g.levelsBy walk)) := by
    refine List.mem_of_getElem? (i := k) ?_
    rw [List.getElem?_zip_eq_some, levelDepths_step, List.getElem?_mapIdx, found]
    exact ⟨rfl, rfl⟩
  rw [← levelPoints_names stepOptions level.1 (.whole k)] at own
  obtain ⟨⟨_, p⟩, point, rfl⟩ := List.mem_map.mp own
  exact ⟨p, List.mem_reverse.mpr (List.mem_flatMap.mpr ⟨_, pair, point⟩)⟩

theorem lookup_step (byLevels : walk.GoesByLevels) {g : Graph} (distinct : g.nodes.Nodup)
    {node : String} (member : node ∈ g.nodes) :
    ∃ p, ∃ k : Nat, (treePointsBy walk stepOptions g).lookup node = some p ∧ p.y = .whole k ∧
      (k = 0 ↔ node ∈ g.roots) := by
  obtain ⟨_, placed⟩ := Graph.exists_standsOn byLevels distinct member
  obtain ⟨_, point⟩ := exists_treePoint placed
  have found : ((treePointsBy walk stepOptions g).lookup node).isSome = true :=
    List.lookup_isSome_iff.mpr ⟨_, point, beq_self_eq_true node⟩
  obtain ⟨p, found⟩ := Option.isSome_iff_exists.mp found
  obtain ⟨before, after, split, -⟩ := List.lookup_eq_some_iff.mp found
  have listed : (node, p) ∈ treePointsBy walk stepOptions g := by
    rw [split]
    exact List.mem_append_right _ List.mem_cons_self
  obtain ⟨k, stands, y⟩ := mem_treePointsBy_step listed
  exact ⟨p, k, found, y, stands.isRoot_iff byLevels distinct⟩

theorem treeMoveBy_congr {links links' : List (String × String)} {nodes : List (String × Point)}
    (same : (⟨nodes.map (·.1), links'⟩ : Graph).levelsBy walk =
      (⟨nodes.map (·.1), links⟩ : Graph).levelsBy walk) (o : Options) :
    treeMoveBy walk o links' nodes = treeMoveBy walk o links nodes := by
  rw [treeMoveBy_eq, treeMoveBy_eq, treePointsBy, treePointsBy, same]

theorem roots_eq_of_treeMoveBy (byLevels : walk.GoesByLevels)
    {links links' : List (String × String)} {nodes : List (String × Point)}
    (distinct : (nodes.map (·.1)).Nodup)
    (same : treeMoveBy walk stepOptions links' nodes = treeMoveBy walk stepOptions links nodes) :
    (⟨nodes.map (·.1), links'⟩ : Graph).roots = (⟨nodes.map (·.1), links⟩ : Graph).roots := by
  have members : ∀ node ∈ nodes.map (·.1),
      (node ∈ (⟨nodes.map (·.1), links'⟩ : Graph).roots ↔
        node ∈ (⟨nodes.map (·.1), links⟩ : Graph).roots) := by
    intro node member
    obtain ⟨p, k, found, y, root⟩ := lookup_step byLevels (g := ⟨_, links⟩) distinct member
    obtain ⟨p', k', found', y', root'⟩ := lookup_step byLevels (g := ⟨_, links'⟩) distinct member
    obtain ⟨n, inside, rfl⟩ := List.mem_map.mp member
    rw [treeMoveBy_eq, treeMoveBy_eq, List.map_inj_left] at same
    have moved := congrArg (fun node => node.2.y) (same n inside)
    simp only [found, found', Option.getD_some, y, y', Measure.whole.injEq, Int.natCast_inj] at moved
    rw [← root, ← root', moved]
  rw [← filter_contains_of_sublist (Graph.roots_sublist _) distinct,
    ← filter_contains_of_sublist (Graph.roots_sublist ⟨_, links⟩) distinct]
  refine List.filter_congr fun node member => ?_
  simp only [List.contains_eq_mem, members node member]

end Tree

/-- A tree layout does not see repeated links and links with an unknown end. It does not see the
links from nodes to themselves either, as long as without them the roots are the same; otherwise
they show, if levels are far enough apart. -/
theorem treeMoveBy_hierarchy {walk : Walk} (follows : walk.FollowsLinks)
    {nodes : List (String × Point)} (distinct : (nodes.map (·.1)).Nodup)
    (links : List (String × String)) :
    (∀ o, treeMoveBy walk o (Graph.mk (nodes.map (·.1)) links).firstLinks.links nodes =
        treeMoveBy walk o links nodes) ∧
      ((∀ o, treeMoveBy walk o (Graph.mk (nodes.map (·.1)) links).hierarchy.links nodes =
          treeMoveBy walk o links nodes) ↔
        (Graph.mk (nodes.map (·.1)) links).hierarchy.roots =
          (Graph.mk (nodes.map (·.1)) links).roots) := by
  have once : (Graph.mk (nodes.map (·.1)) links).nodes.Nodup := distinct
  refine ⟨treeMoveBy_congr ?_, fun same => ?_, fun roots => treeMoveBy_congr ?_⟩
  · exact Graph.levelsBy_keeping follows (fun _ _ _ => rfl) once (Graph.roots_firstLinks _)
  · exact roots_eq_of_treeMoveBy follows.goesByLevels distinct (same stepOptions)
  · exact Graph.levelsBy_keeping follows (fun _ _ leads => bne_iff_ne.mpr leads) once roots

def pairLinks : List (String × String) :=
  [("a", "b"), ("b", "a"), ("a", "a"), ("a", "b"), ("b", "c")]

def pairNodes : List (String × Point) := [("a", .origin), ("b", .origin)]

theorem pairLinks_hierarchy :
    (Graph.mk (pairNodes.map (·.1)) pairLinks).hierarchy.links = [("a", "b"), ("b", "a")] ∧
      ∀ o, treeMoveBy Graph.breadthFirst o [("a", "b"), ("b", "a")] pairNodes =
        treeMoveBy Graph.breadthFirst o pairLinks pairNodes := by
  have distinct : (pairNodes.map (·.1)).Nodup := by decide
  have roots : (Graph.mk (pairNodes.map (·.1)) pairLinks).hierarchy.roots =
      (Graph.mk (pairNodes.map (·.1)) pairLinks).roots := by decide
  exact ⟨by decide, (treeMoveBy_hierarchy breadthFirst_followsLinks distinct pairLinks).2.mpr roots⟩

/-- A table that refers to itself is no root, so it does not stand beside the root. -/
theorem selfLink_shows :
    (Graph.mk (pairNodes.map (·.1)) [("b", "b")]).hierarchy.links = [] ∧
      ¬ ∀ o, treeMoveBy Graph.breadthFirst o [] pairNodes =
        treeMoveBy Graph.breadthFirst o [("b", "b")] pairNodes := by
  refine ⟨by decide, fun same => ?_⟩
  have depths := congrArg (List.map fun node => node.2.y.text) (same stepOptions)
  revert depths
  decide

end Layout

end RelSchema
