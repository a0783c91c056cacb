import Mathlib.Data.List.Nodup
import Mathlib.Data.List.Perm.Subperm
import RelSchema.Layout.Levels
import RelSchema.Proofs.Names

namespace RelSchema.Layout

namespace Graph

inductive Reaches (g : Graph) (start : List String) : Nat → String → Prop
  | start {node : String} (member : node ∈ start) : Reaches g start 0 node
  | link {n : Nat} {a b : String} (before : Reaches g start n a) (arc : (a, b) ∈ g.arcs) :
    Reaches g start (n + 1) b

/-- The least number of links over which a node is reached. -/
structure Distance (g : Graph) (start : List String) (n : Nat) (node : String) : Prop where
  reaches : g.Reaches start n node
  least : ∀ m < n, ¬ g.Reaches start m node

/-- A level and those after it: each holds the nodes, once each, that the one before it links to and
that were not met before. -/
inductive Successive (g : Graph) : List String → List String → List (List String) → Prop
  | stop (met : List String) : Successive g met [] []
  | step {met level next : List String} {more : List (List String)} (some : level ≠ [])
    (new : ∀ node, node ∈ next ↔ (∃ a ∈ level, (a, node) ∈ g.arcs) ∧ node ∉ met)
    (once : next.Nodup) (rest : Successive g (met ++ next) next more) :
    Successive g met level (level :: more)

/-- A level and those after it: each lists the nodes that the one before it links to and that were
not met before, once each and in the order of the links. -/
inductive InOrder (g : Graph) : List String → List String → List (List String) → Prop
  | stop (met : List String) : InOrder g met [] []
  | step {met level : List String} {more : List (List String)} (some : level ≠ [])
    (rest : InOrder g (met ++ g.next met level) (g.next met level) more) :
    InOrder g met level (level :: more)

theorem reaches_zero {g : Graph} {start : List String} {node : String} :
    g.Reaches start 0 node ↔ node ∈ start := by
  constructor
  · intro reaches
    cases reaches
    assumption
  · exact .start

theorem distance_zero {g : Graph} {start : List String} {node : String} :
    g.Distance start 0 node ↔ node ∈ start :=
  ⟨fun distance => reaches_zero.mp distance.reaches,
    fun member => ⟨.start member, fun _ less => absurd less (Nat.not_lt_zero _)⟩⟩

theorem Reaches.distance {g : Graph} {start : List String} {n : Nat} {node : String}
    (reaches : g.Reaches start n node) : ∃ m ≤ n, g.Distance start m node := by
  induction n using Nat.strongRecOn with
  | ind n ih =>
    by_cases nearer : ∃ m < n, g.Reaches start m node
    · obtain ⟨m, less, reaches⟩ := nearer
      obtain ⟨k, atMost, distance⟩ := ih m less reaches
      exact ⟨k, by omega, distance⟩
    · exact ⟨n, Nat.le_refl n, reaches, fun m less reaches => nearer ⟨m, less, reaches⟩⟩

theorem Distance.unique {g : Graph} {start : List String} {m n : Nat} {node : String}
    (first : g.Distance start m node) (second : g.Distance start n node) : m = n := by
  by_contra different
  rcases Nat.lt_or_gt_of_ne different with less | greater
  · exact second.least m less first.reaches
  · exact first.least n greater second.reaches

theorem Distance.before {g : Graph} {start : List String} {n : Nat} {node : String}
    (distance : g.Distance start (n + 1) node) :
    ∃ a, g.Distance start n a ∧ (a, node) ∈ g.arcs := by
  obtain ⟨reaches, least⟩ := distance
  cases reaches with
  | link before arc =>
    rename_i a
    refine ⟨a, ⟨before, fun m less nearer => ?_⟩, arc⟩
    exact least (m + 1) (by omega) (.link nearer arc)

theorem distance_succ {g : Graph} {start : List String} {n : Nat} {node : String} :
    g.Distance start (n + 1) node ↔ (∃ a, g.Distance start n a ∧ (a, node) ∈ g.arcs) ∧
      ∀ m ≤ n, ¬ g.Distance start m node := by
  constructor
  · intro distance
    refine ⟨distance.before, fun m atMost nearer => ?_⟩
    have := distance.unique nearer
    omega
  · rintro ⟨⟨a, distance, arc⟩, farther⟩
    refine ⟨.link distance.reaches arc, fun m less nearer => ?_⟩
    obtain ⟨k, atMost, nearest⟩ := nearer.distance
    exact farther k (by omega) nearest

theorem Distance.smaller {g : Graph} {start : List String} {m n : Nat} {node : String}
    (distance : g.Distance start (m + n) node) : ∃ other, g.Distance start m other := by
  induction n generalizing node with
  | zero => exact ⟨node, distance⟩
  | succ n ih =>
    obtain ⟨a, nearer, -⟩ := distance.before
    exact ih nearer

theorem Successive.mem_iff {g : Graph} {start met level : List String} {levels : List (List String)}
    (successive : Successive g met level levels) {d : Nat}
    (here : ∀ node, node ∈ level ↔ g.Distance start d node)
    (known : ∀ node, node ∈ met ↔ ∃ m ≤ d, g.Distance start m node) (n : Nat) (node : String) :
    node ∈ levels.getD n [] ↔ g.Distance start (d + n) node := by
  induction successive generalizing d n with
  | stop met =>
    simp only [List.getD_nil, List.not_mem_nil, false_iff]
    intro distance
    obtain ⟨other, nearer⟩ := distance.smaller
    exact absurd ((here other).mpr nearer) List.not_mem_nil
  | @step met level next more some new once rest ih =>
    cases n with
    | zero => exact here node
    | succ n =>
      have there : ∀ node, node ∈ next ↔ g.Distance start (d + 1) node := by
        intro node
        rw [new, distance_succ, known]
        simp only [here, not_exists, not_and]
      have all : ∀ node, node ∈ met ++ next ↔ ∃ m ≤ d + 1, g.Distance start m node := by
        intro node
        rw [List.mem_append, known, there]
        constructor
        · rintro (⟨m, atMost, distance⟩ | distance)
          · exact ⟨m, by omega, distance⟩
          · exact ⟨d + 1, Nat.le_refl _, distance⟩
        · rintro ⟨m, atMost, distance⟩
          by_cases last : m = d + 1
          · exact .inr (last ▸ distance)
          · exact .inl ⟨m, by omega, distance⟩
      have farther := ih there all n
      rw [List.getD_cons_succ, farther, Nat.add_right_comm, Nat.add_assoc]

theorem Successive.mem_start_iff {g : Graph} {start : List String} {levels : List (List String)}
    (successive : Successive g start start levels) (n : Nat) (node : String) :
    node ∈ levels.getD n [] ↔ g.Distance start n node := by
  have levelled := successive.mem_iff (fun node => distance_zero.symm) (fun node => ?_) n node
  · rwa [Nat.zero_add] at levelled
  · simp only [Nat.le_zero_eq, exists_eq_left, distance_zero]

theorem Successive.new {g : Graph} {met level : List String} {levels : List (List String)}
    (successive : Successive g met level levels) :
    ∀ node ∈ levels.tail.flatten, node ∉ met := by
  induction successive with
  | stop met => simp
  | @step met level next more some new once rest ih =>
    intro node member
    cases rest with
    | stop => cases member
    | step =>
      rcases List.mem_append.mp member with first | later
      · exact ((new node).mp first).2
      · exact fun known => ih node later (List.mem_append_left _ known)

theorem Successive.nodup {g : Graph} {met level : List String} {levels : List (List String)}
    (successive : Successive g met level levels) (once : level.Nodup) (known : level ⊆ met) :
    levels.flatten.Nodup := by
  induction successive with
  | stop met => exact List.nodup_nil
  | @step met level next more some new onceNext rest ih =>
    have later := ih onceNext (List.subset_append_right _ _)
    have fresh := (Successive.step some new onceNext rest).new
    exact once.append later fun node here there => fresh node there (known here)

theorem mem_next {g : Graph} {met level : List String} {node : String} :
    node ∈ g.next met level ↔ (∃ a ∈ level, (a, node) ∈ g.arcs) ∧ node ∉ met := by
  simp only [next, children, List.mem_eraseDups, List.mem_filter, List.mem_flatMap, List.mem_map,
    beq_iff_eq, Bool.not_eq_true', List.contains_eq_mem, decide_eq_false_iff_not]
  refine and_congr_left' (exists_congr fun a => and_congr_right fun _ => ?_)
  constructor
  · rintro ⟨⟨_, _⟩, ⟨arc, rfl⟩, rfl⟩
    exact arc
  · exact fun arc => ⟨_, ⟨arc, rfl⟩, rfl⟩

theorem arc_nodes {g : Graph} {a b : String} (arc : (a, b) ∈ g.arcs) :
    a ∈ g.nodes ∧ b ∈ g.nodes := by
  have ends := (List.mem_filter.mp arc).2
  simpa using ends

theorem InOrder.successive {g : Graph} {met level : List String} {levels : List (List String)}
    (inOrder : InOrder g met level levels) : Successive g met level levels := by
  induction inOrder with
  | stop met => exact .stop met
  | step some rest ih => exact .step some (fun _ => mem_next) (nodup_eraseDups _) ih

theorem levelsFrom_inOrder {g : Graph} {fuel : Nat} {met level : List String}
    (once : met.Nodup) (known : met ⊆ g.nodes)
    (enough : level = [] ∨ g.nodes.length < fuel + met.length) :
    InOrder g met level (g.levelsFrom fuel met level) := by
  have few : met.length ≤ g.nodes.length := (once.subperm known).length_le
  induction fuel generalizing met level with
  | zero =>
    rcases enough with rfl | enough
    · exact .stop met
    · omega
  | succ fuel ih =>
    cases level with
    | nil => exact .stop met
    | cons first others =>
      have onceNext : (g.next met (first :: others)).Nodup := nodup_eraseDups _
      have nextKnown : g.next met (first :: others) ⊆ g.nodes := by
        intro node member
        obtain ⟨⟨a, -, arc⟩, -⟩ := mem_next.mp member
        exact (arc_nodes arc).2
      have all : (met ++ g.next met (first :: others)).Nodup :=
        once.append onceNext fun node here there => (mem_next.mp there).2 here
      have inside : met ++ g.next met (first :: others) ⊆ g.nodes :=
        List.append_subset.mpr ⟨known, nextKnown⟩
      have more : g.next met (first :: others) = [] ∨
          g.nodes.length < fuel + (met ++ g.next met (first :: others)).length := by
        rcases enough with none | enough
        · cases none
        · cases shape : g.next met (first :: others) with
          | nil => exact .inl rfl
          | cons _ _ =>
            simp only [List.length_append, List.length_cons]
            omega
      exact .step (List.cons_ne_nil _ _) (ih all inside more (all.subperm inside).length_le)

end Graph

/-- The walk goes from a level to the nodes it leads to and that are new, until there are none. -/
def Walk.GoesByLevels (walk : Walk) : Prop :=
  ∀ g start, start.Nodup → start ⊆ g.nodes → Graph.Successive g start start (walk g start)

def Walk.FollowsLinks (walk : Walk) : Prop :=
  ∀ g start, start.Nodup → start ⊆ g.nodes → Graph.InOrder g start start (walk g start)

theorem Walk.FollowsLinks.goesByLevels {walk : Walk} (follows : walk.FollowsLinks) :
    walk.GoesByLevels :=
  fun g start once known => (follows g start once known).successive

theorem breadthFirst_followsLinks : Walk.FollowsLinks Graph.breadthFirst := by
  intro g start once known
  exact Graph.levelsFrom_inOrder once known (.inr (by omega))

theorem breadthFirst_goesByLevels : Walk.GoesByLevels Graph.breadthFirst :=
  breadthFirst_followsLinks.goesByLevels

end RelSchema.Layout
