import Mathlib.Data.List.Nodup
import RelSchema.Proofs.Suggestion.Naming
import RelSchema.Proofs.Suggestion.Structure

namespace RelSchema.Suggestion

section Symmetry

variable (s : Schema) (a b : Table)

theorem connected_comm : connected s a b = connected s b a := by
  have between : s.edgesBetween a b = s.edgesBetween b a := by
    unfold Schema.edgesBetween
    congr 1
    funext e
    rw [Bool.or_comm]
  rw [connected, connected, between, Bool.or_assoc, Bool.or_assoc, Bool.or_comm (refersTo a b)]

theorem isJoined_comm : isJoined s a b = isJoined s b a := by
  unfold isJoined joinNames
  congr 1
  funext t
  simp only [List.contains_cons, List.contains_nil, Bool.or_false]
  ac_rfl

end Symmetry

section Pairs

variable {α : Type}

theorem mem_pairs_or {list : List α} {a b : α} (ha : a ∈ list) (hb : b ∈ list) (different : a ≠ b) :
    (a, b) ∈ pairs list ∨ (b, a) ∈ pairs list := by
  induction list with
  | nil => contradiction
  | cons first rest ih =>
    simp only [pairs, List.mem_append, List.mem_map, Prod.mk.injEq]
    rcases List.mem_cons.mp ha, List.mem_cons.mp hb with ⟨rfl | laterA, rfl | laterB⟩
    · contradiction
    · exact .inl (.inl ⟨b, laterB, rfl, rfl⟩)
    · exact .inr (.inl ⟨a, laterA, rfl, rfl⟩)
    · exact (ih laterA laterB).imp .inr .inr

theorem pairs_pairwise {list : List α} (nodup : list.Nodup) :
    (pairs list).Pairwise fun p q => p ≠ q ∧ p ≠ q.swap := by
  induction list with
  | nil => exact .nil
  | cons a rest ih =>
    rw [List.nodup_cons] at nodup
    refine List.pairwise_append.mpr ⟨?_, ih nodup.2, ?_⟩
    · rw [List.pairwise_map]
      refine nodup.2.imp_of_mem fun {b c} hb hc different => ⟨?_, ?_⟩
      · simpa using different
      · intro crossed
        exact nodup.1 ((Prod.mk.inj crossed).1 ▸ hc)
    · rintro p here ⟨c, d⟩ later
      obtain ⟨b, -, rfl⟩ := List.mem_map.mp here
      obtain ⟨hc, hd⟩ := mem_pairs later
      constructor
      · rintro ⟨⟩
        exact nodup.1 hc
      · rintro ⟨⟩
        exact nodup.1 hd

theorem ne_of_mem_pairs {list : List α} (nodup : list.Nodup) {a b : α}
    (member : (a, b) ∈ pairs list) : a ≠ b := by
  induction list with
  | nil => contradiction
  | cons first rest ih =>
    rw [List.nodup_cons] at nodup
    rcases List.mem_append.mp member with here | later
    · obtain ⟨other, inside, same⟩ := List.mem_map.mp here
      obtain ⟨rfl, rfl⟩ := Prod.mk.inj same
      rintro rfl
      exact nodup.1 inside
    · exact ih nodup.2 later

end Pairs

def pairProposals (s : Schema) : List Suggestion :=
  (pairs s.tables).filterMap fun (a, b) => ofPair? s a b

def ofWords? (s : Schema) (child parent : Table × Nat) : Option Suggestion :=
  if child.2 ≠ parent.2 ∧ embeds child.1 parent.1 ∧ !connected s child.1 parent.1 then
    some (lexical child.1 parent.1)
  else none

def wordProposals (s : Schema) : List Suggestion :=
  (placed s.tables).flatMap fun child => (placed s.tables).filterMap (ofWords? s child)

theorem fromTableNames_eq (s : Schema) :
    fromTableNames s = number (pairProposals s ++ wordProposals s) := rfl

/-- Two tables with plural names that nothing joins so far. -/
def areApart (s : Schema) (a b : Table) : Bool :=
  isPlural a.name && isPlural b.name && !isJoined s a b && !connected s a b

theorem areApart_comm (s : Schema) (a b : Table) : areApart s a b = areApart s b a := by
  rw [areApart, areApart, isJoined_comm, connected_comm, Bool.and_comm (isPlural a.name)]

theorem ofPair?_eq_some_iff {s : Schema} {a b : Table} {x : Suggestion} :
    ofPair? s a b = some x ↔ areApart s a b = true ∧ x = manyToMany a b := by
  change (if areApart s a b = true then some (manyToMany a b) else none) = some x ↔ _
  cases areApart s a b <;> simp [eq_comm]

theorem ofWords?_eq_some_iff {s : Schema} {child parent : Table × Nat} {x : Suggestion} :
    ofWords? s child parent = some x ↔
      (child.2 ≠ parent.2 ∧ embeds child.1 parent.1 = true ∧
        connected s child.1 parent.1 = false) ∧ x = lexical child.1 parent.1 := by
  rw [ofWords?, Option.ite_none_right_eq_some, Option.some_inj, eq_comm (a := x),
    Bool.not_eq_true']

structure Implies (s : Schema) (child parent : Table) : Prop where
  child_mem : child ∈ s.tables
  parent_mem : parent ∈ s.tables
  different : child ≠ parent
  embeds : embeds child parent = true
  unconnected : connected s child parent = false

theorem mem_wordProposals {s : Schema} (nodup : s.tables.Nodup) {x : Suggestion} :
    x ∈ wordProposals s ↔ ∃ child parent, Implies s child parent ∧ x = lexical child parent := by
  simp only [wordProposals, placed, List.mem_flatMap, List.mem_filterMap, Prod.exists,
    ofWords?_eq_some_iff, List.mem_zipIdx_iff_getElem?]
  constructor
  · rintro ⟨child, i, hchild, parent, j, hparent, ⟨places, embeds, unconnected⟩, rfl⟩
    refine ⟨child, parent, ⟨List.mem_of_getElem? hchild, List.mem_of_getElem? hparent, ?_, embeds,
      unconnected⟩, rfl⟩
    rintro rfl
    have inside := (List.getElem?_eq_some_iff.mp hchild).1
    exact places ((List.getElem?_inj inside nodup).mp (hchild.trans hparent.symm))
  · rintro ⟨child, parent, implies, rfl⟩
    obtain ⟨i, hchild⟩ := List.mem_iff_getElem?.mp implies.child_mem
    obtain ⟨j, hparent⟩ := List.mem_iff_getElem?.mp implies.parent_mem
    refine ⟨child, i, hchild, parent, j, hparent, ⟨?_, implies.embeds, implies.unconnected⟩, rfl⟩
    rintro rfl
    exact implies.different (Option.some.inj (hchild.symm.trans hparent))

/-- Two suggestions that differ in their numbers alone, or ask to join the same two tables in the
two orders. -/
def SaysSame (x y : Suggestion) : Prop :=
  x.unnumbered = y.unnumbered ∨
    ∃ a b, x.unnumbered = manyToMany a b ∧ y.unnumbered = manyToMany b a

theorem SaysSame.symm {x y : Suggestion} (same : SaysSame x y) : SaysSame y x := by
  rcases same with same | ⟨a, b, first, second⟩
  · exact .inl same.symm
  · exact .inr ⟨b, a, second, first⟩

/-- Whether two suggestions relate the same two tables in the same way. The order of the tables
counts unless they are to be joined. -/
def RelatesSame (x y : Suggestion) : Prop :=
  x.Repeats y ∨
    x.cardinality = .manyToMany ∧ x.Repeats { y with source := y.target, target := y.source }

section Order

variable {s : Schema} {tables : List Table} (order : s.tables.Perm tables)

include order

theorem areApart_perm (a b : Table) : areApart { s with tables } a b = areApart s a b := by
  have joined : isJoined { s with tables } a b = isJoined s a b := by
    unfold isJoined
    exact order.any_eq.symm
  rw [areApart, areApart, joined]
  rfl

theorem Implies.perm {child parent : Table} (implies : Implies s child parent) :
    Implies { s with tables } child parent :=
  ⟨order.mem_iff.mp implies.child_mem, order.mem_iff.mp implies.parent_mem, implies.different,
    implies.embeds, implies.unconnected⟩

theorem exists_proposal (nodup : s.tables.Nodup) {x : Suggestion}
    (member : x ∈ pairProposals s ++ wordProposals s) :
    ∃ y ∈ pairProposals { s with tables } ++ wordProposals { s with tables }, SaysSame x y := by
  rcases List.mem_append.mp member with pair | word
  · obtain ⟨⟨a, b⟩, here, made⟩ := List.mem_filterMap.mp pair
    obtain ⟨apart, rfl⟩ := ofPair?_eq_some_iff.mp made
    obtain ⟨ha, hb⟩ := mem_pairs here
    rcases mem_pairs_or (order.mem_iff.mp ha) (order.mem_iff.mp hb) (ne_of_mem_pairs nodup here)
      with same | exchanged
    · have made : ofPair? { s with tables } a b = some (manyToMany a b) :=
        ofPair?_eq_some_iff.mpr ⟨(areApart_perm order a b).trans apart, rfl⟩
      have proposed : manyToMany a b ∈ pairProposals { s with tables } :=
        List.mem_filterMap.mpr ⟨_, same, made⟩
      exact ⟨_, List.mem_append_left _ proposed, .inl rfl⟩
    · have apart' : areApart { s with tables } b a = true := by
        rw [areApart_perm order, areApart_comm, apart]
      have made : ofPair? { s with tables } b a = some (manyToMany b a) :=
        ofPair?_eq_some_iff.mpr ⟨apart', rfl⟩
      have proposed : manyToMany b a ∈ pairProposals { s with tables } :=
        List.mem_filterMap.mpr ⟨_, exchanged, made⟩
      exact ⟨_, List.mem_append_left _ proposed, .inr ⟨a, b, rfl, rfl⟩⟩
  · obtain ⟨child, parent, implies, rfl⟩ := (mem_wordProposals nodup).mp word
    have proposed : lexical child parent ∈ wordProposals { s with tables } :=
      (mem_wordProposals (order.nodup_iff.mp nodup)).mpr ⟨child, parent, implies.perm order, rfl⟩
    exact ⟨_, List.mem_append_right _ proposed, .inl rfl⟩

end Order

section Once

variable {s : Schema} (distinct : (s.tables.map (·.name)).Nodup)

include distinct

theorem pairProposals_pairwise : (pairProposals s).Pairwise fun x y => ¬ RelatesSame x y := by
  have sameTable {a b : Table} (ha : a ∈ s.tables) (hb : b ∈ s.tables) (same : a.name = b.name) :
      a = b := List.inj_on_of_nodup_map distinct ha hb same
  rw [pairProposals, List.pairwise_filterMap]
  refine (pairs_pairwise distinct.of_map).imp_of_mem ?_
  rintro ⟨a, b⟩ ⟨c, d⟩ here there ⟨different, crossed⟩ x made y made' relates
  obtain ⟨-, rfl⟩ := ofPair?_eq_some_iff.mp made
  obtain ⟨-, rfl⟩ := ofPair?_eq_some_iff.mp made'
  obtain ⟨ha, hb⟩ := mem_pairs here
  obtain ⟨hc, hd⟩ := mem_pairs there
  rcases relates with ⟨source, target, -⟩ | ⟨-, source, target, -⟩
  · exact different (Prod.ext (sameTable ha hc source) (sameTable hb hd target))
  · exact crossed (Prod.ext (sameTable ha hd source) (sameTable hb hc target))

theorem wordProposals_pairwise : (wordProposals s).Pairwise fun x y => ¬ RelatesSame x y := by
  have names : (placed s.tables).Pairwise fun p q => p.1.name ≠ q.1.name := by
    have nodup : ((placed s.tables).map (Table.name ∘ Prod.fst)).Nodup := by
      rwa [← List.map_map, placed, List.zipIdx_map_fst]
    exact List.pairwise_map.mp nodup
  have ends {child parent child' parent' : Table × Nat} {x y : Suggestion}
      (made : ofWords? s child parent = some x) (made' : ofWords? s child' parent' = some y)
      (relates : RelatesSame x y) :
      parent.1.name = parent'.1.name ∧ child.1.name = child'.1.name := by
    obtain ⟨-, rfl⟩ := ofWords?_eq_some_iff.mp made
    obtain ⟨-, rfl⟩ := ofWords?_eq_some_iff.mp made'
    rcases relates with ⟨source, target, -⟩ | ⟨joins, -⟩
    · exact ⟨source, target⟩
    · contradiction
  rw [wordProposals, List.pairwise_flatMap]
  constructor
  · intro child _
    rw [List.pairwise_filterMap]
    refine names.imp fun {p q} different x made y made' relates => ?_
    exact different (ends made made' relates).1
  · refine names.imp fun {p q} different x here y there relates => ?_
    obtain ⟨parent, -, made⟩ := List.mem_filterMap.mp here
    obtain ⟨parent', -, made'⟩ := List.mem_filterMap.mp there
    exact different (ends made made' relates).2

theorem proposals_pairwise :
    (pairProposals s ++ wordProposals s).Pairwise fun x y => ¬ RelatesSame x y := by
  refine List.pairwise_append.mpr
    ⟨pairProposals_pairwise distinct, wordProposals_pairwise distinct, ?_⟩
  intro x pair y word relates
  obtain ⟨⟨a, b⟩, -, made⟩ := List.mem_filterMap.mp pair
  obtain ⟨-, rfl⟩ := ofPair?_eq_some_iff.mp made
  obtain ⟨child, parent, -, rfl⟩ := (mem_wordProposals distinct.of_map).mp word
  rcases relates with ⟨-, -, cardinality⟩ | ⟨-, -, -, cardinality⟩ <;> contradiction

end Once

theorem exists_numbered {list : List Suggestion} {x : Suggestion} (member : x ∈ list) :
    ∃ y ∈ number list, y.unnumbered = x.unnumbered := by
  have inside := List.mem_map_of_mem (f := unnumbered) member
  rw [← map_unnumbered_number] at inside
  exact List.mem_map.mp inside

theorem exists_saysSame {s : Schema} (nodup : s.tables.Nodup) {tables : List Table}
    (order : s.tables.Perm tables) {x : Suggestion} (member : x ∈ fromTableNames s) :
    ∃ y ∈ fromTableNames { s with tables }, SaysSame x y := by
  obtain ⟨x, proposed, id, rfl⟩ := mem_number member
  obtain ⟨y, proposed', same⟩ := exists_proposal order nodup proposed
  obtain ⟨z, made, own⟩ := exists_numbered proposed'
  refine ⟨z, made, ?_⟩
  unfold SaysSame at same ⊢
  rwa [own]

/-- Whatever the order of the tables, the same is suggested from their names, and nothing twice. -/
theorem fromTableNames_perm {s : Schema} (distinct : (s.tables.map (·.name)).Nodup)
    {tables : List Table} (order : s.tables.Perm tables) :
    (∀ x ∈ fromTableNames s, ∃ y ∈ fromTableNames { s with tables }, SaysSame x y) ∧
      (∀ y ∈ fromTableNames { s with tables }, ∃ x ∈ fromTableNames s, SaysSame x y) ∧
      (fromTableNames s).Pairwise fun x y => ¬ RelatesSame x y := by
  have nodup : s.tables.Nodup := distinct.of_map
  refine ⟨fun x member => exists_saysSame nodup order member, fun y member => ?_, ?_⟩
  · obtain ⟨x, made, same⟩ := exists_saysSame (order.nodup_iff.mp nodup) order.symm member
    exact ⟨x, made, same.symm⟩
  · have unmarked := proposals_pairwise distinct
    have steady : ∀ list : List Suggestion, (list.Pairwise fun x y => ¬ RelatesSame x y) ↔
        (list.map unnumbered).Pairwise fun x y => ¬ RelatesSame x y := by
      intro list
      rw [List.pairwise_map]
      rfl
    rwa [steady, fromTableNames_eq, map_unnumbered_number, ← steady]

def lectureSchema : Schema :=
  { tables :=
      [namedTable "students" [idColumn], namedTable "courses" [idColumn],
       namedTable "course_notes" [idColumn]] }

theorem lectureSchema_reversed :
    (lectureSchema.tables.map (·.name)).Nodup ∧
      lectureSchema.tables.Perm lectureSchema.tables.reverse ∧
      (∀ x ∈ fromTableNames lectureSchema,
        ∃ y ∈ fromTableNames { lectureSchema with tables := lectureSchema.tables.reverse },
          SaysSame x y) ∧
      (∀ y ∈ fromTableNames { lectureSchema with tables := lectureSchema.tables.reverse },
        ∃ x ∈ fromTableNames lectureSchema, SaysSame x y) ∧
      (fromTableNames lectureSchema).Pairwise fun x y => ¬ RelatesSame x y := by
  have distinct : (lectureSchema.tables.map (·.name)).Nodup := by decide
  have order := (List.reverse_perm lectureSchema.tables).symm
  exact ⟨distinct, order, fromTableNames_perm distinct order⟩

end RelSchema.Suggestion
