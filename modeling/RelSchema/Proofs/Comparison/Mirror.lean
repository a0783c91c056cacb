import Mathlib.Data.List.Forall2
import RelSchema.Proofs.Comparison.Roster

namespace RelSchema

def PropertyChange.mirror (p : PropertyChange) : PropertyChange :=
  { p with old := p.new, new := p.old }

def ColumnChange.mirror (c : ColumnChange) : ColumnChange :=
  { c with oldType := c.newType, newType := c.oldType, changes := c.changes.map (·.mirror) }

def TableChange.mirror (t : TableChange) : TableChange :=
  { t with
    added := t.removed.map (·.mirror)
    removed := t.added.map (·.mirror)
    modified := t.modified.map (·.mirror) }

def UpToOrder {α β : Type} (r : α → β → Prop) (list : List α) (list' : List β) : Prop :=
  ∃ sorted, list.Perm sorted ∧ List.Forall₂ r sorted list'

def ColumnChange.Alike (c c' : ColumnChange) : Prop :=
  Text.sameName c.name c'.name = true ∧ { c with name := c'.name } = c'

/-- The same but for the case of names and the order of changed columns. -/
structure TableChange.Alike (t t' : TableChange) : Prop where
  name : Text.sameName t.name t'.name = true
  added : t.added = t'.added
  removed : t.removed = t'.removed
  modified : UpToOrder ColumnChange.Alike t.modified t'.modified

/-- The second comparison says of each change that it is taken back. -/
structure SchemaDiff.Mirrors (d d' : SchemaDiff) : Prop where
  added : d'.added = d.removed.map (·.mirror)
  removed : d'.removed = d.added.map (·.mirror)
  modified : UpToOrder TableChange.Alike d'.modified (d.modified.map (·.mirror))
  addedCount : d'.added.length = d.removed.length
  removedCount : d'.removed.length = d.added.length
  modifiedCount : d'.modified.length = d.modified.length
  columnsAdded : d'.columnsAdded = d.columnsRemoved
  columnsRemoved : d'.columnsRemoved = d.columnsAdded
  columnsModified : d'.columnsModified = d.columnsModified
  totalChanges : d'.totalChanges = d.totalChanges

theorem UpToOrder.length_eq {α β : Type} {r : α → β → Prop} {list : List α} {list' : List β}
    (h : UpToOrder r list list') : list.length = list'.length := by
  obtain ⟨sorted, perm, pairs⟩ := h
  exact perm.length_eq.trans pairs.length_eq

theorem UpToOrder.isEmpty_eq {α β : Type} {r : α → β → Prop} {list : List α} {list' : List β}
    (h : UpToOrder r list list') : list.isEmpty = list'.isEmpty := by
  rw [Bool.eq_iff_iff, List.isEmpty_iff_length_eq_zero, List.isEmpty_iff_length_eq_zero,
    h.length_eq]

namespace SchemaDiff

theorem columnChanges_mirror (a b : Column) :
    columnChanges b a = (columnChanges a b).map (·.mirror) := by
  rw [columnChanges, columnChanges, List.map_filterMap]
  congr 1
  funext p
  by_cases same : a.property p = b.property p
  · simp [same]
  · simp [same, Ne.symm same, PropertyChange.mirror]

theorem modifiedColumn?_mirror {a b : Column} (named : Text.sameName a.name b.name = true) :
    Option.Rel ColumnChange.Alike (modifiedColumn? b a)
      ((modifiedColumn? a b).map (·.mirror)) := by
  unfold modifiedColumn?
  rw [columnChanges_mirror]
  cases columnChanges a b with
  | nil => exact .none
  | cons change more => exact .some ⟨named, rfl⟩

theorem removedColumn_eq : removedColumn = ColumnChange.mirror ∘ addedColumn := rfl

theorem addedColumn_eq : addedColumn = ColumnChange.mirror ∘ removedColumn := rfl

theorem modifiedColumns_mirror {olds news : Roster Column} (hold : olds.OfNames Column.name)
    (hnew : news.OfNames Column.name) :
    UpToOrder ColumnChange.Alike
      ((matched news olds).filterMap fun (b, a) => modifiedColumn? b a)
      (((matched olds news).filterMap fun (a, b) => modifiedColumn? a b).map (·.mirror)) := by
  refine ⟨_, (matched_swap hold hnew).filterMap _, ?_⟩
  rw [List.filterMap_map, List.map_filterMap]
  have pairs : List.Forall₂ (fun x y => x = y ∧ x ∈ matched olds news) (matched olds news)
      (matched olds news) := List.forall₂_same.mpr fun _ member => ⟨rfl, member⟩
  refine List.rel_filterMap ?_ pairs
  rintro pair _ ⟨rfl, member⟩
  exact modifiedColumn?_mirror (sameName_of_matched hold hnew member)

theorem tableChange_mirror {t u : Table} (named : Text.sameName t.name u.name = true) :
    (tableChange u t).Alike (tableChange t u).mirror where
  name := named
  added := by simp only [tableChange, TableChange.mirror, List.map_map, ← addedColumn_eq]
  removed := by simp only [tableChange, TableChange.mirror, List.map_map, ← removedColumn_eq]
  modified := modifiedColumns_mirror (Roster.ofList_ofNames _ _) (Roster.ofList_ofNames _ _)

end SchemaDiff

theorem TableChange.Alike.isEmpty_eq {t t' : TableChange} (h : t.Alike t') :
    t.isEmpty = t'.isEmpty := by
  rw [isEmpty, isEmpty, h.added, h.removed, h.modified.isEmpty_eq]

theorem TableChange.isEmpty_mirror (t : TableChange) : t.mirror.isEmpty = t.isEmpty := by
  simp only [isEmpty, mirror, List.isEmpty_map]
  rw [Bool.and_comm t.removed.isEmpty]

namespace SchemaDiff

theorem addedTable_eq : addedTable = TableChange.mirror ∘ removedTable := by
  funext t
  simp [addedTable, removedTable, TableChange.mirror, addedColumn_eq]

theorem removedTable_eq : removedTable = TableChange.mirror ∘ addedTable := by
  funext t
  simp [addedTable, removedTable, TableChange.mirror, removedColumn_eq]

theorem modifiedTables_mirror (s s' : Schema) :
    UpToOrder TableChange.Alike (compare s' s).modified
      ((compare s s').modified.map (·.mirror)) := by
  have olds := Roster.ofList_ofNames Table.name s.tables
  have news := Roster.ofList_ofNames Table.name s'.tables
  refine ⟨_, ((matched_swap olds news).map _).filter _, ?_⟩
  rw [List.map_map]
  simp only [compare]
  have order : ∀ changes : List TableChange,
      (changes.filter (!·.isEmpty)).map (·.mirror) =
        (changes.map (·.mirror)).filter (!·.isEmpty) := by
    intro changes
    rw [List.filter_map]
    simp [Function.comp_def, TableChange.isEmpty_mirror]
  rw [order, List.map_map]
  have both : ∀ t t' : TableChange, t.Alike t' →
      ((!t.isEmpty) = true ↔ (!t'.isEmpty) = true) := by
    intro t t' alike
    rw [alike.isEmpty_eq]
  refine List.rel_filter (fun t t' alike => both t t' alike) ?_
  · rw [List.forall₂_map_left_iff, List.forall₂_map_right_iff, List.forall₂_same]
    exact fun pair member => tableChange_mirror (sameName_of_matched olds news member)

theorem length_flatMap_mirror {changes changes' : List TableChange}
    (mirrors : UpToOrder TableChange.Alike changes' (changes.map (·.mirror)))
    {part part' : TableChange → List ColumnChange}
    (alike : ∀ t t', t.Alike t' → (part' t).length = (part' t').length)
    (mirrored : ∀ t : TableChange, (part' t.mirror).length = (part t).length) :
    (changes'.flatMap part').length = (changes.flatMap part).length := by
  obtain ⟨sorted, perm, pairs⟩ := mirrors
  rw [List.forall₂_map_right_iff] at pairs
  rw [(perm.flatMap_right part').length_eq]
  clear perm
  induction pairs with
  | nil => rfl
  | cons first _ ih =>
    rw [List.flatMap_cons, List.flatMap_cons, List.length_append, List.length_append, ih,
      alike _ _ first, mirrored]

/-- A comparison the other way round mirrors the comparison, whatever names the schemas repeat. -/
theorem compare_mirrors (s s' : Schema) : (compare s s').Mirrors (compare s' s) := by
  have added : (compare s' s).added = (compare s s').removed.map (·.mirror) := by
    simp only [compare, List.map_map, ← addedTable_eq]
  have removed : (compare s' s).removed = (compare s s').added.map (·.mirror) := by
    simp only [compare, List.map_map, ← removedTable_eq]
  have modified := modifiedTables_mirror s s'
  have columnsAdded : (compare s' s).columnsAdded = (compare s s').columnsRemoved :=
    length_flatMap_mirror modified (fun _ _ alike => congrArg _ alike.added)
      fun _ => List.length_map _
  have columnsRemoved : (compare s' s).columnsRemoved = (compare s s').columnsAdded :=
    length_flatMap_mirror modified (fun _ _ alike => congrArg _ alike.removed)
      fun _ => List.length_map _
  have columnsModified : (compare s' s).columnsModified = (compare s s').columnsModified :=
    length_flatMap_mirror modified (fun _ _ alike => alike.modified.length_eq)
      fun _ => List.length_map _
  refine ⟨added, removed, modified, ?_, ?_, ?_, columnsAdded, columnsRemoved, columnsModified, ?_⟩
  · rw [added, List.length_map]
  · rw [removed, List.length_map]
  · exact modified.length_eq.trans (List.length_map _)
  · simp only [totalChanges, columnsAdded, columnsRemoved, columnsModified, added, removed,
      List.length_map]
    omega

end SchemaDiff

end RelSchema
