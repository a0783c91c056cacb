import RelSchema.Proofs.Reading.Columns

namespace RelSchema

def Column.told (c : Column) : Column :=
  { name := c.name, type := c.type, length := c.length, scale := c.scale, nullable := c.nullable,
    primaryKey := c.primaryKey, unique := c.unique, references := c.references }

def Column.own (c : Column) : Column := { c.told with primaryKey := false, references := none }

def Table.told (t : Table) : Table := { name := t.name, columns := t.columns.map Column.told }

namespace Sql.Body

theorem through_append {α : Type} (f : Table → α → Table × List Notice) (t : Table)
    (first second : List α) :
    (through f t (first ++ second)).1 = (through f (through f t first).1 second).1 := by
  induction first generalizing t with
  | nil => rfl
  | cons a rest ih => exact ih _

theorem changeFirst_id (name : String) (columns : List Column) :
    changeFirst name id columns = columns := by
  induction columns with
  | nil => rfl
  | cons c rest ih =>
    unfold changeFirst
    split
    · rfl
    · rw [ih]

theorem changeFirst_other {name : String} {f : Column → Column} {columns : List Column}
    (h : ∀ c ∈ columns, Text.sameName c.name name = false) :
    changeFirst name f columns = columns := by
  induction columns with
  | nil => rfl
  | cons c rest ih =>
    rw [List.forall_mem_cons] at h
    unfold changeFirst
    rw [h.1, ih h.2]
    rfl

theorem changeOr_fst (missing : Notice) (t : Table) (name : String) (f : Column → Column) :
    (changeOr missing t name f).1 = change t name f := by
  unfold changeOr
  split
  · rfl
  · rename_i none
    have other : ∀ c ∈ t.columns, Text.sameName c.name name = false := by
      intro c member
      have absent := List.find?_eq_none.mp none c member
      simpa using absent
    rw [change, changeFirst_other other]

theorem foldl_changeFirst_cons {first : Column} {f : Column → Column → Column} {todo : List Column}
    (other : ∀ c ∈ todo, Text.sameName first.name c.name = false) (columns : List Column) :
    todo.foldl (fun columns c => changeFirst c.name (f c) columns) (first :: columns) =
      first :: todo.foldl (fun columns c => changeFirst c.name (f c) columns) columns := by
  induction todo generalizing columns with
  | nil => rfl
  | cons c rest ih =>
    rw [List.forall_mem_cons] at other
    have passed : changeFirst c.name (f c) (first :: columns) =
        first :: changeFirst c.name (f c) columns := by
      rw [changeFirst, other.1]
      rfl
    rw [List.foldl_cons, passed, ih other.2, List.foldl_cons]

theorem foldl_changeFirst {columns : List Column} {g : Column → Column}
    {f : Column → Column → Column} (distinct : DistinctNames (columns.map (·.name)))
    (before : ∀ c, (g c).name = c.name) (after : ∀ c, (f c (g c)).name = c.name) :
    columns.foldl (fun columns c => changeFirst c.name (f c) columns) (columns.map g) =
      columns.map fun c => f c (g c) := by
  induction columns with
  | nil => rfl
  | cons c rest ih =>
    rw [List.map_cons, DistinctNames.cons] at distinct
    have met : changeFirst c.name (f c) (g c :: rest.map g) = f c (g c) :: rest.map g := by
      rw [changeFirst, before, sameName_self]
      rfl
    have other : ∀ next ∈ rest, Text.sameName (f c (g c)).name next.name = false := by
      intro next member
      rw [after]
      exact distinct.1 _ (List.mem_map_of_mem member)
    rw [List.map_cons, List.foldl_cons, met, foldl_changeFirst_cons other, ih distinct.2,
      List.map_cons]

def inKey (c : Column) : Column := { c with primaryKey := true, nullable := false }

def keyRules (t : Table) : List Rule :=
  if t.primaryKey.isEmpty then [] else [.primaryKey (some (t.primaryKey.map (·.name)))]

def referenceRule (c : Column) (r : Reference) : Rule :=
  .foreignKey [c.name] (some ⟨r.table, [r.column]⟩)

def referenceRules (t : Table) : List Rule :=
  t.columns.filterMap fun c => c.references.map (referenceRule c)

theorem tableRules_complete (t : Table) :
    ∀ rule ∈ keyRules t ++ referenceRules t, rule.isIncomplete = false := by
  intro rule member
  rcases List.mem_append.mp member with key | reference
  · unfold keyRules at key
    split at key
    · cases key
    · rw [List.mem_singleton.mp key]
      rfl
  · obtain ⟨c, -, made⟩ := List.mem_filterMap.mp reference
    obtain ⟨r, -, rfl⟩ := Option.map_eq_some_iff.mp made
    rfl

theorem through_changeOr (missing : Table → String → Notice) (f : Column → Column) (t : Table)
    (names : List String) :
    (through (fun t name => changeOr (missing t name) t name f) t names).1 =
      { t with columns := names.foldl (fun columns name => changeFirst name f columns) t.columns } := by
  induction names generalizing t with
  | nil => rfl
  | cons name rest ih =>
    have first := changeOr_fst (missing t name) t name f
    rw [through]
    simp only [first, ih]
    rfl

theorem through_keyRules {t : Table} (plain : Table) {g : Column → Column}
    (distinct : DistinctNames (t.columns.map (·.name))) (before : ∀ c, (g c).name = c.name)
    (columns : plain.columns = t.columns.map g) :
    (through underTableRule plain (keyRules t)).1 =
      { plain with columns := t.columns.map fun c => if c.primaryKey then inKey (g c) else g c } := by
  have each : (t.primaryKey.map (·.name)).foldl
      (fun columns name => changeFirst name inKey columns) (t.columns.map g) =
        t.columns.map fun c => if c.primaryKey then inKey (g c) else g c := by
    have changes := foldl_changeFirst (f := fun c b => if c.primaryKey then inKey b else b)
      distinct before (fun c => by split <;> exact before c)
    rw [← changes, Table.primaryKey, List.foldl_map, List.foldl_filter]
    congr 1
    funext columns c
    by_cases key : c.primaryKey = true
    · simp only [key, ↓reduceIte]
    · simp only [key, Bool.false_eq_true, ↓reduceIte]
      exact (changeFirst_id c.name columns).symm
  unfold keyRules
  split
  · rename_i none
    rw [List.isEmpty_iff] at none
    rw [none] at each
    rw [← each, ← columns]
    rfl
  · have marked := through_changeOr (fun t name => .primaryKeyUnknown t.name name) inKey plain
      (t.primaryKey.map (·.name))
    rw [← each, ← columns]
    exact marked

def withReference (c other : Column) : Column :=
  { other with references := c.references.or other.references }

theorem underTableRule_reference (t : Table) (c : Column) (r : Reference) :
    (underTableRule t (referenceRule c r)).1 =
      change t c.name fun other => { other with references := some r } := by
  have one := changeOr_fst (.foreignKeyUnknown t.name c.name) t c.name
    fun other => { other with references := some r }
  exact one

theorem through_reference (t : Table) (list : List Column) :
    (through underTableRule t (list.filterMap fun c => c.references.map (referenceRule c))).1 =
      { t with columns :=
          list.foldl (fun columns c => changeFirst c.name (withReference c) columns) t.columns } := by
  induction list generalizing t with
  | nil => rfl
  | cons c rest ih =>
    cases refers : c.references with
    | none =>
      have nothing : withReference c = id := by
        funext other
        rw [withReference, refers]
        rfl
      rw [List.filterMap_cons_none (by rw [refers]; rfl), ih, List.foldl_cons, nothing,
        changeFirst_id]
    | some r =>
      rw [List.filterMap_cons_some (by rw [refers]; rfl), through]
      have one : withReference c = fun other => { other with references := some r } := by
        funext other
        rw [withReference, refers]
        rfl
      simp only [ih, underTableRule_reference, change, List.foldl_cons, one]

theorem through_told {t : Table} (distinct : DistinctNames (t.columns.map (·.name)))
    (keys : ∀ c ∈ t.columns, c.KeyNotNull) :
    (through underTableRule { name := t.name, columns := t.columns.map Column.own }
      (keyRules t ++ referenceRules t)).1 = t.told := by
  have keyed := through_keyRules { name := t.name, columns := t.columns.map Column.own }
    (g := Column.own) distinct (fun _ => rfl) rfl
  have changes := foldl_changeFirst (g := fun c => if c.primaryKey then inKey c.own else c.own)
    (f := withReference) distinct (fun c => by split <;> rfl) (fun c => by split <;> rfl)
  rw [through_append, keyed, referenceRules, through_reference, changes, Table.told]
  congr 1
  apply List.map_congr_left
  intro c member
  have notNull := keys c member
  cases key : c.primaryKey with
  | false => simp [Column.own, Column.told, withReference, key]
  | true => simp [Column.own, Column.told, withReference, inKey, key, notNull key]

end Sql.Body

end RelSchema
