import RelSchema.Proofs.Reading.Columns
import RelSchema.Sql.Definition

namespace RelSchema

def Table.withoutIds (t : Table) : Table :=
  { t with id := "", columns := t.columns.map fun c => { c with id := "" } }

/-- What a reference means in a schema: where it leaves the column open, the first of the primary
key of the table, or the column `id` if there is no such table or key. -/
def Reference.resolved (s : Schema) (r : Reference) : Reference :=
  if r.column = "" then
    { r with column := (((s.table? r.table).bind (·.primaryKey.head?)).map (·.name)).getD "id" }
  else r

def Table.resolved (s : Schema) (t : Table) : Table :=
  { t with columns := t.columns.map fun c =>
      { c with references := c.references.map (Reference.resolved s) } }

def Schema.keyEdge? (s : Schema) (t : Table) (c : Column) : Option Edge :=
  c.references.bind fun r => (s.table? r.table).map fun parent =>
    { id := "", source := parent.id, target := t.id, cardinality := .oneToMany,
      sourceColumn := some r.column, targetColumn := some c.name }

def Schema.keyEdges (s : Schema) : List Edge :=
  s.tables.flatMap fun t => t.columns.filterMap (s.keyEdge? t)

namespace Sql

open Body (ItemReader Enums table_read)

def createdTables (statements : List (List Char)) : List (String × List Char) :=
  statements.filterMap fun statement => (Header.createTable? statement).map fun (name, rest) =>
    (String.ofList name, wrappedBody rest)

theorem tableOf?_none {d : Dialect} {read : ItemReader} {enums : Enums} {statement : List Char}
    (h : (tableOf? d read enums statement).result = .ok none) :
    Header.createTable? statement = none := by
  unfold tableOf? at h
  split at h
  · rw [Remarked.result_map] at h
    cases made : (Body.table d read enums _ _).result <;> rw [made] at h <;> cases h
  · assumption

theorem tableOf?_some {d : Dialect} {read : ItemReader} {enums : Enums} {statement : List Char}
    {t : Table} (h : (tableOf? d read enums statement).result = .ok (some t)) :
    ∃ name rest, Header.createTable? statement = some (name, rest) ∧
      (Body.table d read enums (String.ofList name) (wrappedBody rest)).result = .ok t := by
  unfold tableOf? at h
  split at h
  · rename_i name rest found
    refine ⟨name, rest, found, ?_⟩
    rw [Remarked.result_map] at h
    cases made : (Body.table d read enums (String.ofList name) (wrappedBody rest)).result with
    | error e => rw [made] at h; cases h
    | ok other => rw [made] at h; cases h; rfl
  · obtain ⟨-, -, last⟩ := Remarked.result_bind_ok.mp h
    cases last

def Makes (d : Dialect) (read : ItemReader) (enums : Enums) (t : Table)
    (definition : String × List Char) : Prop :=
  (Body.table d read enums definition.1 definition.2).result = .ok t

theorem Makes.name {d : Dialect} {read : ItemReader} {enums : Enums} {t : Table}
    {definition : String × List Char} (h : Makes d read enums t definition) :
    t.name = definition.1 :=
  (table_read h).named

theorem addTables_ok {d : Dialect} {read : ItemReader} {enums : Enums} {tables result : List Table}
    {statements : List (List Char)}
    (h : (addTables d read enums tables statements).result = .ok result) :
    ∃ kept, result = tables ++ kept ∧
      List.Forall₂ (Makes d read enums) kept (firstOfName (·.1)
        ((createdTables statements).filter fun definition =>
          !tables.any fun earlier => Text.sameName earlier.name definition.1)) := by
  induction statements generalizing tables with
  | nil =>
    cases h
    exact ⟨[], by simp, List.Forall₂.nil⟩
  | cons statement rest ih =>
    unfold addTables at h
    obtain ⟨made, hmade, next⟩ := Remarked.result_bind_ok.mp h
    cases made with
    | none =>
      obtain ⟨kept, final, makes⟩ := ih next
      refine ⟨kept, final, ?_⟩
      simpa [createdTables, tableOf?_none hmade] using makes
    | some t =>
      obtain ⟨name, text, header, body⟩ := tableOf?_some hmade
      have named : t.name = String.ofList name := (table_read body).named
      have created : createdTables (statement :: rest) =
          (String.ofList name, wrappedBody text) :: createdTables rest := by
        simp [createdTables, header]
      simp only at next
      rw [created]
      by_cases known : (tables.any fun earlier => Text.sameName earlier.name t.name) = true
      · rw [if_pos known] at next
        obtain ⟨-, -, next⟩ := Remarked.result_bind_ok.mp next
        rw [List.filter_cons_of_neg (by simp only [← named, known]; decide)]
        exact ih next
      · rw [if_neg known] at next
        obtain ⟨kept, final, makes⟩ := ih next
        have onward : ∀ b ∈ createdTables rest,
            (!(tables ++ [t]).any fun earlier => Text.sameName earlier.name b.1) =
              (!Text.sameName b.1 (String.ofList name) &&
                !tables.any fun earlier => Text.sameName earlier.name b.1) := by
          intro b _
          simp only [List.any_append, List.any_cons, List.any_nil, Bool.or_false, Bool.not_or]
          rw [sameName_comm t.name, Bool.and_comm, named]
        refine ⟨t :: kept, by simp [final], ?_⟩
        simp only [Bool.not_eq_true] at known
        rw [List.filter_cons_of_pos (by simp only [← named, known]; decide), firstOfName_cons,
          List.filter_filter, ← List.filter_congr onward]
        exact List.Forall₂.cons body makes

theorem numberColumns_ids (start : Nat) (columns : List Column) :
    (numberColumns start columns).map (·.id) =
      (List.range columns.length).map fun i => numbered "column" (start + i) := by
  apply List.ext_getElem
  · simp [numberColumns]
  · intro i _ _
    simp [numberColumns]

theorem numberColumns_map {α : Type} (f : Column → α) (same : ∀ c id, f { c with id := id } = f c)
    (start : Nat) (columns : List Column) :
    (numberColumns start columns).map f = columns.map f := by
  apply List.ext_getElem
  · simp [numberColumns]
  · intro i _ _
    simp [numberColumns, same]

theorem numberFrom_tableIds (table column : Nat) (tables : List Table) :
    (numberFrom table column tables).map (·.id) =
      (List.range tables.length).map fun i => numbered "table" (table + i) := by
  induction tables generalizing table column with
  | nil => rfl
  | cons t rest ih =>
    simp only [numberFrom, List.map_cons, ih, List.length_cons, List.range_succ_eq_map,
      List.map_map, Nat.add_zero]
    congr 1
    apply List.map_congr_left
    intro i _
    simp [Nat.add_assoc, Nat.add_comm 1]

theorem numberFrom_columnIds (table column : Nat) (tables : List Table) :
    ((numberFrom table column tables).flatMap (·.columns)).map (·.id) =
      (List.range (tables.flatMap (·.columns)).length).map fun i =>
        numbered "column" (column + i) := by
  induction tables generalizing table column with
  | nil => rfl
  | cons t rest ih =>
    simp only [numberFrom, List.flatMap_cons, List.map_append, numberColumns_ids, ih,
      List.length_append, List.range_add, List.map_map]
    congr 1
    apply List.map_congr_left
    intro i _
    simp [Nat.add_assoc]

theorem numberFrom_map {α : Type} (f : Table → α)
    (same : ∀ t id start, f { t with id := id, columns := numberColumns start t.columns } = f t)
    (table column : Nat) (tables : List Table) :
    (numberFrom table column tables).map f = tables.map f := by
  induction tables generalizing table column with
  | nil => rfl
  | cons t rest ih => simp [numberFrom, same, ih]

def completedIn (tables : List Table) (t : Table) : Table :=
  { t with columns := t.columns.map fun c =>
      { c with references := c.references.map (Reference.completed tables) } }

theorem completeReferences_eq (tables : List Table) :
    completeReferences tables = tables.map (completedIn tables) := rfl

theorem completedIn_keyName (tables : List Table) (t : Table) :
    (completedIn tables t).primaryKey.head?.map (·.name) = t.primaryKey.head?.map (·.name) := by
  simp only [Table.primaryKey, completedIn, List.filter_map, List.head?_map, Option.map_map]
  rfl

theorem referenced?_eq {tables : List Table} (distinct : DistinctNames (tables.map (·.name)))
    (name : String) :
    referenced? tables name = tables.find? fun t => Text.sameName t.name name :=
  distinct.find?_reverse name

theorem numberTables_names (tables : List Table) :
    (numberTables tables).map (·.name) = tables.map (·.name) :=
  numberFrom_map _ (fun _ _ _ => rfl) 1 1 tables

theorem assemble_names (d : Dialect) (tables : List Table) :
    (assemble d tables).tables.map (·.name) = tables.map (·.name) := by
  rw [← numberTables_names tables]
  simp [assemble, completeReferences_eq, completedIn, List.map_map, Function.comp_def]

theorem completed_eq_resolved {d : Dialect} {tables : List Table}
    (distinct : DistinctNames (tables.map (·.name))) (r : Reference) :
    Reference.completed (numberTables tables) r = r.resolved (assemble d tables) := by
  have numberedDistinct : DistinctNames ((numberTables tables).map (·.name)) := by
    rwa [numberTables_names]
  have lookup : (assemble d tables).table? r.table =
      (referenced? (numberTables tables) r.table).map (completedIn (numberTables tables)) := by
    rw [referenced?_eq numberedDistinct]
    simp only [Schema.table?, assemble, completeReferences_eq, List.find?_map]
    rfl
  unfold Reference.completed Reference.resolved
  rw [lookup]
  simp only [String.isEmpty_iff]
  split
  · unfold impliedColumn
    cases referenced? (numberTables tables) r.table with
    | none => rfl
    | some parent =>
      simp only [Option.map_some, Option.bind_some, completedIn_keyName]
      cases parent.primaryKey.head? <;> rfl
  · rfl

theorem assemble_tables {d : Dialect} {tables : List Table}
    (distinct : DistinctNames (tables.map (·.name))) :
    (assemble d tables).tables =
      (numberTables tables).map (Table.resolved (assemble d tables)) := by
  have same : Reference.completed (numberTables tables) = Reference.resolved (assemble d tables) :=
    funext (completed_eq_resolved distinct)
  unfold Table.resolved
  rw [← same]
  rfl

theorem assemble_withoutIds {d : Dialect} {tables : List Table}
    (distinct : DistinctNames (tables.map (·.name))) :
    (assemble d tables).tables.map Table.withoutIds =
      tables.map fun t => (t.resolved (assemble d tables)).withoutIds := by
  conv_lhs => rw [assemble_tables distinct]
  rw [List.map_map]
  apply numberFrom_map
  intro t id start
  simp only [Function.comp, Table.withoutIds, Table.resolved, List.map_map]
  rw [numberColumns_map _ (fun _ _ => rfl)]

theorem assemble_edges {d : Dialect} {tables : List Table}
    (distinct : DistinctNames (tables.map (·.name))) :
    (assemble d tables).edges =
      (assemble d tables).keyEdges.mapIdx fun i e => { e with id := numbered "edge" (i + 1) } := by
  have there : DistinctNames ((assemble d tables).tables.map (·.name)) := by rwa [assemble_names]
  have same : edgeOf? (assemble d tables).tables = (assemble d tables).keyEdge? := by
    funext t c
    simp only [edgeOf?, Schema.keyEdge?, Schema.table?, referenced?_eq there, Option.pure_def,
      Option.bind_eq_bind, Option.map_eq_bind]
    rfl
  change numberEdges ((assemble d tables).tables.flatMap fun t =>
    t.columns.filterMap (edgeOf? (assemble d tables).tables t)) = _
  rw [same]
  rfl

theorem assemble_tableIds (d : Dialect) (tables : List Table) :
    (assemble d tables).tables.map (·.id) =
      (List.range tables.length).map fun i => numbered "table" (1 + i) := by
  rw [← numberFrom_tableIds 1 1]
  simp [assemble, completeReferences_eq, completedIn, numberTables, List.map_map,
    Function.comp_def]

theorem assemble_columnIds (d : Dialect) (tables : List Table) :
    ((assemble d tables).tables.flatMap (·.columns)).map (·.id) =
      (List.range (tables.flatMap (·.columns)).length).map fun i => numbered "column" (1 + i) := by
  rw [← numberFrom_columnIds 1 1]
  simp [assemble, completeReferences_eq, completedIn, numberTables, List.map_flatMap,
    List.flatMap_map, Function.comp_def]

end Sql

end RelSchema
