import Mathlib.Data.List.Perm.Basic
import RelSchema.Proofs.Comparison.Roster
import RelSchema.Proofs.Framing.Joined
import RelSchema.Proofs.Reading.Success
import RelSchema.Proofs.RoundTrip.Schema

namespace RelSchema

/-- The same schema but for ids and the order of tables and edges. An edge is told by the columns
it joins. -/
structure Schema.Reordered (s s' : Schema) : Prop where
  dialect : s.dialect = s'.dialect
  tables : (s.tables.map Table.withoutIds).Perm (s'.tables.map Table.withoutIds)
  joined : ∀ e ∈ s.edges, (e.link? s).isSome = true
  edges : (s.edges.map fun e => (e.link? s, e.cardinality)).Perm
    (s'.edges.map fun e => (e.link? s', e.cardinality))

theorem Schema.keyLinks_perm {s s' : Schema} (distinct : DistinctNames (s.tables.map (·.name)))
    (order : (s.tables.map Table.told).Perm (s'.tables.map Table.told)) :
    s.keyLinks.Perm s'.keyLinks := by
  have names : (s.tables.map Table.told).map (·.name) = s.tables.map (·.name) := List.map_map
  rw [← names] at distinct
  rw [← keyLinks_told s, ← keyLinks_told s']
  have found : ∀ name, ({ s with tables := s.tables.map Table.told }.table? name) =
      { s' with tables := s'.tables.map Table.told }.table? name :=
    fun name => distinct.find?_perm order name
  simp only [keyLinks, found]
  exact order.flatMap_right _

namespace Sql

open Body (ItemReader Enums)

theorem values?_perm {enums enums' : Enums} (distinct : (enums.map (·.1)).Nodup)
    (order : enums.Perm enums') (name : String) : enums.values? name = enums'.values? name := by
  have backwards : ∀ enums : Enums, (enums.map (·.1)).Nodup → (enums.reverse.map (·.1)).Nodup := by
    intro enums once
    rwa [List.map_reverse, List.nodup_reverse]
  have distinct' := (order.map (·.1)).nodup_iff.mp distinct
  refine Option.ext fun values => ?_
  refine (Roster.get?_eq_some_iff (backwards enums distinct)).trans ?_
  refine Iff.trans ?_ (Roster.get?_eq_some_iff (backwards enums' distinct')).symm
  rw [List.mem_reverse, List.mem_reverse, order.mem_iff]

section Congruence

variable {enums enums' : Enums} (same : ∀ name, enums.values? name = enums'.values? name)
  (d : Dialect) (read : ItemReader)

include same

theorem contribution_congr (table : String) (item : List Char) :
    Body.contribution d read enums table item = Body.contribution d read enums' table item := by
  have declared : Body.declaredValues? enums item = Body.declaredValues? enums' item := by
    simp only [Body.declaredValues?, same]
  simp only [Body.contribution, Body.unknownTypeColumn, declared]

theorem contributions_congr (table : String) (items : List (List Char)) :
    Body.contributions d read enums table items = Body.contributions d read enums' table items := by
  induction items with
  | nil => rfl
  | cons item rest ih =>
    rw [Body.contributions, Body.contributions, ih, contribution_congr same]

theorem table_congr (name : String) (body : List Char) :
    Body.table d read enums name body = Body.table d read enums' name body := by
  rw [Body.table, Body.table, contributions_congr same]

end Congruence

variable {d : Dialect} {read : ItemReader}

theorem readWith_succeeds_iff_tables {script : String} :
    (readWith d read script).Succeeds ↔
      ∀ definition ∈ createdTables (Script.statementChars script.toList),
        (Body.table d read (declaredEnums (Script.statementChars script.toList))
          definition.1 definition.2).Succeeds := by
  rw [succeeds_readWith, addTables_succeeds_iff]
  exact forall₂_congr fun _ _ => (Body.table_succeeds_iff ..).symm

section Assembled

variable {tables tables' : List Table}

theorem impliedColumn_withoutIds (found : Option Table) :
    impliedColumn (found.map Table.withoutIds) = impliedColumn found := by
  cases found with
  | none => rfl
  | some t =>
    simp only [impliedColumn, Option.map_some, Option.bind_some, Table.primaryKey,
      Table.withoutIds, List.filter_map, List.head?_map, Function.comp_def]
    cases (t.columns.filter (·.primaryKey)).head? <;> rfl

theorem impliedColumn_numbered (distinct : DistinctNames (tables.map (·.name))) (name : String) :
    impliedColumn (referenced? (numberTables tables) name) =
      impliedColumn (tables.find? fun t => Text.sameName t.name name) := by
  have bare : (numberTables tables).map Table.withoutIds = tables.map Table.withoutIds := by
    refine numberFrom_map _ (fun t id start => ?_) 1 1 tables
    simp only [Table.withoutIds]
    rw [numberColumns_map _ fun _ _ => rfl]
  have names : DistinctNames ((numberTables tables).map (·.name)) := by rwa [numberTables_names]
  have found (tables : List Table) :
      (tables.find? fun t => Text.sameName t.name name).map Table.withoutIds =
        (tables.map Table.withoutIds).find? fun t => Text.sameName t.name name := by
    rw [List.find?_map]
    rfl
  rw [referenced?_eq names, ← impliedColumn_withoutIds, found, bare, ← found,
    impliedColumn_withoutIds]

theorem resolved_perm (distinct : DistinctNames (tables.map (·.name)))
    (order : tables.Perm tables') :
    Reference.resolved (assemble d tables) = Reference.resolved (assemble d tables') := by
  have distinct' := distinct.perm (order.map (·.name))
  funext r
  rw [← completed_eq_resolved distinct, ← completed_eq_resolved distinct', Reference.completed,
    Reference.completed, impliedColumn_numbered distinct, impliedColumn_numbered distinct',
    distinct.find?_perm order]

theorem withoutIds_perm (distinct : DistinctNames (tables.map (·.name)))
    (order : tables.Perm tables') :
    ((assemble d tables).tables.map Table.withoutIds).Perm
      ((assemble d tables').tables.map Table.withoutIds) := by
  have resolved : Table.resolved (assemble d tables) = Table.resolved (assemble d tables') := by
    unfold Table.resolved
    rw [resolved_perm distinct order]
  rw [assemble_withoutIds distinct, assemble_withoutIds (distinct.perm (order.map (·.name))),
    resolved]
  exact order.map _

theorem edges_cardinality (distinct : DistinctNames (tables.map (·.name))) :
    ∀ e ∈ (assemble d tables).edges, e.cardinality = .oneToMany := by
  intro e member
  rw [assemble_edges distinct, List.mem_mapIdx] at member
  obtain ⟨i, inside, rfl⟩ := member
  obtain ⟨t, -, drawn⟩ := List.mem_flatMap.mp (List.getElem_mem inside)
  obtain ⟨c, -, drawn⟩ := List.mem_filterMap.mp drawn
  obtain ⟨r, -, parent⟩ := Option.bind_eq_some_iff.mp drawn
  obtain ⟨parent, -, made⟩ := Option.map_eq_some_iff.mp parent
  exact congrArg Edge.cardinality made.symm

theorem edges_told (distinct : DistinctNames (tables.map (·.name))) :
    (assemble d tables).edges.map (fun e => (e.link? (assemble d tables), e.cardinality)) =
      (assemble d tables).keyLinks.map fun link => (some link, .oneToMany) := by
  have links := assemble_edges_link (d := d) distinct
  have pairs := congrArg (List.map fun link => (link, Cardinality.oneToMany)) links
  rw [List.map_map, List.map_map] at pairs
  refine Eq.trans (List.map_congr_left fun e member => ?_) pairs
  rw [edges_cardinality distinct e member]
  rfl

theorem assemble_perm (distinct : DistinctNames (tables.map (·.name)))
    (order : tables.Perm tables') : (assemble d tables).Reordered (assemble d tables') where
  dialect := rfl
  tables := withoutIds_perm distinct order
  joined := by
    intro e member
    have link := List.mem_map_of_mem (f := (·.link? (assemble d tables))) member
    rw [assemble_edges_link distinct] at link
    obtain ⟨_, -, same⟩ := List.mem_map.mp link
    rw [← same]
    rfl
  edges := by
    have told : ∀ t : Table, t.withoutIds.told = t.told := by
      intro t
      simp [Table.withoutIds, Table.told, Column.told, Function.comp_def]
    have tellings := (withoutIds_perm (d := d) distinct order).map Table.told
    simp only [List.map_map, Function.comp_def, told] at tellings
    have names : DistinctNames ((assemble d tables).tables.map (·.name)) := by
      rwa [assemble_names]
    rw [edges_told distinct, edges_told (distinct.perm (order.map (·.name)))]
    exact (Schema.keyLinks_perm names tellings).map _

end Assembled

theorem makes_perm {enums : Enums} {tables tables' : List Table}
    {definitions definitions' : List (String × List Char)}
    (makes : List.Forall₂ (Makes d read enums) tables definitions)
    (makes' : List.Forall₂ (Makes d read enums) tables' definitions')
    (order : definitions.Perm definitions') : tables.Perm tables' := by
  have unique : Relator.RightUnique (flip (Makes d read enums)) := by
    intro definition t t' first second
    exact Except.ok.inj (Eq.trans (Eq.symm first) second)
  exact List.rel_perm_imp unique makes.flip makes'.flip order

/-- Closed statements in another order are read as the same schema, or as none in either order. -/
theorem readWith_perm {ss ss' : List String} (closed : ∀ s ∈ ss, Script.IsClosed s)
    (types : ((declaredEnums (ss.map String.toList)).map (·.1)).Nodup)
    (tables : DistinctNames ((createdTables (ss.map String.toList)).map (·.1)))
    (order : ss.Perm ss') :
    ((readWith d read (";".intercalate ss)).Succeeds ↔
        (readWith d read (";".intercalate ss')).Succeeds) ∧
      ∀ s s', (readWith d read (";".intercalate ss)).result = .ok s →
        (readWith d read (";".intercalate ss')).result = .ok s' → s.Reordered s' := by
  have closed' : ∀ s ∈ ss', Script.IsClosed s := fun s member =>
    closed s (order.mem_iff.mpr member)
  have cut := Script.statementChars_join closed
  have cut' := Script.statementChars_join closed'
  have statements := order.map String.toList
  have enums : (declaredEnums (ss.map String.toList)).Perm
      (declaredEnums (ss'.map String.toList)) := statements.filterMap _
  have definitions : (createdTables (ss.map String.toList)).Perm
      (createdTables (ss'.map String.toList)) := statements.filterMap _
  have alike := table_congr (values?_perm types enums) d read
  constructor
  · rw [readWith_succeeds_iff_tables, readWith_succeeds_iff_tables, cut, cut']
    refine forall_congr' fun definition => ?_
    rw [definitions.mem_iff, alike]
  · intro s s' first second
    obtain ⟨found, rfl, makes⟩ := readWith_ok first
    obtain ⟨found', rfl, makes'⟩ := readWith_ok second
    rw [cut, firstOfName_of_distinct tables] at makes
    rw [cut', firstOfName_of_distinct (tables.perm (definitions.map (·.1)))] at makes'
    have names : DistinctNames (found.map (·.name)) := by rwa [Makes.names makes]
    have makesAlike : Makes d read (declaredEnums (ss'.map String.toList)) =
        Makes d read (declaredEnums (ss.map String.toList)) := by
      funext t definition
      rw [Makes, Makes, alike]
    rw [makesAlike] at makes'
    exact assemble_perm names (makes_perm makes makes' definitions)

def billStatements : List String :=
  ["CREATE TYPE state AS ENUM ('due', ';')", "CREATE TABLE client (no INT PRIMARY KEY)",
    "CREATE TABLE bill (client INT REFERENCES client, state state)"]

def billReader : ItemReader :=
  readerOf
    [("no INT PRIMARY KEY", .column "no" (some (.scalar "INT" [] [])) [.primaryKey none]),
      ("client INT REFERENCES client",
        .column "client" (some (.scalar "INT" [] [])) [.references ⟨"client", []⟩]),
      (" state state", .column "state" (some (.declared "STATE" [] [])) [])]

def clientTable (id keyId : String) : Table :=
  { name := "client", id
    columns := [{ name := "no", type := .int, id := keyId, nullable := false,
                  primaryKey := true }] }

def billTable (id clientId stateId : String) : Table :=
  { name := "bill", id
    columns := [{ name := "client", type := .int, id := clientId,
                  references := some ⟨"client", "no"⟩ },
                { name := "state", type := .enum, id := stateId, values := ["due", ";"] }] }

def billEdge (source target : String) : Edge :=
  { id := "edge-1", source, target, sourceColumn := some "no", targetColumn := some "client" }

def billSchema : Schema :=
  { tables := [clientTable "table-1" "column-1", billTable "table-2" "column-2" "column-3"]
    edges := [billEdge "table-1" "table-2"] }

def billSchemaReversed : Schema :=
  { tables := [billTable "table-1" "column-1" "column-2", clientTable "table-2" "column-3"]
    edges := [billEdge "table-2" "table-1"] }

theorem billStatements_reordered :
    (readWith .mysql billReader (";".intercalate billStatements)).result = .ok billSchema ∧
      (readWith .mysql billReader (";".intercalate billStatements.reverse)).result =
        .ok billSchemaReversed ∧
      billSchema.Reordered billSchemaReversed := by
  have closed : ∀ s ∈ billStatements, Script.IsClosed s := by decide +kernel
  have types : ((declaredEnums (billStatements.map String.toList)).map (·.1)).Nodup := by
    decide +kernel
  have tables : DistinctNames ((createdTables (billStatements.map String.toList)).map (·.1)) := by
    decide +kernel
  have order := (List.reverse_perm billStatements).symm
  have closed' : ∀ s ∈ billStatements.reverse, Script.IsClosed s := by simpa using closed
  have first : (readWith .mysql billReader (";".intercalate billStatements)).result =
      .ok billSchema := by
    rw [readWith, Script.statementChars_join closed]
    decide +kernel
  have second : (readWith .mysql billReader (";".intercalate billStatements.reverse)).result =
      .ok billSchemaReversed := by
    rw [readWith, Script.statementChars_join closed']
    decide +kernel
  exact ⟨first, second, (readWith_perm closed types tables order).2 _ _ first second⟩

end Sql

end RelSchema
