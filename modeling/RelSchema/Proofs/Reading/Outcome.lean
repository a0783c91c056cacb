import RelSchema.Proofs.Reading.Tables

namespace RelSchema.Sql

open Body (ItemReader Enums table_read)

/-- A table of a schema is what a definition in its script says: its columns are the first of their
names, and it is as it was read but for ids and open references. -/
structure DefinedBy (d : Dialect) (read : ItemReader) (enums : Enums) (s : Schema) (t : Table)
    (definition : String × List Char) : Prop where
  named : t.name = definition.1
  columns : ∃ found, (Body.contributions d read enums definition.1
      (splitTopLevel definition.2 ',')).result = .ok found ∧
    t.columns.map Column.core = (firstOfName (·.name) found.columns).map Column.core
  written : ∃ written, Makes d read enums written definition ∧
    t.withoutIds = (written.resolved s).withoutIds

theorem core_of_withoutIds {s : Schema} {t written : Table}
    (h : t.withoutIds = (written.resolved s).withoutIds) :
    t.columns.map Column.core = written.columns.map Column.core := by
  have columns := congrArg (fun table => table.columns.map Column.core) h
  simp only [Table.withoutIds, Table.resolved, List.map_map] at columns
  exact columns

theorem keyNotNull_of_withoutIds {s : Schema} {t written : Table}
    (h : t.withoutIds = (written.resolved s).withoutIds)
    (notNull : ∀ c ∈ written.columns, c.KeyNotNull) : ∀ c ∈ t.columns, c.KeyNotNull := by
  intro c member
  have bare : { c with id := "" } ∈ (written.resolved s).withoutIds.columns := by
    rw [← h]
    exact List.mem_map_of_mem member
  simp only [Table.withoutIds, Table.resolved, List.map_map, List.mem_map] at bare
  obtain ⟨other, hother, same⟩ := bare
  have key := congrArg Column.primaryKey same
  have nullable := congrArg Column.nullable same
  have otherNotNull := notNull other hother
  simp only [Column.KeyNotNull, Function.comp] at *
  rwa [← key, ← nullable]

theorem Makes.definedBy {d : Dialect} {read : ItemReader} {enums : Enums} {s : Schema}
    {t written : Table} {definition : String × List Char}
    (makes : Makes d read enums written definition)
    (same : t.withoutIds = (written.resolved s).withoutIds) :
    DefinedBy d read enums s t definition := by
  obtain ⟨found, read, core⟩ := (table_read makes).columns
  refine ⟨?_, ⟨found, read, ?_⟩, written, makes, same⟩
  · have named := congrArg Table.name same
    exact named.trans makes.name
  · rw [core_of_withoutIds same, core]

theorem DefinedBy.columnNames {d : Dialect} {read : ItemReader} {enums : Enums} {s : Schema}
    {t : Table} {definition : String × List Char} (h : DefinedBy d read enums s t definition) :
    DistinctNames (t.columns.map (·.name)) := by
  obtain ⟨written, makes, same⟩ := h.written
  have names := congrArg (List.map Column.name) (core_of_withoutIds same)
  simp only [List.map_map] at names
  change t.columns.map (·.name) = written.columns.map (·.name) at names
  rw [names]
  exact (table_read makes).names_distinct

theorem DefinedBy.keyNotNull {d : Dialect} {read : ItemReader} {enums : Enums} {s : Schema}
    {t : Table} {definition : String × List Char} (h : DefinedBy d read enums s t definition) :
    ∀ c ∈ t.columns, c.KeyNotNull := by
  obtain ⟨written, makes, same⟩ := h.written
  exact keyNotNull_of_withoutIds same (table_read makes).keyNotNull

/-- A schema says what its script does. -/
structure WellRead (d : Dialect) (read : ItemReader) (script : String) (s : Schema) : Prop where
  tableNames : DistinctNames (s.tables.map (·.name))
  columnNames : ∀ t ∈ s.tables, DistinctNames (t.columns.map (·.name))
  definitions :
    List.Forall₂
      (DefinedBy d read (declaredEnums (Script.statementChars script.toList)) s) s.tables
      (firstOfName (·.1) (createdTables (Script.statementChars script.toList)))
  tableIds : s.tables.map (·.id) =
    (List.range s.tables.length).map fun i => numbered "table" (i + 1)
  columnIds : (s.tables.flatMap (·.columns)).map (·.id) =
    (List.range (s.tables.flatMap (·.columns)).length).map fun i => numbered "column" (i + 1)
  keyNotNull : ∀ t ∈ s.tables, ∀ c ∈ t.columns, c.KeyNotNull
  edges : s.edges = s.keyEdges.mapIdx fun i e => { e with id := numbered "edge" (i + 1) }

theorem assemble_definitions {d : Dialect} {read : ItemReader} {enums : Enums}
    {tables : List Table} {definitions : List (String × List Char)}
    (distinct : DistinctNames (tables.map (·.name)))
    (makes : List.Forall₂ (Makes d read enums) tables definitions) :
    List.Forall₂ (DefinedBy d read enums (assemble d tables)) (assemble d tables).tables
      definitions := by
  have same := assemble_withoutIds (d := d) distinct
  generalize assemble d tables = s at same ⊢
  generalize s.tables = result at same ⊢
  clear distinct
  induction makes generalizing result with
  | nil => simp_all
  | cons first rest ih =>
    cases result with
    | nil => simp at same
    | cons t more =>
      rw [List.map_cons, List.map_cons, List.cons.injEq] at same
      exact List.Forall₂.cons (first.definedBy same.1) (ih _ same.2)

theorem Makes.names {d : Dialect} {read : ItemReader} {enums : Enums} {tables : List Table}
    {definitions : List (String × List Char)}
    (makes : List.Forall₂ (Makes d read enums) tables definitions) :
    tables.map (·.name) = definitions.map (·.1) := by
  induction makes with
  | nil => rfl
  | cons first _ ih => simp [first.name, ih]

theorem readWith_ok {d : Dialect} {read : ItemReader} {script : String} {s : Schema}
    (h : (readWith d read script).result = .ok s) :
    ∃ tables, s = assemble d tables ∧
      List.Forall₂ (Makes d read (declaredEnums (Script.statementChars script.toList))) tables
        (firstOfName (·.1) (createdTables (Script.statementChars script.toList))) := by
  unfold readWith at h
  obtain ⟨tables, added, rest⟩ := Remarked.result_bind_ok.mp h
  obtain ⟨-, -, last⟩ := Remarked.result_bind_ok.mp rest
  obtain ⟨kept, whole, makes⟩ := addTables_ok added
  simp only [List.any_nil, Bool.not_false, List.filter_true] at makes
  cases last
  refine ⟨tables, rfl, ?_⟩
  rw [whole]
  exact makes

theorem assemble_wellRead {d : Dialect} {read : ItemReader} {script : String} {tables : List Table}
    (makes : List.Forall₂ (Makes d read (declaredEnums (Script.statementChars script.toList)))
      tables (firstOfName (·.1) (createdTables (Script.statementChars script.toList)))) :
    WellRead d read script (assemble d tables) := by
  have distinct : DistinctNames (tables.map (·.name)) := by
    rw [Makes.names makes]
    exact distinct_firstOfName _ _
  have definitions := assemble_definitions distinct makes
  have columns : ∀ t ∈ (assemble d tables).tables,
      DistinctNames (t.columns.map (·.name)) ∧ ∀ c ∈ t.columns, c.KeyNotNull :=
    ((List.forall₂_and_left _ _).mp (definitions.imp fun _ _ defined =>
      ⟨⟨defined.columnNames, defined.keyNotNull⟩, defined⟩)).1
  have tableIds := assemble_tableIds d tables
  have columnIds := assemble_columnIds d tables
  have tableCount := congrArg List.length tableIds
  have columnCount := congrArg List.length columnIds
  simp only [List.length_map, List.length_range] at tableCount columnCount
  refine ⟨?_, fun t ht => (columns t ht).1, definitions, ?_, ?_, fun t ht => (columns t ht).2,
    assemble_edges distinct⟩
  · rwa [assemble_names]
  · simp only [tableIds, tableCount, Nat.add_comm 1]
  · simp only [columnIds, columnCount, Nat.add_comm 1]

/-- What is read from a script says what the script does, whatever reads the items. -/
theorem readWith_wellRead {d : Dialect} {read : ItemReader} {script : String} {s : Schema}
    (h : (readWith d read script).result = .ok s) : WellRead d read script s := by
  obtain ⟨tables, rfl, makes⟩ := readWith_ok h
  exact assemble_wellRead makes

def readerOf (items : List (String × Item)) : ItemReader := fun text =>
  items.lookup (String.ofList text)

def openReferenceScript : String :=
  "CREATE TABLE a (id INT PRIMARY KEY, ID TEXT);\n" ++
    "CREATE TABLE A (x INT);\nCREATE TABLE b (a_id INT REFERENCES a)"

def openReferenceReader : ItemReader :=
  readerOf
    [("id INT PRIMARY KEY", .column "id" (some (.scalar "INT" [] [])) [.primaryKey none]),
      (" ID TEXT", .column "ID" (some (.scalar "TEXT" [] [])) []),
      ("x INT", .column "x" (some (.scalar "INT" [] [])) []),
      ("a_id INT REFERENCES a",
        .column "a_id" (some (.scalar "INT" [] [])) [.references ⟨"a", []⟩])]

def openReferenceSchema : Schema :=
  { tables :=
      [{ name := "a", id := "table-1",
         columns := [{ name := "id", type := .int, id := "column-1", nullable := false,
                       primaryKey := true }] },
       { name := "b", id := "table-2",
         columns := [{ name := "a_id", type := .int, id := "column-2",
                       references := some ⟨"a", "id"⟩ }] }]
    edges := [{ id := "edge-1", source := "table-1", target := "table-2",
                sourceColumn := some "id", targetColumn := some "a_id" }] }

theorem openReference_read :
    (readWith .mysql openReferenceReader openReferenceScript).result = .ok openReferenceSchema := by
  decide +kernel

theorem openReference_wellRead :
    WellRead .mysql openReferenceReader openReferenceScript openReferenceSchema :=
  readWith_wellRead openReference_read

end RelSchema.Sql
