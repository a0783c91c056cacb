import RelSchema.Proofs.Ids
import RelSchema.Proofs.Reading.Outcome
import RelSchema.Proofs.RoundTrip.Items

namespace RelSchema

abbrev KeyLink := Reference × Reference

def Schema.keyLinks (s : Schema) : List KeyLink :=
  s.tables.flatMap fun t => t.columns.filterMap fun c => c.references.bind fun r =>
    (s.table? r.table).map fun parent => (⟨parent.name, r.column⟩, ⟨t.name, c.name⟩)

def Edge.link? (s : Schema) (e : Edge) : Option KeyLink := do
  let source ← s.tableById? e.source
  let target ← s.tableById? e.target
  return (⟨source.name, ← e.sourceColumn⟩, ⟨target.name, ← e.targetColumn⟩)

theorem Schema.table?_mem {s : Schema} {name : String} {t : Table} (h : s.table? name = some t) :
    t ∈ s.tables := List.mem_of_find?_eq_some h

theorem Schema.tableById?_id {s : Schema} (distinct : (s.tables.map (·.id)).Nodup) {t : Table}
    (member : t ∈ s.tables) : s.tableById? t.id = some t := by
  cases found : s.tableById? t.id with
  | none =>
    have none := List.find?_eq_none.mp found t member
    simp at none
  | some other =>
    have inside := List.mem_of_find?_eq_some found
    have same : other.id = t.id := by simpa using List.find?_some found
    rw [List.inj_on_of_nodup_map distinct inside member same]

theorem Schema.keyEdges_link {s : Schema} (distinct : (s.tables.map (·.id)).Nodup) :
    s.keyEdges.map (·.link? s) = s.keyLinks.map some := by
  -- Edges and links come from the same columns, so they are compared column by column.
  rw [keyEdges, keyLinks, List.map_flatMap, List.map_flatMap]
  apply List.flatMap_congr
  intro t inside
  rw [List.map_filterMap, List.map_filterMap]
  congr 1
  funext c
  cases refers : c.references with
  | none => simp [keyEdge?, refers]
  | some r =>
    cases found : s.table? r.table with
    | none => simp [keyEdge?, refers, found]
    | some parent =>
      have source := tableById?_id distinct (table?_mem found)
      have target := tableById?_id distinct inside
      simp [keyEdge?, refers, found, Edge.link?, source, target]

theorem Schema.keyLinks_told (s : Schema) :
    { s with tables := s.tables.map Table.told }.keyLinks = s.keyLinks := by
  have lookup : ∀ name, ({ s with tables := s.tables.map Table.told }.table? name) =
      (s.table? name).map Table.told := by
    intro name
    simp only [table?, List.find?_map]
    rfl
  simp only [keyLinks, lookup, List.flatMap_map, Table.told, List.filterMap_map, Option.map_map]
  rfl

theorem Schema.keyLinks_congr {s s' : Schema}
    (same : s'.tables.map Table.told = s.tables.map Table.told) : s'.keyLinks = s.keyLinks := by
  rw [← keyLinks_told s, ← keyLinks_told s', same]
  rfl

namespace Sql

open Body (ItemReader)
open Script (statementChars)

/-- A schema that comes through text unchanged, as far as text can tell of it. -/
structure SchemaRestorable (d : Dialect) (s : Schema) : Prop where
  names : ∀ t ∈ s.tables, Enclosed d t.name
  namesDistinct : DistinctNames (s.tables.map (·.name))
  columns : ∀ t ∈ s.tables, ∀ c ∈ t.columns, Restorable d c
  columnsDistinct : ∀ t ∈ s.tables, DistinctNames (t.columns.map (·.name))

theorem SchemaRestorable.quotable {d : Dialect} {s : Schema} (h : SchemaRestorable d s) :
    ∀ t ∈ s.tables, Table.Quotable d t := by
  intro t inside
  refine ⟨(h.names t inside).quotable, fun c member => (h.columns t inside c member).name.quotable,
    fun c member r refers => ?_⟩
  have target := (h.columns t inside c member).references r refers
  exact ⟨target.1.quotable, target.2.quotable⟩

theorem SchemaRestorable.onlyUnique {d : Dialect} {s : Schema} (h : SchemaRestorable d s) :
    ∀ t ∈ s.tables, ∀ c ∈ t.columns, c.OnlyUnique := by
  intro t inside c member k constrains
  rw [(h.columns t inside c member).plain] at constrains
  cases constrains

theorem statements_tables {d : Dialect} {tables : List Table}
    (h : ∀ t ∈ tables, ∀ c ∈ t.columns, c.type ≠ .enum) :
    statements d tables = tables.map fun t => .createTable t.name (bodyLines t) := by
  have each : ∀ t ∈ tables, tableStatements d t = [.createTable t.name (bodyLines t)] := by
    intro t inside
    have none : (t.columns.filter fun c => c.type == .enum && !c.values.isEmpty) = [] := by
      rw [List.filter_eq_nil_iff]
      intro c member
      simp [h t inside c member]
    simp [tableStatements, enumStatements, none]
  rw [statements, List.flatMap_congr each]
  exact List.flatMap_pure_eq_map _ tables

def tableText (d : Dialect) (t : Table) : List Char :=
  ((Statement.createTable t.name (bodyLines t)).text d).toList

theorem statementChars_tables {d : Dialect} {s : Schema}
    (quotable : ∀ t ∈ s.tables, Table.Quotable d t)
    (plain : ∀ t ∈ s.tables, ∀ c ∈ t.columns, c.OnlyUnique)
    (listless : ∀ t ∈ s.tables, ∀ c ∈ t.columns, c.type ≠ .enum) :
    statementChars (generate d s).toList = s.tables.map (tableText d) := by
  rw [statementChars_generate quotable plain, statements_tables listless, List.map_map]
  rfl

theorem declaredEnums_tables (d : Dialect) (tables : List Table) :
    declaredEnums (tables.map (tableText d)) = [] := by
  rw [declaredEnums, List.filterMap_map, List.filterMap_eq_nil_iff]
  intro t _
  simp only [Function.comp, tableText, createTable_toList, Header.createEnum?_createTable]
  rfl

variable {d : Dialect} {read : ItemReader}

theorem tableOf?_written {s : Schema} (h : SchemaRestorable d s) {t : Table} (inside : t ∈ s.tables)
    (understands : Understands d read t) :
    (tableOf? d read [] (tableText d t)).result = .ok (some t.told) := by
  have lines := bodyLines_quotable (h.quotable t inside) (h.onlyUnique t inside)
  have header := Header.createTable?_generated (h.names t inside)
    (bodyText d t.name (bodyLines t) ++ [')'])
  rw [← createTable_toList] at header
  have made := table_written (h.columnsDistinct t inside) (h.columns t inside) understands
    (splitTopLevel_bodyText t.name lines [])
  unfold tableOf? tableText
  simp only [header, String.ofList_toList, Remarked.result_map, made]
  rfl

theorem addTables_written {s : Schema} (h : SchemaRestorable d s)
    (understands : ∀ t ∈ s.tables, Understands d read t) (before : List Table) {tables : List Table}
    (inside : ∀ t ∈ tables, t ∈ s.tables)
    (distinct : DistinctNames ((before ++ tables).map (·.name))) :
    (addTables d read [] before (tables.map (tableText d))).result =
      .ok (before ++ tables.map Table.told) := by
  induction tables generalizing before with
  | nil => simp [addTables]
  | cons t rest ih =>
    rw [List.forall_mem_cons] at inside
    have made := tableOf?_written h inside.1 (understands t inside.1)
    have new : (before.any fun earlier => Text.sameName earlier.name t.told.name) = false := by
      rw [DistinctNames, List.map_append, List.map_append, List.nodup_append] at distinct
      rw [List.any_eq_false]
      intro earlier member same
      have apart := distinct.2.2 (Text.lower earlier.name)
        (List.mem_map_of_mem (List.mem_map_of_mem member)) (Text.lower t.name) List.mem_cons_self
      exact apart (sameName_iff.mp same)
    have onward : DistinctNames (((before ++ [t.told]) ++ rest).map (·.name)) := by
      simpa [Table.told] using distinct
    have more := ih _ inside.2 onward
    rw [List.map_cons, addTables, Remarked.result_bind, made]
    simp only [bind, Except.bind, new, Bool.false_eq_true, ↓reduceIte, more]
    simp

theorem readWith_generate {s : Schema} (h : SchemaRestorable d s)
    (understands : ∀ t ∈ s.tables, Understands d read t) :
    (readWith d read (generate d s)).result = .ok (assemble d (s.tables.map Table.told)) := by
  have cut := statementChars_tables h.quotable h.onlyUnique
    fun t inside c member => (h.columns t inside c member).type.ne_enum
  have added := addTables_written h understands [] (fun _ inside => inside) h.namesDistinct
  unfold readWith
  simp only [cut, declaredEnums_tables, Remarked.result_bind, added]
  rfl

theorem told_resolved {s s' : Schema} (h : SchemaRestorable d s) :
    ∀ t ∈ s.tables, t.told.resolved s' = t.told := by
  intro t inside
  rw [Table.resolved, Table.told]
  congr 1
  rw [List.map_map]
  apply List.map_congr_left
  intro c member
  cases refers : c.references with
  | none => simp [Column.told, refers]
  | some r =>
    have named := ((h.columns t inside c member).references r refers).2.nonempty
    simp [Column.told, refers, Reference.resolved, named]

theorem SchemaRestorable.told_distinct {s : Schema} (h : SchemaRestorable d s) :
    DistinctNames ((s.tables.map Table.told).map (·.name)) := by
  rw [List.map_map]
  exact h.namesDistinct

theorem assemble_told {s : Schema} (h : SchemaRestorable d s) :
    (assemble d (s.tables.map Table.told)).tables.map Table.told = s.tables.map Table.told := by
  have blank : ∀ t : Table, t.withoutIds.told = t.told := by
    intro t
    simp [Table.withoutIds, Table.told, Column.told, Function.comp_def]
  have twice : ∀ t : Table, t.told.told = t.told := by
    intro t
    simp [Table.told, Column.told, Function.comp_def]
  have whole := congrArg (List.map Table.told) (assemble_withoutIds (d := d) h.told_distinct)
  simp only [List.map_map, Function.comp_def, blank] at whole
  rw [whole]
  apply List.map_congr_left
  intro t inside
  rw [told_resolved h t inside, twice]

theorem assemble_edges_link {tables : List Table}
    (distinct : DistinctNames (tables.map (·.name))) :
    (assemble d tables).edges.map (·.link? (assemble d tables)) =
      (assemble d tables).keyLinks.map some := by
  have ids : ((assemble d tables).tables.map (·.id)).Nodup := by
    rw [assemble_tableIds]
    exact numbered_nodup "table" 1 tables.length
  have numbering : ∀ edges : List Edge,
      (edges.mapIdx fun i e => { e with id := numbered "edge" (i + 1) }).map
        (·.link? (assemble d tables)) = edges.map (·.link? (assemble d tables)) := by
    intro edges
    apply List.ext_getElem
    · simp
    · intro i _ _
      simp [Edge.link?]
  rw [assemble_edges distinct, numbering, Schema.keyEdges_link ids]

/-- A schema of common types is read back from its text: all of its tables and columns, and one edge
for every foreign key to one of its tables. -/
theorem readWith_generate_restores {s : Schema} (h : SchemaRestorable d s)
    (understands : ∀ t ∈ s.tables, Understands d read t) :
    ∃ s', (readWith d read (generate d s)).result = .ok s' ∧
      s'.tables.map Table.told = s.tables.map Table.told ∧
      s'.edges.map (·.link? s') = s.keyLinks.map some := by
  refine ⟨_, readWith_generate h understands, assemble_told h, ?_⟩
  rw [assemble_edges_link h.told_distinct, Schema.keyLinks_congr (assemble_told h)]

def restorableSchema : Schema :=
  { tables :=
      [{ name := "a;("
         columns :=
           [{ name := "id]", type := .int, nullable := false, primaryKey := true },
            { name := "create", type := .boolean, unique := true }] },
       { name := "'"
         columns :=
           [{ name := "a", type := .decimal, length := some 5, scale := some 2,
              references := some ⟨"A;(", "id]"⟩ }] }] }

def restorableReader : ItemReader := fun text =>
  readerOf
    [("\"id]\" INTEGER NOT NULL",
        .column "id]" (some (.scalar "INT" [] [])) [.nullable false]),
      ("\"create\" NUMBER(1) UNIQUE",
        .column "create" (some (.scalar "DECIMAL" ["1"] [])) [.unique []]),
      ("PRIMARY KEY (\"id]\")", .rules [.primaryKey (some ["id]"])]),
      ("\"a\" NUMBER(5,2)", .column "a" (some (.scalar "DECIMAL" ["5", "2"] [])) []),
      ("FOREIGN KEY (\"a\") REFERENCES \"A;(\"(\"id]\")",
        .rules [.foreignKey ["a"] (some ⟨"A;(", ["id]"]⟩)])]
    (Text.trimChars text)

theorem restorableReader_understands :
    ∀ t ∈ restorableSchema.tables, Understands .oracle restorableReader t := by
  simp only [restorableSchema, List.forall_mem_cons]
  refine ⟨?_, ?_, by simp⟩
  · change ∀ line ∈ [BodyLine.column _, .column _, .primaryKey _], _
    simp only [List.forall_mem_cons]
    refine ⟨?_, ?_, ?_, by simp⟩ <;> rintro item ⟨⟩ isLast <;> cases isLast <;> rfl
  · change ∀ line ∈ [BodyLine.column _, .foreignKey _ _], _
    simp only [List.forall_mem_cons]
    refine ⟨?_, ?_, by simp⟩ <;> rintro item ⟨⟩ isLast <;> cases isLast <;> rfl

theorem restorableSchema_restorable : SchemaRestorable .oracle restorableSchema where
  names := by
    simp only [restorableSchema, List.forall_mem_cons]
    exact ⟨⟨by decide, by decide⟩, ⟨by decide, by decide⟩, by simp⟩
  namesDistinct := by decide +kernel
  columns := by
    simp only [restorableSchema, List.forall_mem_cons]
    refine ⟨⟨?_, ?_, by simp⟩, ⟨?_, by simp⟩, by simp⟩
    · exact ⟨⟨by decide, by decide⟩, .bare (by decide), by decide, rfl, by simp⟩
    · exact ⟨⟨by decide, by decide⟩, .bare (by decide), by decide, rfl, by simp⟩
    · refine ⟨⟨by decide, by decide⟩, @Expressible.scaled .oracle 5 2 ?_ ?_ ?_, by decide, rfl, ?_⟩
      · decide
      · decide +kernel
      · decide +kernel
      · rintro r ⟨⟩
        exact ⟨⟨by decide, by decide⟩, ⟨by decide, by decide⟩⟩
  columnsDistinct := by decide +kernel

theorem restorableSchema_restored :
    ∃ s', (readWith .oracle restorableReader (generate .oracle restorableSchema)).result = .ok s' ∧
      s'.tables.map Table.told = restorableSchema.tables.map Table.told ∧
      s'.edges.map (·.link? s') = restorableSchema.keyLinks.map some :=
  readWith_generate_restores restorableSchema_restorable restorableReader_understands

def sizedUuidSchema : Schema :=
  { tables := [{ name := "t", columns := [{ name := "id", type := .uuid, length := some 5 }] }] }

def sizedUuidReader : ItemReader :=
  readerOf [("\n  \"id\" UUID\n", .column "id" (some (.scalar "UUID" [] [])) [])]

def varcharColumn (length : Nat) : Column := { name := "c", type := .varchar, length := some length }

def varcharTable (length : Nat) : Table := { name := "t", columns := [varcharColumn length] }

theorem varcharTable_tooLong {n : Nat} (long : ¬ n.repr.length ≤ Json.maxDigits) :
    ¬ ShowsSizes { tables := [varcharTable n] } := by
  intro sizes
  have nonzero : (n : Int) ≠ 0 := by
    intro zero
    rw [Int.natCast_eq_zero.mp zero] at long
    exact long (by decide)
  have shown : (n : Int) ∈ shownSizes (varcharColumn n) :=
    List.mem_singleton.mpr (if_neg nonzero).symm
  have short := sizes _ List.mem_cons_self _ List.mem_cons_self _ shown
  rw [Int.natAbs_natCast] at short
  exact long short

theorem sizedUuidSchema_read :
    (readWith .postgresql sizedUuidReader (generate .postgresql sizedUuidSchema)).result =
      .ok { tables := [{ name := "t", id := "table-1",
                         columns := [{ name := "id", type := .uuid, id := "column-1" }] }],
            dialect := "postgresql" } := by
  decide +kernel

/-- A length that a type does not show is lost, and one of too many digits is not written. -/
theorem sizes_unrestored :
    (Dialect.postgresql.supports .uuid = true ∧
      ¬ ∃ s', (readWith .postgresql sizedUuidReader
          (generate .postgresql sizedUuidSchema)).result = .ok s' ∧
        s'.tables.map Table.told = sizedUuidSchema.tables.map Table.told) ∧
    write .sqlite { tables := [varcharTable (Nat.pow 10 Json.maxDigits)] } =
      .error .tooManyDigits := by
  refine ⟨⟨rfl, ?_⟩, write_tooManyDigits (varcharTable_tooLong ?_) .sqlite⟩
  · rintro ⟨s', read, same⟩
    rw [sizedUuidSchema_read] at read
    cases read
    revert same
    decide
  · exact Text.length_repr_pow (by decide)

end Sql

end RelSchema
