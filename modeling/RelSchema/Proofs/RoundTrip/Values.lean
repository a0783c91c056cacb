import RelSchema.Proofs.Reading.Declared
import RelSchema.Proofs.Reading.Outcome
import RelSchema.Proofs.RoundTrip.Declarations
import RelSchema.Proofs.RoundTrip.Items

namespace RelSchema

def Table.enumTypes (t : Table) : Sql.Body.Enums :=
  (t.columns.filter fun c => c.type == .enum && !c.values.isEmpty).map fun c =>
    (Sql.enumTypeName t.name c.name, c.values)

def Schema.enumTypes (s : Schema) : Sql.Body.Enums := s.tables.flatMap Table.enumTypes

def Schema.EnumTypesAgree (s : Schema) : Prop :=
  ∀ p ∈ s.enumTypes, ∀ q ∈ s.enumTypes, p.1 = q.1 → p.2 = q.2

instance (s : Schema) : Decidable s.EnumTypesAgree :=
  inferInstanceAs (Decidable (∀ p ∈ s.enumTypes, ∀ q ∈ s.enumTypes, p.1 = q.1 → p.2 = q.2))

def Schema.Lists (s : Schema) (table column : String) (values : List String) : Prop :=
  ∃ t c, s.table? table = some t ∧ t.column? column = some c ∧ c.type = .enum ∧ c.values = values

theorem Schema.Lists.unique {s : Schema} {table column : String} {values values' : List String}
    (h : s.Lists table column values) (h' : s.Lists table column values') : values = values' := by
  obtain ⟨t, c, hasTable, hasColumn, -, rfl⟩ := h
  obtain ⟨t', c', hasTable', hasColumn', -, rfl⟩ := h'
  rw [hasTable] at hasTable'
  cases hasTable'
  rw [hasColumn] at hasColumn'
  cases hasColumn'
  rfl

namespace Sql

open Body (ItemReader Enums Contribution contribution contributions AsDeclared AreComplete IsColumn
  withPlainType declaredValues?)
open Script (statementChars)

/-- A table named by an identifier, like its columns, with values for every type of values and
without constraints. -/
structure PlainTable (t : Table) : Prop where
  name : IsIdentifier t.name
  columns : ∀ c ∈ t.columns, IsIdentifier c.name
  distinct : DistinctNames (t.columns.map (·.name))
  plain : ∀ c ∈ t.columns, c.constraints = []
  listed : ∀ c ∈ t.columns, c.type = .enum → c.values ≠ []

structure PlainSchema (s : Schema) : Prop where
  tables : ∀ t ∈ s.tables, PlainTable t
  distinct : DistinctNames (s.tables.map (·.name))

theorem PlainTable.onlyUnique {t : Table} (h : PlainTable t) : ∀ c ∈ t.columns, c.OnlyUnique := by
  intro c member k constrains
  rw [h.plain c member] at constrains
  cases constrains

theorem PlainTable.lines {t : Table} (h : PlainTable t) :
    ∀ line ∈ bodyLines t, line.Quotable .postgresql :=
  bodyLines_quotable (Table.quotable_of_ne (by decide) t) h.onlyUnique

/-- A reader of items takes an item for a column: either it knows the type there, or it knows the
item with a plain type in the place of the type. A type of values need not mean anything to it. -/
inductive FindsColumn (read : ItemReader) (item : List Char) (c : Column) : Prop
  | known {type : Option TypeSpec} {rules : List Rule}
      (reads : read item = some (.column c.name type rules))
      (meaningful : c.type ≠ .enum → ∀ t, type = some t → t.IsMeaningful)
      (complete : AreComplete rules)
  | unknown {head : Header.ColumnHead} {type : Option TypeSpec} {rules : List Rule}
      (rejects : read item = none) (split : Header.columnHead? item = some head)
      (reads : read (withPlainType head) = some (.column c.name type rules))
      (usable : IsColumn type rules none)
      (sized : c.type ≠ .enum → Body.endsInBracket head.type = false →
        TypeSpec.IsSized (Body.bareTypeName head.type)
          (TypeSpec.argumentsIn (TypeSpec.cutAt '(' head.type).2))

def BodyLine.FoundIn (read : ItemReader) (item : List Char) : BodyLine → Prop
  | column c => FindsColumn read item c
  | primaryKey _ | foreignKey .. => ∃ rules, read item = some (.rules rules) ∧ .incomplete ∉ rules
  | check _ => True

def FindsLines (d : Dialect) (read : ItemReader) (t : Table) : Prop :=
  ∀ line ∈ bodyLines t, ∀ isLast, line.FoundIn read (line.piece d t.name isLast)

def declaredFor (enums : Enums) (t : Table) (c : Column) : Option (List String) :=
  if c.type = .enum then enums.values? (enumTypeName t.name c.name) else none

theorem renderType_enum (table : String) {c : Column} (type : c.type = .enum)
    (listed : c.values ≠ []) :
    renderType .postgresql (some table) c = enumTypeName table c.name := by
  have some : c.values.isEmpty = false := by simpa using listed
  simp [renderType, renderScalar, type, some, Dialect.typeName?, Dialect.supports,
    Dialect.supportsEnums]

theorem declaredValues?_column {t : Table} (h : PlainTable t) {c : Column} (member : c ∈ t.columns)
    (type : c.type = .enum) (enums : Enums) (isLast : Bool) :
    declaredValues? enums ((BodyLine.column c).piece .postgresql t.name isLast) =
      enums.values? (enumTypeName t.name c.name) := by
  have name := h.columns c member
  obtain ⟨tail, ends, text⟩ := columnPiece (d := .postgresql) t.name (h.plain c member) isLast
  obtain ⟨first, rest, low⟩ := enumTypeName_lowWord h.name name
  rw [text, renderType_enum t.name type (h.listed c member type)]
  exact declaredValues?_written (name.enclosed _) low ends enums

variable {read : ItemReader} {enums : Enums}

theorem contribution_found {t : Table} (h : PlainTable t) {c : Column} (member : c ∈ t.columns)
    (declared : c.type = .enum → (declaredFor enums t c).isSome) (isLast : Bool)
    (finds : FindsColumn read ((BodyLine.column c).piece .postgresql t.name isLast) c) :
    ∃ c', (contribution .postgresql read enums t.name
        ((BodyLine.column c).piece .postgresql t.name isLast)).result = .ok { columns := [c'] } ∧
      AsDeclared c.name (declaredFor enums t c) c' := by
  have kept := isPassedOver_column t.name ((h.columns c member).enclosed .postgresql)
    (h.plain c member) isLast
  have values : ∀ values, declaredFor enums t c = some values →
      declaredValues? enums ((BodyLine.column c).piece .postgresql t.name isLast) =
        some values := by
    intro values here
    unfold declaredFor at here
    split at here
    · rename_i type
      rwa [declaredValues?_column h member type]
    · cases here
  have other : declaredValues? enums ((BodyLine.column c).piece .postgresql t.name isLast) = none →
      c.type ≠ .enum := by
    intro none type
    obtain ⟨found, here⟩ := Option.isSome_iff_exists.mp (declared type)
    rw [values found here] at none
    cases none
  generalize (BodyLine.column c).piece .postgresql t.name isLast = item at *
  unfold contribution
  simp only [kept, Bool.false_eq_true, ↓reduceIte]
  cases finds with
  | known reads meaningful complete =>
    obtain ⟨made, hmade⟩ := (Body.column_succeeds_iff c.name _ _ (declaredValues? enums item)).mpr
      ⟨fun none => meaningful (other none), complete⟩
    have told := Body.withTruthSpelling_asDeclared .postgresql item (Body.column_asDeclared hmade)
    simp only [reads, Remarked.result_bind, hmade]
    exact ⟨_, rfl, told.name, fun found here => told.values found (values found here)⟩
  | unknown rejects split reads usable sized =>
    have unknown : Body.IsUnknownColumn read enums item := by
      simp only [Body.IsUnknownColumn, split, reads]
      exact ⟨usable, fun none => sized (other none)⟩
    obtain ⟨made, hmade, asDeclared⟩ := Body.unknownTypeColumn_asDeclared split reads unknown
    have told := Body.withTruthSpelling_asDeclared .postgresql item asDeclared
    simp only [rejects, Remarked.result_bind, hmade]
    exact ⟨_, rfl, told.name, fun found here => told.values found (values found here)⟩

def BodyLine.columns : BodyLine → List Column
  | column c => [c]
  | _ => []

theorem columns_bodyLines (t : Table) : (bodyLines t).flatMap BodyLine.columns = t.columns := by
  rw [flatMap_bodyLines (fun _ => rfl) (fun _ _ => rfl) fun _ => rfl]
  exact (List.flatMap_pure_eq_map id t.columns).trans (List.map_id _)

structure Holds (enums : Enums) (t : Table) (columns : List Column) (found : Contribution) :
    Prop where
  columns : List.Forall₂ (fun c' c => AsDeclared c.name (declaredFor enums t c) c') found.columns
    columns
  rules : .incomplete ∉ found.rules

theorem Holds.append {t : Table} {columns columns' : List Column} {found found' : Contribution}
    (h : Holds enums t columns found) (h' : Holds enums t columns' found') :
    Holds enums t (columns ++ columns')
      { columns := found.columns ++ found'.columns, rules := found.rules ++ found'.rules } where
  columns := List.rel_append h.columns h'.columns
  rules := by
    rw [List.mem_append, not_or]
    exact ⟨h.rules, h'.rules⟩

theorem line_found {t : Table} (h : PlainTable t)
    (declared : ∀ c ∈ t.columns, c.type = .enum → (declaredFor enums t c).isSome) {line : BodyLine}
    (member : line ∈ bodyLines t) (isLast : Bool)
    (finds : line.FoundIn read (line.piece .postgresql t.name isLast)) :
    ∃ found, (contribution .postgresql read enums t.name
        (line.piece .postgresql t.name isLast)).result = .ok found ∧
      Holds enums t line.columns found := by
  cases line with
  | column c =>
    have inside : c ∈ t.columns := by
      rw [← columns_bodyLines t]
      exact List.mem_flatMap.mpr ⟨_, member, List.mem_cons_self⟩
    obtain ⟨c', made, asDeclared⟩ := contribution_found h inside (declared c inside) isLast finds
    exact ⟨_, made, .cons asDeclared .nil, by simp⟩
  | primaryKey names =>
    obtain ⟨rules, reads, complete⟩ := finds
    have kept := isPassedOver_primaryKey .postgresql t.name names isLast
    exact ⟨_, contribution_rules kept reads, .nil, complete⟩
  | foreignKey name r =>
    obtain ⟨rules, reads, complete⟩ := finds
    have kept := isPassedOver_foreignKey .postgresql t.name name r isLast
    exact ⟨_, contribution_rules kept reads, .nil, complete⟩
  | check expression =>
    exact (h.lines _ member).elim

theorem body_found {t : Table} (h : PlainTable t) (finds : FindsLines .postgresql read t)
    (declared : ∀ c ∈ t.columns, c.type = .enum → (declaredFor enums t c).isSome) :
    ∃ found, (contributions .postgresql read enums t.name (bodyPieces
        ((bodyLines t).map fun line => (line.text .postgresql t.name).toList))).result = .ok found ∧
      Holds enums t t.columns found := by
  have each := fun line member isLast =>
    line_found h declared member isLast (finds line member isLast)
  rw [← columns_bodyLines t]
  generalize bodyLines t = lines at each ⊢
  have empty : Holds enums t [] {} := ⟨.nil, by simp⟩
  induction lines with
  | nil => exact ⟨{}, rfl, empty⟩
  | cons line rest ih =>
    rw [List.forall_mem_cons] at each
    cases rest with
    | nil =>
      obtain ⟨found, made, holds⟩ := each.1 true
      have nothing : (contributions .postgresql read enums t.name []).result = .ok {} := rfl
      refine ⟨_, ?_, holds.append empty⟩
      have only := contributions_cons made nothing
      simpa [bodyPieces, BodyLine.piece] using only
    | cons next more =>
      obtain ⟨first, made, holds⟩ := each.1 false
      obtain ⟨later, laterMade, laterHolds⟩ := ih each.2
      refine ⟨_, ?_, holds.append laterHolds⟩
      have all := contributions_cons made laterMade
      simpa [bodyPieces, BodyLine.piece] using all

def statementTexts (tables : List Table) : List (List Char) :=
  (statements .postgresql tables).map fun statement => (statement.text .postgresql).toList

theorem statementChars_postgresql {s : Schema} (h : ∀ t ∈ s.tables, PlainTable t) :
    statementChars (generate .postgresql s).toList = statementTexts s.tables :=
  statementChars_generate (fun t _ => Table.quotable_of_ne (by decide) t)
    fun t inside => (h t inside).onlyUnique

theorem tableStatements_texts (t : Table) :
    (tableStatements .postgresql t).map (fun statement => (statement.text .postgresql).toList) =
      (t.columns.filter fun c => c.type == .enum && !c.values.isEmpty).map (fun c =>
        ((Statement.createEnum (enumTypeName t.name c.name) c.values).text .postgresql).toList) ++
        [((Statement.createTable t.name (bodyLines t)).text .postgresql).toList] := by
  simp [tableStatements, enumStatements, Function.comp_def]

theorem declaredEnums_createTable (name : String) (body : List BodyLine) :
    declaredEnums [((Statement.createTable name body).text .postgresql).toList] = [] := by
  rw [createTable_toList]
  rfl

theorem declaredEnums_statementTexts {tables : List Table} (h : ∀ t ∈ tables, PlainTable t) :
    declaredEnums (statementTexts tables) = tables.flatMap Table.enumTypes := by
  rw [statementTexts, statements, List.map_flatMap, declaredEnums, List.filterMap_flatMap]
  apply List.flatMap_congr
  intro t inside
  have plain := h t inside
  have none := declaredEnums_createTable t.name (bodyLines t)
  rw [declaredEnums] at none
  rw [tableStatements_texts, List.filterMap_append, List.filterMap_map, none, List.append_nil,
    Table.enumTypes, ← List.filterMap_eq_map']
  apply List.filterMap_congr
  intro c kept
  obtain ⟨first, rest, low⟩ :=
    enumTypeName_lowWord plain.name (plain.columns c (List.mem_filter.mp kept).1)
  have read := Header.createEnum?_generated .postgresql (Header.isBareName_of_lowWord low) c.values
  simp only [Function.comp, read, Option.map_some, String.ofList_toList, low.lower]

theorem createdTables_statementTexts {tables : List Table} (h : ∀ t ∈ tables, PlainTable t) :
    createdTables (statementTexts tables) = tables.map fun t => (t.name,
      wrappedBody (bodyText .postgresql t.name (bodyLines t) ++ [')'])) := by
  rw [statementTexts, statements, List.map_flatMap, createdTables, List.filterMap_flatMap,
    ← List.flatMap_pure_eq_map]
  apply List.flatMap_congr
  intro t inside
  rw [tableStatements_texts, List.filterMap_append, List.filterMap_map]
  have header := Header.createTable?_generated ((h t inside).name.enclosed .postgresql)
    (bodyText .postgresql t.name (bodyLines t) ++ [')'])
  rw [← createTable_toList] at header
  simp [header, Header.createTable?_createEnum]

theorem mem_enumTypes {s : Schema} {p : String × List String} :
    p ∈ s.enumTypes ↔ ∃ t ∈ s.tables, ∃ c ∈ t.columns, c.type = .enum ∧ c.values ≠ [] ∧
      p = (enumTypeName t.name c.name, c.values) := by
  simp only [Schema.enumTypes, Table.enumTypes, List.mem_flatMap, List.mem_map, List.mem_filter,
    Bool.and_eq_true, beq_iff_eq, Bool.not_eq_true', List.isEmpty_eq_false_iff, and_assoc]
  simp only [eq_comm]

variable {s : Schema}

theorem PlainSchema.declares (h : PlainSchema s) {t : Table} (inside : t ∈ s.tables) {c : Column}
    (member : c ∈ t.columns) (type : c.type = .enum) :
    (enumTypeName t.name c.name, c.values) ∈ s.enumTypes :=
  mem_enumTypes.mpr ⟨t, inside, c, member, type, (h.tables t inside).listed c member type, rfl⟩

theorem PlainSchema.declaredFor_isSome (h : PlainSchema s) {t : Table} (inside : t ∈ s.tables) :
    ∀ c ∈ t.columns, c.type = .enum → (declaredFor s.enumTypes t c).isSome := by
  intro c member type
  obtain ⟨last, declared⟩ := Enums.exists_values? (h.declares inside member type)
  simp [declaredFor, type, declared]

theorem table_found (h : PlainSchema s) {t : Table} (inside : t ∈ s.tables)
    (finds : FindsLines .postgresql read t) :
    ∃ found, (contributions .postgresql read s.enumTypes t.name (splitTopLevel
        (wrappedBody (bodyText .postgresql t.name (bodyLines t) ++ [')'])) ',')).result = .ok found ∧
      Holds s.enumTypes t t.columns found := by
  have plain := h.tables t inside
  rw [splitTopLevel_bodyText t.name plain.lines]
  exact body_found plain finds (h.declaredFor_isSome inside)

theorem readWith_generate_succeeds (h : PlainSchema s)
    (finds : ∀ t ∈ s.tables, FindsLines .postgresql read t) :
    ∃ s', (readWith .postgresql read (generate .postgresql s)).result = .ok s' := by
  refine succeeds_readWith.mpr ((addTables_succeeds_iff _ _ _ _ _).mpr ?_)
  rw [statementChars_postgresql h.tables, createdTables_statementTexts h.tables,
    declaredEnums_statementTexts h.tables, List.forall_mem_map]
  intro t inside
  obtain ⟨found, made, holds⟩ := table_found h inside (finds t inside)
  exact (Body.contributions_iff .postgresql read s.enumTypes t.name _).mp ⟨found, made, holds.rules⟩

theorem Holds.of_core {t : Table} {columns columns' : List Column} {found : Contribution}
    (h : Holds enums t columns found)
    (same : columns'.map Column.core = found.columns.map Column.core) :
    List.Forall₂ (fun c' c => AsDeclared c.name (declaredFor enums t c) c') columns' columns := by
  have cores : List.Forall₂ (fun c' c => AsDeclared c.name (declaredFor enums t c) c')
      (found.columns.map Column.core) columns :=
    List.forall₂_map_left_iff.mpr (h.columns.imp fun _ _ told => told.of_core rfl)
  rw [← same] at cores
  exact (List.forall₂_map_left_iff.mp cores).imp fun _ _ told => told.of_core rfl

theorem Holds.names {t : Table} {columns : List Column} {found : Contribution}
    (h : Holds enums t columns found) :
    found.columns.map (·.name) = columns.map (·.name) := by
  rw [← List.forall₂_eq_eq_eq, List.forall₂_map_left_iff, List.forall₂_map_right_iff]
  exact h.columns.imp fun _ _ told => told.name

theorem column_restored (h : PlainSchema s)
    (finds : ∀ t ∈ s.tables, FindsLines .postgresql read t) {s' : Schema}
    (result : (readWith .postgresql read (generate .postgresql s)).result = .ok s') {t : Table}
    (inside : t ∈ s.tables) {c : Column} (member : c ∈ t.columns) :
    ∃ t' c', s'.table? t.name = some t' ∧ t'.column? c.name = some c' ∧
      AsDeclared c.name (declaredFor s.enumTypes t c) c' := by
  obtain ⟨tables, rfl, makes⟩ := readWith_ok result
  have wellRead := assemble_wellRead makes
  have definitions := wellRead.definitions
  rw [statementChars_postgresql h.tables, createdTables_statementTexts h.tables,
    declaredEnums_statementTexts h.tables, firstOfName_of_distinct, List.forall₂_map_right_iff]
    at definitions
  · obtain ⟨t', hasTable, defined⟩ :=
      wellRead.tableNames.find?_partner definitions (fun _ _ defined => defined.named) inside
    obtain ⟨found, made, core⟩ := defined.columns
    obtain ⟨found', made', holds⟩ := table_found h inside (finds t inside)
    cases made.symm.trans made'
    have distinct : DistinctNames (found.columns.map (·.name)) := by
      rw [holds.names]
      exact (h.tables t inside).distinct
    rw [firstOfName_of_distinct distinct] at core
    have names := wellRead.columnNames t' (List.mem_of_find?_eq_some hasTable)
    obtain ⟨c', hasColumn, told⟩ :=
      names.find?_partner (holds.of_core core) (fun _ _ told => told.name) member
    exact ⟨t', c', hasTable, hasColumn, told⟩
  · rw [List.map_map]
    exact h.distinct

theorem readWith_generate_lists (h : PlainSchema s)
    (finds : ∀ t ∈ s.tables, FindsLines .postgresql read t) {s' : Schema}
    (result : (readWith .postgresql read (generate .postgresql s)).result = .ok s') :
    ∀ t ∈ s.tables, ∀ c ∈ t.columns, c.type = .enum → ∃ values,
      s.enumTypes.values? (enumTypeName t.name c.name) = some values ∧
        s'.Lists t.name c.name values := by
  intro t inside c member type
  obtain ⟨last, declared⟩ := Enums.exists_values? (h.declares inside member type)
  obtain ⟨t', c', hasTable, hasColumn, told⟩ := column_restored h finds result inside member
  have values := told.values last (by rw [declaredFor, if_pos type, declared])
  exact ⟨last, declared, t', c', hasTable, hasColumn, values⟩

/-- Every column of a type of values comes back with the values that are declared last for the name
of its type. So all of them come back with their own values exactly when types of one name have the
same values. -/
theorem readWith_generate_enums (h : PlainSchema s)
    (finds : ∀ t ∈ s.tables, FindsLines .postgresql read t) :
    ∃ s', (readWith .postgresql read (generate .postgresql s)).result = .ok s' ∧
      (∀ t ∈ s.tables, ∀ c ∈ t.columns, c.type = .enum → ∃ values,
        s.enumTypes.values? (enumTypeName t.name c.name) = some values ∧
          s'.Lists t.name c.name values) ∧
      ((∀ t ∈ s.tables, ∀ c ∈ t.columns, c.type = .enum → s'.Lists t.name c.name c.values) ↔
        s.EnumTypesAgree) := by
  obtain ⟨s', result⟩ := readWith_generate_succeeds h finds
  have lists := readWith_generate_lists h finds result
  refine ⟨s', result, lists, ?_, ?_⟩
  · intro own p hp q hq same
    obtain ⟨t, ht, c, hc, type, -, rfl⟩ := mem_enumTypes.mp hp
    obtain ⟨t', ht', c', hc', type', -, rfl⟩ := mem_enumTypes.mp hq
    obtain ⟨last, declared, first⟩ := lists t ht c hc type
    obtain ⟨last', declared', second⟩ := lists t' ht' c' hc' type'
    rw [show enumTypeName t.name c.name = enumTypeName t'.name c'.name from same, declared',
      Option.some.injEq] at declared
    calc c.values = last := (own t ht c hc type).unique first
      _ = last' := declared.symm
      _ = c'.values := second.unique (own t' ht' c' hc' type')
  · intro agree t ht c hc type
    obtain ⟨last, declared, lists⟩ := lists t ht c hc type
    have same : last = c.values :=
      agree _ (Enums.mem_of_values? declared) _ (h.declares ht hc type) rfl
    rwa [same] at lists

def sharedTypeSchema : Schema :=
  { tables :=
      [{ name := "a", columns := [{ name := "b_c", type := .enum, values := ["it's", "so, so"] }] },
       { name := "A_b", columns := [{ name := "c", type := .enum, primaryKey := true,
                                      values := ["its"] }] }] }

def sharedTypeReader : ItemReader := fun text =>
  readerOf
    [("\"b_c\" a_b_c_enum", .column "b_c" (some (.declared "a_b_c_enum" [] [])) []),
      ("\"c\" a_b_c_enum NOT NULL",
        .column "c" (some (.declared "a_b_c_enum" [] [])) [.nullable false]),
      ("PRIMARY KEY (\"c\")", .rules [.primaryKey (some ["c"])])]
    (Text.trimChars text)

theorem sharedTypeSchema_plain : PlainSchema sharedTypeSchema where
  tables := by
    simp only [sharedTypeSchema, List.forall_mem_cons]
    refine ⟨⟨?_, ?_, ?_, by simp, by simp⟩, ⟨?_, ?_, ?_, by simp, by simp⟩, by simp⟩ <;>
      decide +kernel
  distinct := by decide +kernel

theorem sharedTypeReader_finds :
    ∀ t ∈ sharedTypeSchema.tables, FindsLines .postgresql sharedTypeReader t := by
  simp only [sharedTypeSchema, List.forall_mem_cons]
  refine ⟨?_, ?_, by simp⟩
  · change ∀ line ∈ [BodyLine.column _], _
    simp only [List.forall_mem_cons]
    refine ⟨fun isLast => @FindsColumn.known _ _ _ (some (.declared "a_b_c_enum" [] [])) []
      ?_ (by simp) (by simp [AreComplete]), by simp⟩
    cases isLast <;> rfl
  · change ∀ line ∈ [BodyLine.column _, .primaryKey _], _
    simp only [List.forall_mem_cons]
    refine ⟨fun isLast => @FindsColumn.known _ _ _ (some (.declared "a_b_c_enum" [] []))
      [.nullable false] ?_ (by simp) (by simp [AreComplete]),
      fun isLast => ⟨[.primaryKey (some ["c"])], ?_, by simp⟩, by simp⟩
    · cases isLast <;> rfl
    · cases isLast <;> rfl

theorem sharedTypeSchema_declares :
    sharedTypeSchema.enumTypes.values? (enumTypeName "a" "b_c") = some ["its"] ∧
      sharedTypeSchema.enumTypes.values? (enumTypeName "A_b" "c") = some ["its"] := by
  decide +kernel

theorem sharedTypeSchema_lists :
    ∃ s', (readWith .postgresql sharedTypeReader (generate .postgresql sharedTypeSchema)).result =
        .ok s' ∧ s'.Lists "a" "b_c" ["its"] ∧ s'.Lists "A_b" "c" ["its"] := by
  obtain ⟨s', result, lists, -⟩ :=
    readWith_generate_enums sharedTypeSchema_plain sharedTypeReader_finds
  obtain ⟨values, declared, first⟩ := lists _ List.mem_cons_self _ List.mem_cons_self rfl
  obtain ⟨values', declared', second⟩ :=
    lists _ (List.mem_cons_of_mem _ List.mem_cons_self) _ List.mem_cons_self rfl
  cases declared.symm.trans sharedTypeSchema_declares.1
  cases declared'.symm.trans sharedTypeSchema_declares.2
  exact ⟨s', result, first, second⟩

theorem sharedTypeSchema_overwritten :
    PlainSchema sharedTypeSchema ∧
      (∀ t ∈ sharedTypeSchema.tables, FindsLines .postgresql sharedTypeReader t) ∧
      ¬ ∃ s', (readWith .postgresql sharedTypeReader
          (generate .postgresql sharedTypeSchema)).result = .ok s' ∧
        ∀ t ∈ sharedTypeSchema.tables, ∀ c ∈ t.columns, c.type = .enum →
          s'.Lists t.name c.name c.values := by
  refine ⟨sharedTypeSchema_plain, sharedTypeReader_finds, ?_⟩
  rintro ⟨s', result, own⟩
  have lists := readWith_generate_lists sharedTypeSchema_plain sharedTypeReader_finds result
  obtain ⟨values, declared, last⟩ := lists _ List.mem_cons_self _ List.mem_cons_self rfl
  cases declared.symm.trans sharedTypeSchema_declares.1
  have same := (own _ List.mem_cons_self _ List.mem_cons_self rfl).unique last
  revert same
  decide

end Sql

end RelSchema
