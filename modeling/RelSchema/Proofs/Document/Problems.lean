import RelSchema.Proofs.Document.Known

namespace RelSchema

def Vocabulary.words : Vocabulary → List String
  | columnType => ColumnType.all.map (·.name)
  | constraintKind => ConstraintKind.all.map (·.name)
  | cardinality => Cardinality.all.map (·.name)

/-- The errors that loading is meant to have: a field is missing, or a word is not in its list. -/
def DocumentError.IsDocumented : DocumentError → Prop
  | missingKey _ | notAMember .. => True
  | _ => False

namespace Document

def IsText (value : Json) : Prop := ∃ s, value = .string s

def IsFlag (value : Json) : Prop := ∃ b, value = .bool b

def IsWhole (value : Json) : Prop := ∃ n, value = .int n

def OrNull (kind : Json → Prop) (value : Json) : Prop := value = .null ∨ kind value

def IsList (kind : Json → Prop) (value : Json) : Prop :=
  ∃ items, value = .array items ∧ ∀ item ∈ items, kind item

def IsTexts (value : Json) : Prop :=
  ∃ members, value = .object members ∧
    ∀ key field, Json.lookup members key = some field → IsText field

/-- An object whose fields are of their kinds, if they are there; it may have any other fields. -/
def IsRecord (kinds : List (String × (Json → Prop))) (value : Json) : Prop :=
  ∃ members, value = .object members ∧ ∀ key kind, (key, kind) ∈ kinds →
    ∀ field, Json.lookup members key = some field → kind field

theorem isRecord_object {kinds : List (String × (Json → Prop))} {members : Members} :
    IsRecord kinds (.object members) ↔
      ∀ k ∈ kinds, ∀ field, Json.lookup members k.1 = some field → k.2 field := by
  simp only [IsRecord, Json.object.injEq, exists_eq_left', Prod.forall]

def IsConstraint : Json → Prop :=
  IsRecord [("kind", IsText), ("expression", OrNull IsText), ("value", OrNull IsText)]

def IsColumn : Json → Prop :=
  IsRecord
    [("name", IsText), ("type", IsText), ("id", IsText), ("length", OrNull IsWhole),
     ("scale", OrNull IsWhole), ("nullable", IsFlag), ("primary_key", IsFlag), ("unique", IsFlag),
     ("references", OrNull IsTexts), ("constraints", IsList IsConstraint),
     ("values", IsList IsText), ("element_type", OrNull IsText)]

def IsTable : Json → Prop :=
  IsRecord [("name", IsText), ("id", IsText), ("columns", IsList IsColumn)]

def IsEdge : Json → Prop :=
  IsRecord
    [("id", IsText), ("source", IsText), ("target", IsText), ("relationship_type", IsText),
     ("source_column", OrNull IsText), ("target_column", OrNull IsText)]

def IsDocument : Json → Prop :=
  IsRecord [("tables", IsList IsTable), ("edges", IsList IsEdge), ("dialect", IsText)]

def field? : Json → String → Option Json
  | .object members, key => Json.lookup members key
  | _, _ => none

theorem field?_object (members : Members) (key : String) :
    field? (.object members) key = Json.lookup members key := rfl

def absent (value : Json) (key : String) : List DocumentError :=
  if (field? value key).isNone then [.missingKey key] else []

def listed (value : Json) (key : String) : List Json :=
  match field? value key with
  | some (.array items) => items
  | _ => []

def inField (value : Json) (key : String) (problems : Json → List DocumentError) :
    List DocumentError :=
  match field? value key with
  | some field => problems field
  | none => []

theorem inField_silent (value : Json) (key : String) : inField value key (fun _ => []) = [] := by
  unfold inField
  cases field? value key <;> rfl

def wordProblems (vocabulary : Vocabulary) (allowed : List String) : Json → List DocumentError
  | .string word => if word ∈ allowed then [] else [.notAMember vocabulary word]
  | _ => []

def referenceKeys : List String := ["table", "column"]

/-- The first of the keys that have no meaning, or all that are missing. -/
def keyProblems (members : Members) : List DocumentError :=
  match members.find? fun m => !referenceKeys.contains m.1 with
  | some m => [.unexpectedReferenceKey m.1]
  | none =>
    match referenceKeys.filter fun key => (Json.lookup members key).isNone with
    | [] => []
    | missing => [.missingReferenceKeys missing]

def referenceProblems : Json → List DocumentError
  | .object members => if members.isEmpty then [] else keyProblems members
  | _ => []

def constraintProblems (value : Json) : List DocumentError :=
  absent value "kind" ++
    inField value "kind" (wordProblems .constraintKind Vocabulary.constraintKind.words)

def columnProblems (value : Json) : List DocumentError :=
  absent value "name" ++
    inField value "type" (wordProblems .columnType Vocabulary.columnType.words) ++
    inField value "references" referenceProblems ++
    (listed value "constraints").flatMap constraintProblems ++
    inField value "element_type" (wordProblems .columnType ("" :: Vocabulary.columnType.words))

def tableProblems (value : Json) : List DocumentError :=
  absent value "name" ++ (listed value "columns").flatMap columnProblems

def edgeProblems (value : Json) : List DocumentError :=
  absent value "id" ++ absent value "source" ++ absent value "target" ++
    inField value "relationship_type" (wordProblems .cardinality Vocabulary.cardinality.words)

/-- The problems of a document in the order of reading: those of the tables before those of the
edges. -/
def problems (value : Json) : List DocumentError :=
  (listed value "tables").flatMap tableProblems ++
    (listed value "edges").flatMap edgeProblems

def Told {α : Type} (r : Except DocumentError α) : List DocumentError → Prop
  | [] => ∃ a, r = .ok a
  | e :: _ => r = .error e

section Told

variable {α β : Type} {r : Except DocumentError α} {list list' : List DocumentError}

theorem told_ok (a : α) : Told (.ok a) [] := ⟨a, rfl⟩

theorem Told.bind {f : α → Except DocumentError β} (first : Told r list)
    (next : ∀ a, Told (f a) list') : Told (r >>= f) (list ++ list') := by
  cases list with
  | nil =>
    obtain ⟨a, rfl⟩ := first
    exact next a
  | cons e rest =>
    obtain rfl := first
    rfl

theorem Told.map (f : α → β) (told : Told r list) : Told (r.map f) list := by
  cases list with
  | nil =>
    obtain ⟨a, rfl⟩ := told
    exact ⟨f a, rfl⟩
  | cons e rest =>
    obtain rfl := told
    rfl

theorem Told.error_iff (told : Told r list) {e : DocumentError} :
    r = .error e ↔ list.head? = some e := by
  cases list with
  | nil =>
    obtain ⟨a, rfl⟩ := told
    exact iff_of_false nofun nofun
  | cons first rest =>
    obtain rfl := told
    simp

theorem Told.ok_iff (told : Told r list) : (∃ a, r = .ok a) ↔ list = [] := by
  cases list with
  | nil => exact iff_of_true told rfl
  | cons first rest =>
    obtain rfl := told
    exact iff_of_false nofun nofun

theorem told_mapM {read : Json → Except DocumentError α} {problems : Json → List DocumentError}
    {values : List Json} (each : ∀ value ∈ values, Told (read value) (problems value)) :
    Told (values.mapM read) (values.flatMap problems) := by
  induction values with
  | nil => exact told_ok []
  | cons value rest ih =>
    rw [List.forall_mem_cons] at each
    rw [List.mapM_cons, List.flatMap_cons]
    refine each.1.bind fun a => ?_
    rw [← List.append_nil (rest.flatMap problems)]
    exact (ih each.2).bind fun list => told_ok _

end Told

section Kinds

variable {α : Type} {read : Json → Except DocumentError α}

theorem told_text (value : Json) (kind : IsText value) : Told (text value) [] := by
  obtain ⟨s, rfl⟩ := kind
  exact told_ok s

theorem told_flag (value : Json) (kind : IsFlag value) : Told (flag value) [] := by
  obtain ⟨b, rfl⟩ := kind
  exact told_ok b

theorem told_whole (value : Json) (kind : IsWhole value) : Told (whole value) [] := by
  obtain ⟨n, rfl⟩ := kind
  exact told_ok n

theorem told_orNull {kind : Json → Prop} (each : ∀ value, kind value → Told (read value) [])
    (value : Json) (known : OrNull kind value) : Told (orNull read value) [] := by
  rcases known with rfl | known
  · exact told_ok none
  · cases value with
    | null => exact told_ok none
    | _ => exact (each _ known).map some

theorem told_texts (value : Json) (list : IsList IsText value) : Told (items text value) [] := by
  obtain ⟨values, rfl, all⟩ := list
  have told : Told (values.mapM text) (values.flatMap fun _ => []) :=
    told_mapM fun item member => told_text item (all item member)
  rwa [List.flatMap_eq_nil_iff.mpr fun _ _ => rfl] at told

theorem told_member {vocabulary : Vocabulary} {ofName? : String → Option α}
    (known : ∀ word, (ofName? word).isSome = true ↔ word ∈ vocabulary.words) (value : Json)
    (kind : IsText value) :
    Told (member vocabulary ofName? value) (wordProblems vocabulary vocabulary.words value) := by
  obtain ⟨word, rfl⟩ := kind
  rw [wordProblems]
  cases found : ofName? word with
  | none =>
    have foreign : word ∉ vocabulary.words := fun member => by
      rw [← known, found] at member
      cases member
    rw [if_neg foreign]
    simp only [Told, member, text, ok_bind, found]
  | some a =>
    have listed : word ∈ vocabulary.words := (known word).mp (by rw [found]; rfl)
    rw [if_pos listed]
    exact ⟨a, by simp only [member, text, ok_bind, found]⟩

theorem find?_known {α : Type} (all : List α) (name : α → String) (word : String) :
    (all.find? (name · == word)).isSome = true ↔ word ∈ all.map name := by
  simp only [List.find?_isSome, beq_iff_eq, List.mem_map]

theorem columnType_known (word : String) :
    (ColumnType.ofName? word).isSome = true ↔ word ∈ Vocabulary.columnType.words :=
  find?_known ColumnType.all ColumnType.name word

theorem constraintKind_known (word : String) :
    (ConstraintKind.ofName? word).isSome = true ↔ word ∈ Vocabulary.constraintKind.words :=
  find?_known ConstraintKind.all ConstraintKind.name word

theorem cardinality_known (word : String) :
    (Cardinality.ofName? word).isSome = true ↔ word ∈ Vocabulary.cardinality.words :=
  find?_known Cardinality.all Cardinality.name word

theorem told_elementType (value : Json) (kind : OrNull IsText value) :
    Told (elementType value)
      (wordProblems .columnType ("" :: Vocabulary.columnType.words) value) := by
  rcases kind with rfl | ⟨word, rfl⟩
  · exact told_ok none
  · by_cases empty : word = ""
    · subst empty
      exact told_ok none
    · have told := (told_member columnType_known (.string word) ⟨word, rfl⟩).map some
      have same : wordProblems .columnType ("" :: Vocabulary.columnType.words) (.string word) =
          wordProblems .columnType Vocabulary.columnType.words (.string word) := by
        simp only [wordProblems, List.mem_cons, empty, false_or]
      rw [same, elementType]
      · exact told
      · exact nofun
      · intro equal
        cases equal
        exact empty rfl

theorem told_reference (value : Json) (kind : OrNull IsTexts value) :
    Told (reference value) (referenceProblems value) := by
  rcases kind with rfl | ⟨members, rfl, texts⟩
  · exact told_ok none
  by_cases empty : members.isEmpty = true
  · rw [List.isEmpty_iff.mp empty]
    exact told_ok none
  rw [referenceProblems, if_neg empty, keyProblems]
  simp only [reference, object, ok_bind, if_neg empty]
  cases found : members.find? fun m => !referenceKeys.contains m.1 with
  | some m =>
    rw [referenceKeys] at found
    rw [found]
    rfl
  | none =>
    rw [referenceKeys] at found
    rw [found]
    cases table : Json.lookup members "table" with
    | none => simp [referenceKeys, table, Told]
    | some first =>
      cases column : Json.lookup members "column" with
      | none => simp [referenceKeys, table, column, Told]
      | some second =>
        obtain ⟨t, rfl⟩ := texts "table" first table
        obtain ⟨c, rfl⟩ := texts "column" second column
        simp [referenceKeys, table, column, Told, text, ok_bind]

end Kinds

section Fields

variable {α : Type} {read : Json → Except DocumentError α} {members : Members} {key : String}
  {kind : Json → Prop} (kinds : ∀ field, Json.lookup members key = some field → kind field)

include kinds

theorem told_required {problems : Json → List DocumentError}
    (each : ∀ value, kind value → Told (read value) (problems value)) :
    Told (required members key read)
      (absent (.object members) key ++ inField (.object members) key problems) := by
  rw [required, absent, inField, field?_object]
  cases found : Json.lookup members key with
  | none => rfl
  | some field => exact each field (kinds field found)

theorem told_optional {problems : Json → List DocumentError}
    (each : ∀ value, kind value → Told (read value) (problems value)) (default : α) :
    Told (optional members key default read) (inField (.object members) key problems) := by
  rw [optional, inField, field?_object]
  cases found : Json.lookup members key with
  | none => exact told_ok default
  | some field => exact each field (kinds field found)

theorem told_named (each : ∀ value, kind value → Told (read value) []) :
    Told (required members key read) (absent (.object members) key) := by
  have told := told_required kinds each
  rwa [inField_silent, List.append_nil] at told

theorem told_silent (each : ∀ value, kind value → Told (read value) []) (default : α) :
    Told (optional members key default read) [] := by
  have told := told_optional kinds each default
  rwa [inField_silent] at told

end Fields

theorem told_listed {α : Type} {read : Json → Except DocumentError α} {kind : Json → Prop}
    {problems : Json → List DocumentError} {members : Members} {key : String}
    (lists : ∀ field, Json.lookup members key = some field → IsList kind field)
    (each : ∀ value, kind value → Told (read value) (problems value)) :
    Told (optional members key [] (items read))
      ((listed (.object members) key).flatMap problems) := by
  rw [optional, listed, field?_object]
  cases found : Json.lookup members key with
  | none => exact told_ok []
  | some field =>
    obtain ⟨values, rfl, all⟩ := lists field found
    exact told_mapM fun item member => each item (all item member)

theorem told_columnConstraint (value : Json) (shape : IsConstraint value) :
    Told (columnConstraint value) (constraintProblems value) := by
  obtain ⟨members, rfl, kinds⟩ := shape
  have kind := told_required (kinds "kind" _ (by simp)) (told_member constraintKind_known)
  have expression := told_silent (kinds "expression" _ (by simp)) (told_orNull told_text)
  have value := told_silent (kinds "value" _ (by simp)) (told_orNull told_text)
  have whole := kind.bind fun kind => (expression none).bind fun expression =>
    (value none).bind fun value => told_ok ({ kind, expression, value } : ColumnConstraint)
  simp only [List.append_nil] at whole
  exact whole

theorem told_column (value : Json) (shape : IsColumn value) :
    Told (column value) (columnProblems value) := by
  obtain ⟨members, rfl, kinds⟩ := shape
  have name := told_named (kinds "name" _ (by simp)) told_text
  have type := told_optional (kinds "type" _ (by simp)) (told_member columnType_known) .varchar
  have id := told_silent (kinds "id" _ (by simp)) told_text ""
  have length := told_silent (kinds "length" _ (by simp)) (told_orNull told_whole) none
  have scale := told_silent (kinds "scale" _ (by simp)) (told_orNull told_whole) none
  have nullable := told_silent (kinds "nullable" _ (by simp)) told_flag true
  have primaryKey := told_silent (kinds "primary_key" _ (by simp)) told_flag false
  have unique := told_silent (kinds "unique" _ (by simp)) told_flag false
  have references := told_optional (kinds "references" _ (by simp)) told_reference none
  have constraints := told_listed (kinds "constraints" _ (by simp)) told_columnConstraint
  have values := told_silent (kinds "values" _ (by simp)) told_texts []
  have elementType := told_optional (kinds "element_type" _ (by simp)) told_elementType none
  have whole := name.bind fun name => type.bind fun type => id.bind fun id =>
    length.bind fun length => scale.bind fun scale => nullable.bind fun nullable =>
    primaryKey.bind fun primaryKey => unique.bind fun unique =>
    references.bind fun references => constraints.bind fun constraints =>
    values.bind fun values => elementType.bind fun elementType =>
    told_ok ({ name, type, id, length, scale, nullable, primaryKey, unique, references,
               constraints, values, elementType } : Column)
  simp only [List.nil_append, List.append_nil, ← List.append_assoc] at whole
  exact whole

theorem told_table (value : Json) (shape : IsTable value) :
    Told (table value) (tableProblems value) := by
  obtain ⟨members, rfl, kinds⟩ := shape
  have name := told_named (kinds "name" _ (by simp)) told_text
  have id := told_silent (kinds "id" _ (by simp)) told_text ""
  have columns := told_listed (kinds "columns" _ (by simp)) told_column
  have whole := name.bind fun name => id.bind fun id => columns.bind fun columns =>
    told_ok ({ name, columns, id } : Table)
  simp only [List.nil_append, List.append_nil] at whole
  exact whole

theorem told_edge (value : Json) (shape : IsEdge value) :
    Told (edge value) (edgeProblems value) := by
  obtain ⟨members, rfl, kinds⟩ := shape
  have id := told_named (kinds "id" _ (by simp)) told_text
  have source := told_named (kinds "source" _ (by simp)) told_text
  have target := told_named (kinds "target" _ (by simp)) told_text
  have cardinality := told_optional (kinds "relationship_type" _ (by simp))
    (told_member cardinality_known) .oneToMany
  have sourceColumn := told_silent (kinds "source_column" _ (by simp)) (told_orNull told_text) none
  have targetColumn := told_silent (kinds "target_column" _ (by simp)) (told_orNull told_text) none
  have whole := id.bind fun id => source.bind fun source => target.bind fun target =>
    cardinality.bind fun cardinality => sourceColumn.bind fun sourceColumn =>
    targetColumn.bind fun targetColumn =>
    told_ok ({ id, source, target, cardinality, sourceColumn, targetColumn } : Edge)
  simp only [List.append_nil, ← List.append_assoc] at whole
  exact whole

theorem told_schema (value : Json) (shape : IsDocument value) :
    Told (schema value) (problems value) := by
  obtain ⟨members, rfl, kinds⟩ := shape
  have tables := told_listed (kinds "tables" _ (by simp)) told_table
  have edges := told_listed (kinds "edges" _ (by simp)) told_edge
  have dialect := told_silent (kinds "dialect" _ (by simp)) told_text "mysql"
  have whole := tables.bind fun tables => edges.bind fun edges => dialect.bind fun dialect =>
    told_ok ({ tables, edges, dialect } : Schema)
  simp only [List.append_nil] at whole
  exact whole

def Has (value : Json) (key : String) : Prop := (field? value key).isSome = true

def Draws (value : Json) (key : String) (allowed : List String) : Prop :=
  ∀ word, field? value key = some (.string word) → word ∈ allowed

def Refers (value : Json) : Prop :=
  ∀ members, field? value "references" = some (.object members) → members ≠ [] →
    ∀ key, (Json.lookup members key).isSome = true ↔ key ∈ referenceKeys

structure CompleteConstraint (value : Json) : Prop where
  named : Has value "kind"
  kind : Draws value "kind" Vocabulary.constraintKind.words

structure CompleteColumn (value : Json) : Prop where
  named : Has value "name"
  type : Draws value "type" Vocabulary.columnType.words
  references : Refers value
  constraints : ∀ c ∈ listed value "constraints", CompleteConstraint c
  elementType : Draws value "element_type" ("" :: Vocabulary.columnType.words)

structure CompleteTable (value : Json) : Prop where
  named : Has value "name"
  columns : ∀ c ∈ listed value "columns", CompleteColumn c

structure CompleteEdge (value : Json) : Prop where
  named : Has value "id"
  source : Has value "source"
  target : Has value "target"
  cardinality : Draws value "relationship_type" Vocabulary.cardinality.words

structure Complete (value : Json) : Prop where
  tables : ∀ t ∈ listed value "tables", CompleteTable t
  edges : ∀ e ∈ listed value "edges", CompleteEdge e

theorem absent_eq_nil {value : Json} {key : String} : absent value key = [] ↔ Has value key := by
  rw [absent, Has]
  cases field? value key <;> simp

theorem inField_word_eq_nil {value : Json} {key : String} {vocabulary : Vocabulary}
    {allowed : List String} :
    inField value key (wordProblems vocabulary allowed) = [] ↔ Draws value key allowed := by
  rw [inField, Draws]
  cases field? value key with
  | none => simp
  | some field => cases field <;> simp [wordProblems]

theorem isSome_lookup (members : Members) (key : String) :
    (Json.lookup members key).isSome = true ↔ ∃ m ∈ members, m.1 = key := by
  simp [Json.lookup, List.find?_isSome]

theorem keyProblems_eq_nil {members : Members} : keyProblems members = [] ↔
    ∀ key, (Json.lookup members key).isSome = true ↔ key ∈ referenceKeys := by
  have none_else : (members.find? fun m => !referenceKeys.contains m.1) = none ↔
      ∀ key, (Json.lookup members key).isSome = true → key ∈ referenceKeys := by
    simp only [List.find?_eq_none, isSome_lookup]
    constructor
    · rintro none_else _ ⟨m, member, rfl⟩
      simpa using none_else m member
    · intro none_else m member
      simpa using none_else m.1 ⟨m, member, rfl⟩
  have none_missing : (referenceKeys.filter fun key => (Json.lookup members key).isNone) = [] ↔
      ∀ key ∈ referenceKeys, (Json.lookup members key).isSome = true := by
    simp [List.filter_eq_nil_iff, Option.isSome_iff_ne_none]
  simp only [iff_iff_implies_and_implies, forall_and, ← none_else, ← none_missing]
  rw [keyProblems]
  cases members.find? fun m => !referenceKeys.contains m.1 with
  | some m => simp
  | none => cases referenceKeys.filter fun key => (Json.lookup members key).isNone <;> simp

theorem inField_reference_eq_nil {value : Json} :
    inField value "references" referenceProblems = [] ↔ Refers value := by
  rw [inField, Refers]
  cases field? value "references" with
  | none => simp
  | some field => cases field <;> simp [referenceProblems, keyProblems_eq_nil]

theorem constraintProblems_eq_nil {value : Json} :
    constraintProblems value = [] ↔ CompleteConstraint value := by
  rw [constraintProblems, List.append_eq_nil_iff, absent_eq_nil, inField_word_eq_nil]
  exact ⟨fun ⟨named, kind⟩ => ⟨named, kind⟩, fun c => ⟨c.named, c.kind⟩⟩

theorem columnProblems_eq_nil {value : Json} :
    columnProblems value = [] ↔ CompleteColumn value := by
  simp only [columnProblems, List.append_eq_nil_iff, List.flatMap_eq_nil_iff, absent_eq_nil,
    inField_word_eq_nil, inField_reference_eq_nil, constraintProblems_eq_nil]
  exact ⟨fun ⟨⟨⟨⟨named, type⟩, references⟩, constraints⟩, elementType⟩ =>
    ⟨named, type, references, constraints, elementType⟩,
    fun c => ⟨⟨⟨⟨c.named, c.type⟩, c.references⟩, c.constraints⟩, c.elementType⟩⟩

theorem tableProblems_eq_nil {value : Json} : tableProblems value = [] ↔ CompleteTable value := by
  simp only [tableProblems, List.append_eq_nil_iff, List.flatMap_eq_nil_iff, absent_eq_nil,
    columnProblems_eq_nil]
  exact ⟨fun ⟨named, columns⟩ => ⟨named, columns⟩, fun t => ⟨t.named, t.columns⟩⟩

theorem edgeProblems_eq_nil {value : Json} : edgeProblems value = [] ↔ CompleteEdge value := by
  simp only [edgeProblems, List.append_eq_nil_iff, absent_eq_nil, inField_word_eq_nil]
  exact ⟨fun ⟨⟨⟨named, source⟩, target⟩, cardinality⟩ => ⟨named, source, target, cardinality⟩,
    fun e => ⟨⟨⟨e.named, e.source⟩, e.target⟩, e.cardinality⟩⟩

theorem problems_eq_nil {value : Json} : problems value = [] ↔ Complete value := by
  simp only [problems, List.append_eq_nil_iff, List.flatMap_eq_nil_iff, tableProblems_eq_nil,
    edgeProblems_eq_nil]
  exact ⟨fun ⟨tables, edges⟩ => ⟨tables, edges⟩, fun d => ⟨d.tables, d.edges⟩⟩

section Documented

variable {value : Json} {e : DocumentError}

theorem isDocumented_absent {key : String} (found : e ∈ absent value key) : e.IsDocumented := by
  rw [absent] at found
  split at found
  · rw [List.mem_singleton.mp found]
    trivial
  · cases found

theorem isDocumented_word {key : String} {vocabulary : Vocabulary} {allowed : List String}
    (found : e ∈ inField value key (wordProblems vocabulary allowed)) : e.IsDocumented := by
  rw [inField] at found
  split at found
  · unfold wordProblems at found
    split at found
    · split at found
      · cases found
      · rw [List.mem_singleton.mp found]
        trivial
    · cases found
  · cases found

theorem not_isDocumented_key {members : Members} (found : e ∈ keyProblems members) :
    ¬ e.IsDocumented := by
  rw [keyProblems] at found
  split at found
  · rw [List.mem_singleton.mp found]
    exact id
  · split at found
    · cases found
    · rw [List.mem_singleton.mp found]
      exact id

theorem not_isDocumented_reference
    (found : e ∈ inField value "references" referenceProblems) : ¬ e.IsDocumented := by
  rw [inField] at found
  split at found
  · unfold referenceProblems at found
    split at found
    · split at found
      · cases found
      · exact not_isDocumented_key found
    · cases found
  · cases found

theorem isDocumented_constraint (found : e ∈ constraintProblems value) : e.IsDocumented := by
  rw [constraintProblems, List.mem_append] at found
  exact found.elim isDocumented_absent isDocumented_word

theorem isDocumented_edge (found : e ∈ edgeProblems value) : e.IsDocumented := by
  simp only [edgeProblems, List.mem_append] at found
  rcases found with ((found | found) | found) | found
  · exact isDocumented_absent found
  · exact isDocumented_absent found
  · exact isDocumented_absent found
  · exact isDocumented_word found

theorem isDocumented_column (found : e ∈ columnProblems value) :
    e.IsDocumented ∨ e ∈ inField value "references" referenceProblems := by
  simp only [columnProblems, List.mem_append, List.mem_flatMap] at found
  rcases found with (((found | found) | found) | ⟨c, -, found⟩) | found
  · exact .inl (isDocumented_absent found)
  · exact .inl (isDocumented_word found)
  · exact .inr found
  · exact .inl (isDocumented_constraint found)
  · exact .inl (isDocumented_word found)

theorem isDocumented_table (found : e ∈ tableProblems value) : e.IsDocumented ∨
    ∃ c ∈ listed value "columns", e ∈ inField c "references" referenceProblems := by
  rw [tableProblems, List.mem_append, List.mem_flatMap] at found
  rcases found with found | ⟨c, member, found⟩
  · exact .inl (isDocumented_absent found)
  · exact (isDocumented_column found).imp_right fun reference => ⟨c, member, reference⟩

theorem not_isDocumented_iff (found : e ∈ problems value) : ¬ e.IsDocumented ↔
    ∃ t ∈ listed value "tables", ∃ c ∈ listed t "columns",
      e ∈ inField c "references" referenceProblems := by
  constructor
  · intro undocumented
    rw [problems, List.mem_append, List.mem_flatMap, List.mem_flatMap] at found
    rcases found with ⟨t, member, found⟩ | ⟨edge, -, found⟩
    · exact ⟨t, member, (isDocumented_table found).resolve_left undocumented⟩
    · exact absurd (isDocumented_edge found) undocumented
  · rintro ⟨t, -, c, -, reference⟩
    exact not_isDocumented_reference reference

end Documented

end Document

open Document in
/-- A document is read exactly if it is complete, and otherwise its first problem is the error,
whatever fields it has that are not known. The errors that are not documented are those in
references. -/
theorem Schema.ofJson_firstProblem {value : Json} (kinds : IsDocument value) :
    ((∃ s, ofJson value = .ok s) ↔ Complete value) ∧
      (∀ e, ofJson value = .error e ↔ (problems value).head? = some e) ∧
      (∀ e, ofJson value = .error e → (¬ e.IsDocumented ↔
        ∃ t ∈ listed value "tables", ∃ c ∈ listed t "columns",
          e ∈ inField c "references" referenceProblems)) ∧
      ofJson (Fields.ofSchema.part value) = ofJson value := by
  have told := told_schema value kinds
  refine ⟨told.ok_iff.trans problems_eq_nil, fun e => told.error_iff, fun e failed => ?_,
    Fields.schema_part value⟩
  exact not_isDocumented_iff (List.mem_of_head? (told.error_iff.mp failed))

namespace Document

def namelessColumn : Json :=
  .object
    [("tables", .array [.object
      [("name", .string "users"), ("comment", .string "all of them"),
       ("columns", .array [.object [("type", .string "MONEY"), ("length", .int 8)]])]]),
     ("edges", .array [.object []])]

theorem namelessColumn_firstProblem :
    IsDocument namelessColumn ∧ Schema.ofJson namelessColumn = .error (.missingKey "name") := by
  have kinds : IsDocument namelessColumn := by
    simp [IsDocument, IsTable, IsColumn, IsEdge, isRecord_object, IsList, IsText, IsWhole, OrNull,
      namelessColumn, Json.lookup]
  exact ⟨kinds, ((Schema.ofJson_firstProblem kinds).2.1 _).mpr rfl⟩

def halfReference : Json :=
  .object
    [("tables", .array [.object
      [("name", .string "t"),
       ("columns", .array [.object
         [("name", .string "c"), ("references", .object [("table", .string "u")])]])]])]

theorem halfReference_undocumented :
    IsDocument halfReference ∧
      Schema.ofJson halfReference = .error (.missingReferenceKeys ["column"]) ∧
      ¬ (DocumentError.missingReferenceKeys ["column"]).IsDocumented := by
  have kinds : IsDocument halfReference := by
    simp [IsDocument, IsTable, IsColumn, isRecord_object, IsList, IsTexts, IsText, OrNull,
      halfReference, Json.lookup]
  exact ⟨kinds, rfl, id⟩

end Document

end RelSchema
