import RelSchema.Proofs.Json.RoundTrip
import RelSchema.Schema.Document

namespace RelSchema

namespace Document

theorem items_array {write : α → Json} {read : Json → Except DocumentError α}
    (each : ∀ a, read (write a) = .ok a) (list : List α) :
    items read (.array (list.map write)) = .ok list := by
  rw [items]
  induction list with
  | nil => rfl
  | cons a rest ih => simp [each, ih, bind, Except.bind, pure, Except.pure]

theorem orNull_text (o : Option String) : orNull text (.ofOption .string o) = .ok o := by
  cases o <;> rfl

theorem orNull_whole (o : Option Int) : orNull whole (.ofOption .int o) = .ok o := by
  cases o <;> rfl

theorem items_strings (list : List String) : items text (.strings list) = .ok list :=
  @items_array _ .string text (fun _ => rfl) list

theorem member_name (vocabulary : Vocabulary) {ofName? : String → Option α} {name : String} {a : α}
    (named : ofName? name = some a) : member vocabulary ofName? (.string name) = .ok a := by
  simp only [member, text, bind, Except.bind, named]

theorem reference_toJson (o : Option Reference) :
    reference (.ofOption Reference.toJson o) = .ok o := by
  cases o <;> rfl

theorem elementType_name (o : Option ColumnType) :
    elementType (.ofOption (fun t => .string t.name) o) = .ok o := by
  cases o with
  | none => rfl
  | some t => cases t <;> rfl

theorem columnConstraint_toJson (k : ColumnConstraint) : columnConstraint k.toJson = .ok k := by
  have kind := member_name .constraintKind (ConstraintKind.ofName?_name k.kind)
  simp [columnConstraint, ColumnConstraint.toJson, object, bind, Except.bind, required, optional,
    Json.lookup, orNull_text, kind]

theorem column_toJson (c : Column) : column c.toJson = .ok c := by
  have type := member_name .columnType (ColumnType.ofName?_name c.type)
  have constraints := items_array columnConstraint_toJson c.constraints
  simp [column, Column.toJson, fields, bind, Except.bind, required, optional, Json.lookup, type,
    constraints, orNull_whole, reference_toJson, items_strings, elementType_name, text, flag]

theorem table_toJson (t : Table) : table t.toJson = .ok t := by
  have columns := items_array column_toJson t.columns
  simp [table, Table.toJson, object, bind, Except.bind, required, optional, Json.lookup, columns,
    text]

theorem edge_toJson (e : Edge) : edge e.toJson = .ok e := by
  have cardinality := member_name .cardinality (Cardinality.ofName?_name e.cardinality)
  simp [edge, Edge.toJson, object, bind, Except.bind, required, optional, Json.lookup, cardinality,
    orNull_text, text]

theorem schema_toJson (s : Schema) : schema s.toJson = .ok s := by
  have tables := items_array table_toJson s.tables
  have edges := items_array edge_toJson s.edges
  simp [schema, Schema.toJson, fields, bind, Except.bind, optional, Json.lookup, tables, edges,
    text]

end Document

namespace Json

theorem whole_ofOption {write : α → Json} (each : ∀ a, Whole (write a)) (o : Option α) :
    Whole (ofOption write o) := by
  cases o with
  | none => exact .null
  | some a => exact each a

theorem whole_list {write : α → Json} (each : ∀ a, Whole (write a)) (list : List α) :
    Whole (array (list.map write)) := by
  refine .array _ fun item member => ?_
  obtain ⟨a, -, rfl⟩ := List.mem_map.mp member
  exact each a

theorem isWritable_ofOption (write : α → Json) (o : Option α) :
    (ofOption write o).isWritable = true ↔ ∀ a ∈ o, (write a).isWritable = true := by
  cases o <;> simp [ofOption, isWritable]

end Json

theorem Reference.whole_toJson (r : Reference) : r.toJson.Whole := by
  refine .object _ ?_
  simp [Json.Whole.string]

theorem ColumnConstraint.whole_toJson (k : ColumnConstraint) : k.toJson.Whole := by
  refine .object _ ?_
  simp [Json.Whole.string, Json.whole_ofOption]

theorem Column.whole_toJson (c : Column) : c.toJson.Whole := by
  refine .object _ ?_
  simp [Json.Whole.string, Json.Whole.int, Json.Whole.bool, Json.whole_ofOption,
    Reference.whole_toJson, Json.strings, Json.whole_list, ColumnConstraint.whole_toJson]

theorem Table.whole_toJson (t : Table) : t.toJson.Whole := by
  refine .object _ ?_
  simp [Json.Whole.string, Json.whole_list, Column.whole_toJson]

theorem Edge.whole_toJson (e : Edge) : e.toJson.Whole := by
  refine .object _ ?_
  simp [Json.Whole.string, Json.whole_ofOption]

theorem Schema.whole_toJson (s : Schema) : s.toJson.Whole := by
  refine .object _ ?_
  simp [Json.Whole.string, Json.whole_list, Table.whole_toJson, Edge.whole_toJson]

def HasText (n : Int) : Prop := n.natAbs.repr.length ≤ Json.maxDigits

def Schema.SizesHaveText (s : Schema) : Prop :=
  ∀ t ∈ s.tables, ∀ c ∈ t.columns, (∀ n ∈ c.length, HasText n) ∧ ∀ n ∈ c.scale, HasText n

theorem Column.isWritable_toJson (c : Column) :
    c.toJson.isWritable = true ↔ (∀ n ∈ c.length, HasText n) ∧ ∀ n ∈ c.scale, HasText n := by
  simp [Column.toJson, Json.isWritable, Json.membersAreWritable, Json.areWritable_iff,
    Json.isWritable_ofOption, HasText, Json.strings, Reference.toJson, ColumnConstraint.toJson]

theorem Schema.isWritable_toJson (s : Schema) : s.toJson.isWritable = true ↔ s.SizesHaveText := by
  simp [Schema.toJson, Table.toJson, Edge.toJson, Json.isWritable, Json.membersAreWritable,
    Json.areWritable_iff, Json.isWritable_ofOption, Column.isWritable_toJson, SizesHaveText]

theorem Schema.write_toJson {s : Schema} (sizes : s.SizesHaveText) (style : Json.Style) :
    s.toJson.write style = .ok (s.toJson.render style) :=
  if_pos (s.isWritable_toJson.mpr sizes)

theorem Schema.write_tooManyDigits {s : Schema} (sizes : ¬ s.SizesHaveText) (style : Json.Style) :
    s.toJson.write style = .error .tooManyDigits :=
  if_neg fun writable => sizes (s.isWritable_toJson.mp writable)

theorem Schema.toText_eq (s : Schema) (style : Json.Style) :
    s.toText style = (s.toJson.write .line).bind fun _ => s.toJson.write style := by
  rw [toText, toDocument]
  cases s.toJson.write .line <;> rfl

/-- A schema has a document that it is read from again, and a text in each style, exactly if every
length and scale is short enough to be converted to text. -/
theorem Schema.restored_iff (s : Schema) :
    ((∃ data, s.toDocument = .ok data ∧ Json.read (data.render .line) = .ok data ∧
        ofJson data = .ok s) ↔ s.SizesHaveText) ∧
      ∀ style, (∃ text, s.toText style = .ok text ∧ ofText text = .ok s) ↔ s.SizesHaveText := by
  have document : ofJson s.toJson = .ok s := Document.schema_toJson s
  by_cases sizes : s.SizesHaveText
  · have written := write_toJson sizes
    have read (style : Json.Style) := Json.read_of_write s.whole_toJson (written style)
    have made : s.toDocument = .ok s.toJson := by
      rw [toDocument, written]
      rfl
    refine ⟨iff_of_true ⟨s.toJson, made, read .line, document⟩ sizes, fun style => ?_⟩
    refine iff_of_true ⟨s.toJson.render style, ?_, ?_⟩ sizes
    · rw [toText_eq, written, written]
      rfl
    · simp only [ofText, read, document]
      rfl
  · have unwritten := write_tooManyDigits sizes
    refine ⟨iff_of_false ?_ sizes, fun style => iff_of_false ?_ sizes⟩
    · rintro ⟨data, made, -⟩
      rw [toDocument, unwritten] at made
      contradiction
    · rintro ⟨text, made, -⟩
      rw [toText_eq, unwritten] at made
      contradiction

def longSizeColumn : Column := { name := "c", length := some (Nat.pow 10 Json.maxDigits : Nat) }

def longSizeSchema : Schema := { tables := [{ name := "t", columns := [longSizeColumn] }] }

theorem longSizeSchema_unwritten :
    longSizeSchema.toDocument = .error .tooManyDigits ∧
      ∀ style, longSizeSchema.toText style = .error .tooManyDigits := by
  have sizes : ¬ longSizeSchema.SizesHaveText := by
    intro fit
    have column := (fit _ List.mem_cons_self _ List.mem_cons_self).1 _ rfl
    rw [HasText, Int.natAbs_natCast] at column
    exact Text.length_repr_pow (by decide) column
  have unwritten := Schema.write_tooManyDigits sizes
  refine ⟨?_, fun style => ?_⟩
  · rw [Schema.toDocument, unwritten]
    rfl
  · rw [Schema.toText_eq, unwritten]
    rfl

end RelSchema
