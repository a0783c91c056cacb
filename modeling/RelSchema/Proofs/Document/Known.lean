import RelSchema.Schema.Document

namespace RelSchema.Document

theorem ok_bind {α β : Type} (a : α) (f : α → Except DocumentError β) :
    ((.ok a : Except DocumentError α) >>= f) = f a := rfl

/-- The known fields of an object: those that are read whole, and those that hold lists of objects,
with the part of an item that is known. -/
structure Fields where
  whole : List String
  lists : List (String × (Json → Json)) := []

namespace Fields

def eachItem (part : Json → Json) : Json → Json
  | .array items => .array (items.map part)
  | value => value

def keep? (known : Fields) (m : String × Json) : Option (String × Json) :=
  if m.1 ∈ known.whole then some m
  else (known.lists.lookup m.1).map fun part => (m.1, eachItem part m.2)

def keepMembers (known : Fields) (members : Members) : Members := members.filterMap known.keep?

def part (known : Fields) : Json → Json
  | .object members => .object (known.keepMembers members)
  | value => value

def ofConstraint : Fields where
  whole := ["kind", "expression", "value"]

def ofColumn : Fields where
  whole := ["name", "type", "id", "length", "scale", "nullable", "primary_key", "unique",
    "references", "values", "element_type"]
  lists := [("constraints", ofConstraint.part)]

def ofTable : Fields where
  whole := ["name", "id"]
  lists := [("columns", ofColumn.part)]

def ofEdge : Fields where
  whole := ["id", "source", "target", "relationship_type", "source_column", "target_column"]

def ofSchema : Fields where
  whole := ["dialect"]
  lists := [("tables", ofTable.part), ("edges", ofEdge.part)]

section Keep

variable {α : Type} {known : Fields} {key : String}

theorem lookup_keep {change : Json → Json}
    (kept : ∀ value, known.keep? (key, value) = some (key, change value)) (members : Members) :
    Json.lookup (known.keepMembers members) key = (Json.lookup members key).map change := by
  have named (m m' : String × Json) (some : known.keep? m = some m') : m'.1 = m.1 := by
    unfold keep? at some
    split at some
    · cases some
      rfl
    · obtain ⟨part, -, rfl⟩ := Option.map_eq_some_iff.mp some
      rfl
  unfold Json.lookup keepMembers
  rw [← List.filterMap_reverse]
  -- The last member with a key counts, so the members are gone through from the end.
  induction members.reverse with
  | nil => rfl
  | cons m rest ih =>
    by_cases same : m.1 = key
    · have first := kept m.2
      rw [← same] at first
      simp [← same, first]
    · cases found : known.keep? m with
      | none => simpa [same, found] using ih
      | some other =>
        have other := named m other found
        simpa [same, found, other] using ih

theorem lookup_whole (listed : key ∈ known.whole) (members : Members) :
    Json.lookup (known.keepMembers members) key = Json.lookup members key := by
  have kept : Json.lookup (known.keepMembers members) key = (Json.lookup members key).map id :=
    lookup_keep (fun _ => if_pos listed) members
  rwa [Option.map_id, id] at kept

variable (read : Json → Except DocumentError α) (members : Members)

theorem required_whole (listed : key ∈ known.whole) :
    required (known.keepMembers members) key read = required members key read := by
  rw [required, lookup_whole listed, ← required]

theorem optional_whole (listed : key ∈ known.whole) (absent : α) :
    optional (known.keepMembers members) key absent read = optional members key absent read := by
  rw [optional, lookup_whole listed, ← optional]

end Keep

theorem optional_items {α : Type} (known : Fields) (key : String) (members : Members)
    {part : Json → Json} {read : Json → Except DocumentError α}
    (same : ∀ value, read (part value) = read value) (other : key ∉ known.whole)
    (listed : known.lists.lookup key = some part) (absent : List α) :
    optional (known.keepMembers members) key absent (items read) =
      optional members key absent (items read) := by
  have each (value : Json) : items read (eachItem part value) = items read value := by
    cases value with
    | array values =>
      simp only [eachItem, items]
      induction values with
      | nil => rfl
      | cons first rest ih => simp only [List.map_cons, List.mapM_cons, same, ih]
    | _ => rfl
  have kept (value : Json) : known.keep? (key, value) = some (key, eachItem part value) := by
    rw [keep?, if_neg other, listed, Option.map_some]
  rw [optional, lookup_keep kept, optional]
  cases Json.lookup members key with
  | none => rfl
  | some value => exact each value

theorem columnConstraint_part (value : Json) :
    columnConstraint (ofConstraint.part value) = columnConstraint value := by
  cases value with
  | object members =>
    simp (disch := decide) only [part, columnConstraint, object, ok_bind, required_whole,
      optional_whole]
  | _ => rfl

theorem column_part (value : Json) : column (ofColumn.part value) = column value := by
  cases value with
  | object members =>
    have constraints := optional_items ofColumn "constraints" members columnConstraint_part
      (by decide) rfl []
    simp (disch := decide) only [part, column, fields, ok_bind, required_whole, optional_whole,
      constraints]
  | _ => rfl

theorem table_part (value : Json) : table (ofTable.part value) = table value := by
  cases value with
  | object members =>
    have columns := optional_items ofTable "columns" members column_part (by decide) rfl []
    simp (disch := decide) only [part, table, object, ok_bind, required_whole, optional_whole,
      columns]
  | _ => rfl

theorem edge_part (value : Json) : edge (ofEdge.part value) = edge value := by
  cases value with
  | object members =>
    simp (disch := decide) only [part, edge, object, ok_bind, required_whole, optional_whole]
  | _ => rfl

theorem schema_part (value : Json) : schema (ofSchema.part value) = schema value := by
  cases value with
  | object members =>
    have tables := optional_items ofSchema "tables" members table_part (by decide) rfl []
    have edges := optional_items ofSchema "edges" members edge_part (by decide) rfl []
    simp (disch := decide) only [part, schema, fields, ok_bind, optional_whole, tables, edges]
  | _ => rfl

end Fields

end RelSchema.Document
