import RelSchema.Proofs.Suggestion.Structure

namespace RelSchema.Suggestion

structure IsSideKey (r : Schema) (side : Table) (c : Column) : Prop where
  primaryKey : c.primaryKey = true
  notNull : c.nullable = false
  refers : (c.references.bind fun target => r.table? target.table) = some side

structure IsSideEdge (joining side : Table) (e : Edge) : Prop where
  source : e.source = side.id
  target : e.target = joining.id
  cardinality : e.cardinality = .oneToMany

/-- Nothing is new in a schema but one table, with a key column and an edge for each of its sides. -/
def AddsJoin (s r : Schema) (sides : List Table) : Prop :=
  ∃ joining edges, r.tables = s.tables ++ [joining] ∧ r.edges = s.edges ++ edges ∧
    List.Forall₂ (IsSideKey r) sides joining.columns ∧
    List.Forall₂ (IsSideEdge joining) sides edges

theorem AddsJoin.length_eq {s r : Schema} {sides sides' : List Table} (h : AddsJoin s r sides)
    (h' : AddsJoin s r sides') : sides.length = sides'.length := by
  obtain ⟨joining, edges, tables, -, keys, -⟩ := h
  obtain ⟨joining', edges', tables', -, keys', -⟩ := h'
  rw [tables, List.append_cancel_left_eq, List.singleton_inj] at tables'
  rw [keys.length_eq, keys'.length_eq, tables']

def sideName (side : Table) : String := linkName side { primaryKey := true }

theorem isSideKey_newKey {s r : Schema} {side : Table} (found : r.table? side.name = some side) :
    IsSideKey r side (newKey s side { primaryKey := true }) :=
  ⟨rfl, rfl, found⟩

theorem isSideEdge_linkEdge (s : Schema) (side t : Table) {joining : Table}
    (grown : ∃ columns, joining = { t with columns }) :
    IsSideEdge joining side (linkEdge s side t { primaryKey := true }) := by
  obtain ⟨columns, rfl⟩ := grown
  exact ⟨rfl, rfl, rfl⟩

theorem table?_append {s r : Schema} {joining : Table} (tables : r.tables = s.tables ++ [joining])
    {name : String} {t : Table} (found : s.table? name = some t) : r.table? name = some t := by
  rw [Schema.table?, tables, List.find?_append, ← Schema.table?, found]
  rfl

theorem addForeignKey_taken {s : Schema} {t source : Table} {link : Link} (place : Nat) {c : Column}
    (inside : s.tables[place]? = some t) (taken : t.column? (linkName source link) = some c)
    (key : c.isForeignKey = true) : (addForeignKey s source place link).1 = s := by
  rcases addForeignKey_cases inside source link with ⟨-, unchanged⟩ | ⟨free, -⟩
  · exact unchanged
  · rw [taken, Option.filter_eq_none_iff] at free
    exact absurd key (free c rfl)

section

variable {s : Schema} {a b : Table}

theorem addJoinTable_sides (absent : s.table? (joinTableName a b) = none)
    (first : s.table? a.name = some a) (second : s.table? b.name = some b) :
    AddsJoin s (addJoinTable s a b).1
      (if Text.sameName (sideName a) (sideName b) then [a] else [a, b]) := by
  simp only [addJoinTable, absent]
  generalize joined : ({ name := joinTableName a b, id := freshId "table" _ } : Table) = t
  have empty : t.columns = [] := by rw [← joined]
  have missing : t.column? (sideName a) = none := by simp [Table.column?, empty]
  rw [addForeignKey_last s missing, empty, List.nil_append]
  generalize made : newKey { s with tables := s.tables ++ [t] } a { primaryKey := true } = key
  generalize drawn : linkEdge s a t { primaryKey := true } = edge
  have named : key.name = sideName a := by rw [← made]; rfl
  by_cases same : Text.sameName (sideName a) (sideName b) = true
  · have found : ({ t with columns := [key] } : Table).column? (sideName b) = some key := by
      simp [Table.column?, named, same]
    have foreign : key.isForeignKey = true := by rw [← made]; rfl
    have unchanged := addForeignKey_taken s.tables.length
      (s := { s with tables := s.tables ++ [{ t with columns := [key] }],
                     edges := s.edges ++ [edge] }) (by simp) found foreign
    rw [if_pos same, unchanged]
    refine ⟨{ t with columns := [key] }, [edge], rfl, rfl, .cons ?_ .nil, .cons ?_ .nil⟩
    · rw [← made]
      exact isSideKey_newKey (table?_append rfl first)
    · rw [← drawn]
      exact isSideEdge_linkEdge s a t ⟨_, rfl⟩
  · have none : ({ t with columns := [key] } : Table).column? (sideName b) = none := by
      simp [Table.column?, named, same]
    rw [if_neg same, addForeignKey_last { s with edges := s.edges ++ [edge] } none]
    refine ⟨_, [edge, _], rfl, List.append_assoc .., .cons ?_ (.cons ?_ .nil),
      .cons ?_ (.cons ?_ .nil)⟩
    · rw [← made]
      exact isSideKey_newKey (table?_append rfl first)
    · exact isSideKey_newKey (table?_append rfl second)
    · rw [← drawn]
      exact isSideEdge_linkEdge s a t ⟨_, rfl⟩
    · exact isSideEdge_linkEdge _ b _ ⟨_, rfl⟩

end

/-- Where two tables with distinct names are to be joined by a new one, the new table carries both of
them exactly if the columns for the two have different names. If they have the same name, the table
carries the first alone. -/
theorem applied_joins_iff {s : Schema} {x : Suggestion} {a b : Table}
    (distinct : DistinctNames (s.tables.map (·.name))) (many : x.cardinality = .manyToMany)
    (source : s.table? x.source = some a) (target : s.table? x.target = some b)
    (absent : s.table? (joinTableName a b) = none) :
    (AddsJoin s (x.applyTo s).1 [a, b] ↔ Text.sameName (sideName a) (sideName b) = false) ∧
      (Text.sameName (sideName a) (sideName b) = true → AddsJoin s (x.applyTo s).1 [a]) := by
  have ha := List.mem_of_find?_eq_some source
  have hb := List.mem_of_find?_eq_some target
  have sides := addJoinTable_sides absent (distinct.find?_eq ha (sameName_self _))
    (distinct.find?_eq hb (sameName_self _))
  obtain ⟨place, placed, -⟩ := placeOf?_found target
  have applied : x.applyTo s = addJoinTable s a b := by
    simp only [applyTo, source, target, placed, many, ↓reduceIte]
  rw [applied]
  cases same : Text.sameName (sideName a) (sideName b) with
  | true =>
    rw [if_pos same] at sides
    refine ⟨iff_of_false (fun both => ?_) (by decide), fun _ => sides⟩
    exact absurd (both.length_eq sides) (by simp)
  | false =>
    rw [if_neg (by simp [same])] at sides
    exact ⟨iff_of_true sides rfl, fun none => absurd none (by decide)⟩

theorem courseSuggestion_joins :
    AddsJoin courseSchema (courseSuggestion.applyTo courseSchema).1
      [namedTable "students" [idColumn], namedTable "courses" [idColumn]] := by
  have joins := applied_joins_iff (s := courseSchema) (x := courseSuggestion)
    (a := namedTable "students" [idColumn]) (b := namedTable "courses" [idColumn])
    (by decide +kernel) rfl (by decide +kernel) (by decide +kernel) (by decide +kernel)
  exact joins.1.mpr (by decide +kernel)

def orderSchema : Schema :=
  { tables :=
      [namedTable "orders" [{ name := "item_id", type := .int, primaryKey := true }],
       namedTable "order_items" [idColumn]] }

/-- Two columns are wanted under one name, for two tables and for a table with itself. -/
theorem orderSuggestions_halfJoined :
    DistinctNames (orderSchema.tables.map (·.name)) ∧
      (∃ x ∈ fromTableNames orderSchema, x.cardinality = .manyToMany ∧
        ((x.applyTo orderSchema).1.tables.map (·.columns.length)) = [1, 1, 1]) ∧
      ((({ id := "s", source := "orders", target := "orders", cardinality := .manyToMany } :
        Suggestion).applyTo orderSchema).1.tables.map (·.columns.length)) = [1, 1, 1] := by
  decide +kernel

end RelSchema.Suggestion
