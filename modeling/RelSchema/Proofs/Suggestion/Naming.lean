import Mathlib.Logic.Function.Iterate
import RelSchema.Proofs.Suggestion.Linking
import RelSchema.Validation

namespace RelSchema

namespace Suggestion

variable {table column : String} {r : Reference}

theorem matchingKey?_linked (referenced : Table) (c : Column) :
    matchingKey? (referenced.linked table column r) c =
      (matchingKey? referenced c).map (Column.linked table column r referenced) := by
  have same : (fun key : Column => key.type == c.type) ∘ Column.linked table column r referenced =
      fun key => key.type == c.type := by
    funext key
    simp
  rw [matchingKey?, Table.linked_primaryKey, List.find?_map, same]
  rfl

theorem ofColumn?_linked (referenced t : Table) (c : Column) :
    ofColumn? (referenced.linked table column r) (t.linked table column r)
        (c.linked table column r t) =
      if t.name = table ∧ c.name = column then none else ofColumn? referenced t c := by
  by_cases named : t.name = table ∧ c.name = column
  · have key : (c.linked table column r t).isForeignKey = true := by
      simp [Column.linked, named, Column.isForeignKey]
    simp [ofColumn?, key, named]
  · have same : c.linked table column r t = c := if_neg named
    have names : keyNames (referenced.linked table column r) = keyNames referenced := rfl
    rw [same, if_neg named, ofColumn?, ofColumn?, names, matchingKey?_linked, Option.map_map]
    simp [Function.comp_def, namingReason]

def isFor (table : String) (column : Option String) (x : Suggestion) : Bool :=
  x.target == table && x.targetColumn == column

theorem ofColumn?_isFor {referenced t : Table} {c : Column} {x : Suggestion}
    (made : ofColumn? referenced t c = some x) :
    x.isFor table (some column) = true ↔ t.name = table ∧ c.name = column := by
  unfold ofColumn? at made
  split at made
  · contradiction
  · obtain ⟨key, -, rfl⟩ := Option.map_eq_some_iff.mp made
    simp [isFor]

theorem ofColumn?_linked_eq_filter (referenced t : Table) (c : Column) :
    ofColumn? (referenced.linked table column r) (t.linked table column r)
        (c.linked table column r t) =
      (ofColumn? referenced t c).filter (!isFor table (some column) ·) := by
  rw [ofColumn?_linked]
  cases made : ofColumn? referenced t c with
  | none => simp
  | some x =>
    simp only [← ofColumn?_isFor made]
    cases own : isFor table (some column) x <;> simp [Option.filter, own]

def columnProposals (tables : List Table) : List Suggestion :=
  (placed tables).flatMap fun (referenced, i) =>
    (placed tables).flatMap fun (t, j) =>
      if i = j then [] else t.columns.filterMap (ofColumn? referenced t)

theorem fromColumnNames_eq (tables : List Table) :
    fromColumnNames tables = number (columnProposals tables) := rfl

theorem columnProposals_linked (tables : List Table) :
    columnProposals (tables.map (Table.linked table column r)) =
      (columnProposals tables).filter (!isFor table (some column) ·) := by
  simp only [columnProposals, placed, List.zipIdx_map, List.flatMap_map, List.filter_flatMap]
  refine List.flatMap_congr fun ⟨referenced, i⟩ _ => List.flatMap_congr fun ⟨t, j⟩ _ => ?_
  simp only [Prod.map, id_eq]
  split
  · rfl
  · rw [List.filter_filterMap, Table.linked_columns, List.filterMap_map]
    exact List.filterMap_congr fun c _ => ofColumn?_linked_eq_filter referenced t c

def unnumbered (x : Suggestion) : Suggestion := { x with id := "" }

theorem number_map_unnumbered (list : List Suggestion) :
    number (list.map unnumbered) = number list := by
  apply List.ext_getElem
  · simp [number]
  · intro i _ _
    simp [number, unnumbered]

theorem map_unnumbered_number (list : List Suggestion) :
    (number list).map unnumbered = list.map unnumbered := by
  apply List.ext_getElem
  · simp [number]
  · intro i _ _
    simp [number, unnumbered]

/-- Numbering before a choice makes no difference, if the choice does not look at the numbers. -/
theorem number_filter_number (list : List Suggestion) {p : Suggestion → Bool}
    (steady : ∀ x, p x.unnumbered = p x) :
    number ((number list).filter p) = number (list.filter p) := by
  have same : p ∘ unnumbered = p := funext steady
  rw [← number_map_unnumbered, ← number_map_unnumbered (list.filter p), ← same,
    ← List.filter_map, ← List.filter_map, map_unnumbered_number]

theorem fromColumnNames_linked (tables : List Table) :
    fromColumnNames (tables.map (Table.linked table column r)) =
      number ((fromColumnNames tables).filter (!isFor table (some column) ·)) := by
  rw [fromColumnNames_eq, fromColumnNames_eq, columnProposals_linked, number_filter_number]
  intro x
  rfl

end Suggestion

namespace Validation

variable {s : Schema} {table column : String} {r : Reference} {e : Edge}

def Fits (s : Schema) (table column : String) (r : Reference) : Prop :=
  ∃ parent key, s.table? r.table = some parent ∧ parent.column? r.column = some key ∧
    ∀ t ∈ s.tables, t.name = table → ∀ c ∈ t.columns, c.name = column → c.type = key.type

theorem fits_of_type (names : s.NamesDiffer) {parent t : Table} {key c : Column}
    (hparent : parent ∈ s.tables) (hkey : key ∈ parent.columns) (member : t ∈ s.tables)
    (own : c ∈ t.columns) (type : c.type = key.type) :
    Fits s t.name c.name ⟨parent.name, key.name⟩ := by
  refine ⟨parent, key, names.tables.find?_eq hparent (sameName_self _),
    (names.columns parent hparent).find?_eq hkey (sameName_self _), ?_⟩
  intro t' member' tableName c' own' columnName
  have same : t' = t := names.tables.eq_of_sameName member' member
    (by rw [tableName, sameName_self])
  subst same
  have same : c' = c := (names.columns t' member).eq_of_sameName own' own
    (by rw [columnName, sameName_self])
  rw [same, type]

theorem keyProblem?_linked (fits : Fits s table column r) {t : Table} (member : t ∈ s.tables)
    {c : Column} (own : c ∈ t.columns) (clear : keyProblem? s t c = none) :
    keyProblem? (s.linked table column r e) (t.linked table column r)
      (c.linked table column r t) = none := by
  by_cases named : t.name = table ∧ c.name = column
  · obtain ⟨parent, key, hparent, hkey, type⟩ := fits
    have refers : (c.linked table column r t).references = some r := by
      simp [Column.linked, named]
    have same := type t member named.1 c own named.2
    simp [keyProblem?, refers, Schema.linked_table?, hparent, Table.linked_column?, hkey, same]
  · have same : c.linked table column r t = c := if_neg named
    rw [same]
    cases refers : c.references with
    | none => simp [keyProblem?, refers]
    | some old =>
      simp only [keyProblem?, refers, Schema.linked_table?, Option.bind_eq_bind,
        Option.bind_some] at clear ⊢
      cases hparent : s.table? old.table with
      | none => simp [hparent] at clear
      | some parent =>
        simp only [hparent, Option.map_some, Table.linked_column?] at clear ⊢
        cases hkey : parent.column? old.column with
        | none => simp [hkey] at clear
        | some key => simpa [hkey] using clear

theorem tableProblems_linked (fits : Fits s table column r) {t : Table} (member : t ∈ s.tables)
    (clear : tableProblems s t = []) :
    tableProblems (s.linked table column r e) (t.linked table column r) = [] := by
  simp only [tableProblems, List.append_eq_nil_iff, List.filterMap_eq_nil_iff] at clear ⊢
  obtain ⟨⟨names, key⟩, columns⟩ := clear
  refine ⟨⟨?_, ?_⟩, ?_⟩
  · simpa [Table.linked_columns, Function.comp_def] using names
  · simpa [Table.linked_primaryKey] using key
  · intro changed inside
    obtain ⟨c, own, rfl⟩ := List.mem_map.mp inside
    exact keyProblem?_linked fits member own (columns c own)

theorem edgeProblems_linked (other : Edge) :
    edgeProblems (s.linked table column r e) other = edgeProblems s other := by
  simp [edgeProblems, Schema.linked_tableById?]

theorem problems_nil (s : Schema) : problems s [] = .ok (structuralProblems s) := rfl

theorem structuralProblems_linked (fits : Fits s table column r) (drawn : edgeProblems s e = [])
    (clear : structuralProblems s = []) : structuralProblems (s.linked table column r e) = [] := by
  simp only [structuralProblems, List.append_eq_nil_iff, List.flatMap_eq_nil_iff] at clear ⊢
  refine ⟨fun changed inside => ?_, fun other inside => ?_⟩
  · obtain ⟨t, member, rfl⟩ := List.mem_map.mp inside
    exact tableProblems_linked fits member (clear.1 t member)
  · rw [edgeProblems_linked]
    rcases List.mem_append.mp inside with old | new
    · exact clear.2 other old
    · rw [List.mem_singleton.mp new]
      exact drawn

end Validation

namespace Suggestion

theorem Proposes.fits {s : Schema} {x : Suggestion} {source target : Table} {key c : Column}
    (names : s.WellNamed) (proposes : x.Proposes s.tables source target key c) :
    Validation.Fits s target.name c.name ⟨source.name, key.name⟩ :=
  Validation.fits_of_type names.toNamesDiffer proposes.source_mem proposes.key_mem
    proposes.target_mem proposes.column_mem proposes.type

theorem edgeProblems_drawnEdge {s : Schema} {source target : Table} (hsource : source ∈ s.tables)
    (htarget : target ∈ s.tables) (key c : Column) :
    Validation.edgeProblems s (drawnEdge s source target key c) = [] := by
  have found {t : Table} (member : t ∈ s.tables) : ∃ other, s.tableById? t.id = some other := by
    rw [← Option.isSome_iff_exists, Schema.tableById?, List.find?_isSome]
    exact ⟨t, member, beq_self_eq_true _⟩
  obtain ⟨parent, hparent⟩ := found hsource
  obtain ⟨child, hchild⟩ := found htarget
  simp [Validation.edgeProblems, drawnEdge, hparent, hchild]

def applyFirst (s : Schema) : Schema :=
  match fromColumnNames s.tables with
  | [] => s
  | x :: _ => (x.applyTo s).1

theorem wellNamed_applied {s : Schema} (names : s.WellNamed) {x : Suggestion}
    (member : x ∈ fromColumnNames s.tables) : (x.applyTo s).1.WellNamed := by
  obtain ⟨source, target, key, c, proposes⟩ := proposes_of_mem member
  rw [applyTo_proposes names proposes]
  exact names.linked _ _ _ _

theorem fromColumnNames_applied {s : Schema} (names : s.WellNamed) {x : Suggestion}
    (member : x ∈ fromColumnNames s.tables) :
    fromColumnNames (x.applyTo s).1.tables =
      number ((fromColumnNames s.tables).filter (!isFor x.target x.targetColumn ·)) := by
  obtain ⟨source, target, key, c, proposes⟩ := proposes_of_mem member
  rw [applyTo_proposes names proposes, proposes.target, proposes.targetColumn]
  exact fromColumnNames_linked s.tables

theorem applyFirst_wellNamed {s : Schema} (names : s.WellNamed) : (applyFirst s).WellNamed := by
  unfold applyFirst
  split
  · exact names
  · rename_i x rest all
    exact wellNamed_applied names (by simp [all])

theorem applyFirst_fewer {s : Schema} (names : s.WellNamed) :
    (fromColumnNames (applyFirst s).tables).length ≤ (fromColumnNames s.tables).length - 1 := by
  cases all : fromColumnNames s.tables with
  | nil => simp [applyFirst, all]
  | cons x rest =>
    have first : applyFirst s = (x.applyTo s).1 := by
      unfold applyFirst
      rw [all]
    have own : x.isFor x.target x.targetColumn = true := by simp [isFor]
    have left := fromColumnNames_applied names (x := x) (by simp [all])
    have fewer := List.length_filter_le (!isFor x.target x.targetColumn ·) rest
    rw [first, left, all]
    simpa [number, own] using fewer

theorem applyFirst_iterate {s : Schema} (names : s.WellNamed) {n : Nat}
    (enough : (fromColumnNames s.tables).length ≤ n) :
    fromColumnNames (applyFirst^[n] s).tables = [] := by
  induction n generalizing s with
  | zero => exact List.eq_nil_of_length_eq_zero (Nat.le_zero.mp enough)
  | succ n ih =>
    have fewer := applyFirst_fewer names
    rw [Function.iterate_succ_apply]
    exact ih (applyFirst_wellNamed names) (by omega)

/-- A suggestion that is put into effect makes one foreign key and one edge, it withdraws the
suggestions for its column and no others, and it brings no problem. So all suggestions are settled
in the end. -/
theorem applied_settles {s : Schema} (names : s.WellNamed) :
    (∀ x ∈ fromColumnNames s.tables,
      (∃ e, (x.applyTo s).1.edges = s.edges ++ [e]) ∧
      (x.applyTo s).1.foreignKeys.length = s.foreignKeys.length + 1 ∧
      fromColumnNames (x.applyTo s).1.tables =
        number ((fromColumnNames s.tables).filter (!isFor x.target x.targetColumn ·)) ∧
      (Validation.problems s [] = .ok [] → Validation.problems (x.applyTo s).1 [] = .ok [])) ∧
    ∃ n, fromColumnNames (applyFirst^[n] s).tables = [] := by
  refine ⟨fun x member => ?_, _, applyFirst_iterate names (Nat.le_refl _)⟩
  have left := fromColumnNames_applied names member
  obtain ⟨source, target, key, c, proposes⟩ := proposes_of_mem member
  have applied := applyTo_proposes names proposes
  refine ⟨⟨drawnEdge s source target key c, by rw [applied]; rfl⟩, ?_, left, fun valid => ?_⟩
  · rw [applied]
    exact Schema.linked_foreignKeys names proposes.target_mem proposes.column_mem proposes.free _ _
  · rw [Validation.problems_nil, Except.ok.injEq] at valid ⊢
    have drawn := edgeProblems_drawnEdge proposes.source_mem proposes.target_mem key c
    rw [applied]
    exact Validation.structuralProblems_linked (proposes.fits names) drawn valid

def ledgerSchema : Schema :=
  { tables :=
      [{ name := "Users", columns := [{ name := "id", type := .int, primaryKey := true }] },
       { name := "logins", columns :=
          [{ name := "id", type := .int, primaryKey := true }, { name := "USER_ID", type := .int },
           { name := "usersid", type := .int }] }] }

theorem ledgerSchema_wellNamed : ledgerSchema.WellNamed :=
  ⟨⟨by decide +kernel, by decide +kernel⟩, by decide⟩

def userIdSuggestion : Suggestion :=
  { id := "suggestion-1", source := "Users", target := "logins", cardinality := .oneToMany,
    confidence := 80, sourceColumn := some "id", targetColumn := some "USER_ID"
    reason := "Column 'logins.USER_ID' matches the name and type of primary key 'Users.id'" }

theorem ledgerSchema_settles :
    Validation.problems (userIdSuggestion.applyTo ledgerSchema).1 [] = .ok [] ∧
      ∃ n, fromColumnNames (applyFirst^[n] ledgerSchema).tables = [] := by
  have settles := applied_settles ledgerSchema_wellNamed
  have member : userIdSuggestion ∈ fromColumnNames ledgerSchema.tables := by decide +kernel
  have valid : Validation.problems ledgerSchema [] = .ok [] := by decide +kernel
  exact ⟨(settles.1 _ member).2.2.2 valid, settles.2⟩

end Suggestion

end RelSchema
