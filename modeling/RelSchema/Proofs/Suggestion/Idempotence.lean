import RelSchema.Proofs.Suggestion.JoinTables
import RelSchema.Proofs.Words

namespace RelSchema

theorem Table.column?_map_name (t : Table) (wanted : String) :
    (t.column? wanted).map (·.name) =
      (t.columns.map (·.name)).find? fun name => Text.sameName name wanted := by
  rw [column?, List.find?_map]
  rfl

theorem Schema.table?_name {s : Schema} {name : String} {t : Table}
    (found : s.table? name = some t) : s.table? t.name = some t := by
  rw [table?] at found ⊢
  have same : Text.sameName t.name name = true := by simpa using List.find?_some found
  simpa only [Text.sameName, sameName_iff.mp same] using found

namespace Suggestion

section Relinked

variable (s : Schema) (source target : Table) (link : Link)

theorem setReference_map {β : Type} {f : Column → β} {r : Reference}
    (blind : ∀ c : Column, f { c with references := some r } = f c) (name : String)
    (columns : List Column) : (setReference name r columns).map f = columns.map f := by
  induction columns with
  | nil => rfl
  | cons c rest ih =>
    unfold setReference
    split
    · simp [blind]
    · simp [ih]

theorem setReference_find? (name : String) (r : Reference) (columns : List Column) :
    (setReference name r columns).find? (fun c => Text.sameName c.name name) =
      (columns.find? fun c => Text.sameName c.name name).map fun c =>
        { c with references := some r } := by
  induction columns with
  | nil => rfl
  | cons c rest ih =>
    unfold setReference
    by_cases own : Text.sameName c.name name = true
    · simp [own]
    · simp [own, ih]

theorem relinked_column? :
    ∃ c, (relinked s source target link).column? (linkName source link) = some c ∧
      c.isForeignKey = true := by
  unfold relinked linkedColumns
  simp only [Table.column?]
  cases found : target.columns.find? fun c => Text.sameName c.name (linkName source link) with
  | none =>
    simp only [List.find?_append, found, Option.none_or]
    exact ⟨_, List.find?_cons_of_pos (sameName_self _), rfl⟩
  | some c =>
    simp only [setReference_find?, found]
    exact ⟨_, rfl, rfl⟩

theorem relinked_column?_name {wanted : String}
    (other : (target.column? wanted).isSome ∨
      Text.sameName (linkName source link) wanted = false) :
    ((relinked s source target link).column? wanted).map (·.name) =
      (target.column? wanted).map (·.name) := by
  have before := target.column?_map_name wanted
  rw [Table.column?_map_name]
  unfold relinked linkedColumns
  cases found : target.column? (linkName source link) with
  | some c => rw [setReference_map (fun _ => rfl), before]
  | none =>
    simp only [List.map_append, List.find?_append, ← before]
    rcases other with old | other
    · obtain ⟨c, old⟩ := Option.isSome_iff_exists.mp old
      rw [old]
      rfl
    · have none : [linkName source link].find? (fun name => Text.sameName name wanted) = none := by
        simp [other]
      exact (congrArg _ none).trans Option.or_none

theorem relinked_primaryKey (plain : link.primaryKey = false) :
    (relinked s source target link).primaryKey.map (·.name) = target.primaryKey.map (·.name) := by
  have names (columns : List Column) : (columns.filter (·.primaryKey)).map (·.name) =
      ((columns.map fun c => (c.primaryKey, c.name)).filter (·.1)).map (·.2) := by
    rw [List.filter_map, List.map_map]
    rfl
  unfold relinked linkedColumns Table.primaryKey
  simp only
  split
  · simp [newColumn, plain]
  · rw [names, names, setReference_map (fun _ => rfl)]

end Relinked

theorem referencedKey_name_eq (t : Table) (asked : Option String) :
    (referencedKey t asked).name =
      ((asked.bind fun name => if name.isEmpty then none else (t.column? name).map (·.name)).or
        ((t.primaryKey.map (·.name)).head?.or ((t.column? "id").map (·.name)))).getD "id" := by
  unfold referencedKey
  rw [List.head?_map]
  cases asked with
  | none => cases t.primaryKey.head? <;> cases t.column? "id" <;> rfl
  | some name =>
    simp only [Option.bind_some]
    split
    · cases t.primaryKey.head? <;> cases t.column? "id" <;> rfl
    · cases t.column? name <;> cases t.primaryKey.head? <;> cases t.column? "id" <;> rfl

theorem sameName_linked (first second : String) :
    Text.sameName s!"{first}_{second}" "id" = false := by
  have underscore : Text.isCaseIgnorable '_' = false ∧ Text.isCased '_' = false := by
    decide +kernel
  have small : ∀ before after, Text.lowerChar before '_' after = ['_'] := fun _ _ => rfl
  have chars : (s!"{first}_{second}").toList = first.toList ++ '_' :: second.toList := by
    change (first ++ "_" ++ second).toList = _
    simp
  have within : '_' ∈ (Text.lower s!"{first}_{second}").toList := by
    rw [Text.lower, chars, String.toList_ofList,
      Text.lowerFrom_append underscore.1 underscore.2, Text.lowerFrom, small]
    simp
  have without : '_' ∉ (Text.lower "id").toList := by decide
  rw [Text.sameName, beq_eq_false_iff_ne]
  intro same
  exact without (same ▸ within)

section SelfReference

variable (s : Schema) {t : Table} {link : Link} (plain : link.primaryKey = false)
  (named : ∀ name ∈ link.sourceColumn, (t.column? name).isSome)

include plain named

/-- A foreign key of a table to itself is not taken for the key that it refers to. -/
theorem referencedKey_relinked (apart : Text.sameName (linkName t link) "id" = false) :
    (referencedKey (relinked s t t link) link.sourceColumn).name =
      (referencedKey t link.sourceColumn).name := by
  have asked : (link.sourceColumn.bind fun name =>
        if name.isEmpty then none else ((relinked s t t link).column? name).map (·.name)) =
      link.sourceColumn.bind fun name =>
        if name.isEmpty then none else (t.column? name).map (·.name) := by
    cases wanted : link.sourceColumn with
    | none => rfl
    | some name =>
      have same := relinked_column?_name s t t link (.inl (named name wanted))
      simp only [Option.bind_some, same]
  have byId := relinked_column?_name s t t link (.inr apart)
  rw [referencedKey_name_eq, referencedKey_name_eq, asked, relinked_primaryKey s t t link plain,
    byId]

theorem linkName_relinked : linkName (relinked s t t link) link = linkName t link := by
  have own : (relinked s t t link).name = t.name := rfl
  cases free : link.targetColumn.filter (!·.isEmpty) with
  | some name => simp [linkName, keyColumnName, free]
  | none =>
    have given : linkName t link =
        s!"{Text.lower (singularize t.name)}_{(referencedKey t link.sourceColumn).name}" := by
      simp [linkName, keyColumnName, free]
    have key := referencedKey_relinked s plain named (given ▸ sameName_linked ..)
    simp [linkName, keyColumnName, free, key, own]

end SelfReference

section Again

variable {s r : Schema}

theorem placeOf?_congr (names : r.tables.map (·.name) = s.tables.map (·.name)) (name : String) :
    placeOf? r name = placeOf? s name := by
  have byNames (s : Schema) :
      placeOf? s name =
        (s.tables.map (·.name)).findIdx? fun other => Text.sameName other name := by
    rw [placeOf?, List.findIdx?_map]
    rfl
  rw [byNames, byNames, names]

theorem table?_replaced {before after : List Table} {t t' : Table}
    (tables : s.tables = before ++ t :: after) (tables' : r.tables = before ++ t' :: after)
    (same : t'.name = t.name) {name : String} {found : Table} (there : s.table? name = some found) :
    r.table? name = some found ∨ found = t ∧ r.table? name = some t' := by
  rw [Schema.table?, tables, List.find?_append, List.find?_cons] at there
  rw [Schema.table?, tables', List.find?_append, List.find?_cons, same]
  cases first : before.find? fun t => Text.sameName t.name name with
  | some other => exact .inl (by simpa [first] using there)
  | none =>
    cases named : Text.sameName t.name name with
    | false => exact .inl (by simpa [first, named] using there)
    | true =>
      rw [first, named] at there
      exact .inr ⟨(Option.some.inj there).symm, rfl⟩

theorem applyTo_relinked {x : Suggestion} (few : x.cardinality ≠ .manyToMany)
    {source target : Table} {place : Nat} (first : s.table? x.source = some source)
    (second : s.table? x.target = some target) (placed : placeOf? s x.target = some place)
    (inside : s.tables[place]? = some target)
    (named : ∀ name ∈ x.sourceColumn, (source.column? name).isSome)
    (tables : r.tables = s.tables.set place (relinked s source target x.link)) :
    (x.applyTo r).1 = r := by
  obtain ⟨before, after, whole, replaced⟩ := split_at inside
  have tables' : r.tables = before ++ relinked s source target x.link :: after := by
    rw [tables, replaced]
  have names : r.tables.map (·.name) = s.tables.map (·.name) := by
    rw [tables', whole, List.map_append, List.map_append]
    rfl
  have placed' : placeOf? r x.target = some place := by rw [placeOf?_congr names, placed]
  have inside' : r.tables[place]? = some (relinked s source target x.link) := by
    have less := (List.getElem?_eq_some_iff.mp inside).1
    rw [tables, List.getElem?_set_self less]
  obtain ⟨target', second'⟩ : ∃ t, r.table? x.target = some t := by
    rcases table?_replaced whole tables' rfl second with same | ⟨-, edited⟩
    · exact ⟨_, same⟩
    · exact ⟨_, edited⟩
  obtain ⟨c, taken, key⟩ := relinked_column? s source target x.link
  rcases table?_replaced whole tables' rfl first with same | ⟨rfl, edited⟩
  · rw [applyTo_link few same second' placed']
    exact addForeignKey_taken place inside' taken key
  · rw [← linkName_relinked s rfl named] at taken
    rw [applyTo_link few edited second' placed']
    exact addForeignKey_taken place inside' taken key

theorem addJoinTable_known {a b : Table} (known : (s.table? (joinTableName a b)).isSome) :
    (addJoinTable s a b).1 = s := by
  obtain ⟨t, found⟩ := Option.isSome_iff_exists.mp known
  simp only [addJoinTable, found]

theorem applyTo_joined {x : Suggestion} (many : x.cardinality = .manyToMany) {a b : Table}
    (first : s.table? x.source = some a) (second : s.table? x.target = some b)
    (absent : s.table? (joinTableName a b) = none) :
    (x.applyTo (addJoinTable s a b).1).1 = (addJoinTable s a b).1 := by
  obtain ⟨joining, -, tables, -⟩ :=
    addJoinTable_sides absent (Schema.table?_name first) (Schema.table?_name second)
  obtain ⟨t, member, named⟩ := addJoinTable_joined s a b
  have name : t.name = joinTableName a b := by simpa [joiningName, absent] using named
  rw [applyTo_join many (table?_append tables first) (table?_append tables second)]
  apply addJoinTable_known
  rw [Schema.table?, List.find?_isSome]
  exact ⟨t, member, name ▸ sameName_self _⟩

end Again

/-- To put a suggestion into effect again changes nothing, if the key column that it names is one of
its source. -/
theorem applyTo_idempotent (s : Schema) (x : Suggestion)
    (named : ∀ name ∈ x.sourceColumn, ∀ source ∈ s.table? x.source,
      (source.column? name).isSome) :
    (x.applyTo (x.applyTo s).1).1 = (x.applyTo s).1 := by
  cases first : s.table? x.source with
  | none => simp [applyTo, first]
  | some source =>
    cases second : s.table? x.target with
    | none => simp [applyTo, first, second]
    | some target =>
      by_cases many : x.cardinality = .manyToMany
      · rw [applyTo_join many first second]
        cases known : s.table? (joinTableName source target) with
        | none => exact applyTo_joined many first second known
        | some t =>
          have unchanged := addJoinTable_known (s := s) (by rw [known]; rfl)
          rw [unchanged, applyTo_join many first second, unchanged]
      · obtain ⟨place, placed, inside⟩ := placeOf?_found second
        have applied := applyTo_link many first second placed
        rcases addForeignKey_cases inside source x.link with ⟨-, unchanged⟩ | ⟨-, changed⟩
        · rw [applied, unchanged, applied, unchanged]
        · rw [applied]
          exact applyTo_relinked many first second placed inside
            (fun name asked => named name asked source first) (by rw [changed])

def staffSchema : Schema :=
  { tables := [namedTable "staff" [{ name := "Code", type := .varchar, length := some 8 }]] }

def managerSuggestion : Suggestion :=
  { id := "s", source := "Staff", target := "STAFF", cardinality := .oneToOne,
    sourceColumn := some "CODE" }

theorem managerSuggestion_idempotent :
    (∀ name ∈ managerSuggestion.sourceColumn,
      ∀ source ∈ staffSchema.table? managerSuggestion.source, (source.column? name).isSome) ∧
    (managerSuggestion.applyTo (managerSuggestion.applyTo staffSchema).1).1 =
      (managerSuggestion.applyTo staffSchema).1 := by
  have named : ∀ name ∈ managerSuggestion.sourceColumn,
      ∀ source ∈ staffSchema.table? managerSuggestion.source, (source.column? name).isSome := by
    decide +kernel
  exact ⟨named, applyTo_idempotent staffSchema managerSuggestion named⟩

example :
    let s : Schema := { tables := [namedTable "staff" [idColumn]] }
    let x : Suggestion :=
      { id := "s", source := "staff", target := "staff", cardinality := .oneToMany,
        sourceColumn := some "staff_id" }
    (x.applyTo (x.applyTo s).1).1.tables.map (·.columns.map (·.name)) =
      [["id", "staff_id", "staff_staff_id"]] := by
  decide +kernel

end Suggestion

end RelSchema
