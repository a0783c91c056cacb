import RelSchema.Proofs.Suggestion.Naming
import RelSchema.Review

namespace RelSchema

def Schema.setReference (place spot : Nat) (r : Reference) (s : Schema) : Schema :=
  let change (c : Column) : Column := { c with references := some r }
  { s with
    tables := s.tables.modify place fun t => { t with columns := t.columns.modify spot change } }

def Schema.withReference (table column : String) (r : Reference) (s : Schema) : Schema :=
  { s with tables := s.tables.map (Table.linked table column r) }

theorem DistinctNames.modify_eq_map {α : Type} {name : α → String} {list : List α}
    (distinct : DistinctNames (list.map name)) {place : Nat} {a : α} (here : list[place]? = some a)
    {f g : α → α} (own : g a = f a) (keeps : ∀ b, name b ≠ name a → g b = b) :
    list.modify place f = list.map g := by
  obtain ⟨inside, rfl⟩ := List.getElem?_eq_some_iff.mp here
  have split : list.take place ++ list[place] :: list.drop (place + 1) = list := by
    rw [← List.drop_eq_getElem_cons inside, List.take_append_drop]
  have changed := DistinctNames.map_split (split.symm ▸ distinct) keeps
  rw [List.modify_eq_take_cons_drop inside, ← own, ← changed, split]

theorem Schema.setReference_eq {s : Schema} (names : s.NamesDiffer) {place spot : Nat} {t : Table}
    {c : Column} (here : s.tables[place]? = some t) (own : t.columns[spot]? = some c)
    (r : Reference) : s.setReference place spot r = s.withReference t.name c.name r := by
  have changed : t.columns.modify spot (fun c => { c with references := some r }) =
      t.columns.map (Column.linked t.name c.name r t) := by
    refine (names.columns t (List.mem_of_getElem? here)).modify_eq_map own (if_pos ⟨rfl, rfl⟩) ?_
    exact fun b other => if_neg fun both => other both.2
  rw [setReference, withReference]
  congr 1
  refine names.tables.modify_eq_map here ?_ fun b other => Table.linked_other other
  rw [Table.linked, changed]

namespace Validation

def Problem.column? : Problem → Option String
  | missingTable column .. | missingColumn column .. | typeMismatch column .. => some column
  | ruleFailed .. | repeatedColumns _ | noPrimaryKey _ | danglingEdge .. => none

variable {s : Schema} {t : Table}

theorem keyProblem?_column {c : Column} {p : Problem} (found : keyProblem? s t c = some p) :
    p.column? = some c.name := by
  obtain ⟨r, -, found⟩ := Option.bind_eq_some_iff.mp found
  cases hparent : s.table? r.table with
  | none =>
    simp only [hparent] at found
    cases found
    rfl
  | some parent =>
    cases hkey : parent.column? r.column with
    | none =>
      simp only [hparent, hkey] at found
      cases found
      rfl
    | some key =>
      simp only [hparent, hkey] at found
      split at found
      · cases found
      · cases found
        rfl

theorem mem_tableProblems_column {p : Problem} {column : String} (member : p ∈ tableProblems s t)
    (about : p.column? = some column) :
    ∃ c ∈ t.columns, c.name = column ∧ keyProblem? s t c = some p := by
  rcases List.mem_append.mp member with whole | own
  · rcases List.mem_append.mp whole with repeated | unkeyed
    · split at repeated
      · rw [List.mem_singleton.mp repeated] at about
        cases about
      · cases repeated
    · split at unkeyed
      · rw [List.mem_singleton.mp unkeyed] at about
        cases about
      · cases unkeyed
  · obtain ⟨c, inside, found⟩ := List.mem_filterMap.mp own
    rw [keyProblem?_column found, Option.some.injEq] at about
    exact ⟨c, inside, about, found⟩

end Validation

namespace Review

def Finding.isOn (table column : String) (f : Finding) : Bool :=
  f.table == table && f.advice.column? == some column

/-- The advice on missing foreign keys. -/
def keyAdvice (found : List Finding) : List Finding :=
  found.filter fun f => f.advice.area = .missingForeignKey

section Areas

variable (s : Schema) (d : Dialect)

@[simp] theorem keyAdvice_nil : keyAdvice [] = [] := rfl

@[simp] theorem keyAdvice_append (a b : List Finding) :
    keyAdvice (a ++ b) = keyAdvice a ++ keyAdvice b :=
  List.filter_append a b

@[simp] theorem keyAdvice_flatMap {α : Type} (list : List α) (f : α → List Finding) :
    keyAdvice (list.flatMap f) = list.flatMap fun a => keyAdvice (f a) :=
  List.filter_flatMap

theorem keyAdvice_finding (t : Table) (advice : Advice) (action : Option String) :
    keyAdvice [finding t advice action] =
      if advice.area = .missingForeignKey then [finding t advice action] else [] := by
  simp [keyAdvice, finding, List.filter_cons]

theorem keyAdvice_due (t : Table) (advice : Advice) (condition : Bool) (action : Option String) :
    keyAdvice (due condition (finding t advice action)) =
      if advice.area = .missingForeignKey then due condition (finding t advice action) else [] := by
  cases condition with
  | false => simp [due]
  | true => exact keyAdvice_finding t advice action

attribute [local simp] Advice.area

theorem keyAdvice_commonTableFindings : keyAdvice (commonTableFindings s) = [] := by
  rw [commonTableFindings, keyAdvice_flatMap, List.flatMap_eq_nil_iff]
  rintro ⟨name, purpose, expected⟩ -
  simp only
  split
  · rfl
  · rw [keyAdvice, List.filter_map, List.map_eq_nil_iff, List.filter_eq_nil_iff]
    simp [finding]

theorem keyAdvice_indexFindings : keyAdvice (indexFindings s d) = [] := by
  simp only [indexFindings, onColumns, keyAdvice_flatMap, List.flatMap_eq_nil_iff]
  intro t _ c _
  split
  · rfl
  · split
    · simp [keyAdvice_finding]
    · split
      · simp [keyAdvice_finding]
      · simp [keyAdvice_due]

theorem keyAdvice_normalizationFindings : keyAdvice (normalizationFindings s) = [] := by
  simp [normalizationFindings, keyAdvice_due]

theorem keyAdvice_namingFinding (advice : Convention → Advice)
    (other : ∀ v, (advice v).area ≠ .missingForeignKey) (t : Table) (dominant : Option Convention)
    (name : String) : keyAdvice (namingFinding t dominant name advice) = [] := by
  cases dominant with
  | none => rfl
  | some v => exact (keyAdvice_due _ _ _ _).trans (if_neg (other v))

theorem keyAdvice_namingFindings : keyAdvice (namingFindings s) = [] := by
  have tables := keyAdvice_namingFinding .renameTable (by simp)
  have columns (name : String) :=
    keyAdvice_namingFinding (.renameColumn name) (by simp)
  simp [namingFindings, tables, columns]

theorem keyAdvice_dataTypeFindings : keyAdvice (dataTypeFindings s) = [] := by
  simp [dataTypeFindings, onColumns, keyAdvice_due]

theorem keyAdvice_timestampFindings : keyAdvice (timestampFindings s d) = [] := by
  simp [timestampFindings, keyAdvice_due]

theorem keyAdvice_emailFindings (t : Table) (c : Column) :
    keyAdvice (emailFindings d t c) = [] := by
  unfold emailFindings
  split <;> simp [keyAdvice_due]

theorem keyAdvice_constraintFindings : keyAdvice (constraintFindings s d) = [] := by
  simp [constraintFindings, keyAdvice_due, keyAdvice_emailFindings]

theorem keyAdvice_securityFindings : keyAdvice (securityFindings s) = [] := by
  simp only [securityFindings, onColumns, keyAdvice_flatMap, List.flatMap_eq_nil_iff]
  intro t _ c _
  split
  · rfl
  · split
    · simp [keyAdvice_finding]
    · split
      · simp [keyAdvice_finding]
      · simp [keyAdvice_due]

end Areas

structure Advises (s : Schema) (d : Dialect) (f : Finding) (t : Table) (c : Column)
    (parent : Table) (key : Column) : Prop where
  table_mem : t ∈ s.tables
  column_mem : c ∈ t.columns
  parent_mem : parent ∈ s.tables
  first : parent.primaryKey.head? = some key
  type : c.type = key.type
  free : c.references = none
  finding : f = Review.finding t (.addForeignKey c.name parent.name)
    (Remedy.addForeignKey d t c parent key)

theorem firstKey?_eq (t : Table) : (firstKey? t).map (·.1) = t.primaryKey.head? := by
  have columns : t.columns.zipIdx.map Prod.fst = t.columns := List.zipIdx_map_fst 0 t.columns
  rw [Table.primaryKey, List.head?_filter]
  conv_rhs => rw [← columns, List.find?_map]
  rfl

variable {s : Schema} {d : Dialect}

theorem missingKey?_advises {t : Table} {i : Nat} {c : Column} {j : Nat} {f : Finding}
    (member : t ∈ s.tables) (own : c ∈ t.columns) (found : missingKey? s d t i c j = some f) :
    ∃ parent key, Advises s d f t c parent key := by
  unfold missingKey? at found
  split at found
  · cases found
  · rename_i free
    obtain ⟨stem, -, found⟩ := Option.bind_eq_some_iff.mp found
    obtain ⟨⟨parent, place⟩, named, found⟩ := Option.bind_eq_some_iff.mp found
    obtain ⟨⟨key, spot⟩, first, found⟩ := Option.bind_eq_some_iff.mp found
    simp only at found
    split at found
    · cases found
    · rename_i fits
      rw [not_or, not_not] at fits
      refine ⟨parent, key, member, own, ?_, ?_, fits.2.symm, ?_, (Option.some.inj found).symm⟩
      · exact List.fst_mem_of_mem_zipIdx (List.mem_of_find?_eq_some named)
      · rw [← firstKey?_eq, first, Option.map_some]
      · simpa [Column.isForeignKey] using free

theorem advises_of_mem {f : Finding} (member : f ∈ missingKeyFindings s d) :
    ∃ t c parent key, Advises s d f t c parent key := by
  obtain ⟨⟨t, i⟩, inside, member⟩ := List.mem_flatMap.mp member
  obtain ⟨⟨c, j⟩, own, found⟩ := List.mem_filterMap.mp member
  have advises := missingKey?_advises (List.fst_mem_of_mem_zipIdx inside)
    (List.fst_mem_of_mem_zipIdx own) found
  exact ⟨t, c, advises⟩

theorem keyAdvice_missingKeyFindings :
    keyAdvice (missingKeyFindings s d) = missingKeyFindings s d := by
  rw [keyAdvice, List.filter_eq_self]
  intro f member
  obtain ⟨t, c, parent, key, advises⟩ := advises_of_mem member
  simp [advises.finding, finding, Advice.area]

theorem keyAdvice_findings : keyAdvice (findings d s) = missingKeyFindings s d := by
  simp [findings, keyAdvice_commonTableFindings, keyAdvice_missingKeyFindings,
    keyAdvice_indexFindings, keyAdvice_normalizationFindings, keyAdvice_namingFindings,
    keyAdvice_dataTypeFindings, keyAdvice_timestampFindings, keyAdvice_constraintFindings,
    keyAdvice_securityFindings]

section Followed

variable {table column : String} {r : Reference}

theorem namedTable?_withReference (stem : String) :
    namedTable? (s.withReference table column r) stem =
      (namedTable? s stem).map fun (t, i) => (t.linked table column r, i) := by
  rw [namedTable?, Schema.withReference, List.zipIdx_map, List.find?_map]
  rfl

theorem firstKey?_linked (t : Table) :
    firstKey? (t.linked table column r) =
      (firstKey? t).map fun (c, j) => (c.linked table column r t, j) := by
  have same : (fun p : Column × Nat => p.1.primaryKey) ∘
      Prod.map (Column.linked table column r t) id = fun p => p.1.primaryKey := by
    funext p
    simp
  rw [firstKey?, Table.linked_columns, List.zipIdx_map, List.find?_map, same]
  rfl

theorem finding_linked (t : Table) (advice : Advice) (action : Option String) :
    finding (t.linked table column r) advice action = finding t advice action := rfl

theorem remedy_linked (t : Table) (c : Column) (parent : Table) (key : Column) :
    Remedy.addForeignKey d (t.linked table column r) c (parent.linked table column r)
        (key.linked table column r parent) = Remedy.addForeignKey d t c parent key := by
  simp [Remedy.addForeignKey, Remedy.addConstraint, Remedy.alter]

theorem missingKey?_withReference (s : Schema) (d : Dialect) (table column : String)
    (r : Reference) (t : Table) (i : Nat) (c : Column) (j : Nat) :
    missingKey? (s.withReference table column r) d (t.linked table column r) i
        (c.linked table column r t) j =
      if t.name = table ∧ c.name = column then none else missingKey? s d t i c j := by
  by_cases named : t.name = table ∧ c.name = column
  · have key : (c.linked table column r t).isForeignKey = true := by
      simp [Column.linked, named, Column.isForeignKey]
    simp [missingKey?, key, named]
  · have same : c.linked table column r t = c := if_neg named
    rw [same, if_neg named]
    unfold missingKey?
    cases hstem : keyStem? c.name with
    | none => simp
    | some stem =>
      cases hparent : namedTable? s stem with
      | none => simp [namedTable?_withReference, hparent]
      | some parent =>
        cases hkey : firstKey? parent.1 with
        | none => simp [namedTable?_withReference, hparent, firstKey?_linked, hkey]
        | some key =>
          simp [namedTable?_withReference, hparent, firstKey?_linked, hkey, finding_linked,
            remedy_linked]

theorem missingKey?_isOn {t : Table} {i : Nat} {c : Column} {j : Nat} {f : Finding}
    (member : t ∈ s.tables) (own : c ∈ t.columns) (found : missingKey? s d t i c j = some f) :
    f.isOn table column = true ↔ t.name = table ∧ c.name = column := by
  obtain ⟨parent, key, advises⟩ := missingKey?_advises member own found
  simp [advises.finding, Finding.isOn, finding, Advice.column?]

/-- A reference withdraws the advice on its column and no other advice. -/
theorem missingKeyFindings_withReference :
    missingKeyFindings (s.withReference table column r) d =
      (missingKeyFindings s d).filter (!·.isOn table column) := by
  rw [missingKeyFindings, missingKeyFindings, Schema.withReference, List.zipIdx_map,
    List.flatMap_map, List.filter_flatMap]
  refine List.flatMap_congr fun ⟨t, i⟩ inside => ?_
  simp only [Prod.map, id_eq]
  rw [Table.linked_columns, List.zipIdx_map, List.filterMap_map, List.filter_filterMap]
  refine List.filterMap_congr fun ⟨c, j⟩ own => ?_
  have changed := missingKey?_withReference s d table column r t i c j
  refine changed.trans ?_
  cases found : missingKey? s d t i c j with
  | none => simp
  | some f =>
    simp only [← missingKey?_isOn (List.fst_mem_of_mem_zipIdx inside)
      (List.fst_mem_of_mem_zipIdx own) found]
    cases on : f.isOn table column <;> simp [Option.filter, on]

end Followed

theorem Advises.fits {f : Finding} {t parent : Table} {c key : Column} (names : s.NamesDiffer)
    (advises : Advises s d f t c parent key) :
    Validation.Fits s t.name c.name ⟨parent.name, key.name⟩ := by
  have primary : key ∈ parent.primaryKey := List.mem_of_head? advises.first
  exact Validation.fits_of_type names advises.parent_mem (List.mem_of_mem_filter primary)
    advises.table_mem advises.column_mem advises.type

theorem Advises.clear {f : Finding} {t parent : Table} {c key : Column} (names : s.NamesDiffer)
    (advises : Advises s d f t c parent key) {p : Validation.Problem}
    (member : p ∈ Validation.tableProblems
      (s.withReference t.name c.name ⟨parent.name, key.name⟩)
      (t.linked t.name c.name ⟨parent.name, key.name⟩)) : p.column? ≠ some c.name := by
  intro about
  obtain ⟨changed, inside, named, found⟩ := Validation.mem_tableProblems_column member about
  obtain ⟨c', own, rfl⟩ := List.mem_map.mp inside
  have same : c' = c := (names.columns t advises.table_mem).eq_of_sameName own advises.column_mem
    (by rw [← Column.linked_name, named, sameName_self])
  subst same
  have before : Validation.keyProblem? s t c' = none := by
    simp [Validation.keyProblem?, advises.free]
  have after : Validation.keyProblem? (s.withReference t.name c'.name ⟨parent.name, key.name⟩)
      (t.linked t.name c'.name ⟨parent.name, key.name⟩)
      (c'.linked t.name c'.name ⟨parent.name, key.name⟩ t) = none :=
    Validation.keyProblem?_linked (e := { id := "", source := "", target := "" })
      (advises.fits names) advises.table_mem own before
  rw [after] at found
  cases found

theorem ofSchema_eq (known : Dialect.ofKey s.dialect = .ok d) :
    ofSchema s = .ok (findings d s) := by
  rw [ofSchema, known]
  rfl

/-- What becomes of the advice on a column, and of the problems of its table, once it is followed:
no problem is about the column, and the advice on it is all that is withdrawn. -/
structure Settles (found : List Finding) (t : Table) (c : Column) (place : Nat) (after : Schema) :
    Prop where
  clear : ∃ t', after.tables[place]? = some t' ∧
    ∀ p ∈ Validation.tableProblems after t', p.column? ≠ some c.name
  advice : ∃ later, ofSchema after = .ok later ∧
    keyAdvice later = (keyAdvice found).filter (!·.isOn t.name c.name)

/-- Advice on a missing foreign key is about one column and one table, and it is settled by a
reference to the first key column of that table. -/
theorem keyAdvice_settles {s : Schema} {d : Dialect} (known : Dialect.ofKey s.dialect = .ok d)
    (names : s.NamesDiffer) :
    ∃ found, ofSchema s = .ok found ∧ ∀ f ∈ keyAdvice found,
      ∃ place spot t c parent key,
        s.tables[place]? = some t ∧ t.columns[spot]? = some c ∧ parent ∈ s.tables ∧
        parent.primaryKey.head? = some key ∧ f.table = t.name ∧
        f.advice = .addForeignKey c.name parent.name ∧
        Settles found t c place (s.setReference place spot ⟨parent.name, key.name⟩) := by
  refine ⟨findings d s, ofSchema_eq known, fun f member => ?_⟩
  rw [keyAdvice_findings] at member
  obtain ⟨t, c, parent, key, advises⟩ := advises_of_mem member
  obtain ⟨place, here⟩ := List.getElem?_of_mem advises.table_mem
  obtain ⟨spot, own⟩ := List.getElem?_of_mem advises.column_mem
  refine ⟨place, spot, t, c, parent, key, here, own, advises.parent_mem, advises.first,
    congrArg Finding.table advises.finding, congrArg Finding.advice advises.finding, ?_⟩
  rw [Schema.setReference_eq names here own]
  constructor
  · refine ⟨_, ?_, fun p problem => advises.clear names problem⟩
    rw [Schema.withReference, List.getElem?_map, here, Option.map_some]
  · refine ⟨findings d _, ofSchema_eq known, ?_⟩
    rw [keyAdvice_findings, keyAdvice_findings, missingKeyFindings_withReference]

def shopSchema : Schema :=
  { tables :=
      [{ name := "orders", columns :=
          [{ name := "id", type := .int, primaryKey := true }, { name := "USERSID", type := .int },
           { name := "user_id", type := .int }] },
       { name := "Users", columns :=
          [{ name := "key", type := .int, primaryKey := true }] }] }

def userAdvice : Finding :=
  { table := "orders", advice := .addForeignKey "USERSID" "Users"
    action := some ("ALTER TABLE `orders` ADD CONSTRAINT `fk_orders_USERSID` " ++
      "FOREIGN KEY (`USERSID`) REFERENCES `Users` (`key`);") }

theorem shopSchema_settles :
    Dialect.ofKey shopSchema.dialect = .ok .mysql ∧ shopSchema.NamesDiffer ∧
      ∃ found, ofSchema shopSchema = .ok found ∧ userAdvice ∈ keyAdvice found ∧
        ∃ (place spot : Nat) (t : Table) (c : Column) (parent : Table) (key : Column),
          shopSchema.tables[place]? = some t ∧ t.columns[spot]? = some c ∧ t.name = "orders" ∧
          c.name = "USERSID" ∧ parent.name = "Users" ∧ parent.primaryKey.head? = some key ∧
          Settles found t c place (shopSchema.setReference place spot ⟨parent.name, key.name⟩) := by
  have known : Dialect.ofKey shopSchema.dialect = .ok .mysql := by decide
  have names : shopSchema.NamesDiffer := ⟨by decide, by decide⟩
  have member : userAdvice ∈ keyAdvice (findings .mysql shopSchema) := by decide
  obtain ⟨found, result, settles⟩ := keyAdvice_settles known names
  rw [ofSchema_eq known, Except.ok.injEq] at result
  subst result
  obtain ⟨place, spot, t, c, parent, key, here, own, -, first, table, advice, settled⟩ :=
    settles userAdvice member
  obtain ⟨column, referenced⟩ := Advice.addForeignKey.inj advice
  exact ⟨known, names, _, ofSchema_eq known, member, place, spot, t, c, parent, key, here, own,
    table.symm, column.symm, referenced.symm, first, settled⟩

end Review

end RelSchema
