import RelSchema.Proofs.Editing
import RelSchema.Suggestion.Naming

namespace RelSchema

structure Schema.NamesDiffer (s : Schema) : Prop where
  tables : DistinctNames (s.tables.map (·.name))
  columns : ∀ t ∈ s.tables, DistinctNames (t.columns.map (·.name))

structure Schema.WellNamed (s : Schema) : Prop extends s.NamesDiffer where
  nonempty : ∀ t ∈ s.tables, t.name ≠ "" ∧ ∀ c ∈ t.columns, c.name ≠ ""

def Column.linked (table column : String) (r : Reference) (t : Table) (c : Column) : Column :=
  if t.name = table ∧ c.name = column then { c with references := some r } else c

def Table.linked (table column : String) (r : Reference) (t : Table) : Table :=
  { t with columns := t.columns.map (Column.linked table column r t) }

def Schema.linked (table column : String) (r : Reference) (e : Edge) (s : Schema) : Schema :=
  { s with tables := s.tables.map (Table.linked table column r), edges := s.edges ++ [e] }

section Linked

variable (table column : String) (r : Reference) (t : Table) (c : Column)

@[simp] theorem Column.linked_name : (c.linked table column r t).name = c.name := by
  unfold linked
  split <;> rfl

@[simp] theorem Column.linked_type : (c.linked table column r t).type = c.type := by
  unfold linked
  split <;> rfl

@[simp] theorem Column.linked_primaryKey :
    (c.linked table column r t).primaryKey = c.primaryKey := by
  unfold linked
  split <;> rfl

@[simp] theorem Table.linked_name : (t.linked table column r).name = t.name := rfl

theorem Table.linked_columns :
    (t.linked table column r).columns = t.columns.map (Column.linked table column r t) := rfl

theorem Table.linked_primaryKey :
    (t.linked table column r).primaryKey = t.primaryKey.map (Column.linked table column r t) := by
  have same : (fun c : Column => c.primaryKey) ∘ Column.linked table column r t =
      fun c => c.primaryKey := by
    funext c
    simp
  rw [primaryKey, linked, List.filter_map, same]
  rfl

theorem Table.linked_column? (name : String) :
    (t.linked table column r).column? name =
      (t.column? name).map (Column.linked table column r t) := by
  have same : (fun c : Column => Text.sameName c.name name) ∘ Column.linked table column r t =
      fun c => Text.sameName c.name name := by
    funext c
    simp
  rw [column?, linked, List.find?_map, same]
  rfl

variable (e : Edge) (s : Schema)

theorem Schema.linked_table? (name : String) :
    (s.linked table column r e).table? name =
      (s.table? name).map (Table.linked table column r) := by
  rw [table?, linked, List.find?_map]
  rfl

theorem Schema.linked_tableById? (id : String) :
    (s.linked table column r e).tableById? id =
      (s.tableById? id).map (Table.linked table column r) := by
  rw [tableById?, linked, List.find?_map]
  rfl

theorem Table.linked_columnNames :
    (t.linked table column r).columns.map (·.name) = t.columns.map (·.name) := by
  simp [linked]

theorem Schema.linked_tableNames :
    (s.linked table column r e).tables.map (·.name) = s.tables.map (·.name) := by
  simp [linked]

end Linked

theorem Table.linked_other {table column : String} {r : Reference} {t : Table}
    (other : t.name ≠ table) : t.linked table column r = t := by
  have same : ∀ c, Column.linked table column r t c = c := fun c => if_neg fun both => other both.1
  rw [linked, List.map_id'' same]

theorem DistinctNames.map_split {α : Type} {name : α → String} {before after : List α} {a : α}
    (distinct : DistinctNames ((before ++ a :: after).map name)) {f : α → α}
    (keeps : ∀ b, name b ≠ name a → f b = b) :
    (before ++ a :: after).map f = before ++ f a :: after := by
  rw [DistinctNames, List.map_map, List.map_append, List.map_cons, List.nodup_middle,
    List.nodup_cons, ← List.map_append] at distinct
  have others : ∀ b ∈ before ++ after, f b = b := by
    intro b member
    apply keeps
    intro same
    exact distinct.1 (List.mem_map.mpr ⟨b, member, by simp [same]⟩)
  have first : before.map f = before.map id :=
    List.map_congr_left fun b member => others b (List.mem_append_left _ member)
  have last : after.map f = after.map id :=
    List.map_congr_left fun b member => others b (List.mem_append_right _ member)
  rw [List.map_append, List.map_cons, first, last, List.map_id, List.map_id]

theorem map_linked {before after : List Table} {t : Table} {first later : List Column} {c : Column}
    (tables : DistinctNames ((before ++ t :: after).map (·.name)))
    (columns : t.columns = first ++ c :: later) (distinct : DistinctNames (t.columns.map (·.name)))
    (r : Reference) :
    (before ++ t :: after).map (Table.linked t.name c.name r) =
      before ++ { t with columns := first ++ { c with references := some r } :: later } ::
        after := by
  have changed : Column.linked t.name c.name r t c = { c with references := some r } :=
    if_pos ⟨rfl, rfl⟩
  have own : t.columns.map (Column.linked t.name c.name r t) =
      first ++ { c with references := some r } :: later := by
    have keeps (b : Column) (other : b.name ≠ c.name) : b.linked t.name c.name r t = b :=
      if_neg fun both => other both.2
    rw [columns] at distinct ⊢
    rw [distinct.map_split keeps, changed]
  rw [tables.map_split fun b other => Table.linked_other other, Table.linked, own]

theorem Schema.WellNamed.linked {s : Schema} (names : s.WellNamed) (table column : String)
    (r : Reference) (e : Edge) : (s.linked table column r e).WellNamed := by
  refine ⟨⟨?_, ?_⟩, ?_⟩
  · rw [Schema.linked_tableNames]
    exact names.tables
  · intro t member
    obtain ⟨t, inside, rfl⟩ := List.mem_map.mp member
    rw [Table.linked_columnNames]
    exact names.columns t inside
  · intro t member
    obtain ⟨t, inside, rfl⟩ := List.mem_map.mp member
    refine ⟨(names.nonempty t inside).1, fun changed own => ?_⟩
    obtain ⟨c, before, rfl⟩ := List.mem_map.mp own
    rw [Column.linked_name]
    exact (names.nonempty t inside).2 c before

def Schema.foreignKeys (s : Schema) : List Column := s.tables.flatMap (·.foreignKeys)

theorem Schema.linked_foreignKeys {s : Schema} (names : s.WellNamed) {t : Table} {c : Column}
    (member : t ∈ s.tables) (own : c ∈ t.columns) (free : c.references = none) (r : Reference)
    (e : Edge) :
    (s.linked t.name c.name r e).foreignKeys.length = s.foreignKeys.length + 1 := by
  obtain ⟨before, after, tables⟩ := List.append_of_mem member
  obtain ⟨first, later, columns⟩ := List.append_of_mem own
  have changed := map_linked (tables ▸ names.tables) columns (names.columns t member) r
  have more : { c with references := some r }.isForeignKey = true := rfl
  have less : c.isForeignKey = false := by simp [Column.isForeignKey, free]
  simp only [foreignKeys, linked, tables, changed, Table.foreignKeys, columns, List.flatMap_append,
    List.flatMap_cons, List.filter_append, List.length_append, List.filter_cons, more, less,
    Bool.false_eq_true, ↓reduceIte, List.length_cons]
  omega

namespace Suggestion

def linkName (source : Table) (link : Link) : String :=
  keyColumnName source (referencedKey source link.sourceColumn) link.targetColumn

def relinked (s : Schema) (source target : Table) (link : Link) : Table :=
  let key := referencedKey source link.sourceColumn
  { target with
    columns := linkedColumns s target (linkName source link) key ⟨source.name, key.name⟩
      link.primaryKey }

def linkEdge (s : Schema) (source target : Table) (link : Link) : Edge :=
  { id := freshId "edge" (s.edges.map (·.id)), source := source.id, target := target.id,
    cardinality := link.cardinality,
    sourceColumn := some (referencedKey source link.sourceColumn).name,
    targetColumn := some (((target.column? (linkName source link)).map (·.name)).getD
      (linkName source link)) }

/-- Either the column is a foreign key already and nothing changes, or the target alone changes and
there is an edge more. -/
theorem addForeignKey_cases {s : Schema} {target : Table} {place : Nat}
    (inside : s.tables[place]? = some target) (source : Table) (link : Link) :
    ((∃ c, target.column? (linkName source link) = some c ∧ c.isForeignKey = true) ∧
      (addForeignKey s source place link).1 = s) ∨
    ((target.column? (linkName source link)).filter (·.isForeignKey) = none ∧
      (addForeignKey s source place link).1 =
        { s with tables := s.tables.set place (relinked s source target link),
                 edges := s.edges ++ [linkEdge s source target link] }) := by
  cases taken : (target.column? (linkName source link)).filter (·.isForeignKey) with
  | some c =>
    rw [Option.filter_eq_some_iff] at taken
    refine .inl ⟨⟨c, taken⟩, ?_⟩
    have again := Option.filter_eq_some_iff.mpr taken
    rw [linkName] at again
    simp only [addForeignKey, inside, again]
  | none =>
    refine .inr ⟨rfl, ?_⟩
    rw [linkName] at taken
    simp only [addForeignKey, inside, taken]
    rfl

def newKey (s : Schema) (source : Table) (link : Link) : Column :=
  let key := referencedKey source link.sourceColumn
  { newColumn s (linkName source link) key link.primaryKey with
    references := some ⟨source.name, key.name⟩ }

theorem addForeignKey_last (s : Schema) {t source : Table} {link : Link}
    (missing : t.column? (linkName source link) = none) :
    (addForeignKey { s with tables := s.tables ++ [t] } source s.tables.length link).1 =
      { s with
        tables := s.tables ++
          [{ t with columns :=
              t.columns ++ [newKey { s with tables := s.tables ++ [t] } source link] }],
        edges := s.edges ++ [linkEdge s source t link] } := by
  have inside : (s.tables ++ [t])[s.tables.length]? = some t := by simp
  rcases addForeignKey_cases (s := { s with tables := s.tables ++ [t] }) inside source link with
    ⟨⟨c, found, -⟩, -⟩ | ⟨-, changed⟩
  · rw [missing] at found
    contradiction
  · rw [changed, relinked, linkedColumns, missing]
    simp only [List.set_append_right _ _ (Nat.le_refl _), Nat.sub_self, List.set_cons_zero]
    rfl

theorem placeOf?_name {s : Schema} (distinct : DistinctNames (s.tables.map (·.name))) {t : Table}
    (member : t ∈ s.tables) :
    ∃ place, placeOf? s t.name = some place ∧ s.tables[place]? = some t := by
  cases found : placeOf? s t.name with
  | none =>
    have other := List.findIdx?_eq_none_iff.mp found t member
    rw [sameName_self] at other
    contradiction
  | some place =>
    obtain ⟨inside, named, -⟩ := List.findIdx?_eq_some_iff_getElem.mp found
    have own := distinct.eq_of_sameName (List.getElem_mem inside) member named
    exact ⟨place, rfl, by rw [List.getElem?_eq_getElem inside, own]⟩

theorem placeOf?_found {s : Schema} {name : String} {t : Table} (found : s.table? name = some t) :
    ∃ place, placeOf? s name = some place ∧ s.tables[place]? = some t := by
  obtain ⟨named, place, inside, own, before⟩ := List.find?_eq_some_iff_getElem.mp found
  refine ⟨place, ?_, by rw [List.getElem?_eq_getElem inside, own]⟩
  rw [placeOf?, List.findIdx?_eq_some_iff_getElem]
  exact ⟨inside, own ▸ named, fun i less => by simpa using before i less⟩

def link (x : Suggestion) : Link :=
  { cardinality := x.cardinality, sourceColumn := x.sourceColumn, targetColumn := x.targetColumn }

section Ends

variable {s : Schema} {x : Suggestion} {source target : Table}

theorem applyTo_link (few : x.cardinality ≠ .manyToMany) {place : Nat}
    (first : s.table? x.source = some source) (second : s.table? x.target = some target)
    (placed : placeOf? s x.target = some place) :
    x.applyTo s = addForeignKey s source place x.link := by
  simp only [applyTo, first, second, placed, if_neg few]
  rfl

theorem applyTo_join (many : x.cardinality = .manyToMany) (first : s.table? x.source = some source)
    (second : s.table? x.target = some target) : x.applyTo s = addJoinTable s source target := by
  obtain ⟨place, placed, -⟩ := placeOf?_found second
  simp only [applyTo, first, second, placed, many, ↓reduceIte]

theorem ends_found (distinct : DistinctNames (s.tables.map (·.name))) (hsource : source ∈ s.tables)
    (htarget : target ∈ s.tables) (first : x.source = source.name)
    (second : x.target = target.name) :
    s.table? x.source = some source ∧ s.table? x.target = some target ∧
      ∃ place, placeOf? s x.target = some place ∧ s.tables[place]? = some target := by
  rw [first, second]
  exact ⟨distinct.find?_eq hsource (sameName_self _), distinct.find?_eq htarget (sameName_self _),
    placeOf?_name distinct htarget⟩

theorem applyTo_foreignKey (distinct : DistinctNames (s.tables.map (·.name)))
    (hsource : source ∈ s.tables) (htarget : target ∈ s.tables) (first : x.source = source.name)
    (second : x.target = target.name) (cardinality : x.cardinality = .oneToMany) :
    ∃ place, s.tables[place]? = some target ∧
      x.applyTo s = addForeignKey s source place
        { sourceColumn := x.sourceColumn, targetColumn := x.targetColumn } := by
  obtain ⟨sourceFound, targetFound, place, placed, inside⟩ :=
    ends_found distinct hsource htarget first second
  refine ⟨place, inside, ?_⟩
  rw [applyTo_link (by simp [cardinality]) sourceFound targetFound placed, link, cardinality]

theorem applyTo_joinTable (distinct : DistinctNames (s.tables.map (·.name)))
    (hsource : source ∈ s.tables) (htarget : target ∈ s.tables) (first : x.source = source.name)
    (second : x.target = target.name) (cardinality : x.cardinality = .manyToMany) :
    x.applyTo s = addJoinTable s source target := by
  obtain ⟨sourceFound, targetFound, -⟩ := ends_found distinct hsource htarget first second
  exact applyTo_join cardinality sourceFound targetFound

end Ends

structure Proposes (x : Suggestion) (tables : List Table) (source target : Table)
    (key c : Column) : Prop where
  source_mem : source ∈ tables
  target_mem : target ∈ tables
  key_mem : key ∈ source.columns
  column_mem : c ∈ target.columns
  type : c.type = key.type
  free : c.references = none
  source : x.source = source.name
  target : x.target = target.name
  cardinality : x.cardinality = .oneToMany
  sourceColumn : x.sourceColumn = some key.name
  targetColumn : x.targetColumn = some c.name

theorem proposes_of_ofColumn? {tables : List Table} {source target : Table} {c : Column}
    {x : Suggestion} (hsource : source ∈ tables) (htarget : target ∈ tables)
    (hc : c ∈ target.columns) (made : ofColumn? source target c = some x) :
    ∃ key, x.Proposes tables source target key c := by
  unfold ofColumn? at made
  split at made
  · contradiction
  · rename_i clear
    obtain ⟨key, found, rfl⟩ := Option.map_eq_some_iff.mp made
    have primary : key ∈ source.primaryKey := List.mem_of_find?_eq_some found
    have type : key.type = c.type := by simpa using List.find?_some found
    have free : c.references = none := by
      rw [Bool.or_eq_true, not_or] at clear
      simpa [Column.isForeignKey] using clear.1
    exact ⟨key, hsource, htarget, (List.mem_filter.mp primary).1, hc, type.symm, free, rfl, rfl,
      rfl, rfl, rfl⟩

theorem mem_number {list : List Suggestion} {x : Suggestion} (member : x ∈ number list) :
    ∃ y ∈ list, ∃ id, x = { y with id } := by
  obtain ⟨i, inside, rfl⟩ := List.mem_mapIdx.mp member
  exact ⟨list[i], List.getElem_mem inside, _, rfl⟩

theorem mem_placed {tables : List Table} {t : Table} {i : Nat} (member : (t, i) ∈ placed tables) :
    t ∈ tables := List.fst_mem_of_mem_zipIdx member

theorem proposes_of_mem {tables : List Table} {x : Suggestion}
    (member : x ∈ fromColumnNames tables) :
    ∃ source target key c, x.Proposes tables source target key c := by
  obtain ⟨y, inside, id, rfl⟩ := mem_number member
  obtain ⟨⟨source, i⟩, hsource, inside⟩ := List.mem_flatMap.mp inside
  obtain ⟨⟨target, j⟩, htarget, inside⟩ := List.mem_flatMap.mp inside
  by_cases same : i = j
  · simp [same] at inside
  · simp only [if_neg same] at inside
    obtain ⟨c, hc, made⟩ := List.mem_filterMap.mp inside
    obtain ⟨key, proposes⟩ :=
      proposes_of_ofColumn? (mem_placed hsource) (mem_placed htarget) hc made
    exact ⟨source, target, key, c, { proposes with }⟩

theorem referencedKey_name {t : Table} (distinct : DistinctNames (t.columns.map (·.name)))
    {key : Column} (member : key ∈ t.columns) (nonempty : key.name ≠ "") :
    referencedKey t (some key.name) = key := by
  have found : t.column? key.name = some key := distinct.find?_eq member (sameName_self _)
  simp [referencedKey, nonempty, found]

theorem keyColumnName_asked (source : Table) (key : Column) {name : String} (nonempty : name ≠ "") :
    keyColumnName source key (some name) = name := by
  simp [keyColumnName, Option.filter, nonempty]

def drawnEdge (s : Schema) (source target : Table) (key c : Column) : Edge :=
  { id := freshId "edge" (s.edges.map (·.id)), source := source.id, target := target.id,
    cardinality := .oneToMany, sourceColumn := some key.name, targetColumn := some c.name }

theorem addForeignKey_linked {s : Schema} (names : s.WellNamed) {source target : Table}
    {place : Nat} {key c : Column} (inside : s.tables[place]? = some target)
    (member : c ∈ target.columns) (free : c.references = none)
    (referenced : referencedKey source (some key.name) = key) :
    (addForeignKey s source place
        { sourceColumn := some key.name, targetColumn := some c.name }).1 =
      s.linked target.name c.name ⟨source.name, key.name⟩ (drawnEdge s source target key c) := by
  have htarget : target ∈ s.tables := List.mem_of_getElem? inside
  have distinct := names.columns target htarget
  have asked := keyColumnName_asked source key ((names.nonempty target htarget).2 c member)
  have found : target.column? c.name = some c := distinct.find?_eq member (sameName_self _)
  have notKey : Option.filter (·.isForeignKey) (some c) = none := by
    simp [Option.filter, Column.isForeignKey, free]
  -- The edit goes by the place of the table and the first column of the name; with names that
  -- differ this is the table and the column that are named.
  obtain ⟨before, after, tables, replaced⟩ := split_at inside
  obtain ⟨first, later, columns, changed⟩ := setReference_split found ⟨source.name, key.name⟩
  have linked := map_linked (tables ▸ names.tables) columns distinct ⟨source.name, key.name⟩
  simp only [addForeignKey, inside, referenced, asked, found, notKey, linkedColumns, replaced,
    changed, Option.map_some, Option.getD_some]
  rw [Schema.linked, tables, linked]
  rfl

theorem applyTo_proposes {s : Schema} {x : Suggestion} {source target : Table} {key c : Column}
    (names : s.WellNamed) (proposes : x.Proposes s.tables source target key c) :
    (x.applyTo s).1 =
      s.linked target.name c.name ⟨source.name, key.name⟩ (drawnEdge s source target key c) := by
  have hsource := proposes.source_mem
  have referenced := referencedKey_name (names.columns source hsource) proposes.key_mem
    ((names.nonempty source hsource).2 key proposes.key_mem)
  obtain ⟨place, inside, applied⟩ := applyTo_foreignKey names.tables hsource proposes.target_mem
    proposes.source proposes.target proposes.cardinality
  rw [applied, proposes.sourceColumn, proposes.targetColumn]
  exact addForeignKey_linked names inside proposes.column_mem proposes.free referenced

end Suggestion

end RelSchema
