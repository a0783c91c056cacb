import RelSchema.Proofs.Suggestion.Linking
import RelSchema.Proofs.Validation
import RelSchema.Suggestion.Structure

namespace RelSchema

structure Relinked (t t' : Table) (r : Reference) (type : ColumnType) : Prop where
  id : t'.id = t.id
  name : t'.name = t.name
  columnNames : DistinctNames (t'.columns.map (·.name))
  types : ∀ name found, t.columnType? name = some found → t'.columnType? name = some found
  columns : ∀ c ∈ t'.columns, c ∈ t.columns ∨ c.references = some r ∧ c.type = type
  linked : ∃ c ∈ t'.columns, c.references = some r ∧ c.type = type

section Replace

variable {s s' : Schema} {before after : List Table} {t t' : Table} {r : Reference}
  {type : ColumnType}

theorem keyType?_replaced (tables : s.tables = before ++ t :: after)
    (tables' : s'.tables = before ++ t' :: after) (relinked : Relinked t t' r type)
    {other : Reference} {found : ColumnType} (means : s.keyType? other = some found) :
    s'.keyType? other = some found := by
  rw [Schema.keyType?, Schema.table?, tables, List.find?_append, List.find?_cons] at means
  rw [Schema.keyType?, Schema.table?, tables', List.find?_append, List.find?_cons, relinked.name]
  cases first : before.find? fun t => Text.sameName t.name other.table with
  | some parent => simpa [first] using means
  | none =>
    cases named : Text.sameName t.name other.table with
    | false => simpa [first, named] using means
    | true =>
      rw [first, named] at means
      exact relinked.types _ _ means

theorem Schema.Consistent.replace (consistent : s.Consistent)
    (tables : s.tables = before ++ t :: after) (relinked : Relinked t t' r type) {e : Edge}
    (drawn : e.source ∈ s.tables.map (·.id) ∧ e.target ∈ s.tables.map (·.id))
    (means : s.keyType? r = some type) :
    Schema.Consistent { s with tables := before ++ t' :: after, edges := s.edges ++ [e] } := by
  have ids : (before ++ t' :: after).map (·.id) = s.tables.map (·.id) := by
    simp [tables, relinked.id]
  have kept {other : Reference} {found : ColumnType} (old : s.keyType? other = some found) :
      Schema.keyType? { s with tables := before ++ t' :: after, edges := s.edges ++ [e] } other =
        some found := keyType?_replaced tables rfl relinked old
  refine ⟨?_, ?_, ?_⟩
  · intro other member
    rcases mem_replaced (t := t) member with rfl | member
    · exact relinked.columnNames
    · exact consistent.columnNames other (tables ▸ member)
  · intro other member c own reference refers
    apply kept
    rcases mem_replaced (t := t) member with rfl | member
    · rcases relinked.columns c own with old | ⟨new, same⟩
      · exact consistent.keys t (by simp [tables]) c old reference refers
      · rw [new, Option.some.injEq] at refers
        rw [← refers, same, means]
    · exact consistent.keys other (tables ▸ member) c own reference refers
  · intro other member
    simp only [ids]
    rcases List.mem_append.mp member with member | member
    · exact consistent.edges other member
    · rw [List.mem_singleton.mp member]
      exact drawn

end Replace

theorem keyType?_append {s : Schema} {r : Reference} {type : ColumnType}
    (means : s.keyType? r = some type) (t : Table) :
    Schema.keyType? { s with tables := s.tables ++ [t] } r = some type := by
  rw [Schema.keyType?, Schema.table?] at means ⊢
  rw [List.find?_append]
  cases found : s.tables.find? fun t => Text.sameName t.name r.table with
  | none => simp [found] at means
  | some parent => simpa [found] using means

theorem Schema.Consistent.addEmpty {s : Schema} (consistent : s.Consistent) {t : Table}
    (empty : t.columns = []) : Schema.Consistent { s with tables := s.tables ++ [t] } := by
  refine ⟨?_, ?_, ?_⟩
  · intro other member
    rcases List.mem_append.mp member with member | member
    · exact consistent.columnNames other member
    · rw [List.mem_singleton.mp member, empty]
      exact List.nodup_nil
  · intro other member c own r refers
    rcases List.mem_append.mp member with member | member
    · exact keyType?_append (consistent.keys other member c own r refers) t
    · rw [List.mem_singleton.mp member, empty] at own
      contradiction
  · intro e member
    have ends := consistent.edges e member
    simp only [List.map_append, List.mem_append]
    exact ⟨.inl ends.1, .inl ends.2⟩

namespace Suggestion

theorem setReference_types (name : String) (r : Reference) (columns : List Column)
    (wanted : String) :
    ((setReference name r columns).find? fun c => Text.sameName c.name wanted).map (·.type) =
      (columns.find? fun c => Text.sameName c.name wanted).map (·.type) := by
  induction columns with
  | nil => rfl
  | cons c rest ih =>
    unfold setReference
    split <;> cases same : Text.sameName c.name wanted <;> simp [same, ih]

def linkedType (target : Table) (name : String) (key : Column) : ColumnType :=
  (target.columnType? name).getD key.type

theorem linkedColumns_relinked {s : Schema} {t : Table}
    (distinct : DistinctNames (t.columns.map (·.name))) (name : String) (key : Column)
    (r : Reference) (primaryKey : Bool) :
    Relinked t { t with columns := linkedColumns s t name key r primaryKey } r
      (linkedType t name key) := by
  unfold linkedColumns linkedType Table.columnType?
  cases found : t.column? name with
  | none =>
    refine ⟨rfl, rfl, distinct.append_new found, ?_, ?_, ?_⟩
    · intro wanted type here
      rw [Table.columnType?, Table.column?] at here ⊢
      rw [List.find?_append]
      cases old : t.columns.find? fun c => Text.sameName c.name wanted with
      | none => simp [old] at here
      | some c => simpa [old] using here
    · intro c member
      rcases List.mem_append.mp member with old | new
      · exact .inl old
      · rw [List.mem_singleton.mp new]
        exact .inr ⟨rfl, rfl⟩
    · exact ⟨_, List.mem_append_right _ (List.mem_singleton_self _), rfl, rfl⟩
  | some c =>
    obtain ⟨before, after, whole, changed⟩ := setReference_split found r
    refine ⟨rfl, rfl, ?_, ?_, ?_, ?_⟩
    · rw [whole] at distinct
      simp only [changed]
      simpa using distinct
    · intro wanted type here
      rw [Table.columnType?, Table.column?] at here ⊢
      rw [setReference_types, here]
    · intro other member
      simp only [changed] at member
      rw [whole]
      rcases List.mem_append.mp member with old | member
      · exact .inl (List.mem_append_left _ old)
      · rcases List.mem_cons.mp member with rfl | old
        · exact .inr ⟨rfl, rfl⟩
        · exact .inl (List.mem_append_right _ (List.mem_cons_of_mem _ old))
    · simp only [changed]
      exact ⟨{ c with references := some r }, by simp, rfl, rfl⟩

theorem linkedColumns_primaryKey {s : Schema} {t : Table} (keyed : t.primaryKey ≠ [])
    (name : String) (key : Column) (r : Reference) (primaryKey : Bool) :
    (linkedColumns s t name key r primaryKey).filter (·.primaryKey) ≠ [] := by
  unfold linkedColumns
  rw [Table.primaryKey] at keyed
  cases found : t.column? name with
  | none =>
    rw [List.filter_append]
    exact List.append_ne_nil_of_left_ne_nil keyed _
  | some c =>
    obtain ⟨before, after, whole, changed⟩ := setReference_split found r
    rw [whole] at keyed
    simp only [changed]
    by_cases own : c.primaryKey = true
    · simp [List.filter_append, own]
    · simpa [List.filter_append, own] using keyed

section ForeignKey

variable {s : Schema} {source target : Table} {place : Nat} {link : Link}

def Means (s : Schema) (source : Table) (link : Link) : Prop :=
  s.keyType? ⟨source.name, (referencedKey source link.sourceColumn).name⟩ =
    some (referencedKey source link.sourceColumn).type

def Clashes (source target : Table) (link : Link) : Prop :=
  ∃ c, target.column? (linkName source link) = some c ∧ c.isForeignKey = false ∧
    c.type ≠ (referencedKey source link.sourceColumn).type

theorem relinked_relinked (consistent : s.Consistent) (inside : s.tables[place]? = some target)
    (source : Table) (link : Link) :
    Relinked target (relinked s source target link)
      ⟨source.name, (referencedKey source link.sourceColumn).name⟩
      (linkedType target (linkName source link) (referencedKey source link.sourceColumn)) :=
  linkedColumns_relinked (consistent.columnNames target (List.mem_of_getElem? inside)) _ _ _ _

theorem linkedType_eq (free : (target.column? (linkName source link)).filter (·.isForeignKey) = none) :
    linkedType target (linkName source link) (referencedKey source link.sourceColumn) =
      (referencedKey source link.sourceColumn).type ↔ ¬ Clashes source target link := by
  unfold linkedType Table.columnType? Clashes
  cases found : target.column? (linkName source link) with
  | none => simp
  | some c =>
    have notKey : c.isForeignKey = false := by simpa [found, Option.filter_eq_none_iff] using free
    simp [notKey]

theorem addForeignKey_consistent_iff (consistent : s.Consistent)
    (inside : s.tables[place]? = some target) (known : source.id ∈ s.tables.map (·.id))
    (means : Means s source link) :
    (addForeignKey s source place link).1.Consistent ↔ ¬ Clashes source target link := by
  rcases addForeignKey_cases inside source link with
    ⟨⟨c, found, key⟩, unchanged⟩ | ⟨free, changed⟩
  · rw [unchanged]
    refine ⟨?_, fun _ => consistent⟩
    rintro - ⟨d, other, notKey, -⟩
    rw [found, Option.some.injEq] at other
    rw [other, notKey] at key
    contradiction
  · obtain ⟨before, after, tables, replaced⟩ := split_at inside
    have relinked := relinked_relinked consistent inside source link
    rw [← linkedType_eq free]
    constructor
    · intro linked
      have tables' : (addForeignKey s source place link).1.tables =
          before ++ Suggestion.relinked s source target link :: after := by
        rw [changed]
        exact replaced _
      obtain ⟨c, own, refers, type⟩ := relinked.linked
      have told := linked.keys (Suggestion.relinked s source target link) (by simp [tables']) c own
        _ refers
      rw [keyType?_replaced tables tables' relinked means, Option.some.injEq] at told
      rw [← type, told]
    · intro same
      rw [same] at relinked
      rw [changed, replaced]
      have targetId : target.id ∈ s.tables.map (·.id) := by simp [tables]
      exact consistent.replace tables relinked ⟨known, targetId⟩ means

theorem addForeignKey_primaryKeys (inside : s.tables[place]? = some target)
    (keyed : ∀ t ∈ s.tables, t.primaryKey ≠ []) (source : Table) (link : Link) :
    ∀ t ∈ (addForeignKey s source place link).1.tables, t.primaryKey ≠ [] := by
  rcases addForeignKey_cases inside source link with ⟨-, unchanged⟩ | ⟨-, changed⟩
  · rwa [unchanged]
  · obtain ⟨before, after, tables, replaced⟩ := split_at inside
    rw [changed]
    simp only [replaced]
    intro t member
    rcases mem_replaced (t := target) member with rfl | member
    · exact linkedColumns_primaryKey (keyed target (by simp [tables])) _ _ _ _
    · exact keyed t (tables ▸ member)

theorem addForeignKey_empty (s : Schema) {t : Table} (empty : t.columns = []) (source : Table)
    (link : Link) :
    ∃ c e, c.isForeignKey = true ∧ c.primaryKey = link.primaryKey ∧
      (addForeignKey { s with tables := s.tables ++ [t] } source s.tables.length link).1 =
        { s with tables := s.tables ++ [{ t with columns := [c] }], edges := s.edges ++ [e] } := by
  have missing : t.column? (linkName source link) = none := by simp [Table.column?, empty]
  refine ⟨newKey { s with tables := s.tables ++ [t] } source link, linkEdge s source t link, rfl,
    rfl, ?_⟩
  rw [addForeignKey_last s missing, empty]
  rfl

end ForeignKey

theorem referencedKey_mem {t : Table} (keyed : t.primaryKey ≠ []) (asked : Option String) :
    referencedKey t asked ∈ t.columns := by
  unfold referencedKey
  simp only
  cases found : asked.bind fun name => if name.isEmpty then none else t.column? name with
  | some c =>
    obtain ⟨name, -, made⟩ := Option.bind_eq_some_iff.mp found
    split at made
    · contradiction
    · exact List.mem_of_find?_eq_some made
  | none =>
    obtain ⟨key, rest, shape⟩ := List.exists_cons_of_ne_nil keyed
    have member : key ∈ t.primaryKey := by simp [shape]
    simpa [shape] using (List.mem_filter.mp member).1

theorem means_of_mem {s : Schema} (names : DistinctNames (s.tables.map (·.name))) (valid : s.Valid)
    {source : Table} (member : source ∈ s.tables) (link : Link) : Means s source link := by
  have key := referencedKey_mem (valid.primaryKeys source member) link.sourceColumn
  have parent : s.table? source.name = some source := names.find?_eq member (sameName_self _)
  have own := (valid.columnNames source member).find?_eq key (sameName_self _)
  rw [Means, Schema.keyType?, parent, Option.bind_some, Table.columnType?, Table.column?, own]
  rfl

theorem addForeignKey_valid_iff {s : Schema} (names : DistinctNames (s.tables.map (·.name)))
    (valid : s.Valid) {source target : Table} (member : source ∈ s.tables) {place : Nat}
    (inside : s.tables[place]? = some target) (link : Link) :
    (addForeignKey s source place link).1.Valid ↔ ¬ Clashes source target link := by
  rw [← addForeignKey_consistent_iff valid.toConsistent inside (List.mem_map_of_mem member)
    (means_of_mem names valid member link)]
  refine ⟨fun linked => linked.toConsistent, fun consistent => ⟨consistent, ?_⟩⟩
  exact addForeignKey_primaryKeys inside valid.primaryKeys source link

theorem not_clashes_of_keys {target : Table} (keys : ∀ c ∈ target.columns, c.isForeignKey = true)
    (source : Table) (link : Link) : ¬ Clashes source target link := by
  rintro ⟨c, found, notKey, -⟩
  rw [keys c (List.mem_of_find?_eq_some found)] at notKey
  contradiction

theorem addJoinTable_valid {s : Schema} (names : DistinctNames (s.tables.map (·.name)))
    (valid : s.Valid) {a b : Table} (ha : a ∈ s.tables) (hb : b ∈ s.tables) :
    (addJoinTable s a b).1.Valid := by
  unfold addJoinTable
  simp only
  split
  · exact valid
  · rename_i missing
    generalize joined : ({ name := joinTableName a b, id := freshId "table" _ } : Table) = t
    have empty : t.columns = [] := by rw [← joined]
    have newName : s.table? t.name = none := by rw [← joined]; exact missing
    have inside : (s.tables ++ [t])[s.tables.length]? = some t := by simp
    have known : a.id ∈ (s.tables ++ [t]).map (·.id) :=
      List.mem_map_of_mem (List.mem_append_left _ ha)
    have means := keyType?_append (means_of_mem names valid ha { primaryKey := true }) t
    have first := (addForeignKey_consistent_iff (valid.toConsistent.addEmpty empty) inside known
      means).mpr (not_clashes_of_keys (by simp [empty]) a { primaryKey := true })
    obtain ⟨c, e, key, primary, made⟩ := addForeignKey_empty s empty a { primaryKey := true }
    rw [made] at first ⊢
    generalize keyed : ({ t with columns := [c] } : Table) = joining at first ⊢
    have columns : joining.columns = [c] := by rw [← keyed]
    have joiningName : joining.name = t.name := by rw [← keyed]
    have firstValid : Schema.Valid
        { s with tables := s.tables ++ [joining], edges := s.edges ++ [e] } := by
      refine ⟨first, fun other member => ?_⟩
      rcases List.mem_append.mp member with member | member
      · exact valid.primaryKeys other member
      · rw [List.mem_singleton.mp member, Table.primaryKey, columns]
        simp [primary]
    have allNames : DistinctNames ((s.tables ++ [joining]).map (·.name)) :=
      names.append_new (joiningName ▸ newName)
    have last : (s.tables ++ [joining])[s.tables.length]? = some joining := by simp
    have second := addForeignKey_valid_iff allNames firstValid (List.mem_append_left _ hb) last
      { primaryKey := true }
    exact second.mpr (not_clashes_of_keys (by simpa [columns] using key) b _)

/-- A suggestion would make a foreign key of a column whose type is not that of the key. -/
def Mistypes (x : Suggestion) (s : Schema) : Prop :=
  x.cardinality ≠ .manyToMany ∧ ∃ source target, s.table? x.source = some source ∧
    s.table? x.target = some target ∧ ∃ c, c.isForeignKey = false ∧
      target.column? (keyColumnName source (referencedKey source x.sourceColumn) x.targetColumn) =
        some c ∧
      c.type ≠ (referencedKey source x.sourceColumn).type

/-- Whatever is suggested for a valid schema, the schema stays valid, unless a column that is there
becomes a foreign key to a column of another type. -/
theorem applied_valid_iff {s : Schema} (names : DistinctNames (s.tables.map (·.name)))
    (valid : Validation.problems s [] = .ok []) (x : Suggestion) :
    Validation.problems (x.applyTo s).1 [] = .ok [] ↔ ¬ x.Mistypes s := by
  rw [Validation.problems_nil_iff] at valid ⊢
  cases hsource : s.table? x.source with
  | none =>
    have unchanged : (x.applyTo s).1 = s := by simp [applyTo, hsource]
    simp [unchanged, Mistypes, hsource, valid]
  | some source =>
    cases htarget : s.table? x.target with
    | none =>
      have unchanged : (x.applyTo s).1 = s := by simp [applyTo, hsource, htarget]
      simp [unchanged, Mistypes, htarget, valid]
    | some target =>
      have member := List.mem_of_find?_eq_some hsource
      obtain ⟨place, placed, inside⟩ := placeOf?_found htarget
      by_cases many : x.cardinality = .manyToMany
      · have joins : x.applyTo s = addJoinTable s source target := by
          simp [applyTo, hsource, htarget, placed, many]
        rw [joins]
        have joined := addJoinTable_valid names valid member (List.mem_of_find?_eq_some htarget)
        exact ⟨fun _ mistypes => mistypes.1 many, fun _ => joined⟩
      · have links : x.applyTo s = addForeignKey s source place
            { cardinality := x.cardinality, sourceColumn := x.sourceColumn,
              targetColumn := x.targetColumn } := by
          simp [applyTo, hsource, htarget, placed, many]
        rw [links, addForeignKey_valid_iff names valid member inside, not_iff_not]
        constructor
        · rintro ⟨c, found, notKey, clash⟩
          exact ⟨many, source, target, hsource, htarget, c, notKey, found, clash⟩
        · rintro ⟨-, source', target', first, second, c, notKey, found, clash⟩
          rw [hsource, Option.some.injEq] at first
          rw [htarget, Option.some.injEq] at second
          subst first second
          exact ⟨c, found, notKey, clash⟩

def textKeySchema : Schema :=
  { tables :=
      [{ name := "users", id := "table-1",
         columns := [{ name := "id", type := .int, id := "column-1", primaryKey := true }] },
       { name := "user_posts", id := "table-2",
         columns := [{ name := "id", type := .int, id := "column-2", primaryKey := true },
                     { name := "user_id", type := .varchar, id := "column-3" }] }] }

def postsSuggestion : Suggestion :=
  { id := "suggestion-1", source := "user_posts", target := "users", cardinality := .oneToMany }

theorem textKeySchema_linked : ¬ postsSuggestion.Mistypes textKeySchema := by
  have linked : Validation.problems (postsSuggestion.applyTo textKeySchema).1 [] = .ok [] := by
    decide +kernel
  exact (applied_valid_iff (by decide +kernel) (by decide +kernel) postsSuggestion).mp linked

theorem textKeySchema_mistyped :
    DistinctNames (textKeySchema.tables.map (·.name)) ∧
      (textKeySchema.tables.map (·.id)).Nodup ∧
      Validation.problems textKeySchema [] = .ok [] ∧
      ∃ x ∈ fromTableNames textKeySchema,
        Validation.problems (x.applyTo textKeySchema).1 [] ≠ .ok [] := by
  refine ⟨by decide +kernel, by decide, by decide +kernel, ?_⟩
  decide +kernel

end Suggestion

end RelSchema
