import RelSchema.Proofs.Comparison.Roster
import RelSchema.Proofs.Suggestion.Linking

namespace RelSchema

variable {α : Type}

/-- Lists with the same names but for case, in which those of one name agree. -/
structure Matching (name : α → String) (agree : α → α → Prop) (old new : List α) : Prop where
  names : ∀ key, key ∈ (old.map name).map Text.lower ↔ key ∈ (new.map name).map Text.lower
  agree : ∀ a ∈ old, ∀ b ∈ new, Text.sameName (name a) (name b) = true → agree a b

structure Column.Agrees (sameTarget : Option Reference → Option Reference → Prop)
    (c c' : Column) : Prop where
  type : c.type = c'.type
  length : c.length = c'.length
  scale : c.scale = c'.scale
  nullable : c.nullable = c'.nullable
  primaryKey : c.primaryKey = c'.primaryKey
  unique : c.unique = c'.unique
  references : sameTarget c.references c'.references
  default : c.default? = c'.default?

def Table.Agrees (sameTarget : Option Reference → Option Reference → Prop) (t t' : Table) : Prop :=
  Matching Column.name (Column.Agrees sameTarget) t.columns t'.columns

def Schema.Agrees (sameTarget : Option Reference → Option Reference → Prop)
    (s s' : Schema) : Prop :=
  Matching Table.name (Table.Agrees sameTarget) s.tables s'.tables

/-- Both absent, or written the same with a point between table and column. -/
def SamePath (r r' : Option Reference) : Prop := r.map (·.path) = r'.map (·.path)

def Schema.references (s : Schema) : List Reference :=
  s.tables.flatMap fun t => t.columns.filterMap (·.references)

def SchemaDiff.FindsNothing (d : SchemaDiff) : Prop :=
  d.added = [] ∧ d.removed = [] ∧ d.modified = []

instance (d : SchemaDiff) : Decidable d.FindsNothing :=
  inferInstanceAs (Decidable (d.added = [] ∧ d.removed = [] ∧ d.modified = []))

theorem Matching.congr {name : α → String} {agree agree' : α → α → Prop} {old new : List α}
    (same : ∀ a ∈ old, ∀ b ∈ new, agree a b ↔ agree' a b) :
    Matching name agree old new ↔ Matching name agree' old new :=
  ⟨fun h => ⟨h.names, fun a ha b hb named => (same a ha b hb).mp (h.agree a ha b hb named)⟩,
    fun h => ⟨h.names, fun a ha b hb named => (same a ha b hb).mpr (h.agree a ha b hb named)⟩⟩

theorem Reference.path_injective {r r' : Reference} (free : '.' ∉ r.table.toList)
    (free' : '.' ∉ r'.table.toList) (same : r.path = r'.path) : r = r' := by
  have text (r : Reference) : r.path.toList = r.table.toList ++ '.' :: r.column.toList := by
    change (r.table ++ "." ++ r.column).toList = _
    simp
  have paths : r.table.toList ++ '.' :: r.column.toList =
      r'.table.toList ++ '.' :: r'.column.toList := by rw [← text, ← text, same]
  have before (r : Reference) (free : '.' ∉ r.table.toList) :
      (r.table.toList ++ '.' :: r.column.toList).takeWhile (· != '.') = r.table.toList := by
    rw [List.takeWhile_append_of_pos fun c member => ?_]
    · simp
    · exact bne_iff_ne.mpr fun point => free (point ▸ member)
  have tables := congrArg (List.takeWhile (· != '.')) paths
  rw [before r free, before r' free'] at tables
  have columns := List.append_cancel_left (tables ▸ paths)
  have table := String.toList_inj.mp tables
  have column := String.toList_inj.mp (List.cons.inj columns).2
  cases r
  cases r'
  exact congr (congrArg Reference.mk table) column

theorem samePath_iff {r r' : Option Reference} (free : ∀ a ∈ r, '.' ∉ a.table.toList)
    (free' : ∀ a ∈ r', '.' ∉ a.table.toList) : SamePath r r' ↔ r = r' := by
  constructor
  · intro same
    cases r with
    | none =>
      cases r' with
      | none => rfl
      | some r' => cases same
    | some r =>
      cases r' with
      | none => cases same
      | some r' => rw [Reference.path_injective (free r rfl) (free' r' rfl) (Option.some.inj same)]
  · rintro rfl
    rfl

theorem Schema.agrees_samePath_iff {s s' : Schema}
    (free : ∀ r ∈ s.references ++ s'.references, '.' ∉ r.table.toList) :
    s.Agrees SamePath s' ↔ s.Agrees (· = ·) s' := by
  refine Matching.congr fun t ht t' ht' => Matching.congr fun c hc c' hc' => ?_
  have referred : ∀ s'' : Schema, ∀ t ∈ s''.tables, ∀ c ∈ t.columns, ∀ r ∈ c.references,
      r ∈ s''.references := by
    intro s'' t ht c hc r hr
    exact List.mem_flatMap.mpr ⟨t, ht, List.mem_filterMap.mpr ⟨c, hc, hr⟩⟩
  have same : SamePath c.references c'.references ↔ c.references = c'.references :=
    samePath_iff (fun r hr => free r (List.mem_append_left _ (referred s t ht c hc r hr)))
      fun r hr => free r (List.mem_append_right _ (referred s' t' ht' c' hc' r hr))
  constructor
  · rintro ⟨type, length, scale, nullable, primaryKey, unique, references, default⟩
    exact ⟨type, length, scale, nullable, primaryKey, unique, same.mp references, default⟩
  · rintro ⟨type, length, scale, nullable, primaryKey, unique, references, default⟩
    exact ⟨type, length, scale, nullable, primaryKey, unique, same.mpr references, default⟩

namespace SchemaDiff

open Roster

theorem missingFrom_eq_nil_iff {other r : Roster α} :
    missingFrom other r = [] ↔ ∀ key ∈ r.map (·.1), key ∈ other.map (·.1) := by
  have each : ∀ entry : String × α, (if (other.get? entry.1).isNone then some entry.2 else none) =
      none ↔ entry.1 ∈ other.map (·.1) := by
    intro entry
    cases found : other.get? entry.1 with
    | none => simpa using get?_eq_none_iff.mp found
    | some a =>
      have known : entry.1 ∈ other.map (·.1) := by
        by_contra unknown
        rw [get?_eq_none_iff.mpr unknown] at found
        cases found
      simpa using known
  rw [missingFrom, List.filterMap_eq_nil_iff, List.forall_mem_map]
  exact forall₂_congr fun entry _ => each entry

theorem matching_iff {name : α → String} {agree : α → α → Prop} {old new : List α}
    (olds : DistinctNames (old.map name)) (news : DistinctNames (new.map name)) :
    Matching name agree old new ↔
      missingFrom (ofList name old) (ofList name new) = [] ∧
      missingFrom (ofList name new) (ofList name old) = [] ∧
      ∀ pair ∈ matched (ofList name old) (ofList name new), agree pair.1 pair.2 := by
  have keys (list : List α) : (list.map fun a => (Text.lower (name a), a)).map (·.1) =
      (list.map name).map Text.lower := by simp
  have distinct : ((old.map fun a => (Text.lower (name a), a)).map (·.1)).Nodup := by
    rw [keys]
    exact olds
  have pairs : ∀ a b, (a, b) ∈ matched (old.map fun a => (Text.lower (name a), a))
      (new.map fun a => (Text.lower (name a), a)) ↔
        a ∈ old ∧ b ∈ new ∧ Text.sameName (name a) (name b) = true := by
    intro a b
    rw [mem_matched distinct, sameName_iff]
    simp only [List.mem_map, Prod.mk.injEq]
    constructor
    · rintro ⟨_, ⟨_, ha, rfl, rfl⟩, _, hb, same, rfl⟩
      exact ⟨ha, hb, same.symm⟩
    · rintro ⟨ha, hb, same⟩
      exact ⟨_, ⟨a, ha, rfl, rfl⟩, b, hb, same.symm, rfl⟩
  rw [ofList_distinct olds, ofList_distinct news, missingFrom_eq_nil_iff, missingFrom_eq_nil_iff,
    keys, keys]
  constructor
  · rintro ⟨names, agrees⟩
    refine ⟨fun key => (names key).mpr, fun key => (names key).mp, fun ⟨a, b⟩ member => ?_⟩
    obtain ⟨ha, hb, same⟩ := (pairs a b).mp member
    exact agrees a ha b hb same
  · rintro ⟨old, new, agrees⟩
    exact ⟨fun key => ⟨new key, old key⟩,
      fun a ha b hb same => agrees (a, b) ((pairs a b).mpr ⟨ha, hb, same⟩)⟩

theorem columnChanges_eq_nil_iff (c c' : Column) :
    columnChanges c c' = [] ↔ c.Agrees SamePath c' := by
  have each : columnChanges c c' = [] ↔ ∀ p ∈ Property.all, c.property p = c'.property p := by
    simp [columnChanges]
  have types : c.type.name = c'.type.name ↔ c.type = c'.type := by
    refine ⟨fun same => ?_, congrArg _⟩
    have decoded := congrArg ColumnType.ofName? same
    rw [ColumnType.ofName?_name, ColumnType.ofName?_name] at decoded
    exact Option.some.inj decoded
  have numbers : ∀ m n : Option Int, PropertyValue.ofNumber m = .ofNumber n ↔ m = n := by
    intro m n
    cases m <;> cases n <;> simp [PropertyValue.ofNumber]
  have texts : ∀ m n : Option String, PropertyValue.ofText m = .ofText n ↔ m = n := by
    intro m n
    cases m <;> cases n <;> simp [PropertyValue.ofText]
  rw [each]
  simp only [Property.all, List.forall_mem_cons, Column.property, PropertyValue.text.injEq, types,
    numbers, texts, PropertyValue.flag.injEq]
  constructor
  · rintro ⟨type, length, scale, nullable, primaryKey, unique, references, default, -⟩
    exact ⟨type, length, scale, nullable, primaryKey, unique, references, default⟩
  · rintro ⟨type, length, scale, nullable, primaryKey, unique, references, default⟩
    exact ⟨type, length, scale, nullable, primaryKey, unique, references, default, by simp⟩

theorem modifiedColumn?_eq_none_iff (c c' : Column) :
    modifiedColumn? c c' = none ↔ c.Agrees SamePath c' := by
  rw [← columnChanges_eq_nil_iff]
  unfold modifiedColumn?
  split <;> simp_all

theorem tableChange_isEmpty_iff {t t' : Table} (olds : DistinctNames (t.columns.map (·.name)))
    (news : DistinctNames (t'.columns.map (·.name))) :
    (tableChange t t').isEmpty = true ↔ t.Agrees SamePath t' := by
  rw [Table.Agrees, matching_iff olds news]
  simp only [TableChange.isEmpty, tableChange, Bool.and_eq_true, List.isEmpty_iff,
    List.map_eq_nil_iff, List.filterMap_eq_nil_iff, modifiedColumn?_eq_none_iff, and_assoc]

theorem compare_findsNothing_iff {s s' : Schema} (names : s.NamesDiffer) (names' : s'.NamesDiffer) :
    (compare s s').FindsNothing ↔ s.Agrees SamePath s' := by
  have pairs : ∀ pair ∈ matched (ofList Table.name s.tables) (ofList Table.name s'.tables),
      (tableChange pair.1 pair.2).isEmpty = true ↔ pair.1.Agrees SamePath pair.2 := by
    rintro ⟨t, t'⟩ member
    obtain ⟨key, first, second⟩ := (mem_matched (ofList_ofNames _ _).distinct).mp member
    rw [ofList_distinct names.tables] at first
    rw [ofList_distinct names'.tables] at second
    obtain ⟨_, inside, ⟨⟩⟩ := List.mem_map.mp first
    obtain ⟨_, inside', same⟩ := List.mem_map.mp second
    cases (Prod.mk.inj same).2
    exact tableChange_isEmpty_iff (names.columns t inside) (names'.columns t' inside')
  rw [Schema.Agrees, matching_iff names.tables names'.tables, ← forall₂_congr pairs]
  simp only [FindsNothing, compare, List.map_eq_nil_iff, List.filter_eq_nil_iff, List.forall_mem_map,
    Bool.not_eq_true', Bool.not_eq_false]

theorem totalChanges_eq_zero_iff (s s' : Schema) :
    (compare s s').totalChanges = 0 ↔ (compare s s').FindsNothing := by
  have changed : ∀ t ∈ (compare s s').modified, t.isEmpty = false := by
    intro t member
    simpa using (List.mem_filter.mp member).2
  simp only [totalChanges, columnsAdded, columnsRemoved, columnsModified, Nat.add_eq_zero_iff,
    List.length_eq_zero_iff, List.flatMap_eq_nil_iff, FindsNothing, and_assoc]
  refine and_congr_right fun _ => and_congr_right fun _ => ?_
  constructor
  · rintro ⟨added, removed, modified⟩
    rw [List.eq_nil_iff_forall_not_mem]
    intro t member
    have empty : t.isEmpty = true := by
      simp [TableChange.isEmpty, added t member, removed t member, modified t member]
    rw [changed t member] at empty
    cases empty
  · intro none
    simp [none]

/-- A comparison finds nothing, and counts nothing, exactly if the schemas agree, references by
their paths; by themselves if no table that is referred to has a point in its name. -/
theorem compare_findsNothing {s s' : Schema} (names : s.NamesDiffer) (names' : s'.NamesDiffer) :
    ((compare s s').FindsNothing ↔ s.Agrees SamePath s') ∧
      ((compare s s').totalChanges = 0 ↔ s.Agrees SamePath s') ∧
      ((∀ r ∈ s.references ++ s'.references, '.' ∉ r.table.toList) →
        ((compare s s').FindsNothing ↔ s.Agrees (· = ·) s')) := by
  have nothing := compare_findsNothing_iff names names'
  refine ⟨nothing, (totalChanges_eq_zero_iff s s').trans nothing, fun free => ?_⟩
  exact nothing.trans (Schema.agrees_samePath_iff free)

def invoiceSchema : Schema :=
  { tables :=
      [{ name := "client", columns := [{ name := "id", type := .int, primaryKey := true }] },
       { name := "invoice"
         columns := [{ name := "total", type := .decimal, length := some 8 },
                     { name := "client_id", type := .int, references := some ⟨"client", "id"⟩ }] }] }

def recasedInvoiceSchema : Schema :=
  { tables :=
      [{ name := "Invoice"
         columns := [{ name := "CLIENT_ID", type := .int, references := some ⟨"client", "id"⟩ },
                     { name := "Total", type := .decimal, length := some 8 }] },
       { name := "Client", columns := [{ name := "ID", type := .int, primaryKey := true }] }] }

theorem invoiceSchema_agrees :
    (compare invoiceSchema recasedInvoiceSchema).FindsNothing ∧
      invoiceSchema.Agrees SamePath recasedInvoiceSchema ∧
      invoiceSchema.Agrees (· = ·) recasedInvoiceSchema := by
  have names : invoiceSchema.NamesDiffer := ⟨by decide +kernel, by decide +kernel⟩
  have names' : recasedInvoiceSchema.NamesDiffer := ⟨by decide +kernel, by decide +kernel⟩
  have found : (compare invoiceSchema recasedInvoiceSchema).FindsNothing := by decide +kernel
  have agrees := compare_findsNothing names names'
  exact ⟨found, agrees.1.mp found, (agrees.2.2 (by decide)).mp found⟩

def referringSchema (r : Reference) : Schema :=
  { tables := [{ name := "t", columns := [{ name := "c", type := .int, references := some r }] }] }

theorem referringSchema_namesDiffer (r : Reference) : (referringSchema r).NamesDiffer where
  tables := by simp [referringSchema, DistinctNames]
  columns := by simp [referringSchema, DistinctNames]

/-- Column `c` of table `a.b` and column `b.c` of table `a` are taken for one. -/
theorem referringSchema_confused :
    (referringSchema ⟨"a.b", "c"⟩).NamesDiffer ∧ (referringSchema ⟨"a", "b.c"⟩).NamesDiffer ∧
      (compare (referringSchema ⟨"a.b", "c"⟩) (referringSchema ⟨"a", "b.c"⟩)).FindsNothing ∧
      ¬ (referringSchema ⟨"a.b", "c"⟩).Agrees (· = ·) (referringSchema ⟨"a", "b.c"⟩) := by
  refine ⟨referringSchema_namesDiffer _, referringSchema_namesDiffer _, ?_, fun agrees => ?_⟩
  · decide +kernel
  · have tables := agrees.agree _ List.mem_cons_self _ List.mem_cons_self (sameName_self "t")
    have columns := tables.agree _ List.mem_cons_self _ List.mem_cons_self (sameName_self "c")
    exact absurd columns.references (by decide)

end SchemaDiff

end RelSchema
