import RelSchema.Proofs.Names
import RelSchema.Sql.Body

namespace RelSchema

def Column.core (c : Column) : Column :=
  { name := c.name, type := c.type, length := c.length, scale := c.scale, values := c.values,
    elementType := c.elementType }

/-- A column of a primary key takes no null. -/
def Column.KeyNotNull (c : Column) : Prop := c.primaryKey = true → c.nullable = false

instance (c : Column) : Decidable c.KeyNotNull :=
  inferInstanceAs (Decidable (c.primaryKey = true → c.nullable = false))

namespace Sql.Body

theorem keyed_keyNotNull (c : Column) : (keyed c).KeyNotNull := by
  unfold keyed
  split
  · intro _
    rfl
  · intro key
    contradiction

theorem column_keyNotNull {name : String} {type : Option TypeSpec} {rules : List Rule}
    {declared : Option (List String)} {c : Column}
    (h : (column name type rules declared).result = .ok c) : c.KeyNotNull := by
  have ruled : ∃ typed, underRules typed rules = .ok c := by
    unfold column at h
    split at h <;>
    · obtain ⟨typed, -, rest⟩ := Remarked.result_bind_ok.mp h
      exact ⟨typed, rest⟩
  obtain ⟨typed, ruled⟩ := ruled
  unfold underRules at ruled
  cases done : rules.foldlM underRule typed with
  | error e => rw [done] at ruled; cases ruled
  | ok last =>
    rw [done] at ruled
    cases ruled
    exact keyed_keyNotNull last

theorem withTruthSpelling_keyNotNull {d : Dialect} {item : List Char} {c : Column}
    (h : c.KeyNotNull) : (withTruthSpelling d item c).KeyNotNull := by
  unfold withTruthSpelling
  split
  · split
    · exact h
    · exact h
  · exact h

theorem unknownTypeColumn_keyNotNull {read : ItemReader} {enums : Enums} {item : List Char}
    {c : Column} (h : (unknownTypeColumn read enums item).result = .ok (some c)) :
    c.KeyNotNull := by
  unfold unknownTypeColumn at h
  split at h
  · cases h
  · split at h
    · obtain ⟨plain, hplain, rest⟩ := Remarked.result_bind_ok.mp h
      have notNull := column_keyNotNull hplain
      split at rest
      · cases rest
        exact notNull
      · split at rest
        · cases rest
          exact notNull
        · obtain ⟨sized, -, last⟩ := Remarked.result_bind_ok.mp rest
          cases last
          exact notNull
    · cases h

theorem contribution_cases {d : Dialect} {read : ItemReader} {enums : Enums} {table : String}
    {item : List Char} {found : Contribution}
    (h : (contribution d read enums table item).result = .ok found) :
    (found = {} ∧ (isPassedOver item = true ∨ read item = none)) ∨
      (∃ rules, found = { rules } ∧ isPassedOver item = false ∧ read item = some (.rules rules)) ∨
        ∃ c, found = { columns := [withTruthSpelling d item c] } ∧
          ((∃ name type rules, read item = some (.column name type rules) ∧
              (column name type rules (declaredValues? enums item)).result = .ok c) ∨
            read item = none ∧ (unknownTypeColumn read enums item).result = .ok (some c)) := by
  unfold contribution at h
  split at h
  · rename_i passed
    cases h
    exact .inl ⟨rfl, .inl passed⟩
  · rename_i kept
    rw [Bool.not_eq_true] at kept
    split at h
    · rename_i name type rules reads
      obtain ⟨c, hc, last⟩ := Remarked.result_bind_ok.mp h
      cases last
      exact .inr (.inr ⟨c, rfl, .inl ⟨name, type, rules, reads, hc⟩⟩)
    · rename_i rules reads
      cases h
      exact .inr (.inl ⟨rules, rfl, kept, reads⟩)
    · rename_i reads
      obtain ⟨unknown, hunknown, rest⟩ := Remarked.result_bind_ok.mp h
      cases unknown with
      | some c =>
        cases rest
        exact .inr (.inr ⟨c, rfl, .inr ⟨reads, hunknown⟩⟩)
      | none =>
        obtain ⟨-, -, last⟩ := Remarked.result_bind_ok.mp rest
        cases last
        exact .inl ⟨rfl, .inr reads⟩

theorem contribution_keyNotNull {d : Dialect} {read : ItemReader} {enums : Enums} {table : String}
    {item : List Char} {found : Contribution}
    (h : (contribution d read enums table item).result = .ok found) :
    ∀ c ∈ found.columns, c.KeyNotNull := by
  rcases contribution_cases h with ⟨rfl, -⟩ | ⟨rules, rfl, -⟩ | ⟨c, rfl, known | unknown⟩
  · simp
  · simp
  · obtain ⟨name, type, rules, -, hc⟩ := known
    simpa using withTruthSpelling_keyNotNull (column_keyNotNull hc)
  · simpa using withTruthSpelling_keyNotNull (unknownTypeColumn_keyNotNull unknown.2)

theorem contributions_keyNotNull {d : Dialect} {read : ItemReader} {enums : Enums}
    {table : String} {items : List (List Char)} {found : Contribution}
    (h : (contributions d read enums table items).result = .ok found) :
    ∀ c ∈ found.columns, c.KeyNotNull := by
  induction items generalizing found with
  | nil => cases h; simp
  | cons item rest ih =>
    unfold contributions at h
    obtain ⟨first, hfirst, tail⟩ := Remarked.result_bind_ok.mp h
    obtain ⟨more, hmore, last⟩ := Remarked.result_bind_ok.mp tail
    cases last
    intro c member
    rcases List.mem_append.mp member with member | member
    · exact contribution_keyNotNull hfirst c member
    · exact ih hmore c member

theorem firstOfEachFrom_eq (seen : List String) (columns : List Column) :
    firstOfEachFrom seen columns =
      firstOfName (·.name) (columns.filter fun c => !seen.contains (Text.lower c.name)) := by
  induction columns generalizing seen with
  | nil => rfl
  | cons c rest ih =>
    unfold firstOfEachFrom
    by_cases known : seen.contains (Text.lower c.name) = true
    · simp only [known, ↓reduceIte, ih]
      rw [List.filter_cons_of_neg (by simp only [known]; decide)]
    · simp only [Bool.not_eq_true] at known
      simp only [known, Bool.false_eq_true, ↓reduceIte, ih]
      rw [List.filter_cons_of_pos (by simp only [known]; decide), firstOfName_cons,
        List.filter_filter]
      congr 2
      apply List.filter_congr
      intro b _
      simp only [List.contains_cons, Bool.not_or, Text.sameName]

theorem firstOfEach_eq (columns : List Column) :
    firstOfEach columns = firstOfName (·.name) columns := by
  rw [firstOfEach, firstOfEachFrom_eq]
  congr 1
  rw [List.filter_eq_self]
  simp

structure Ruled (t t' : Table) : Prop where
  name : t'.name = t.name
  core : t'.columns.map Column.core = t.columns.map Column.core
  keyNotNull : (∀ c ∈ t.columns, c.KeyNotNull) → ∀ c ∈ t'.columns, c.KeyNotNull

theorem Ruled.refl (t : Table) : Ruled t t := ⟨rfl, rfl, id⟩

theorem Ruled.trans {a b c : Table} (first : Ruled a b) (second : Ruled b c) : Ruled a c :=
  ⟨second.name.trans first.name, second.core.trans first.core,
    fun h => second.keyNotNull (first.keyNotNull h)⟩

theorem changeFirst_core {name : String} {f : Column → Column} (kept : ∀ c, (f c).core = c.core)
    (columns : List Column) :
    (changeFirst name f columns).map Column.core = columns.map Column.core := by
  induction columns with
  | nil => rfl
  | cons c rest ih =>
    unfold changeFirst
    split
    · simp [kept]
    · simp [ih]

theorem changeFirst_all {name : String} {f : Column → Column} {p : Column → Prop}
    (kept : ∀ c, p c → p (f c)) {columns : List Column} (all : ∀ c ∈ columns, p c) :
    ∀ c ∈ changeFirst name f columns, p c := by
  induction columns with
  | nil => simp [changeFirst]
  | cons c rest ih =>
    rw [List.forall_mem_cons] at all
    unfold changeFirst
    split
    · exact List.forall_mem_cons.mpr ⟨kept c all.1, all.2⟩
    · exact List.forall_mem_cons.mpr ⟨all.1, ih all.2⟩

theorem change_ruled {name : String} {f : Column → Column} (t : Table)
    (core : ∀ c, (f c).core = c.core) (notNull : ∀ c, c.KeyNotNull → (f c).KeyNotNull) :
    Ruled t (change t name f) :=
  ⟨rfl, changeFirst_core core t.columns, changeFirst_all notNull⟩

theorem changeOr_ruled {missing : Notice} {name : String} {f : Column → Column} (t : Table)
    (core : ∀ c, (f c).core = c.core) (notNull : ∀ c, c.KeyNotNull → (f c).KeyNotNull) :
    Ruled t (changeOr missing t name f).1 := by
  unfold changeOr
  split
  · exact change_ruled t core notNull
  · exact Ruled.refl t

theorem through_ruled {α : Type} {f : Table → α → Table × List Notice}
    (step : ∀ t a, Ruled t (f t a).1) (t : Table) (list : List α) :
    Ruled t (through f t list).1 := by
  induction list generalizing t with
  | nil => exact Ruled.refl t
  | cons a rest ih => exact (step t a).trans (ih (f t a).1)

theorem underTableRule_ruled (t : Table) (r : Rule) : Ruled t (underTableRule t r).1 := by
  unfold underTableRule
  split
  · apply through_ruled
    intro t name
    exact changeOr_ruled t (fun _ => rfl) (fun _ _ _ => rfl)
  · apply through_ruled
    intro t ⟨name, r⟩
    exact changeOr_ruled t (fun _ => rfl) (fun _ h => h)
  · exact change_ruled t (fun _ => rfl) (fun _ h => h)
  · split
    · exact change_ruled t (fun _ => rfl) (fun _ h => h)
    · exact Ruled.refl t
  · exact Ruled.refl t

/-- A table that is read: its columns are the first definitions of their names, but for what its
rules say. -/
structure TableRead (d : Dialect) (read : ItemReader) (enums : Enums) (name : String)
    (body : List Char) (t : Table) : Prop where
  columns : ∃ found, (contributions d read enums name (splitTopLevel body ',')).result = .ok found ∧
    t.columns.map Column.core = (firstOfName (·.name) found.columns).map Column.core
  named : t.name = name
  keyNotNull : ∀ c ∈ t.columns, c.KeyNotNull

theorem table_read {d : Dialect} {read : ItemReader} {enums : Enums} {name : String}
    {body : List Char} {t : Table} (h : (table d read enums name body).result = .ok t) :
    TableRead d read enums name body t := by
  unfold table at h
  obtain ⟨found, hfound, rest⟩ := Remarked.result_bind_ok.mp h
  have ruled := through_ruled underTableRule_ruled { name, columns := firstOfEach found.columns }
    (found.rules.takeWhile (!·.isIncomplete))
  simp only at rest
  split at rest
  · cases rest
  · cases rest
    refine ⟨⟨found, hfound, ?_⟩, ruled.name, ruled.keyNotNull ?_⟩
    · rw [ruled.core, firstOfEach_eq]
    · intro c member
      rw [firstOfEach_eq] at member
      exact contributions_keyNotNull hfound c (firstOfName_subset _ _ c member)

theorem TableRead.names_distinct {d : Dialect} {read : ItemReader} {enums : Enums} {name : String}
    {body : List Char} {t : Table} (h : TableRead d read enums name body t) :
    DistinctNames (t.columns.map (·.name)) := by
  obtain ⟨found, -, core⟩ := h.columns
  have names := congrArg (List.map Column.name) core
  rw [List.map_map, List.map_map] at names
  change t.columns.map (·.name) = (firstOfName (·.name) found.columns).map (·.name) at names
  rw [names]
  exact distinct_firstOfName _ _

end Sql.Body

end RelSchema
