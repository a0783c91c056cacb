import Mathlib.Algebra.GroupWithZero.Nat
import RelSchema.Proofs.Names
import RelSchema.Validation

namespace RelSchema

def Table.columnType? (t : Table) (name : String) : Option ColumnType :=
  (t.column? name).map (·.type)

def Schema.keyType? (s : Schema) (r : Reference) : Option ColumnType :=
  (s.table? r.table).bind (·.columnType? r.column)

/-- Names of columns differ, foreign keys have the type of what they refer to, and edges join tables
of the schema. -/
structure Schema.Consistent (s : Schema) : Prop where
  columnNames : ∀ t ∈ s.tables, DistinctNames (t.columns.map (·.name))
  keys : ∀ t ∈ s.tables, ∀ c ∈ t.columns, ∀ r, c.references = some r → s.keyType? r = some c.type
  edges : ∀ e ∈ s.edges, e.source ∈ s.tables.map (·.id) ∧ e.target ∈ s.tables.map (·.id)

structure Schema.Valid (s : Schema) : Prop extends s.Consistent where
  primaryKeys : ∀ t ∈ s.tables, t.primaryKey ≠ []

namespace Validation

theorem hasRepeats_iff {names : List String} :
    hasRepeats (names.map Text.lower) = false ↔ DistinctNames names := by
  rw [hasRepeats, decide_eq_false_iff_not, DistinctNames, nodup_iff_eraseDups, Nat.not_lt]

theorem keyProblem?_none {s : Schema} {t : Table} {c : Column} :
    keyProblem? s t c = none ↔ ∀ r, c.references = some r → s.keyType? r = some c.type := by
  cases refers : c.references with
  | none => simp [keyProblem?, refers]
  | some r =>
    simp only [keyProblem?, refers, Schema.keyType?, Table.columnType?, Option.bind_eq_bind,
      Option.bind_some, Option.some.injEq, forall_eq']
    cases s.table? r.table with
    | none => simp
    | some parent =>
      cases key : parent.column? r.column with
      | none => simp [key]
      | some found => simp [key, eq_comm]

theorem edgeProblems_nil {s : Schema} {e : Edge} : edgeProblems s e = [] ↔
    e.source ∈ s.tables.map (·.id) ∧ e.target ∈ s.tables.map (·.id) := by
  have known (id : String) : (s.tableById? id).isNone = false ↔ id ∈ s.tables.map (·.id) := by
    simp [Schema.tableById?]
  rw [← known, ← known, edgeProblems]
  simp [Option.isSome_iff_ne_none]

theorem tableProblems_nil {s : Schema} {t : Table} : tableProblems s t = [] ↔
    DistinctNames (t.columns.map (·.name)) ∧ t.primaryKey ≠ [] ∧
      ∀ c ∈ t.columns, ∀ r, c.references = some r → s.keyType? r = some c.type := by
  have names : (t.columns.map fun c => Text.lower c.name) =
      (t.columns.map (·.name)).map Text.lower := by simp
  rw [← hasRepeats_iff, ← names, tableProblems]
  simp only [List.append_eq_nil_iff, List.filterMap_eq_nil_iff, keyProblem?_none, and_assoc]
  simp

theorem problems_nil_iff {s : Schema} : problems s [] = .ok [] ↔ s.Valid := by
  have all : problems s [] = .ok (structuralProblems s) := rfl
  rw [all, Except.ok.injEq, structuralProblems]
  simp only [List.append_eq_nil_iff, List.flatMap_eq_nil_iff, tableProblems_nil, edgeProblems_nil]
  constructor
  · rintro ⟨tables, edges⟩
    exact ⟨⟨fun t member => (tables t member).1, fun t member => (tables t member).2.2, edges⟩,
      fun t member => (tables t member).2.1⟩
  · intro valid
    exact ⟨fun t member => ⟨valid.columnNames t member, valid.primaryKeys t member,
      valid.keys t member⟩, valid.edges⟩

end Validation

def IsFirst {α : Type} (p : α → Prop) (list : List α) (a : α) : Prop :=
  ∃ before after, list = before ++ a :: after ∧ p a ∧ ∀ b ∈ before, ¬ p b

def Schema.RefersTo (s : Schema) (r : Reference) (type : ColumnType) : Prop :=
  ∃ parent key, IsFirst (fun t => Text.lower t.name = Text.lower r.table) s.tables parent ∧
    IsFirst (fun c => Text.lower c.name = Text.lower r.column) parent.columns key ∧
    key.type = type

theorem find?_sameName {α : Type} {name : α → String} {wanted : String} {list : List α} {a : α} :
    list.find? (fun b => Text.sameName (name b) wanted) = some a ↔
      IsFirst (fun b => Text.lower (name b) = Text.lower wanted) list a := by
  rw [List.find?_eq_some_iff_append, IsFirst]
  simp only [sameName_iff, Bool.not_eq_true', ← Bool.not_eq_true]
  constructor
  · rintro ⟨same, before, after, whole, earlier⟩
    exact ⟨before, after, whole, same, earlier⟩
  · rintro ⟨before, after, whole, same, earlier⟩
    exact ⟨same, before, after, whole, earlier⟩

theorem keyType?_eq_some {s : Schema} {r : Reference} {type : ColumnType} :
    s.keyType? r = some type ↔ s.RefersTo r type := by
  simp only [Schema.keyType?, Table.columnType?, Schema.table?, Table.column?,
    Option.bind_eq_some_iff, Option.map_eq_some_iff, find?_sameName, Schema.RefersTo]
  constructor
  · rintro ⟨parent, first, key, second, same⟩
    exact ⟨parent, key, first, second, same⟩
  · rintro ⟨parent, key, first, second, same⟩
    exact ⟨parent, first, key, second, same⟩

instance (s : Schema) (r : Reference) (type : ColumnType) : Decidable (s.RefersTo r type) :=
  decidable_of_iff _ keyType?_eq_some

namespace Validation

def KeyHolds (s : Schema) (c : Column) : Prop := ∀ r ∈ c.references, s.RefersTo r c.type

instance (s : Schema) (c : Column) : Decidable (KeyHolds s c) :=
  inferInstanceAs (Decidable (∀ r ∈ c.references, s.RefersTo r c.type))

def IsTableId (s : Schema) (id : String) : Prop := ∃ t ∈ s.tables, t.id = id

instance (s : Schema) (id : String) : Decidable (IsTableId s id) :=
  inferInstanceAs (Decidable (∃ t ∈ s.tables, t.id = id))

/-- How many of the conditions on a table do not hold, each foreign key being one. -/
def tableFaults (s : Schema) (t : Table) : Nat :=
  (if DistinctNames (t.columns.map (·.name)) then 0 else 1) +
    (if ∃ c ∈ t.columns, c.primaryKey = true then 0 else 1) +
    t.columns.countP fun c => ¬ KeyHolds s c

def edgeFaults (s : Schema) (e : Edge) : Nat :=
  [e.source, e.target].countP fun id => ¬ IsTableId s id

theorem length_filterMap_faults {α : Type} {f : α → Option Problem} {p : α → Prop}
    [DecidablePred p] (told : ∀ a, f a = none ↔ p a) (list : List α) :
    (list.filterMap f).length = list.countP fun a => ¬ p a := by
  rw [List.length_filterMap_eq_countP]
  refine List.countP_congr fun a _ => ?_
  rw [decide_eq_true_eq, ← told, Option.isSome_iff_ne_none]

theorem keyProblem?_none_iff {s : Schema} {t : Table} {c : Column} :
    keyProblem? s t c = none ↔ KeyHolds s c := by
  rw [keyProblem?_none]
  simp only [keyType?_eq_some, KeyHolds, Option.mem_def]

theorem length_unless {p : Prop} [Decidable p] {fails : Bool} (told : fails = false ↔ p)
    (problem : Problem) :
    (if fails then [problem] else []).length = if p then 0 else 1 := by
  cases fails with
  | false => rw [if_pos (told.mp rfl)]; rfl
  | true =>
    have not : ¬ p := fun holds => Bool.noConfusion (told.mpr holds)
    rw [if_neg not]
    rfl

theorem length_tableProblems (s : Schema) (t : Table) :
    (tableProblems s t).length = tableFaults s t := by
  have names : (t.columns.map fun c => Text.lower c.name) =
      (t.columns.map (·.name)).map Text.lower := by simp
  have keyed : t.primaryKey.isEmpty = false ↔ ∃ c ∈ t.columns, c.primaryKey = true := by
    simp [Table.primaryKey]
  rw [tableProblems, names, List.length_append, List.length_append, length_unless hasRepeats_iff,
    length_unless keyed, length_filterMap_faults fun c => keyProblem?_none_iff, tableFaults]

theorem length_edgeProblems (s : Schema) (e : Edge) :
    (edgeProblems s e).length = edgeFaults s e := by
  refine length_filterMap_faults (fun id => ?_) [e.source, e.target]
  simp [Schema.tableById?, IsTableId]

theorem length_structuralProblems (s : Schema) : (structuralProblems s).length =
    (s.tables.map (tableFaults s)).sum + (s.edges.map (edgeFaults s)).sum := by
  simp only [structuralProblems, List.length_append, List.length_flatMap, length_tableProblems,
    length_edgeProblems]

theorem tableFaults_eq_zero {s : Schema} {t : Table} : tableFaults s t = 0 ↔
    DistinctNames (t.columns.map (·.name)) ∧ (∃ c ∈ t.columns, c.primaryKey = true) ∧
      ∀ c ∈ t.columns, KeyHolds s c := by
  simp [tableFaults, and_assoc, List.countP_eq_zero]

theorem edgeFaults_eq_zero {s : Schema} {e : Edge} :
    edgeFaults s e = 0 ↔ IsTableId s e.source ∧ IsTableId s e.target := by
  simp [edgeFaults]

section Rules

def Rule.Applies (r : Rule) (t : Table) : Prop :=
  r.tables = [] ∨ Text.lower t.name ∈ r.tables.map Text.lower

instance (r : Rule) (t : Table) : Decidable (r.Applies t) :=
  inferInstanceAs (Decidable (r.tables = [] ∨ Text.lower t.name ∈ r.tables.map Text.lower))

theorem Rule.appliesTo_iff {r : Rule} {t : Table} : r.appliesTo t = true ↔ r.Applies t := by
  simp only [appliesTo, Applies, Bool.or_eq_true, List.isEmpty_iff, List.any_eq_true, sameName_iff,
    List.mem_map]
  exact or_congr_right (exists_congr fun _ => and_congr_right fun _ => eq_comm)

def Rule.IsReadable (r : Rule) (s : Schema) : Prop :=
  ∀ t ∈ s.tables, r.Applies t → ∃ passes, Check.evaluate t r.check = .ok passes

def Rule.failures (r : Rule) (s : Schema) : List Table :=
  s.tables.filter fun t => r.Applies t ∧ (Check.evaluate t r.check).toOption = some false

variable {ε α β γ : Type}

theorem bind_eq_ok {result : Except ε α} {f : α → Except ε β} {b : β} :
    result >>= f = .ok b ↔ ∃ a, result = .ok a ∧ f a = .ok b := by
  cases result <;> simp [bind, Except.bind]

theorem mapM_eq_ok {f : α → Except ε β} {good : α → Prop} {g : α → β}
    (each : ∀ a b, f a = .ok b ↔ good a ∧ b = g a) {list : List α} {found : List β} :
    list.mapM f = .ok found ↔ (∀ a ∈ list, good a) ∧ found = list.map g := by
  induction list generalizing found with
  | nil => simp [pure, Except.pure, eq_comm]
  | cons a rest ih =>
    simp only [List.mapM_cons, bind_eq_ok, each, ih, List.forall_mem_cons, List.map_cons, pure,
      Except.pure, Except.ok.injEq]
    constructor
    · rintro ⟨_, ⟨first, rfl⟩, _, ⟨later, rfl⟩, rfl⟩
      exact ⟨⟨first, later⟩, rfl⟩
    · rintro ⟨⟨first, later⟩, rfl⟩
      exact ⟨_, ⟨first, rfl⟩, _, ⟨later, rfl⟩, rfl⟩

theorem ruleProblems_eq_ok {s : Schema} {r : Rule} {found : List Problem} :
    ruleProblems s r = .ok found ↔
      r.IsReadable s ∧ found = (r.failures s).map fun t => .ruleFailed t.name r.name r.check := by
  have each (t : Table) (told : List Problem) :
      (do
        let passes ← Check.evaluate t r.check
        return if passes then [] else [Problem.ruleFailed t.name r.name r.check]) = .ok told ↔
      (∃ passes, Check.evaluate t r.check = .ok passes) ∧
        told = if (Check.evaluate t r.check).toOption = some false then
          [.ruleFailed t.name r.name r.check] else [] := by
    cases Check.evaluate t r.check with
    | error e => simp [bind, Except.bind]
    | ok passes => cases passes <;>
        simp [bind, Except.bind, pure, Except.pure, eq_comm, Except.toOption]
  have flat (list : List Table) :
      (list.map fun t => if (Check.evaluate t r.check).toOption = some false then
          [Problem.ruleFailed t.name r.name r.check] else []).flatten =
        (list.filter fun t => (Check.evaluate t r.check).toOption = some false).map fun t =>
          .ruleFailed t.name r.name r.check := by
    induction list with
    | nil => rfl
    | cons t rest ih =>
      by_cases fails : (Check.evaluate t r.check).toOption = some false <;> simp [fails, ih]
  have failures : r.failures s = (s.tables.filter r.appliesTo).filter fun t =>
      (Check.evaluate t r.check).toOption = some false := by
    rw [List.filter_filter, Rule.failures]
    refine List.filter_congr fun t _ => ?_
    rw [Bool.eq_iff_iff, Bool.and_eq_true, decide_eq_true_eq, decide_eq_true_eq,
      Rule.appliesTo_iff, and_comm]
  have readable : (∀ t ∈ s.tables.filter r.appliesTo, ∃ passes,
      Check.evaluate t r.check = .ok passes) ↔ r.IsReadable s := by
    simp only [List.mem_filter, Rule.appliesTo_iff, and_imp, Rule.IsReadable]
  rw [ruleProblems, bind_eq_ok, failures, ← readable]
  simp only [mapM_eq_ok each]
  constructor
  · rintro ⟨_, ⟨all, rfl⟩, told⟩
    exact ⟨all, (Except.ok.inj told).symm.trans (flat _)⟩
  · rintro ⟨all, rfl⟩
    exact ⟨_, ⟨all, rfl⟩, congrArg Except.ok (flat _)⟩

theorem problems_eq_ok {s : Schema} {rules : List Rule} {found : List Problem} :
    problems s rules = .ok found ↔ (∀ r ∈ rules, r.IsReadable s) ∧
      found = (rules.flatMap fun r =>
        (r.failures s).map fun t => .ruleFailed t.name r.name r.check) ++ structuralProblems s := by
  rw [problems, bind_eq_ok, List.flatMap_def]
  simp only [mapM_eq_ok fun r told => ruleProblems_eq_ok]
  constructor
  · rintro ⟨_, ⟨readable, rfl⟩, told⟩
    exact ⟨readable, (Except.ok.inj told).symm⟩
  · rintro ⟨readable, rfl⟩
    exact ⟨_, ⟨readable, rfl⟩, rfl⟩

end Rules

/-- A schema has no problems exactly if its tables, foreign keys and edges are sound. Else it has
one for each fault, and first of all one for each table that fails a rule. -/
theorem problems_faults (s : Schema) :
    (problems s [] = .ok [] ↔
      (∀ t ∈ s.tables, DistinctNames (t.columns.map (·.name)) ∧
        (∃ c ∈ t.columns, c.primaryKey = true) ∧ ∀ c ∈ t.columns, KeyHolds s c) ∧
      ∀ e ∈ s.edges, IsTableId s e.source ∧ IsTableId s e.target) ∧
    ∃ structural, problems s [] = .ok structural ∧
      structural.length = (s.tables.map (tableFaults s)).sum + (s.edges.map (edgeFaults s)).sum ∧
      ∀ rules found, problems s rules = .ok found ↔ (∀ r ∈ rules, r.IsReadable s) ∧
        found = (rules.flatMap fun r =>
          (r.failures s).map fun t => .ruleFailed t.name r.name r.check) ++ structural := by
  have all : problems s [] = .ok (structuralProblems s) := rfl
  refine ⟨?_, structuralProblems s, all, length_structuralProblems s, fun _ _ => problems_eq_ok⟩
  rw [all, Except.ok.injEq, ← List.length_eq_zero_iff, length_structuralProblems,
    Nat.add_eq_zero_iff, List.sum_eq_zero_iff_forall_eq_nat, List.sum_eq_zero_iff_forall_eq_nat]
  simp only [List.forall_mem_map, tableFaults_eq_zero, edgeFaults_eq_zero]

end Validation

end RelSchema
