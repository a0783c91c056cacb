import RelSchema.Orm.Target
import RelSchema.Proofs.Orm.Classes
import RelSchema.Proofs.Orm.SnakeCase

namespace RelSchema

def Column.isEnumerated (c : Column) : Bool :=
  c.type = .enum ∧ c.values ≠ [] ∧ c.values.all Orm.Prisma.isName

/-- The singulars of the tables and the names of the columns are in snake case. -/
def Schema.IsSnakeCase (s : Schema) : Prop :=
  ∀ t ∈ s.tables, RelSchema.IsSnakeCase (singularize t.name) ∧
    ∀ c ∈ t.columns, RelSchema.IsSnakeCase c.name

/-- Two tables are named alike in Pascal case, or one of them has no letters and the other is the
model without a name. -/
def SameModel (a b : String) : Prop :=
  let pascal := pascalCase (singularize a)
  let pascal' := pascalCase (singularize b)
  pascal = pascal' ∨ pascal = "" ∧ pascal' = "Model" ∨ pascal = "Model" ∧ pascal' = ""

theorem modelName_eq_model_iff {table : String} {first : Char} {rest : List Char}
    (pascal : (pascalCase (singularize table)).toList = first :: rest) :
    modelName table = "Model" ↔ pascalCase (singularize table) = "Model" := by
  obtain ⟨empty, -⟩ | ⟨c, tail, shape, chars⟩ := modelName_spec table
  · rw [empty] at pascal
    cases pascal
  · rw [← shape] at chars
    rw [← String.toList_inj, ← String.toList_inj, chars]
    by_cases digit : Text.isDigit c = true
    · have other : c ≠ 'M' := by
        rintro rfl
        exact absurd digit (by decide)
      rw [if_pos digit, shape]
      constructor
      · intro same
        exact absurd (List.cons.inj same).1 (by decide)
      · intro same
        exact absurd (List.cons.inj same).1 other
    · rw [if_neg digit]

theorem marked_eq_iff {c c' : Char} {rest rest' : List Char} (free : '_' ∉ c :: rest)
    (free' : '_' ∉ c' :: rest') :
    ((if Text.isDigit c then '_' :: c :: rest else c :: rest) =
        if Text.isDigit c' then '_' :: c' :: rest' else c' :: rest') ↔ c :: rest = c' :: rest' := by
  constructor
  · intro same
    split at same <;> split at same
    · exact (List.cons.inj same).2
    · exact absurd (same ▸ List.mem_cons_self) free'
    · exact absurd (same ▸ List.mem_cons_self) free
    · exact same
  · intro same
    obtain ⟨rfl, rfl⟩ := List.cons.inj same
    rfl

theorem modelName_eq_iff (a b : String) : modelName a = modelName b ↔ SameModel a b := by
  have none {name : String} (empty : (pascalCase name).toList = []) : pascalCase name = "" :=
    String.toList_inj.mp empty
  have some {name : String} {first : Char} {rest : List Char}
      (shape : (pascalCase name).toList = first :: rest) : pascalCase name ≠ "" := by
    intro empty
    rw [empty] at shape
    cases shape
  obtain ⟨empty, model⟩ | ⟨first, rest, shape, chars⟩ := modelName_spec a <;>
    obtain ⟨empty', model'⟩ | ⟨first', rest', shape', chars'⟩ := modelName_spec b
  · simp [SameModel, model, model', none empty, none empty']
  · rw [model, eq_comm, modelName_eq_model_iff shape']
    simp [SameModel, none empty, some shape', (some shape').symm]
  · rw [model', modelName_eq_model_iff shape]
    simp [SameModel, none empty', some shape]
  · have free := shape ▸ pascalCase_ne_underscore
    have free' := shape' ▸ pascalCase_ne_underscore
    rw [← String.toList_inj, chars, chars', marked_eq_iff free free', ← shape, ← shape',
      String.toList_inj]
    simp [SameModel, some shape, some shape']

namespace Orm

theorem Prisma.model_name (list : List Relation) (t : Placed Table) :
    (model list t).name = modelName t.item.name := by
  rw [model]

theorem Sequelize.ofTable_name (t : Table) : (Model.ofTable t).name = modelName t.name := by
  rw [Model.ofTable]

theorem TypeOrm.ofTable_name (storage : Column → Storage) (list : List Relation)
    (t : Placed Table) : (Entity.ofTable storage list t).name = modelName t.item.name := by
  rw [Entity.ofTable]

theorem Mongoose.ofTable_name (list : List Relation) (t : Placed Table) :
    (Model.ofTable list t).name = modelName t.item.name := by
  rw [Model.ofTable]

structure Declaration where
  name : String
  text : String

theorem SqlAlchemy.standsIn_append_right (a b : String) : StandsIn b (a ++ b) := by
  rw [StandsIn, String.toList_append]
  exact (List.suffix_append _ _).isInfix

theorem TypeOrm.Entity.standsIn_text (e : Entity) :
    SqlAlchemy.StandsIn s!"export class {e.name} " e.text := by
  let options := Script.object [s!"name: {Json.quote e.table}"]
  let body := Text.paragraphs (e.members.map Member.text)
  have line : ")\nexport class " = ")\n" ++ "export class " := by decide
  have text : e.text = "@Entity(" ++ options ++ ")\nexport class " ++ e.name ++ " " ++
      Text.braced s!"\n{body}\n" := rfl
  have inside := (SqlAlchemy.standsIn_append_right ("@Entity(" ++ options ++ ")\n")
    ("export class " ++ e.name ++ " ")).trans
      (SqlAlchemy.standsIn_append_left _ (Text.braced s!"\n{body}\n"))
  change SqlAlchemy.StandsIn ("export class " ++ e.name ++ " ") e.text
  rw [text, line]
  simpa only [String.append_assoc] using inside

namespace Target

def declarations (t : Target) (s : Schema) : List Declaration :=
  match t with
  | sqlalchemy => (SqlAlchemy.classes s).map fun c => ⟨c.name, s!"class {c.name}(Base):"⟩
  | prisma =>
    ((Prisma.models s).map fun m => ⟨m.name, s!"model {m.name} \x7b"⟩) ++
      (Prisma.enumerations s).map fun e => ⟨e.name, s!"enum {e.name} "⟩
  | sequelize =>
    (Sequelize.models s).map fun m =>
      ⟨m.name, s!"  const {m.name} = sequelize.define({Json.quote m.name}, \x7b"⟩
  | typeorm => (TypeOrm.entities .ofColumn s).map fun e => ⟨e.name, s!"export class {e.name} "⟩
  | mongoose =>
    (Mongoose.models s).map fun m =>
      ⟨m.name, s!"const {m.name} = mongoose.model({Json.quote m.name}, {m.schemaVariable});"⟩

def enumerated (t : Target) (s : Schema) : List (String × String) :=
  if t = prisma then
    s.tables.flatMap fun t => (t.columns.filter Column.isEnumerated).map fun c => (t.name, c.name)
  else []

theorem map_placed {α β : Type} (list : List α) (f : α → β) :
    (placed list).map (fun p => f p.item) = list.map f := by
  refine List.ext_getElem? fun place => ?_
  rw [List.getElem?_map, getElem?_placed, List.getElem?_map, Option.map_map]
  rfl

theorem map_name_enumerations (s : Schema) :
    (Prisma.enumerations s).map (·.name) =
      (enumerated prisma s).map fun (table, column) => modelName table ++ pascalCase column := by
  rw [Prisma.enumerations, enumerated, if_pos rfl, List.map_flatMap, List.map_flatMap]
  refine List.flatMap_congr fun t _ => ?_
  rw [List.map_filterMap, List.map_map, ← List.filterMap_eq_map, ← List.filterMap_eq_filter,
    List.filterMap_filterMap]
  refine List.filterMap_congr fun c _ => ?_
  by_cases kept : c.type = .enum ∧ c.values ≠ [] ∧ c.values.all Prisma.isName
  · have counts : c.isEnumerated = true := decide_eq_true kept
    simp only [Prisma.enumeration?, Prisma.enumName?, if_pos kept, Option.guard, counts, if_true]
    rfl
  · have counts : c.isEnumerated = false := decide_eq_false kept
    simp only [Prisma.enumeration?, Prisma.enumName?, if_neg kept, Option.guard, counts]
    rfl

theorem map_name_declarations (t : Target) (s : Schema) :
    (t.declarations s).map (·.name) = s.tables.map (modelName ·.name) ++
      (t.enumerated s).map fun (table, column) => modelName table ++ pascalCase column := by
  have models := map_placed s.tables (modelName ·.name)
  have none (other : t ≠ prisma) : t.enumerated s = [] := if_neg other
  cases t with
  | prisma =>
    rw [← models, ← map_name_enumerations, declarations, Prisma.models]
    simp only [List.map_append, List.map_map, Function.comp_def, Prisma.model_name]
  | sqlalchemy =>
    rw [← models, none (by decide), declarations, SqlAlchemy.classes]
    simp only [List.map_map, Function.comp_def, SqlAlchemy.ofTable_name, List.map_nil,
      List.append_nil]
  | sequelize =>
    rw [none (by decide), declarations, Sequelize.models]
    simp only [List.map_map, Function.comp_def, Sequelize.ofTable_name, List.map_nil,
      List.append_nil]
  | typeorm =>
    rw [← models, none (by decide), declarations, TypeOrm.entities]
    simp only [List.map_map, Function.comp_def, TypeOrm.ofTable_name, List.map_nil,
      List.append_nil]
  | mongoose =>
    rw [← models, none (by decide), declarations, Mongoose.models]
    simp only [List.map_map, Function.comp_def, Mongoose.ofTable_name, List.map_nil,
      List.append_nil]

theorem standsIn_generate (t : Target) (s : Schema) :
    ∀ d ∈ t.declarations s, SqlAlchemy.StandsIn d.text (t.generate s) := by
  intro d member
  cases t with
  | sqlalchemy =>
    obtain ⟨c, inside, rfl⟩ := List.mem_map.mp member
    refine .trans (b := c.text) ?_ (SqlAlchemy.standsIn_generate inside)
    exact SqlAlchemy.standsIn_intercalate (List.mem_append_left _ List.mem_cons_self)
  | prisma =>
    rcases List.mem_append.mp member with model | enumeration
    · obtain ⟨m, inside, rfl⟩ := List.mem_map.mp model
      refine .trans (b := m.text) ?_ (.trans (SqlAlchemy.standsIn_intercalate ?_)
        (SqlAlchemy.standsIn_append_left _ "\n"))
      · exact SqlAlchemy.standsIn_intercalate
          (List.mem_append_left _ (List.mem_append_left _ List.mem_cons_self))
      · exact List.mem_append_left _ (List.mem_append_right _ (List.mem_map_of_mem inside))
    · obtain ⟨e, inside, rfl⟩ := List.mem_map.mp enumeration
      refine .trans (b := e.text) (SqlAlchemy.standsIn_append_left _ _)
        (.trans (SqlAlchemy.standsIn_intercalate ?_) (SqlAlchemy.standsIn_append_left _ "\n"))
      exact List.mem_append_right _ (List.mem_map_of_mem inside)
  | sequelize =>
    obtain ⟨m, inside, rfl⟩ := List.mem_map.mp member
    refine .trans (SqlAlchemy.standsIn_intercalate ?_) (SqlAlchemy.standsIn_append_left _ "\n")
    have own : s!"  const {m.name} = sequelize.define({Json.quote m.name}, \x7b" ∈ m.lines :=
      List.mem_append_left _ (List.mem_append_left _ List.mem_cons_self)
    exact List.mem_append_left _ (List.mem_append_left _ (List.mem_append_right _
      (List.mem_flatMap_of_mem inside own)))
  | typeorm =>
    obtain ⟨e, inside, rfl⟩ := List.mem_map.mp member
    refine .trans (b := e.text) ?_ (.trans (SqlAlchemy.standsIn_intercalate ?_)
      (SqlAlchemy.standsIn_append_left _ "\n"))
    · exact e.standsIn_text
    · exact List.mem_cons_of_mem _ (List.mem_map_of_mem inside)
  | mongoose =>
    obtain ⟨m, inside, rfl⟩ := List.mem_map.mp member
    refine .trans (b := m.text) ?_ (.trans (SqlAlchemy.standsIn_intercalate ?_)
      (SqlAlchemy.standsIn_append_left _ "\n"))
    · exact SqlAlchemy.standsIn_append_right _ _
    · exact List.mem_append_left _ (List.mem_cons_of_mem _ (List.mem_map_of_mem inside))

structure KeepsApart (t : Target) (s : Schema) : Prop where
  models : s.tables.Pairwise fun a b => ¬SameModel a.name b.name
  enumerations : (t.enumerated s).Pairwise fun a b =>
    modelName a.1 ++ pascalCase a.2 ≠ modelName b.1 ++ pascalCase b.2
  apart : ∀ table ∈ s.tables, ∀ e ∈ t.enumerated s,
    modelName table.name ≠ modelName e.1 ++ pascalCase e.2

def sources (t : Target) (s : Schema) : List String :=
  s.tables.map (singularize ·.name) ++
    (t.enumerated s).map fun (table, column) => singularize table ++ "_" ++ column

theorem nodup_names_iff (t : Target) (s : Schema) :
    ((t.declarations s).map (·.name)).Nodup ↔ KeepsApart t s := by
  rw [map_name_declarations, List.nodup_append]
  simp only [List.Nodup, List.pairwise_map, List.forall_mem_map, ne_eq, modelName_eq_iff]
  exact ⟨fun ⟨models, enumerations, apart⟩ => ⟨models, enumerations, apart⟩,
    fun ⟨models, enumerations, apart⟩ => ⟨models, enumerations, apart⟩⟩

theorem mem_enumerated {t : Target} {s : Schema} {table column : String}
    (member : (table, column) ∈ t.enumerated s) :
    ∃ owner ∈ s.tables, owner.name = table ∧ ∃ c ∈ owner.columns, c.name = column := by
  unfold enumerated at member
  split at member
  · obtain ⟨owner, inside, member⟩ := List.mem_flatMap.mp member
    obtain ⟨c, own, same⟩ := List.mem_map.mp member
    obtain ⟨rfl, rfl⟩ := Prod.mk.inj same
    exact ⟨owner, inside, rfl, c, List.mem_of_mem_filter own, rfl⟩
  · cases member

theorem names_eq_map_pascalCase {s : Schema} (snake : s.IsSnakeCase) (t : Target) :
    (t.declarations s).map (·.name) = (t.sources s).map pascalCase ∧
      ∀ name ∈ t.sources s, IsSnakeCase name := by
  have enumerated {table column : String} (member : (table, column) ∈ t.enumerated s) :
      IsSnakeCase (singularize table) ∧ IsSnakeCase column := by
    obtain ⟨owner, inside, rfl, c, own, rfl⟩ := mem_enumerated member
    exact ⟨(snake owner inside).1, (snake owner inside).2 c own⟩
  constructor
  · rw [map_name_declarations, sources, List.map_append, List.map_map, List.map_map]
    refine congrArg₂ (· ++ ·) ?_ ?_
    · refine List.map_congr_left fun table member => ?_
      rw [Function.comp_apply, (snake table member).1.modelName_eq]
    · refine List.map_congr_left fun ⟨table, column⟩ member => ?_
      obtain ⟨singular, snake⟩ := enumerated member
      change modelName table ++ pascalCase column = pascalCase (singularize table ++ "_" ++ column)
      rw [singular.pascalCase_append snake, singular.modelName_eq]
  · rw [sources, List.forall_mem_append, List.forall_mem_map, List.forall_mem_map]
    refine ⟨fun table member => (snake table member).1, fun ⟨table, column⟩ member => ?_⟩
    obtain ⟨singular, snake⟩ := enumerated member
    exact singular.append snake

theorem nodup_names_iff_sources {s : Schema} (snake : s.IsSnakeCase) (t : Target) :
    ((t.declarations s).map (·.name)).Nodup ↔ (t.sources s).Nodup := by
  obtain ⟨names, each⟩ := names_eq_map_pascalCase snake t
  rw [names]
  refine ⟨List.Nodup.of_map _, fun distinct => distinct.map_on ?_⟩
  exact fun a inside b inside' => ((each a inside).pascalCase_inj (each b inside')).mp

/-- What is declared stands in the code, and its names are told apart just where those that they are
made from are: in snake case, the singulars of the tables, and those with the names of columns. -/
theorem declarations_nodup_iff (t : Target) (s : Schema) :
    (∀ d ∈ t.declarations s, SqlAlchemy.StandsIn d.text (t.generate s)) ∧
      (((t.declarations s).map (·.name)).Nodup ↔ KeepsApart t s) ∧
      (s.IsSnakeCase → (((t.declarations s).map (·.name)).Nodup ↔ (t.sources s).Nodup)) :=
  ⟨standsIn_generate t s, nodup_names_iff t s, fun snake => nodup_names_iff_sources snake t⟩

def clinicSchema : Schema :=
  { tables :=
      [{ name := "clinics", columns := [{ name := "kind", type := .enum, values := ["day"] }] },
       { name := "clinic_visits", columns := [{ name := "visit_day", type := .date }] }] }

theorem clinicSchema_isSnakeCase : clinicSchema.IsSnakeCase := by
  have clinic : IsSnakeCase (singularize "clinics") :=
    ⟨["clinic"], by decide, by decide, by decide⟩
  have visit : IsSnakeCase (singularize "clinic_visits") :=
    ⟨["clinic", "visit"], by decide, by decide, by decide⟩
  have kind : IsSnakeCase "kind" := ⟨["kind"], by decide, by decide, by decide⟩
  have day : IsSnakeCase "visit_day" :=
    ⟨["visit", "day"], by decide, by decide, by decide⟩
  simp only [Schema.IsSnakeCase, clinicSchema, List.forall_mem_cons]
  exact ⟨⟨clinic, kind, List.forall_mem_nil _⟩, ⟨visit, day, List.forall_mem_nil _⟩,
    List.forall_mem_nil _⟩

theorem clinicSchema_declares :
    clinicSchema.IsSnakeCase ∧
      prisma.sources clinicSchema = ["clinic", "clinic_visit", "clinic_kind"] ∧
      ((prisma.declarations clinicSchema).map (·.name)).Nodup := by
  have sources : prisma.sources clinicSchema = ["clinic", "clinic_visit", "clinic_kind"] := by
    decide
  obtain ⟨-, -, snake⟩ := declarations_nodup_iff prisma clinicSchema
  refine ⟨clinicSchema_isSnakeCase, sources, (snake clinicSchema_isSnakeCase).mpr ?_⟩
  rw [sources]
  decide

def userSchema : Schema := { tables := [{ name := "users" }, { name := "user" }] }

def userKindSchema : Schema :=
  { tables :=
      [{ name := "users", columns := [{ name := "kind", type := .enum, values := ["guest"] }] },
       { name := "user_kind" }] }

theorem userSchema_repeats :
    DistinctNames (userSchema.tables.map (·.name)) ∧
      (∀ t ∈ Target.all, (t.declarations userSchema).map (·.name) = ["User", "User"]) ∧
      DistinctNames (userKindSchema.tables.map (·.name)) ∧
      (prisma.declarations userKindSchema).map (·.name) = ["User", "UserKind", "UserKind"] := by
  exact ⟨by decide, by decide, by decide, by decide⟩

end Target

end Orm

end RelSchema
