import RelSchema.Orm.Script
import RelSchema.Orm.SqlAlchemy

namespace RelSchema.Orm.TypeOrm

structure Storage where
  type : String
  script : String
  length : Option Int := none
  deriving DecidableEq, Repr

namespace Storage

def ofType : ColumnType → Storage
  | .int => { type := "int", script := "number" }
  | .varchar | .array => { type := "varchar", script := "string" }
  | .text => { type := "text", script := "string" }
  | .boolean => { type := "boolean", script := "boolean" }
  | .date => { type := "date", script := "string" }
  | .timestamp => { type := "timestamp", script := "Date" }
  | .float => { type := "float", script := "number" }
  | .double => { type := "double precision", script := "number" }
  | .decimal => { type := "decimal", script := "string" }
  | .json => { type := "json", script := "unknown" }
  | .uuid => { type := "uuid", script := "string" }
  | .enum => { type := "enum", script := "string" }

/-- The storage of a column, or of the elements of an array. Without listed values an enumeration is
a text. -/
def ofColumn (c : Column) : Storage :=
  let type := if c.type = .array then Sql.elementOf c else c.type
  let type := if type = .enum ∧ c.values = [] then .varchar else type
  if type = .varchar then { ofType type with length := some (Sql.varcharLength c.length) }
  else ofType type

end Storage

structure Decorator where
  name : String
  arguments : List String
  deriving DecidableEq, Repr

def Decorator.text (d : Decorator) : String := s!"@{d.name}({Text.commas d.arguments})"

structure Member where
  decorators : List Decorator
  name : String
  type : String
  deriving DecidableEq, Repr

namespace Member

def precisionOptions (c : Column) : List String :=
  match c.type, c.length with
  | .decimal, some precision =>
    if precision = 0 then []
    else
      s!"precision: {precision}" :: match c.scale with
        | some scale => [s!"scale: {scale}"]
        | none => []
  | _, _ => []

def columnDefault? (c : Column) : Option String :=
  (DefaultValue.ofColumn? c).bind
    (·.script "() => \"CURRENT_TIMESTAMP\"" fun sql => some s!"() => {Json.quote sql}")

def columnOptions (storage : Storage) (c : Column) : List String :=
  [s!"type: {Json.quote storage.type}"] ++
    (storage.length.map fun n => s!"length: {n}").toList ++
    precisionOptions c ++
    (if c.type = .enum ∧ c.values ≠ [] then
      [s!"enum: {Text.bracketed (Script.quotedList c.values)}"] else []) ++
    (if c.type = .array then ["array: true"] else []) ++
    (if c.nullable && !c.primaryKey then ["nullable: true"] else []) ++
    (if c.unique then ["unique: true"] else []) ++
    ((columnDefault? c).map fun value => s!"default: {value}").toList

def ofColumn (storage : Storage) (c : Column) : Member where
  decorators :=
    [{ name := if c.primaryKey then "PrimaryColumn" else "Column",
       arguments := [Script.object (columnOptions storage c)] }]
  name := Script.key c.name
  type :=
    storage.script ++ (if c.type = .array then "[]" else "") ++
      if c.nullable && !c.primaryKey then " | null" else ""

def path (model member : String) : String :=
  let item := camelCase model
  s!"({item}) => {item}.{member}"

def ofChild (r : Relation) : Member where
  decorators :=
    let parent := modelName r.parent.item.name
    [{ name := if r.isOneToOne then "OneToOne" else "ManyToOne",
       arguments :=
         [s!"() => {parent}", path parent r.reverseName] ++
           if r.column.item.nullable then [] else [Script.object ["nullable: false"]] },
     { name := "JoinColumn",
       arguments :=
         [Script.object
           [s!"name: {Json.quote r.column.item.name}",
            s!"referencedColumnName: {Json.quote r.parentColumn}"]] }]
  name := r.name
  type := modelName r.parent.item.name

def ofParent (r : Relation) : Member where
  decorators :=
    let child := modelName r.child.item.name
    [{ name := if r.isOneToOne then "OneToOne" else "OneToMany",
       arguments := [s!"() => {child}", path child r.name] }]
  name := r.reverseName
  type := modelName r.child.item.name ++ if r.isOneToOne then "" else "[]"

def text (m : Member) : String :=
  Text.lines (m.decorators.map (fun d => "  " ++ d.text) ++ [s!"  {m.name}: {m.type};"])

end Member

structure Entity where
  table : String
  name : String
  members : List Member
  deriving DecidableEq, Repr

namespace Entity

def relationMembers (relations : List Relation) (place : Nat) : List Member :=
  relations.flatMap fun r =>
    (if r.child.place = place then [.ofChild r] else []) ++
      (if r.parent.place = place then [.ofParent r] else [])

def ofTable (storage : Column → Storage) (relations : List Relation) (t : Placed Table) :
    Entity where
  table := t.item.name
  name := modelName t.item.name
  members :=
    (t.item.columns.map fun c => .ofColumn (storage c) c) ++ relationMembers relations t.place

def decorators (e : Entity) : List String :=
  "Entity" :: e.members.flatMap fun m => m.decorators.map (·.name)

def text (e : Entity) : String :=
  let body := Text.paragraphs (e.members.map Member.text)
  let options := Script.object [s!"name: {Json.quote e.table}"]
  s!"@Entity({options})\nexport class {e.name} " ++ Text.braced s!"\n{body}\n"

end Entity

def entities (storage : Column → Storage) (s : Schema) : List Entity :=
  (placed s.tables).map (.ofTable storage (relations s))

def header (entities : List Entity) : String :=
  let names := SqlAlchemy.sortedNames ("Entity" :: entities.flatMap Entity.decorators)
  s!"import {Script.object names} from \"typeorm\";"

def generateWith (storage : Column → Storage) (s : Schema) : String :=
  Text.paragraphs (header (entities storage s) :: (entities storage s).map Entity.text) ++ "\n"

def generate (s : Schema) : String := generateWith .ofColumn s

end RelSchema.Orm.TypeOrm
