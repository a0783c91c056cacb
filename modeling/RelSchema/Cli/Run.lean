import RelSchema.Cli.Command
import RelSchema.Cli.Console
import RelSchema.Drawio.Printer
import RelSchema.Review
import RelSchema.Schema.Diff
import RelSchema.Schema.Document
import RelSchema.Sql.Definition
import RelSchema.Sql.Display
import RelSchema.Sql.Statement
import RelSchema.Suggestion.Naming
import RelSchema.Suggestion.Structure
import RelSchema.Validation

namespace RelSchema.Cli

structure Outline where
  name : String
  columns : Nat
  foreignKeys : Nat
  deriving DecidableEq, Repr

/-- What the commands leave to the rest of the program: `σ` is what a text is loaded as, and each
part may fail at whatever it is given. -/
structure Engine (σ ε : Type) where
  message : ε → String
  ofModel : String → Except ε σ
  ofScript : Dialect → String → Remarked ε σ
  tables : σ → List Outline
  document : σ → Except ε String
  script : Dialect → σ → Remarked ε String
  display : Dialect → String → Remarked ε String
  suggestions : σ → Remarked ε (List Suggestion)
  diagram : Layout.Algorithm → Layout.Options → String → σ → Remarked ε String
  compare : σ → σ → Except ε SchemaDiff
  problems : List Validation.Rule → σ → Remarked ε (List String)
  review : σ → Remarked ε (List Review.Finding)
  models : Orm.Target → σ → Remarked ε String

inductive Failure (ε : Type) where
  | file (e : FileError)
  | engine (e : ε)
  | noTables (path : Path)
  | problems (count : Nat)

abbrev Run (ε α : Type) := Console (Failure ε) α

namespace Engine

variable {σ ε : Type} (e : Engine σ ε)

open Console

def failureText : Failure ε → String
  | .file cause => cause.message
  | .engine cause => e.message cause
  | .noTables path => s!"No tables found in {path.text}"
  | .problems count => s!"{count} problems found"

def readSchema (d : Dialect) (path : Path) (text : String) : Run ε σ :=
  if Text.lower path.suffix = ".json" then ofExcept .engine (e.ofModel text)
  else ofRemarked .engine (e.ofScript d text)

def load (folder : Folder) (d : Dialect) (path : Path) : Run ε σ := do
  let text ← ofExcept .file (folder.read path)
  let schema ← e.readSchema d path text
  if (e.tables schema).isEmpty then fail (.noTables path) else return schema

def parse (s : σ) (output : Option Path) : Run ε Unit := do
  tell s!"Found {(e.tables s).length} tables"
  let document ← ofExcept .engine (e.document s)
  match output with
  | some path => do
    put path document
    tell s!"Model saved to: {path.text}"
  | none => print document

def generate (d : Dialect) (s : σ) (annotated : Bool) : Run ε Unit := do
  let sql ← ofRemarked .engine (e.script d s)
  if annotated then
    let shown ← ofRemarked .engine (e.display d sql)
    print shown
  else print sql

def joinedColumns (s : Suggestion) : String :=
  match s.sourceColumn, s.targetColumn with
  | some source, some target =>
    if source = "" ∨ target = "" then "" else s!" ({source} -> {target})"
  | _, _ => ""

def suggestionLines (s : Suggestion) : List String :=
  [s!"[{s.confidence}%] {s.source} -> {s.target} {s.cardinality.name}{joinedColumns s}",
   s!"    {s.reason}"]

def ranked (minConfidence : Float) (list : List Suggestion) : List Suggestion :=
  (list.filter fun s => minConfidence ≤ s.confidence.toFloat / 100.0).mergeSort fun a b =>
    decide (b.confidence ≤ a.confidence)

def suggest (s : σ) (minConfidence : Float) : Run ε Unit := do
  let suggestions ← ofRemarked .engine (e.suggestions s)
  match ranked minConfidence suggestions with
  | [] => print "No suggestions"
  | list => printAll (list.flatMap suggestionLines)

def summaryLine (t : Outline) : String :=
  s!"  - {t.name}: {t.columns} columns" ++ if t.foreignKeys = 0 then "" else s!", {t.foreignKeys} FK"

def layout (modified : String) (input : Path) (s : σ) (output : Option Path)
    (a : Layout.Algorithm) (o : Layout.Options) : Run ε Unit := do
  print "Calculating layout..."
  let diagram ← ofRemarked .engine (e.diagram a o modified s)
  let path := output.getD (input.withSuffix ".drawio")
  put path diagram
  print s!"Diagram saved to: {path.text}"
  print "\nSummary:"
  printAll ((e.tables s).map summaryLine)

def valueText : PropertyValue → String
  | .absent => "None"
  | .flag value => if value then "True" else "False"
  | .number value => toString value
  | .text value => value

def changeText (c : PropertyChange) : String :=
  s!"{c.property.name}: {valueText c.old} -> {valueText c.new}"

def addedLine (c : ColumnChange) : String :=
  s!"    + {c.name} " ++ (c.newType.map ColumnType.name).getD "None"

def columnLines (t : TableChange) : List String :=
  t.added.map addedLine ++
    t.removed.map (fun c => s!"    - {c.name}") ++
    t.modified.map fun c => s!"    ~ {c.name} ({Text.commas (c.changes.map changeText)})"

def diffLines (d : SchemaDiff) : List String :=
  d.added.map (fun t => s!"+ {t.name}") ++ d.removed.map (fun t => s!"- {t.name}") ++
    d.modified.flatMap (fun t => s!"~ {t.name}" :: columnLines t) ++
    [s!"{d.totalChanges} changes"]

def diff (old new : σ) : Run ε Unit := do
  let difference ← ofExcept .engine (e.compare old new)
  printAll (diffLines difference)

def selectedRules (rules : List String) (common : Bool) : List Validation.Rule :=
  (if common then Validation.commonRules else []) ++
    rules.map fun rule => { name := rule, check := rule }

def validate (s : σ) (rules : List String) (common : Bool) : Run ε Unit := do
  let found ← ofRemarked .engine (e.problems (selectedRules rules common) s)
  printAll (found.map fun problem => s!"  - {problem}")
  if found.isEmpty then print s!"Schema is valid ({(e.tables s).length} tables)"
  else fail (.problems found.length)

def findingLines (f : Review.Finding) : List String :=
  let place := match f.advice.column? with
    | some column => if column = "" then f.table else s!"{f.table}.{column}"
    | none => f.table
  s!"[{f.advice.priority.name}] {place}: {f.description}" ::
    match f.action with
    | some action => if action = "" then [] else [s!"    {action}"]
    | none => []

def analyze (s : σ) (priority : Option Review.Priority) : Run ε Unit := do
  let found ← ofRemarked .engine (e.review s)
  match found.filter fun f => priority.all (· == f.advice.priority) with
  | [] => print "No suggestions"
  | list => printAll (list.flatMap findingLines)

def orm (s : σ) (target : Orm.Target) (output : Option Path) : Run ε Unit := do
  let models ← ofRemarked .engine (e.models target s)
  match output with
  | some path => do
    put path models
    tell s!"Models saved to: {path.text}"
  | none => printRaw models

def perform (folder : Folder) (modified : String) (input : Path) (d : Dialect) (command : Command) :
    Run ε Unit := do
  let s ← e.load folder d input
  match command with
  | .parse output => e.parse s output
  | .generate target annotated => e.generate (target.getD d) s annotated
  | .suggest minConfidence => e.suggest s minConfidence
  | .layout output a direction spacing =>
    e.layout modified input s output a
      { direction := direction.name, spacing := spacing.map .real }
  | .diff new => do e.diff s (← e.load folder d new)
  | .validate rules common => e.validate s rules common
  | .analyze priority => e.analyze s priority
  | .orm target output => e.orm s target output

end Engine

inductive Fault where
  | model (source : String) (e : LoadError)
  | number (e : Json.WriteError)
  | script (e : Sql.ReadError)
  | rule (e : Validation.CheckError)
  | dialect (e : UnknownDialect)

def Fault.message : Fault → String
  | model source e => e.message source
  | number e => e.message
  | script e => e.message
  | rule e => e.message
  | dialect e => e.message

def Outline.ofTable (t : Table) : Outline := ⟨t.name, t.columns.length, t.foreignKeys.length⟩

def remarkedBy (notices : α → List Notice) (r : Except ε α) : Remarked ε α :=
  ⟨(r.toOption.map notices).getD [], r⟩

def Engine.standard : Engine Schema Fault where
  message := Fault.message
  ofModel text := (Schema.ofText text).mapError (.model text)
  ofScript d text :=
    let read := Sql.read d text
    ⟨read.notices, read.result.mapError .script⟩
  tables s := s.tables.map .ofTable
  document s := (s.toText (.indented 2)).mapError .number
  script d s := ⟨Sql.generateNotices d s, (Sql.write d s).mapError .number⟩
  display d sql := ⟨Sql.Display.formatNotices d sql, .ok (Sql.Display.format d sql)⟩
  suggestions s :=
    let naming := Suggestion.fromColumnNames s.tables
    let structural := Suggestion.fromTableNames s
    ⟨[.namingSuggestions naming.length, .structuralSuggestions structural.length],
      .ok (naming ++ structural)⟩
  diagram a o modified s :=
    ⟨Diagram.notices a o s, .ok (Drawio.generate {} modified (.ofSchema a o s))⟩
  compare old new := .ok (.compare old new)
  problems rules s :=
    List.map Validation.Problem.message <$>
      remarkedBy (fun found => [Validation.notice s found])
        ((Validation.problems s rules).mapError .rule)
  review s :=
    remarkedBy (fun found => [Review.notice found]) ((Review.ofSchema s).mapError .dialect)
  models target s := ⟨target.notices target.name s, .ok (target.generate s)⟩

end RelSchema.Cli
