import RelSchema.Cli.Arguments
import RelSchema.Cli.Path
import RelSchema.Decimal
import RelSchema.Layout.Diagram
import RelSchema.Orm.Target
import RelSchema.Review.Advice

namespace RelSchema.Cli

inductive CommandName where
  | parse | generate | suggest | layout | diff | validate | analyze | orm
  deriving DecidableEq, Repr

namespace CommandName

def all : List CommandName := [parse, generate, suggest, layout, diff, validate, analyze, orm]

def text : CommandName → String
  | parse => "parse"
  | generate => "generate"
  | suggest => "suggest"
  | layout => "layout"
  | diff => "diff"
  | validate => "validate"
  | analyze => "analyze"
  | orm => "orm"

def ofText? (s : String) : Option CommandName := all.find? (·.text == s)

end CommandName

inductive Command where
  | parse (output : Option Path)
  | generate (target : Option Dialect) (annotated : Bool)
  | suggest (minConfidence : Float)
  | layout (output : Option Path) (algorithm : Layout.Algorithm) (direction : Layout.Direction)
      (spacing : Option Float)
  | diff (new : Path)
  | validate (rules : List String) (common : Bool)
  | analyze (priority : Option Review.Priority)
  | orm (target : Orm.Target) (output : Option Path)
  deriving Repr

inductive Request where
  | help (command : Option CommandName)
  | version
  | run (verbose : Bool) (input : Path) (dialect : Dialect) (command : Command)
  deriving Repr

namespace Request

def helpOption : OptionSpec := { name := "help", takesValue := false }

def mainOptions : List OptionSpec :=
  [{ name := "verbose", short := some 'v', takesValue := false },
   { name := "version", takesValue := false }, helpOption]

def dialectOption : OptionSpec := { name := "dialect", short := some 'd' }

def outputOption : OptionSpec := { name := "output", short := some 'o' }

def targetOption : OptionSpec := { name := "target", short := some 't' }

def ownOptions : CommandName → List OptionSpec
  | .parse => [outputOption]
  | .generate => [targetOption, { name := "html", takesValue := false }]
  | .suggest => [{ name := "min-confidence" }]
  | .layout =>
    [outputOption, { name := "algorithm", short := some 'a' }, { name := "direction" },
     { name := "spacing" }]
  | .diff => []
  | .validate =>
    [{ name := "rule", short := some 'r' }, { name := "common", takesValue := false }]
  | .analyze => [{ name := "priority", short := some 'p' }]
  | .orm => [targetOption, outputOption]

def optionsOf (name : CommandName) : List OptionSpec :=
  ownOptions name ++ [dialectOption, helpOption]

def choice (a : Arguments) (name : String) (absent : α) (read? : String → Option α) : Option α :=
  match a.last? name with
  | some value => read? value
  | none => some absent

def dialectNamed? (s : String) : Option Dialect := Dialect.all.find? (·.key == s)

def dialect? (environment : Option String) (a : Arguments) : Option Dialect :=
  match a.last? "dialect" with
  | some value => dialectNamed? value
  | none =>
    match environment.filter (· != "") with
    | some value => dialectNamed? value
    | none => some .mysql

/-- A confidence between none and all; what is not a number is let pass. -/
def confidence? (s : String) : Option Float :=
  (Decimal.read? s).filter fun x => !(x < 0.0) && !(1.0 < x)

def output (a : Arguments) : Option Path := (a.last? "output").map .ofString

def command? (folder : Folder) (name : CommandName) (a : Arguments) (more : List String) :
    Option Command :=
  match name, more with
  | .parse, [] => some (.parse (output a))
  | .generate, [] => do
    let target ← choice a "target" none fun s => (dialectNamed? s).map some
    return .generate target (a.has "html")
  | .suggest, [] => return .suggest (← choice a "min-confidence" 0.0 confidence?)
  | .layout, [] => do
    let algorithm ← choice a "algorithm" .tree fun s => (Layout.Algorithm.ofName s).toOption
    let direction ← choice a "direction" .topToBottom Layout.Direction.ofName?
    let spacing ← choice a "spacing" none fun s => (Decimal.read? s).map some
    return .layout (output a) algorithm direction spacing
  | .diff, [new] => if folder.contains new then some (.diff (.ofString new)) else none
  | .validate, [] => some (.validate (a.all "rule") (a.has "common"))
  | .analyze, [] => return .analyze (← choice a "priority" none fun s =>
      (Review.Priority.ofName? s).map some)
  | .orm, [] => do
    let target ← Orm.Target.all.find? fun t => some t.name == a.last? "target"
    return .orm target (output a)
  | _, _ => none

def ofCommandWords? (folder : Folder) (environment : Option String) (verbose : Bool)
    (name : CommandName) (words : List String) : Option Request := do
  let a ← Arguments.read (optionsOf name) true words
  if a.has "help" then return .help (some name)
  else match a.words with
    | [] => none
    | input :: more =>
      if folder.contains input then
        let dialect ← dialect? environment a
        let command ← command? folder name a more
        return .run verbose (.ofString input) dialect command
      else none

def ofWords? (folder : Folder) (environment : Option String) (words : List String) :
    Option Request := do
  if words.isEmpty then return .help none
  let a ← Arguments.read mainOptions false words
  match a.settings.find? fun s => s.name == "help" || s.name == "version" with
  | some s => return if s.name = "help" then .help none else .version
  | none =>
    match a.words with
    | [] => none
    | word :: rest =>
      ofCommandWords? folder environment (a.has "verbose") (← CommandName.ofText? word) rest

end Request

end RelSchema.Cli
