import RelSchema.Cli.Command

namespace RelSchema.Cli

structure OptionHelp where
  spelling : String
  description : List String
  deriving DecidableEq, Repr

namespace Help

def nameOfProgram : String := "main"

def version : String := s!"{nameOfProgram}, version 0.1.0\n"

def spaces (n : Nat) : String := String.ofList (List.replicate n ' ')

def margin : Nat := 34

def optionLines (o : OptionHelp) : List String :=
  let spelled := "  " ++ o.spelling
  let indented := o.description.map (spaces margin ++ ·)
  match o.description with
  | first :: _ =>
    if spelled.length + 2 ≤ margin then
      (spelled ++ spaces (margin - spelled.length) ++ first) :: indented.tail
    else spelled :: indented
  | [] => [spelled]

def choices (names : List String) : String := "[" ++ "|".intercalate names ++ "]"

def helpOption : OptionHelp := ⟨"--help", ["Show this message and exit."]⟩

def dialects : String := choices (Dialect.all.map Dialect.key)

def dialectOption (description : List String) : OptionHelp :=
  ⟨s!"-d, --dialect {dialects}", description⟩

def summary : CommandName → String
  | .parse => "Parse INPUT_FILE and print the schema model as JSON."
  | .generate => "Regenerate CREATE TABLE statements for INPUT_FILE."
  | .suggest => "Suggest relationships that INPUT_FILE does not declare."
  | .layout => "Lay out INPUT_FILE and save it as a Draw.io diagram."
  | .diff => "Show tables and columns that changed from OLD_FILE to NEW_FILE."
  | .validate => "Check INPUT_FILE for structural problems and rule violations."
  | .analyze => "Review the design of INPUT_FILE and print suggestions."
  | .orm => "Generate ORM models for INPUT_FILE."

def files : CommandName → String
  | .diff => "OLD_FILE NEW_FILE"
  | _ => "INPUT_FILE"

def options : CommandName → List OptionHelp
  | .parse => [⟨"-o, --output PATH", ["Write JSON here."]⟩, dialectOption ["[default: mysql]"]]
  | .generate =>
    [dialectOption ["Dialect INPUT_FILE is written in.  [default:", "mysql]"],
     ⟨s!"-t, --target {dialects}", ["Dialect to generate (default: same as", "--dialect)."]⟩,
     ⟨"--html", ["Emit syntax-annotated HTML instead of SQL."]⟩]
  | .suggest =>
    [dialectOption ["[default: mysql]"],
     ⟨"--min-confidence FLOAT RANGE",
       ["Hide suggestions below this confidence.", "[0.0<=x<=1.0]"]⟩]
  | .layout =>
    [⟨"-o, --output PATH", ["Output file path (default: <input>.drawio)"]⟩,
     dialectOption ["[default: mysql]"],
     ⟨"-a, --algorithm " ++ choices (Layout.Algorithm.all.map Layout.Algorithm.name),
       ["Layout algorithm  [default: tree]"]⟩,
     ⟨"--direction " ++ choices (Layout.Direction.all.map Layout.Direction.name),
       ["Tree layout direction: TB, LR, RL or BT"]⟩,
     ⟨"--spacing FLOAT", ["Distance between neighbouring tables."]⟩]
  | .diff => [dialectOption ["[default: mysql]"]]
  | .validate =>
    [dialectOption ["[default: mysql]"],
     ⟨"-r, --rule TEXT",
       ["Rule expression to check on every table,", "e.g. \"has_column('id')\"."]⟩,
     ⟨"--common", ["Also apply the common rule set."]⟩]
  | .analyze =>
    [dialectOption ["[default: mysql]"],
     ⟨"-p, --priority " ++ choices (Review.Priority.all.map Review.Priority.name),
       ["Only show suggestions of this priority."]⟩]
  | .orm =>
    [dialectOption ["[default: mysql]"],
     ⟨"-t, --target " ++ choices (Orm.Target.all.map Orm.Target.name),
       ["ORM to generate models for.  [required]"]⟩,
     ⟨"-o, --output PATH", ["Write the models here."]⟩]

def ofCommand (name : CommandName) : String :=
  let lines :=
    [s!"Usage: {nameOfProgram} {name.text} [OPTIONS] {files name}", "", s!"  {summary name}", "",
     "Options:"] ++ (options name ++ [helpOption]).flatMap optionLines
  String.join (lines.map (· ++ "\n"))

def commandLines : List String :=
  let sorted := CommandName.all.mergeSort fun a b => decide (a.text ≤ b.text)
  sorted.map fun name =>
    "  " ++ name.text ++ spaces (10 - name.text.length) ++ summary name

def ofProgram : String :=
  let lines :=
    [s!"Usage: {nameOfProgram} [OPTIONS] COMMAND [ARGS]...", "",
     "  Parse, generate, analyse and lay out relational schemas.", "",
     "  Examples:",
     "    erd-engine parse schema.sql -o schema.json",
     "    erd-engine generate schema.sql --target postgresql",
     "    erd-engine suggest schema.sql",
     "    erd-engine layout schema.sql -a force -o diagram.drawio",
     "    erd-engine validate schema.sql --common",
     "    erd-engine orm schema.sql --target sqlalchemy -o models.py", "",
     "Options:",
     "  -v, --verbose  Enable debug logging.",
     "  --version      Show the version and exit.",
     "  --help         Show this message and exit.", "",
     "Commands:"] ++ commandLines
  String.join (lines.map (· ++ "\n"))

def misuse : String :=
  s!"Usage: {nameOfProgram} [OPTIONS] COMMAND [ARGS]...\n" ++
    s!"Try '{nameOfProgram} --help' for help.\n"

end Help

end RelSchema.Cli
