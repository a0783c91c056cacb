import RelSchema.Cli.Help
import RelSchema.Cli.Run

namespace RelSchema.Cli

/-- What streams and files make of the events of a run. Each answer may depend on what took place
before, the last event first. -/
structure Surroundings where
  /-- Why a stream does not take a line. -/
  muted? : List Event → Line → Option String
  /-- Why a file cannot be opened. -/
  refusal? : Folder → Path → Option String
  /-- What is left of a text that is not taken to its end, and why it is not. -/
  remnant? : List Event → Written → Option (String × String)

structure Course where
  events : List Event
  obstacle? : Option String
  deriving DecidableEq, Repr

namespace Surroundings

def ordinary : Surroundings where
  muted? _ _ := none
  refusal? f p := (f.refusal? p).map FileError.message
  remnant? _ _ := none

def attempt (w : Surroundings) (folder : Folder) (past : List Event) : Event → Course
  | .said line =>
    match w.muted? past line with
    | some cause => ⟨[], some cause⟩
    | none => ⟨[.said line], none⟩
  | .saved file =>
    match w.refusal? folder file.path, w.remnant? past file with
    | some cause, _ => ⟨[], some cause⟩
    | none, some (text, cause) => ⟨[.saved { file with text }], some cause⟩
    | none, none => ⟨[.saved file], none⟩

/-- Events are attempted in order up to the first that meets an obstacle. -/
def course (w : Surroundings) (folder : Folder) (past : List Event) : List Event → Course
  | [] => ⟨[], none⟩
  | event :: rest =>
    let first := w.attempt folder past event
    match first.obstacle? with
    | some _ => first
    | none =>
      let later := w.course folder (event :: past) rest
      ⟨first.events ++ later.events, later.obstacle?⟩

end Surroundings

structure Outcome where
  exitCode : Nat
  output : String := ""
  errors : String := ""
  writes : List Written := []
  deriving DecidableEq, Repr

structure Program (σ ε : Type) extends Engine σ ε where
  request? : Folder → Option String → List String → Option Request

def Program.standard : Program Schema Fault := { Engine.standard with request? := Request.ofWords? }

namespace Outcome

def written (o : Outcome) : Option Written := o.writes.getLast?

/-- An obstacle ends a run with a message, and so does an error of its own. -/
def ofConsole (message : ε → String) (w : Surroundings) (folder : Folder) (verbose : Bool)
    (c : Console ε Unit) : Outcome :=
  let course := w.course folder [] c.events
  let lines := course.events.filterMap Event.line?
  let cause? := course.obstacle?.or <| match c.result with
    | .ok () => none
    | .error e => some (message e)
  { exitCode := if cause?.isSome then 1 else 0
    output := String.join (lines.map Line.outputText)
    errors := String.join <|
      lines.map (Line.errorText verbose) ++ cause?.toList.map fun cause => s!"Error: {cause}\n"
    writes := filesOf course.events }

variable {σ ε : Type} (p : Program σ ε)

def ofRequest (w : Surroundings) (folder : Folder) (modified : String) : Request → Outcome
  | .help none => { exitCode := 0, output := Help.ofProgram }
  | .help (some name) => { exitCode := 0, output := Help.ofCommand name }
  | .version => { exitCode := 0, output := Help.version }
  | .run verbose input d command =>
    ofConsole p.failureText w folder verbose (p.perform folder modified input d command)

def ofWordsIn (w : Surroundings) (folder : Folder) (environment : Option String)
    (modified : String) (words : List String) : Outcome :=
  match p.request? folder environment words with
  | some request => ofRequest p w folder modified request
  | none => { exitCode := 2, errors := Help.misuse }

def ofWords (folder : Folder) (environment : Option String) (modified : String)
    (words : List String) : Outcome :=
  ofWordsIn .standard .ordinary folder environment modified words

end Outcome

def Folder.put (f : Folder) (w : Written) : Folder :=
  let others := f.files.filter (·.1 != w.path.resolved)
  { f with files := (w.path.resolved, w.text) :: others }

def Folder.after (f : Folder) (o : Outcome) : Folder := o.writes.foldl Folder.put f

structure CommandLine where
  words : List String
  modified : String
  surroundings : Surroundings := .ordinary

/-- One of several runs: the folder it finds, what was asked and what came of it. -/
structure Turn where
  before : Folder
  line : CommandLine
  outcome : Outcome

def Turn.after (t : Turn) : Folder := t.before.after t.outcome

section

variable {σ ε : Type} (p : Program σ ε) (environment : Option String)

def CommandLine.turn (folder : Folder) (line : CommandLine) : Turn where
  before := folder
  line := line
  outcome := .ofWordsIn p line.surroundings folder environment line.modified line.words

/-- Command lines one after the other, each on the folder that those before it have left. -/
def turns (folder : Folder) : List CommandLine → List Turn
  | [] => []
  | line :: rest =>
    let t := line.turn p environment folder
    t :: turns t.after rest

def Folder.afterAll (folder : Folder) : List CommandLine → Folder
  | [] => folder
  | line :: rest => (line.turn p environment folder).after.afterAll rest

end

end RelSchema.Cli
