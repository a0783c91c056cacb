import RelSchema.Cli.Path
import RelSchema.Notice

namespace RelSchema.Cli

inductive Line where
  | output (text : String)
  | message (text : String)
  | remark (notice : Notice)
  deriving DecidableEq, Repr

structure Written where
  path : Path
  text : String
  deriving DecidableEq, Repr

inductive Event where
  | said (line : Line)
  | saved (file : Written)
  deriving DecidableEq, Repr

namespace Event

def line? : Event → Option Line
  | said line => some line
  | saved _ => none

def file? : Event → Option Written
  | said _ => none
  | saved file => some file

end Event

def filesOf (events : List Event) : List Written := events.filterMap Event.file?

/-- Events in order, up to an error if there is one. What took place before an error stays. -/
structure Console (ε α : Type) where
  events : List Event := []
  result : Except ε α

namespace Console

variable {ε ε' α β : Type}

def andThen (c : Console ε α) (f : α → Console ε β) : Console ε β :=
  match c.result with
  | .ok a => ⟨c.events ++ (f a).events, (f a).result⟩
  | .error e => { c with result := .error e }

instance : Monad (Console ε) where
  pure a := { result := .ok a }
  bind := andThen

@[simp] theorem result_pure (a : α) : (pure a : Console ε α).result = .ok a := rfl

@[simp] theorem result_bind (c : Console ε α) (f : α → Console ε β) :
    (c >>= f).result = c.result >>= fun a => (f a).result := by
  show (andThen c f).result = _
  unfold andThen
  cases h : c.result <;> rfl

def fail (e : ε) : Console ε α := { result := .error e }

def ofExcept (cause : ε' → ε) (r : Except ε' α) : Console ε α := { result := r.mapError cause }

def ofRemarked (cause : ε' → ε) (r : Remarked ε' α) : Console ε α :=
  { events := r.notices.map (.said <| .remark ·), result := r.result.mapError cause }

def say (lines : List Line) : Console ε Unit := { events := lines.map .said, result := .ok () }

def print (text : String) : Console ε Unit := say [.output (text ++ "\n")]

def printAll (texts : List String) : Console ε Unit :=
  say (texts.map fun text => .output (text ++ "\n"))

def printRaw (text : String) : Console ε Unit := say [.output text]

def tell (text : String) : Console ε Unit := say [.message (text ++ "\n")]

def put (path : Path) (text : String) : Console ε Unit :=
  { events := [.saved ⟨path, text⟩], result := .ok () }

end Console

def Line.outputText : Line → String
  | output text => text
  | _ => ""

/-- Remarks that are no warnings are shown only when asked for. -/
def Line.errorText (verbose : Bool) : Line → String
  | output _ => ""
  | message text => text
  | remark n => if verbose || n.isWarning then n.line ++ "\n" else ""

end RelSchema.Cli
