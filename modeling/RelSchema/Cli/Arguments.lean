namespace RelSchema.Cli

structure OptionSpec where
  name : String
  short : Option Char := none
  takesValue : Bool := true
  deriving DecidableEq, Repr

/-- An option as it was given; one that takes no value has the empty one. -/
structure Setting where
  name : String
  value : String
  deriving DecidableEq, Repr

structure Arguments where
  settings : List Setting := []
  words : List String := []
  deriving DecidableEq, Repr

namespace Arguments

/-- What one word says: some settings, and an option that is still without its value. -/
structure Reading where
  settings : List Setting
  pending : Option String
  deriving DecidableEq, Repr

def readShort (specs : List OptionSpec) : List Char → Option Reading
  | [] => some ⟨[], none⟩
  | c :: rest => do
    let spec ← specs.find? (·.short == some c)
    if spec.takesValue then
      return if rest.isEmpty then ⟨[], some spec.name⟩
        else ⟨[⟨spec.name, String.ofList rest⟩], none⟩
    else
      let more ← readShort specs rest
      return { more with settings := ⟨spec.name, ""⟩ :: more.settings }

def readLong (spec : OptionSpec) (value : Option String) : Option Reading :=
  match spec.takesValue, value with
  | true, some value => some ⟨[⟨spec.name, value⟩], none⟩
  | true, none => some ⟨[], some spec.name⟩
  | false, none => some ⟨[⟨spec.name, ""⟩], none⟩
  | false, some _ => none

def readOption (specs : List OptionSpec) (word : List Char) : Option Reading :=
  let name := word.takeWhile (· != '=')
  let value := match word.dropWhile (· != '=') with
    | _ :: value => some (String.ofList value)
    | [] => none
  match name with
  | '-' :: '-' :: long => do
    let spec ← specs.find? (·.name == String.ofList long)
    readLong spec value
  | _ => readShort specs word.tail

def isOption (word : List Char) : Bool := word.head? == some '-' && 1 < word.length

def withSettings (a : Arguments) (settings : List Setting) : Arguments :=
  { a with settings := settings ++ a.settings }

def withWord (a : Arguments) (word : String) : Arguments := { a with words := word :: a.words }

/-- Reads words to the end. Options may stand between arguments if `mixed` is set, and otherwise
only before them; two dashes end the options. -/
def read (specs : List OptionSpec) (mixed : Bool) : List String → Option Arguments
  | [] => some {}
  | word :: rest =>
    if word = "--" then some { words := rest }
    else if isOption word.toList then do
      let reading ← readOption specs word.toList
      match reading.pending, rest with
      | none, rest => return (← read specs mixed rest).withSettings reading.settings
      | some name, value :: rest =>
        return (← read specs mixed rest).withSettings (reading.settings ++ [⟨name, value⟩])
      | some _, [] => none
    else if mixed then do return (← read specs mixed rest).withWord word
    else some { words := word :: rest }

def has (a : Arguments) (name : String) : Bool := a.settings.any (·.name == name)

def all (a : Arguments) (name : String) : List String :=
  (a.settings.filter (·.name == name)).map (·.value)

def last? (a : Arguments) (name : String) : Option String := (a.all name).getLast?

end Arguments

end RelSchema.Cli
