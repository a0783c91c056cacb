import RelSchema.Text.Case
import RelSchema.Text.Quoted

namespace RelSchema.Cli

structure Path where
  isAbsolute : Bool
  parts : List String
  deriving DecidableEq, Repr

namespace Path

def slash : Char := '/'

/-- The parts of a text between its slashes, without empty ones and those that stay in place. -/
def partsOf (s : String) : List String :=
  ((s.toList.splitBy fun a b => (a == slash) == (b == slash)).map String.ofList).filter
    fun part => part.toList.head? != some slash && part != "."

def ofString (s : String) : Path where
  isAbsolute := s.toList.head? == some slash
  parts := partsOf s

def text (p : Path) : String :=
  let joined := "/".intercalate p.parts
  if p.isAbsolute then "/" ++ joined else if p.parts.isEmpty then "." else joined

def name (p : Path) : String := p.parts.getLast?.getD ""

/-- The name up to its last point, and the rest. A point at either end of the name does not
count. -/
def splitName (p : Path) : List Char × List Char :=
  let chars := p.name.toList
  let tail := (chars.reverse.takeWhile (· != '.')).length
  let stem := chars.length - tail - 1
  if tail = 0 ∨ chars.length ≤ tail ∨ stem = 0 then (chars, [])
  else (chars.take stem, chars.drop stem)

def suffix (p : Path) : String := String.ofList p.splitName.2

def withSuffix (p : Path) (suffix : String) : Path :=
  { p with parts := p.parts.dropLast ++ [String.ofList p.splitName.1 ++ suffix] }

def climb : List String → List String → List String
  | done, [] => done.reverse
  | last :: done, ".." :: rest =>
    if last = ".." then climb (".." :: last :: done) rest else climb done rest
  | [], part :: rest => climb [part] rest
  | last :: done, part :: rest => climb (part :: last :: done) rest

def resolved (p : Path) : Path := { p with parts := climb [] p.parts }

end Path

/-- The files within reach with their texts, and directories besides those that hold the files. -/
structure Folder where
  files : List (Path × String)
  directories : List Path := []
  deriving Repr

namespace Folder

def text? (f : Folder) (p : Path) : Option String := f.files.lookup p.resolved

def isDirectory (f : Folder) (p : Path) : Bool :=
  let p := p.resolved
  p.parts.all (· == "..") || f.directories.contains p ||
    f.files.any fun (file, _) =>
      file.isAbsolute == p.isAbsolute && p.parts.isPrefixOf file.parts && p.parts != file.parts

/-- Whether there is something at a path. What ends in a slash is a directory. -/
def contains (f : Folder) (path : String) : Bool :=
  let p := Path.ofString path
  path != "" && (f.isDirectory p ||
    ((f.text? p).isSome && ["/", "/."].all fun ending => !ending.toList.isSuffixOf path.toList))

def isBlocked (f : Folder) (p : Path) : Bool :=
  f.files.any fun (file, _) =>
    file.isAbsolute == p.isAbsolute && file.parts.isPrefixOf p.resolved.parts.dropLast

def parent (p : Path) : Path := { p with parts := p.parts.dropLast }

end Folder

inductive FileError where
  | isDirectory (path : Path)
  | notADirectory (path : Path)
  | noSuchFile (path : Path)
  deriving DecidableEq, Repr

def FileError.message : FileError → String
  | isDirectory path => s!"[Errno 21] Is a directory: {Text.quoted path.text}"
  | notADirectory path => s!"[Errno 20] Not a directory: {Text.quoted path.text}"
  | noSuchFile path => s!"[Errno 2] No such file or directory: {Text.quoted path.text}"

namespace Folder

def unifiedBreaks : List Char → List Char
  | [] => []
  | '\r' :: '\n' :: rest => '\n' :: unifiedBreaks rest
  | c :: rest => (if c = '\r' then '\n' else c) :: unifiedBreaks rest

def read (f : Folder) (p : Path) : Except FileError String :=
  if f.isDirectory p then .error (.isDirectory p)
  else match f.text? p with
    | some text => .ok (String.ofList (unifiedBreaks text.toList))
    | none => .error (.noSuchFile p)

def refusal? (f : Folder) (p : Path) : Option FileError :=
  if f.isDirectory p then some (.isDirectory p)
  else if f.isBlocked p then some (.notADirectory p)
  else if f.isDirectory (parent p) then none
  else some (.noSuchFile p)

end Folder

end RelSchema.Cli
