import RelSchema.Cli.Outcome
import RelSchema.Text.Timestamp

open RelSchema RelSchema.Cli

def lookAt (path : String) : IO Folder := do
  let key := (Path.ofString path).resolved
  try
    if ← (← IO.FS.realPath path).isDir then return { files := [], directories := [key] }
    return { files := [(key, ← IO.FS.readFile path)] }
  catch _ => return { files := [] }

/-- The texts in a word of the command line that may be paths. -/
def pathsIn (word : String) : List String :=
  let chars := word.toList
  [chars, (chars.dropWhile (· != '=')).tail, chars.drop 2].map String.ofList

def parentOf (path : String) : String := (Folder.parent (Path.ofString path)).text

def gather (words : List String) : IO Folder := do
  let mut files := []
  let mut directories := []
  for path in (words.flatMap pathsIn).filter (· != "") do
    for place in [path, parentOf path] do
      let seen ← lookAt place
      files := files ++ seen.files
      directories := directories ++ seen.directories
  return { files, directories }

def timeNow : IO Text.Timestamp := do
  let (_, path) ← IO.FS.createTempFile
  let time := (← path.metadata).modified
  IO.FS.removeFile path
  return { seconds := time.sec.toNat, microseconds := time.nsec.toNat / 1000 }

def main (words : List String) : IO UInt32 := do
  let environment ← IO.getEnv "ERD_ENGINE_DIALECT"
  let folder ← gather words
  let o := Outcome.ofWords folder environment (← timeNow).text words
  (← IO.getStdout).putStr o.output
  (← IO.getStderr).putStr o.errors
  for w in o.writes do
    IO.FS.writeFile w.path.text w.text
  return UInt32.ofNat o.exitCode
