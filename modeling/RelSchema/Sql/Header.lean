import RelSchema.Sql.Quoting
import RelSchema.Text.Character
import RelSchema.Text.Case
import RelSchema.Text.Letter

namespace RelSchema.Sql.Header

/-- The text after a word, which is given in lower case and may be cut off by anything. -/
def word? : List Char → List Char → Option (List Char)
  | [], rest => some rest
  | _ :: _, [] => none
  | w :: word, c :: rest => if Text.foldLetter c = w then word? word rest else none

def keyword? (word : String) (text : List Char) : Option (List Char) := word? word.toList text

def skipBlank (text : List Char) : List Char := text.dropWhile Text.isBlank

def blank? : List Char → Option (List Char)
  | c :: rest => if Text.isBlank c then some (skipBlank rest) else none
  | [] => none

def spacedKeyword? (word : String) (text : List Char) : Option (List Char) :=
  (keyword? word text).bind blank?

/-- The text after the first of some phrases that stands here; the text itself if none does. -/
def skipPhrase (phrases : List (List String)) (text : List Char) : List Char :=
  (phrases.findSome? fun phrase =>
    phrase.foldlM (fun rest word => spacedKeyword? word rest) text).getD text

def isNameStart (c : Char) : Bool := c == '_' || c.isAlpha

def isFoldedNameStart (c : Char) : Bool := isNameStart (Text.foldLetter c)

def isNamePart (c : Char) : Bool := Text.isWordChar c || c == '$' || c == '#'

def closingMark? (c : Char) : Option Char :=
  if c = '"' ∨ c = Char.ofNat 0x60 then some c else if c = '[' then some ']' else none

def name? (starts : Char → Bool) : List Char → Option (List Char × List Char)
  | [] => none
  | c :: rest =>
    match closingMark? c with
    | some closing =>
      match rest.span (· != closing) with
      | (_ :: _, []) | ([], _) => none
      | (body, mark :: after) => some (c :: body ++ [mark], after)
    | none =>
      if starts c then
        let (body, after) := rest.span isNamePart
        some (c :: body, after)
      else none

def pointName? (text : List Char) : Option (List Char × List Char) :=
  match skipBlank text with
  | '.' :: rest =>
    let inner := skipBlank rest
    (name? isFoldedNameStart inner).map fun (_, after) =>
      (text.take (text.length - after.length), after)
  | _ => none

def moreNames : Nat → List Char → List Char × List Char
  | 0, text => ([], text)
  | fuel + 1, text =>
    match pointName? text with
    | some (found, after) =>
      let (more, rest) := moreNames fuel after
      (found ++ more, rest)
    | none => ([], text)

def qualified? (text : List Char) : Option (List Char × List Char) := do
  let (first, after) ← name? isFoldedNameStart text
  let (more, rest) := moreNames after.length after
  some (first ++ more, rest)

def unquote (name : List Char) : List Char :=
  let name := Text.trimChars name
  match name with
  | c :: _ :: _ =>
    if (closingMark? c).isSome then (name.drop 1).take (name.length - 2) else name
  | _ => name

def namesFrom : Nat → List Char → List (List Char)
  | 0, _ => []
  | _, [] => []
  | fuel + 1, c :: rest =>
    match name? isNameStart (c :: rest) with
    | some (found, after) => found :: namesFrom fuel after
    | none => namesFrom fuel rest

/-- The last name in a text, without quotes; the whole text if it holds none. -/
def lastName (text : List Char) : List Char :=
  match (namesFrom text.length text).getLast? with
  | some name => unquote name
  | none => Text.trimChars text

def createTable? (statement : List Char) : Option (List Char × List Char) := do
  let text ← spacedKeyword? "create" (skipBlank statement)
  let text := skipPhrase [["or", "replace"]] text
  let text := skipPhrase [["global"], ["local"]] text
  let text := skipPhrase [["temporary"], ["temp"]] text
  let text ← spacedKeyword? "table" text
  let text := skipPhrase [["if", "not", "exists"]] text
  let (name, rest) ← qualified? text
  match skipBlank rest with
  | '(' :: body => some (lastName name, body)
  | _ => none

def createEnum? (statement : List Char) : Option (List Char × List String) := do
  let text ← spacedKeyword? "create" (skipBlank statement)
  let text ← spacedKeyword? "type" text
  let (name, rest) ← qualified? text
  let text ← spacedKeyword? "as" (← blank? rest)
  let text ← keyword? "enum" text
  match skipBlank text with
  | '(' :: body =>
    match (Text.trimRight body).reverse with
    | ')' :: values => some (lastName name, literals values.reverse)
    | _ => none
  | _ => none

def isIndexItem (item : List Char) : Bool :=
  let text := skipPhrase [["fulltext"], ["spatial"]] (skipBlank item)
  [keyword? "key" text, keyword? "index" text].any fun
    | some [] => true
    | some (c :: _) => !Text.isWordChar c
    | none => false

abbrev Piece := List Char × List Char

def taken (text rest : List Char) : List Char := text.take (text.length - rest.length)

def skipTypeWord (text : List Char) : List Char :=
  match blank? text with
  | some rest =>
    ((keyword? "precision" rest).orElse fun _ => keyword? "varying" rest).getD text
  | none => text

def skipArguments (text : List Char) : List Char :=
  match skipBlank text with
  | '(' :: rest =>
    match rest.dropWhile (· != ')') with
    | _ :: after => after
    | [] => text
  | _ => text

def skipBrackets : Nat → List Char → List Char
  | 0, text => text
  | fuel + 1, text =>
    match skipBlank text with
    | '[' :: rest =>
      match skipBlank rest with
      | ']' :: after => skipBrackets fuel after
      | _ => text
    | _ => text

structure ColumnHead where
  name : List Char
  type : List Char
  rest : List Char
  deriving DecidableEq, Repr

def columnHead? (item : List Char) : Option ColumnHead := do
  let (name, text) ← name? isFoldedNameStart (skipBlank item)
  let text ← blank? text
  match text with
  | c :: more =>
    if isFoldedNameStart c then
      let word := skipTypeWord (more.dropWhile isNamePart)
      let rest := skipArguments word
      let rest := skipBrackets rest.length rest
      some { name, type := taken text rest, rest }
    else none
  | [] => none

end RelSchema.Sql.Header
