import RelSchema.Sql.Token
import RelSchema.Text.Character
import RelSchema.Text.Letter

namespace RelSchema.Sql.Lexer

def backtick : Char := Char.ofNat 0x60

def isSingle (d : Dialect) (c : Char) : Bool :=
  "()[]&^:,-.=><%!|+;/\\*~?@#'\"".toList.contains c || c == backtick ||
    c == '\x7b' || c == '\x7d' || (c == '$' && d == .postgresql)

def isSingleInWord (d : Dialect) (c : Char) : Bool :=
  match d with
  | .postgresql => c == '$'
  | .sqlserver | .oracle => c == '@' || c == '$' || c == '#'
  | .mysql | .sqlite => false

def continuesWord (d : Dialect) (c : Char) : Bool :=
  !Text.isBlank c && (!isSingle d c || isSingleInWord d c)

def commonOperators : List String :=
  ["==", "::", "||", "|>", ">=", "<=", "<>", "!=", ":=", "<=>", "->", "->>", "=>", "#>", "#>>",
   "<->", "&&", "??", "~~", "~~*", "~*", "~~~", "-|-"]

def operators : Dialect → List String
  | .mysql => commonOperators ++ ["@@"]
  | .postgresql => commonOperators ++ ["@@", "@>", "<@", "?&", "?|", "#-", "|/", "||/"]
  | .oracle => commonOperators ++ ["(+)"]
  | _ => commonOperators

structure StringMark where
  opening : String
  closing : Char
  kind : TokenKind

def marked (letters : List String) (kind : TokenKind) : List StringMark :=
  letters.map fun letter => ⟨letter ++ "'", '\'', kind⟩

def stringMarks : Dialect → List StringMark
  | .mysql =>
    [⟨"'", '\'', .string⟩, ⟨"\"", '"', .string⟩] ++ marked ["n", "N"] .national ++
      [⟨"n\"", '"', .national⟩, ⟨"N\"", '"', .national⟩] ++
      marked ["b", "B"] .bits ++ marked ["x", "X"] .hexadecimal
  | .postgresql =>
    ⟨"'", '\'', .string⟩ :: ⟨"$", '$', .dollarString⟩ :: marked ["n", "N"] .national ++
      marked ["b", "B"] .bits ++ marked ["x", "X"] .hexadecimal ++ marked ["e", "E"] .bytes
  | .sqlserver =>
    ⟨"'", '\'', .string⟩ :: marked ["n", "N"] .national ++
      [⟨"n\"", '"', .national⟩, ⟨"N\"", '"', .national⟩]
  | .sqlite =>
    ⟨"'", '\'', .string⟩ :: marked ["n", "N"] .national ++ marked ["x", "X"] .hexadecimal
  | .oracle =>
    ⟨"'", '\'', .string⟩ :: marked ["n", "N"] .national ++ marked ["u", "U"] .unicode

def nameClosing? (d : Dialect) (c : Char) : Option Char :=
  match d with
  | .mysql => if c = backtick then some c else none
  | .postgresql | .oracle => if c = '"' then some c else none
  | .sqlserver => if c = '"' then some c else if c = '[' then some ']' else none
  | .sqlite => if c = '"' ∨ c = backtick then some c else if c = '[' then some ']' else none

def hasBitNumbers : Dialect → Bool
  | .mysql | .postgresql => true
  | _ => false

def hasHexNumbers : Dialect → Bool
  | .oracle => false
  | _ => true

def nestsComments : Dialect → Bool
  | .postgresql | .sqlserver => true
  | _ => false

def phrases (d : Dialect) : List String :=
  (Lexicon.types d ++ Lexicon.words d).filter
      (fun w => w.toList.any fun c => c == ' ' || isSingle d c) ++ operators d

/-- What is left after a phrase. A space in the phrase stands for any white space. -/
def afterPhrase? : List Char → List Char → Option (List Char)
  | [], rest => some rest
  | _ :: _, [] => none
  | ' ' :: phrase, c :: rest =>
    if Text.isBlank c then afterPhrase? phrase (rest.dropWhile Text.isBlank) else none
  | p :: phrase, c :: rest =>
    if Text.upperChar c = [p] then afterPhrase? phrase rest else none

def longestPhrase? (list : List String) (text : List Char) : Option (String × List Char) :=
  list.foldl (fun best phrase =>
    match best with
    | some (found, _) =>
      if found.length < phrase.length then
        ((afterPhrase? phrase.toList text).map (phrase, ·)).orElse fun _ => best
      else best
    | none => (afterPhrase? phrase.toList text).map (phrase, ·)) none

def backslashSequence? : Char → Option Char
  | 'a' => some (Char.ofNat 7)
  | 'b' => some (Char.ofNat 8)
  | 'f' => some (Char.ofNat 12)
  | 'n' => some '\n'
  | 'r' => some '\r'
  | 't' => some '\t'
  | 'v' => some (Char.ofNat 11)
  | '\\' => some '\\'
  | _ => none

def keepsBackslash (c : Char) : Bool := ['0', 'Z', '%', '_'].contains c

inductive Backslash where
  | plain | sequences | escapes
  deriving DecidableEq, Repr

inductive Pending where
  | nothing | backslash | closing
  deriving DecidableEq, Repr

/-- The text up to the closing character, which is written twice to stand for itself, and what is
left after it. Nothing if it does not close. -/
def delimited? (closing : Char) (style : Backslash) :
    Pending → List Char → Option (List Char × List Char)
  | .closing, [] => some ([], [])
  | _, [] => none
  | .closing, c :: rest =>
    if c != closing then some ([], c :: rest)
    else if rest.isEmpty then none
    else before [c] (delimited? closing style .nothing rest)
  | .backslash, c :: rest =>
    match backslashSequence? c with
    | some meant => before [meant] (delimited? closing style .nothing rest)
    | none =>
      if style = .escapes then
        if keepsBackslash c then before ['\\', c] (delimited? closing style .nothing rest)
        else if rest.isEmpty then none
        else before [c] (delimited? closing style .nothing rest)
      else if c == closing then before ['\\'] (delimited? closing style .closing rest)
      else before ['\\', c] (delimited? closing style .nothing rest)
  | .nothing, c :: rest =>
    if c == '\\' && style != .plain then delimited? closing style .backslash rest
    else if c == closing then delimited? closing style .closing rest
    else before [c] (delimited? closing style .nothing rest)
where
  before (text : List Char) (r : Option (List Char × List Char)) :
      Option (List Char × List Char) :=
    r.map fun (t, left) => (text ++ t, left)

def stringStyle : Dialect → Backslash
  | .mysql => .escapes
  | _ => .plain

def nameStyle : Dialect → Backslash
  | .mysql => .sequences
  | _ => .plain

def afterLine (text : List Char) : List Char := text.dropWhile fun c => c != '\n' && c != '\r'

/-- What is left after a block comment; all is comment if it does not close. The characters right
after an opening mark do not open another comment. -/
def afterBlock (nests : Bool) : Nat → Bool → List Char → List Char
  | _, _, [] => []
  | _, _, [_] => []
  | depth, mayOpen, c :: e :: rest =>
    if c == '*' && e == '/' then
      if depth = 0 then rest else afterBlock nests (depth - 1) true (e :: rest)
    else if nests && mayOpen && c == '/' && e == '*' then afterBlock nests (depth + 1) false rest
    else afterBlock nests depth true (e :: rest)

def afterBraces : List Char → List Char
  | [] => []
  | [_] => []
  | c :: e :: rest => if c == '#' && e == '\x7d' then rest else afterBraces (e :: rest)

def afterComment? (d : Dialect) : List Char → Option (List Char)
  | '-' :: '-' :: rest => some (afterLine rest)
  | '/' :: '*' :: rest => some (afterBlock (nestsComments d) 0 false rest)
  | '#' :: rest => if d = .mysql then some (afterLine rest) else none
  | c :: '#' :: rest => if c == '\x7b' then some (afterBraces rest) else none
  | _ => none

/-- The rest of a number: a point, and an exponent with a sign only before a digit. In one dialect
letters that follow make the whole a word, which the flag tells. -/
def numberRest (d : Dialect) (noPoint : Bool) (point : Bool) (exponent : Nat) :
    List Char → List Char × List Char × Bool
  | [] => ([], [], false)
  | c :: rest =>
    let more (point : Bool) (exponent : Nat) :=
      let (t, r, word) := numberRest d noPoint point exponent rest
      (c :: t, r, word)
    if Text.isDigit c then more point exponent
    else if c == '.' && !point then
      if noPoint then ([], c :: rest, false) else more true exponent
    else if (c == '-' || c == '+') && exponent == 1 then
      if (rest.head?.map Text.isDigit).getD false then more point 2 else ([], c :: rest, false)
    else if (c == 'e' || c == 'E') && exponent == 0 then more point 1
    else if (c == '_' || Text.isLetter c) && d == .mysql then
      let (t, r) := (c :: rest).span fun c => !Text.isBlank c && !isSingle d c
      (t, r, true)
    else ([], c :: rest, false)

abbrev Piece := Option Token × List Char

def spanned (kind : TokenKind) (text key : String) (pos : Nat) (before rest : List Char) : Piece :=
  (some { kind, text, key, start := pos, stop := pos + (before.length - rest.length) }, rest)

def basedNumber (d : Dialect) (kind : TokenKind) (pos : Nat) (text : List Char) : Piece :=
  let (found, rest) := text.span fun c => !Text.isBlank c && !isSingle d c
  let digits := found.drop 2
  let fits (c : Char) := if kind = .bits then c == '0' || c == '1' else
    c.isDigit || ('a' ≤ c && c ≤ 'f') || ('A' ≤ c && c ≤ 'F')
  if !digits.isEmpty && digits.all fits then
    spanned kind (String.ofList digits) "" pos text rest
  else spanned .quotedName (String.ofList found) "" pos text rest

def number (d : Dialect) (afterParameter : Bool) (pos : Nat) (text : List Char) : Piece :=
  let plain (found rest : List Char) := spanned .number (String.ofList found) "" pos text rest
  match text with
  | '0' :: c :: rest =>
    if c == 'b' || c == 'B' then
      if hasBitNumbers d then basedNumber d .bits pos text else plain ['0'] (c :: rest)
    else if c == 'x' || c == 'X' then
      if hasHexNumbers d then basedNumber d .hexadecimal pos text else plain ['0'] (c :: rest)
    else ofDigits plain
  | _ => ofDigits plain
where
  ofDigits (plain : List Char → List Char → Piece) : Piece :=
    let (found, rest, word) := numberRest d afterParameter false 0 (text.drop 1)
    if word then
      spanned .word (String.ofList (text.take 1 ++ found))
        (Text.upper (String.ofList (text.take 1 ++ found))) pos text rest
    else plain (text.take 1 ++ found) rest

def wordKind (d : Dialect) (key : String) : TokenKind :=
  if (Lexicon.types d).contains key then .type
  else if (Lexicon.words d).contains key then .keyword
  else .word

def word (d : Dialect) (afterParameter : Bool) (pos : Nat) (text : List Char) : Piece :=
  let (more, rest) := (text.drop 1).span (continuesWord d)
  let found := String.ofList (text.take 1 ++ more)
  let key := Text.upper found
  spanned (if afterParameter then .word else wordKind d key) found key pos text rest

def fitsBase (kind : TokenKind) (body : List Char) : Bool :=
  match kind with
  | .bits => body.all fun c => c == '0' || c == '1'
  | .hexadecimal =>
    body.all fun c => c.isDigit || ('a' ≤ c && c ≤ 'f') || ('A' ≤ c && c ≤ 'F')
  | _ => true

def upTo (mark : List Char) : List Char → Option (List Char × List Char)
  | [] => none
  | c :: rest =>
    if mark.isPrefixOf (c :: rest) then some ([], (c :: rest).drop mark.length)
    else (upTo mark rest).map fun (t, r) => (c :: t, r)

def dollarString (pos : Nat) (text : List Char) : Option Piece :=
  let rest := text.drop 1
  let (tag, after) := rest.span (· != '$')
  let isParameter := !tag.isEmpty &&
    (after.length ≤ 1 || tag.all Text.isDigit || tag.any Text.isBlank)
  if isParameter then some (spanned .symbol "$" "@" pos text rest)
  else
    (upTo ('$' :: tag ++ ['$']) (after.drop 1)).map fun (body, left) =>
      spanned .dollarString (String.ofList body) "" pos text left

def stringToken? (d : Dialect) (pos : Nat) (text : List Char) : Option (Option Piece) :=
  (stringMarks d).find? (fun mark => mark.opening.toList.isPrefixOf text) |>.map fun mark =>
    if mark.kind = .dollarString then dollarString pos text
    else
      match delimited? mark.closing (stringStyle d) .nothing (text.drop mark.opening.length) with
      | some (body, rest) =>
        if fitsBase mark.kind body then
          some (spanned mark.kind (String.ofList body) "" pos text rest)
        else none
      | none => none

def isPhraseEnd (d : Dialect) (phrase : String) (rest : List Char) : Bool :=
  phrase.toList.any (isSingle d) ||
    match rest with
    | [] => true
    | c :: _ => Text.isBlank c || isSingle d c

def phraseOr (d : Dialect) (afterParameter : Bool) (pos : Nat) (text : List Char) :
    Option (String × List Char) → Piece
  | some (phrase, rest) =>
    let kind := match wordKind d phrase with
      | .word => .symbol
      | kind => kind
    spanned kind phrase phrase pos text rest
  | none =>
    match text with
    | [] => (none, [])
    | c :: rest =>
      if isSingle d c then
        let kind := if c == '\'' || c == '"' || c == backtick then .stray else .symbol
        spanned kind (String.singleton c) (String.singleton c) pos text rest
      else word d afterParameter pos text

def wordOrSymbol (d : Dialect) (afterParameter : Bool) (pos : Nat) (text : List Char) : Piece :=
  phraseOr d afterParameter pos text
    ((longestPhrase? (phrases d) text).filter fun (p, rest) => isPhraseEnd d p rest)

def piece? (d : Dialect) (last : Option Token) (pos : Nat) (text : List Char) : Option Piece :=
  let afterParameter := (last.map (·.is "@")).getD false
  match text with
  | [] => some (none, [])
  | c :: rest =>
    if Text.isDigit c then some (number d afterParameter pos text)
    else match nameClosing? d c with
      | some closing =>
        (delimited? closing (nameStyle d) .nothing rest).map fun (body, left) =>
          spanned .quotedName (String.ofList body) "" pos text left
      | none =>
        match stringToken? d pos text with
        | some found => found
        | none =>
          match afterComment? d text with
          | some left => some (none, left)
          | none => some (wordOrSymbol d afterParameter pos text)

def commands (d : Dialect) : List String :=
  ["CALL", "EXECUTE", "FETCH", "OPTIMIZE", "PREPARE", "RENAME", "SHOW", "VACUUM"] ++
    match d with
    | .mysql => ["LOCK TABLES", "UNLOCK TABLES"]
    | .postgresql => ["DECLARE", "DO", "EXEC", "REFRESH", "REINDEX", "RESET"]
    | .sqlserver => ["EXEC", "GO", "PRINT", "UPDATE STATISTICS"]
    | _ => []

def beginsCommand (d : Dialect) (last : Option Token) (t : Token) : Bool :=
  t.kind != .quotedName && t.kind != .string && (commands d).contains t.key &&
    match last with
    | none => true
    | some before => before.is ";" || before.is "BEGIN"

def commandRest? (d : Dialect) :
    Nat → Option Token → Nat → Nat → List Char → Option (List Char × Nat × Nat)
  | 0, _, start, pos, text => some (text, start, pos)
  | fuel + 1, last, start, pos, text =>
    match text with
    | [] => some ([], start, pos)
    | c :: rest =>
      if c == ' ' || c == '\t' then
        let left := text.dropWhile fun c => c == ' ' || c == '\t'
        let next := pos + (text.length - left.length)
        goOn fuel last next next left
      else if Text.isBlank c then goOn fuel last pos (pos + 1) rest
      else do
        let (token, left) ← piece? d last pos text
        goOn fuel (token.orElse fun _ => last) pos (pos + (text.length - left.length)) left
where
  goOn (fuel : Nat) (last : Option Token) (start pos : Nat) (left : List Char) :
      Option (List Char × Nat × Nat) :=
    if left.head? == some ';' then some (left, start, pos)
    else commandRest? d fuel last start pos left

/-- The tokens of the text from a place on. The fuel is the count of characters left. -/
def tokensFrom (d : Dialect) : Nat → Option Token → Nat → List Char → Option (List Token)
  | 0, _, _, _ => some []
  | fuel + 1, last, pos, text =>
    match text with
    | [] => some []
    | c :: rest =>
      if Text.isBlank c then tokensFrom d fuel last (pos + 1) rest
      else do
        let (token, left) ← piece? d last pos text
        let next := pos + (text.length - left.length)
        match token with
        | none => tokensFrom d fuel last next left
        | some t =>
          if beginsCommand d last t && left.head? != some ';' then
            let (after, start, stop) ← commandRest? d (left.length + 1) (some t) pos next left
            let body := left.take (left.length - after.length)
            let told := Text.trimChars body
            if told.isEmpty then return t :: (← tokensFrom d fuel (some t) stop after)
            else
              let command : Token :=
                { kind := .string, text := String.ofList told, start, stop }
              return t :: command :: (← tokensFrom d fuel (some command) stop after)
          else return t :: (← tokensFrom d fuel (some t) next left)

def tokens? (d : Dialect) (text : List Char) : Option (List Token) :=
  tokensFrom d (text.length + 1) none 0 text

end RelSchema.Sql.Lexer
