import RelSchema.Dialect
import RelSchema.Text.Case

namespace RelSchema.Sql.DateFormat

abbrev Spellings := List (String × String)

/-- How a dialect spells directives, and what they are in the shared spelling. Of two spellings
of one directive the later is the one that is written. -/
def directives : Dialect → Spellings
  | .mysql =>
    [("%M", "%B"), ("%c", "%-m"), ("%e", "%-d"), ("%h", "%I"), ("%i", "%M"), ("%s", "%S"),
     ("%u", "%W"), ("%k", "%-H"), ("%l", "%-I"), ("%T", "%H:%M:%S"), ("%W", "%A")]
  | .postgresql =>
    [("d", "%u"), ("D", "%u"), ("dd", "%d"), ("DD", "%d"), ("ddd", "%j"), ("DDD", "%j"),
     ("FMDD", "%-d"), ("FMDDD", "%-j"), ("FMHH12", "%-I"), ("FMHH24", "%-H"), ("FMMI", "%-M"),
     ("FMMM", "%-m"), ("FMSS", "%-S"), ("HH12", "%I"), ("HH24", "%H"), ("mi", "%M"),
     ("MI", "%M"), ("mm", "%m"), ("MM", "%m"), ("OF", "%z"), ("ss", "%S"), ("SS", "%S"),
     ("TMDay", "%A"), ("TMDy", "%a"), ("TMMon", "%b"), ("TMMonth", "%B"), ("TZ", "%Z"),
     ("US", "%f"), ("ww", "%U"), ("WW", "%U"), ("yy", "%y"), ("YY", "%y"), ("yyyy", "%Y"),
     ("YYYY", "%Y")]
  | .oracle =>
    [("D", "%u"), ("DAY", "%A"), ("DD", "%d"), ("DDD", "%j"), ("DY", "%a"), ("HH", "%I"),
     ("HH12", "%I"), ("HH24", "%H"), ("IW", "%V"), ("MI", "%M"), ("MM", "%m"), ("MON", "%b"),
     ("MONTH", "%B"), ("SS", "%S"), ("WW", "%W"), ("YY", "%y"), ("YYYY", "%Y"), ("FF6", "%f")]
  | .sqlserver =>
    [("year", "%Y"), ("dayofyear", "%j"), ("day", "%d"), ("dy", "%d"), ("y", "%Y"),
     ("week", "%W"), ("ww", "%W"), ("wk", "%W"), ("hour", "%h"), ("hh", "%I"), ("minute", "%M"),
     ("mi", "%M"), ("n", "%M"), ("second", "%S"), ("ss", "%S"), ("s", "%-S"),
     ("millisecond", "%f"), ("ms", "%f"), ("weekday", "%w"), ("dw", "%w"), ("month", "%m"),
     ("mm", "%M"), ("m", "%-M"), ("Y", "%Y"), ("YYYY", "%Y"), ("YY", "%y"), ("MMMM", "%B"),
     ("MMM", "%b"), ("MM", "%m"), ("M", "%-m"), ("dddd", "%A"), ("dd", "%d"), ("d", "%-d"),
     ("HH", "%H"), ("H", "%-H"), ("h", "%-I"), ("ffffff", "%f"), ("yyyy", "%Y"), ("yy", "%y")]
  | .sqlite => []

def inverse (spellings : Spellings) : Spellings :=
  spellings.reverse.map fun (own, shared) => (shared, own)

def replaced (spellings : Spellings) (chunk : List Char) : String :=
  (spellings.lookup (String.ofList chunk)).getD (String.ofList chunk)

/-- Goes through a format from one end to the other. `held` is the part that a longer spelling may
still begin with, `whole` the longest spelling that it held so far. The fuel is twice the length
of the format. -/
def convertFrom (spellings : Spellings) :
    Nat → List Char → Option (List Char) → List Char → String
  | 0, held, _, rest => String.ofList (held ++ rest)
  | fuel + 1, held, whole, rest =>
    match rest with
    | [] => if held.isEmpty then "" else replaced spellings held
    | c :: rest =>
      let longer := held ++ [c]
      let begins := spellings.any fun (own, _) => longer.isPrefixOf own.toList
      if begins then
        let whole := if (spellings.lookup (String.ofList longer)).isSome then some longer else whole
        convertFrom spellings fuel longer whole rest
      else
        match whole with
        | some found =>
          replaced spellings found ++
            convertFrom spellings fuel [] none (longer.drop found.length ++ rest)
        | none =>
          String.ofList (longer.take 1) ++
            convertFrom spellings fuel [] none (longer.drop 1 ++ rest)

def convert (spellings : Spellings) (format : String) : String :=
  convertFrom spellings (format.length * (format.length + 1)) [] none format.toList

def toShared (d : Dialect) (format : String) : String := convert (directives d) format

def ofShared (d : Dialect) (format : String) : String := convert (inverse (directives d)) format

def normalized (d : Dialect) (format : String) : String := ofShared d (toShared d format)

def namedParts : Spellings :=
  [("weekday", "%A"), ("dw", "%A"), ("w", "%A"), ("month", "%B"), ("mm", "%B"), ("m", "%B")]

def ofPart (part : String) : String :=
  convert (namedParts ++ directives .sqlserver) (Text.lower part)

def letters : Spellings :=
  [("y", "%B %Y"), ("d", "%m/%d/%Y"), ("H", "%-H"), ("h", "%-I"), ("s", "%Y-%m-%d %H:%M:%S"),
   ("D", "%A,%B,%Y"), ("f", "%A,%B,%Y %-I:%M %p"), ("F", "%A,%B,%Y %-I:%M:%S %p"),
   ("t", "%-I:%M %p"), ("T", "%-I:%M:%S %p"), ("Y", "%B %Y")]

def isTemporal (format : String) : Bool :=
  format != "N" && format != "C" && format.toList.any fun c => "dDmMyYhHsS".toList.contains c

def rewritten (format : String) : String :=
  if isTemporal format then
    ofShared .sqlserver
      (if format.length = 1 then (letters.lookup format).getD format
      else toShared .sqlserver format)
  else format

def styles : List (Nat × String) :=
  [(0, "%b %d %Y %-I:%M%p"), (1, "%m/%d/%y"), (2, "%y.%m.%d"), (3, "%d/%m/%y"),
   (4, "%d.%m.%y"), (5, "%d-%m-%y"), (6, "%d %b %y"), (7, "%b %d, %y"), (8, "%H:%M:%S"),
   (9, "%b %d %Y %-I:%M:%S:%f%p"), (10, "mm-dd-yy"), (11, "yy/mm/dd"), (12, "yymmdd"),
   (13, "%d %b %Y %H:%M:ss:ffffff"), (14, "%H:%M:%S:%f"), (20, "%Y-%m-%d %H:%M:%S"),
   (21, "%Y-%m-%d %H:%M:%S.%f"), (22, "%m/%d/%y %-I:%M:%S %p"), (23, "%Y-%m-%d"),
   (24, "%H:%M:%S"), (25, "%Y-%m-%d %H:%M:%S.%f"), (100, "%b %d %Y %-I:%M%p"),
   (101, "%m/%d/%Y"), (102, "%Y.%m.%d"), (103, "%d/%m/%Y"), (104, "%d.%m.%Y"),
   (105, "%d-%m-%Y"), (106, "%d %b %Y"), (107, "%b %d, %Y"), (108, "%H:%M:%S"),
   (109, "%b %d %Y %-I:%M:%S:%f%p"), (110, "%m-%d-%Y"), (111, "%Y/%m/%d"), (112, "%Y%m%d"),
   (113, "%d %b %Y %H:%M:%S:%f"), (114, "%H:%M:%S:%f"), (120, "%Y-%m-%d %H:%M:%S"),
   (121, "%Y-%m-%d %H:%M:%S.%f"), (126, "%Y-%m-%dT%H:%M:%S.%f")]

def style? (number : String) : Option String :=
  number.toNat?.bind fun n => styles.lookup n

end RelSchema.Sql.DateFormat
