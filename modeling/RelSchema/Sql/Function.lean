namespace RelSchema.Sql

/-- A function under the name that its spellings share, with the least and the greatest number of
its arguments. -/
structure Function where
  name : String
  spellings : List String
  least : Nat
  most : Option Nat
  deriving Repr

namespace Function

def plain (name : String) (least most : Nat) : Function := ⟨name, [name], least, some most⟩

def spelled (name : String) (others : List String) (least most : Nat) : Function :=
  ⟨name, name :: others, least, some most⟩

def unbounded (name : String) (least : Nat) : Function := ⟨name, [name], least, none⟩

def textual : List Function :=
  [plain "ARRAY_AGG" 1 2, spelled "ARRAY_LENGTH" ["ARRAY_SIZE"] 1 2, unbounded "ARRAY" 0,
   ⟨"ARRAY_CONCAT", ["ARRAY_CONCAT", "ARRAY_CAT"], 1, none⟩,
   spelled "ARRAY_TO_STRING" ["ARRAY_JOIN"] 2 3,
   ⟨"CHAR_LENGTH", ["CHAR_LENGTH", "CHARACTER_LENGTH", "LENGTH", "LEN"], 1, some 3⟩,
   unbounded "CONCAT" 0, unbounded "CONCAT_WS" 1, plain "FROM_BASE64" 1 1,
   plain "GROUP_CONCAT" 1 3, spelled "HEX" ["TO_HEX"] 1 1, plain "INITCAP" 1 2,
   plain "JSON_FORMAT" 1 3, plain "LEFT" 2 2, plain "LEVENSHTEIN" 2 6,
   spelled "LOWER" ["LCASE"] 1 1, plain "MD5" 1 1, spelled "PARSE_JSON" ["JSON_PARSE"] 1 3,
   plain "REGEXP_LIKE" 2 3, plain "REGEXP_I_LIKE" 2 3, plain "REPEAT" 2 2, plain "RIGHT" 2 2,
   spelled "SHA" ["SHA1"] 1 1, plain "SHA2" 1 2, plain "SOUNDEX" 1 1, plain "SPLIT_PART" 1 3,
   spelled "STARTS_WITH" ["STARTSWITH"] 2 2, spelled "STUFF" ["INSERT"] 4 4,
   spelled "SUBSTRING" ["SUBSTR"] 1 3, plain "TO_BASE64" 1 1, plain "TO_CHAR" 1 4,
   plain "UNHEX" 1 2, plain "UNICODE" 1 1, spelled "UPPER" ["UCASE"] 1 1]

def numeric : List Function :=
  [plain "ABS" 1 1, plain "ANY_VALUE" 1 1, spelled "APPROX_DISTINCT" ["APPROX_COUNT_DISTINCT"] 1 2,
   plain "AVG" 1 1, plain "CBRT" 1 1, spelled "CEIL" ["CEILING"] 1 3, unbounded "COUNT" 0,
   spelled "COUNT_IF" ["COUNTIF"] 1 1, plain "EXP" 1 1, plain "FLOOR" 1 3,
   unbounded "GREATEST" 1, spelled "IS_INF" ["ISINF"] 1 1, spelled "IS_NAN" ["ISNAN"] 1 1,
   unbounded "LEAST" 1, plain "LN" 1 1,
   spelled "LOGICAL_AND" ["BOOL_AND", "BOOLAND_AGG"] 1 1,
   spelled "LOGICAL_OR" ["BOOL_OR", "BOOLOR_AGG"] 1 1, unbounded "MAX" 1, unbounded "MIN" 1,
   spelled "RANDOM" ["RAND"] 0 2, plain "ROUND" 1 3, plain "ROW_NUMBER" 0 1,
   spelled "SIGN" ["SIGNUM"] 1 1, plain "SQRT" 1 1, spelled "STDDEV" ["STDEV"] 1 1,
   plain "SUM" 1 1, plain "TO_NUMBER" 1 5, spelled "VARIANCE" ["VARIANCE_SAMP", "VAR_SAMP"] 1 1,
   spelled "VARIANCE_POP" ["VAR_POP"] 1 1]

def temporal : List Function :=
  [unbounded "DATE" 0, plain "DATE_ADD" 2 3, plain "DATE_SUB" 2 3,
   spelled "DATEDIFF" ["DATE_DIFF"] 2 4, spelled "DATE_FROM_PARTS" ["DATEFROMPARTS"] 3 3,
   plain "DATE_TRUNC" 2 4, plain "DAY" 1 1, spelled "DAY_OF_MONTH" ["DAYOFMONTH"] 1 1,
   spelled "DAY_OF_WEEK" ["DAYOFWEEK"] 1 1, spelled "DAY_OF_YEAR" ["DAYOFYEAR"] 1 1,
   spelled "LAST_DAY" ["LAST_DAY_OF_MONTH"] 1 2, plain "MONTH" 1 1, plain "MONTHS_BETWEEN" 2 3,
   spelled "TIMESTAMPDIFF" ["TIMESTAMP_DIFF"] 2 3, plain "STR_TO_DATE" 1 3, plain "WEEK" 1 2,
   spelled "WEEK_OF_YEAR" ["WEEKOFYEAR"] 1 1, plain "YEAR" 1 1]

def general : List Function :=
  [⟨"COALESCE", ["COALESCE", "IFNULL"], 1, none⟩, unbounded "NVL" 1, plain "EXISTS" 1 2,
   ⟨"IF", ["IF", "IIF"], 2, some 3⟩, plain "NULLIF" 2 2, plain "NVL2" 2 3,
   spelled "UUID" ["GEN_RANDOM_UUID", "GENERATE_UUID", "UUID_STRING"] 0 2]

def catalog : List Function := textual ++ numeric ++ temporal ++ general

def find? (spelling : String) : Option Function :=
  catalog.find? fun f => f.spellings.contains spelling

def takes (f : Function) (count : Nat) : Bool :=
  decide (f.least ≤ count) &&
    match f.most with
    | some most => decide (count ≤ most)
    | none => true

end Function

end RelSchema.Sql
