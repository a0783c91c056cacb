import RelSchema.Proofs.Blanks
import RelSchema.Proofs.Framing.Script
import RelSchema.Proofs.RoundTrip.TypeText
import RelSchema.Sql.Definition

namespace RelSchema

def isIdentifierChar (c : Char) : Bool := c == '_' || c.isAlphanum

def IsIdentifier (name : String) : Prop :=
  ∃ first rest, name.toList = first :: rest ∧ first.isAlpha = true ∧
    ∀ c ∈ rest, isIdentifierChar c = true

instance (name : String) : Decidable (IsIdentifier name) :=
  match shape : name.toList with
  | [] => .isFalse fun ⟨_, _, other, _⟩ => by rw [shape] at other; cases other
  | first :: rest =>
    decidable_of_iff ((first.isAlpha && rest.all isIdentifierChar) = true)
      (by simp [IsIdentifier, shape])

namespace Text

theorem isAscii_of_identifierChar {c : Char} (h : isIdentifierChar c = true) :
    isAscii c = true := by
  rw [isIdentifierChar, ← asciiWord_iff, Ranges.contains_iff] at h
  obtain ⟨r, member, -, high⟩ := h
  have bound : ∀ r ∈ asciiWordRanges, r.2 < 128 := by decide
  have := bound r member
  simp only [isAscii, decide_eq_true_eq]
  omega

theorem of_identifierChar {p : Char → Bool}
    (all : ∀ n < 128, isIdentifierChar (Char.ofNat n) = true → p (Char.ofNat n) = true) {c : Char}
    (h : isIdentifierChar c = true) : p c = true := by
  have ascii := isAscii_of_identifierChar h
  simp only [isAscii, decide_eq_true_eq] at ascii
  have here := all c.toNat ascii
  rw [Char.ofNat_toNat] at here
  exact here h

theorem isWordChar_of_identifierChar {c : Char} (h : isIdentifierChar c = true) :
    isWordChar c = true := of_identifierChar (by decide +kernel) h

theorem identifierChar_of_alpha {c : Char} (h : c.isAlpha = true) : isIdentifierChar c = true := by
  simp [isIdentifierChar, Char.isAlphanum, h]

structure LowWord (w : List Char) (first : Char) (rest : List Char) : Prop where
  shape : w = first :: rest
  starts : first.isAlpha = true
  chars : ∀ c ∈ w, isIdentifierChar c = true ∧ c.toLower = c

theorem LowWord.lower {name : String} {first : Char} {rest : List Char}
    (low : LowWord name.toList first rest) : lower name = name := by
  have same : name.toList.map Char.toLower = name.toList :=
    (List.map_congr_left fun c member => (low.chars c member).2).trans (List.map_id' _)
  rw [Text.lower, lowerFrom_ascii fun c member => isAscii_of_identifierChar (low.chars c member).1,
    same, String.ofList_toList]

theorem lowWord_toLower {first : Char} {rest : List Char} (starts : first.isAlpha = true)
    (chars : ∀ c ∈ rest, isIdentifierChar c = true) :
    LowWord ((first :: rest).map Char.toLower) first.toLower (rest.map Char.toLower) := by
  have firstChar := identifierChar_of_alpha starts
  refine ⟨rfl, ?_, ?_⟩
  · have small := of_identifierChar (p := fun c => !c.isAlpha || c.toLower.isAlpha) (by decide)
      firstChar
    simpa only [starts, Bool.not_true, Bool.false_or] using small
  · intro lowered member
    obtain ⟨c, inside, rfl⟩ := List.mem_map.mp member
    have own : isIdentifierChar c = true := by
      rcases List.mem_cons.mp inside with rfl | later
      · exact firstChar
      · exact chars c later
    have stays := of_identifierChar
      (p := fun c => isIdentifierChar c.toLower && c.toLower.toLower == c.toLower) (by decide) own
    simpa using stays

end Text

theorem IsIdentifier.chars {name : String} (h : IsIdentifier name) :
    ∀ c ∈ name.toList, isIdentifierChar c = true := by
  obtain ⟨first, rest, shape, starts, letters⟩ := h
  rw [shape, List.forall_mem_cons]
  exact ⟨Text.identifierChar_of_alpha starts, letters⟩

theorem IsIdentifier.enclosed {name : String} (h : IsIdentifier name) (d : Dialect) :
    Sql.Enclosed d name := by
  constructor
  · rintro rfl
    obtain ⟨first, rest, shape, -⟩ := h
    cases shape
  · intro closing
    have isIdentifierChar := h.chars _ closing
    cases d <;> cases isIdentifierChar

namespace Sql

open Text (LowWord lowWord_toLower of_identifierChar identifierChar_of_alpha)

theorem typeNameChar_of_identifierChar {c : Char} (h : isIdentifierChar c = true) :
    typeNameChar c = c := by
  rw [typeNameChar, if_pos (Text.isWordChar_of_identifierChar h)]

theorem enumTypeName_lowWord {table column : String} (ht : IsIdentifier table)
    (hc : IsIdentifier column) :
    ∃ first rest, LowWord (enumTypeName table column).toList first rest := by
  have letters : ∀ c ∈ table.toList ++ '_' :: (column.toList ++ ['_', 'e', 'n', 'u']),
      isIdentifierChar c = true := by
    simp only [List.forall_mem_append, List.forall_mem_cons, List.not_mem_nil, IsEmpty.forall_iff,
      implies_true, and_true]
    exact ⟨ht.chars, by decide, hc.chars, by decide⟩
  have all : ∀ c ∈ table.toList ++ '_' :: (column.toList ++ ['_', 'e', 'n', 'u']) ++ ['m'],
      isIdentifierChar c = true :=
    List.forall_mem_append.mpr ⟨letters, by simp [isIdentifierChar]⟩
  have same : (table.toList ++ '_' :: (column.toList ++ ['_', 'e', 'n', 'u'])).map typeNameChar =
      table.toList ++ '_' :: (column.toList ++ ['_', 'e', 'n', 'u']) :=
    (List.map_congr_left fun c member => typeNameChar_of_identifierChar (letters c member)).trans
      (List.map_id' _)
  have spelled := enumTypeName_toList table column
  rw [same, Text.lowerFrom_ascii fun c member =>
    Text.isAscii_of_identifierChar (all c member)] at spelled
  obtain ⟨first, rest, shape, starts, -⟩ := ht
  rw [shape] at spelled all
  rw [spelled]
  exact ⟨_, _, lowWord_toLower starts fun c member => all c (List.mem_cons_of_mem _ member)⟩

/-- The literal that begins before a text ends at a quote that stands alone; at the first of two only
if no literal that goes on behind them would end. -/
theorem literalBody?_eq_some_iff {text body after : List Char} :
    literalBody? text = some (body, after) ↔ text = doubled '\'' body ++ '\'' :: after ∧
      (after.head? = some '\'' → literalBody? after.tail = none) := by
  constructor
  · intro found
    fun_induction literalBody? text generalizing body with
    | case1 => cases found
    | case2 rest inner later goesOn ih =>
      cases found
      obtain ⟨split, ends⟩ := ih goesOn
      rw [split, doubled_mark]
      exact ⟨rfl, ends⟩
    | case3 rest stops =>
      cases found
      exact ⟨rfl, fun _ => stops⟩
    | case4 rest single =>
      cases found
      refine ⟨rfl, fun head => ?_⟩
      obtain ⟨more, rfl⟩ := List.head?_eq_some_iff.mp head
      exact absurd rfl (single more)
    | case5 c rest _ other ih =>
      obtain ⟨⟨inner, later⟩, goesOn, same⟩ := Option.map_eq_some_iff.mp found
      cases same
      obtain ⟨split, ends⟩ := ih goesOn
      rw [split, doubled_plain inner other]
      exact ⟨rfl, ends⟩
  · rintro ⟨rfl, ends⟩
    induction body with
    | nil =>
      cases after with
      | nil => rfl
      | cons c more =>
        by_cases quote : c = '\''
        · subst quote
          have stops : literalBody? more = none := ends rfl
          simp [doubled, literalBody?, stops]
        · simp [doubled, literalBody?, quote]
    | cons c body ih =>
      by_cases quote : c = '\''
      · rw [quote, doubled_mark, List.cons_append, List.cons_append, literalBody?, ih]
      · have other : ∀ rest, c = '\'' →
            doubled '\'' body ++ '\'' :: after = '\'' :: rest → False := fun _ same _ => quote same
        rw [doubled_plain body quote, List.cons_append, literalBody?.eq_4 c _ other quote, ih]
        rfl

theorem literalsFrom_literal (fuel : Nat) (s : List Char) {rest : List Char}
    (ends : rest.head? ≠ some '\'') :
    literalsFrom (fuel + 1) (literalChars s ++ rest) = s :: literalsFrom fuel rest := by
  have body : literalBody? (doubled '\'' s ++ '\'' :: rest) = some (s, rest) :=
    literalBody?_eq_some_iff.mpr ⟨rfl, fun quote => absurd quote ends⟩
  rw [literalChars, List.cons_append, List.cons_append, List.append_assoc, List.singleton_append,
    literalsFrom, body]

theorem literalsFrom_nil (fuel : Nat) : literalsFrom fuel [] = [] := by
  cases fuel <;> rfl

theorem literalsFrom_values {values : List (List Char)} {fuel : Nat}
    (enough : ([',', ' '].intercalate (values.map literalChars)).length ≤ fuel) :
    literalsFrom fuel ([',', ' '].intercalate (values.map literalChars)) = values := by
  -- A value takes one unit of fuel, and so does each character between two values.
  induction values generalizing fuel with
  | nil => exact literalsFrom_nil fuel
  | cons s rest ih =>
    have quotes : 2 ≤ (literalChars s).length := by simp [literalChars]
    cases rest with
    | nil =>
      simp only [List.map_cons, List.map_nil, List.intercalate_singleton] at enough ⊢
      obtain ⟨left, rfl⟩ := Nat.exists_eq_add_of_le' (show 1 ≤ fuel by omega)
      have ends : ([] : List Char).head? ≠ some '\'' := by simp
      have only := literalsFrom_literal left s ends
      rwa [List.append_nil, literalsFrom_nil] at only
    | cons next more =>
      simp only [List.map_cons, List.intercalate_cons_cons] at enough ih ⊢
      simp only [List.append_assoc, List.length_append, List.length_cons, List.length_nil] at enough
      obtain ⟨left, rfl⟩ := Nat.exists_eq_add_of_le' (show 3 ≤ fuel by omega)
      have ends : ([',', ' '] ++ [',', ' '].intercalate
          (literalChars next :: more.map literalChars)).head? ≠ some '\'' := by simp
      have later : literalsFrom left _ = next :: more := ih (by omega)
      rw [List.append_assoc, literalsFrom_literal (left + 2) s ends]
      exact congrArg (s :: ·) later

theorem literals_valueList (values : List String) : literals (valueList values).toList = values := by
  have text : (valueList values).toList =
      [',', ' '].intercalate ((values.map String.toList).map literalChars) := by
    simp [valueList, String.toList_intercalate, literal, Function.comp_def]
  rw [literals, text, literalsFrom_values (Nat.le_refl _)]
  simp [Function.comp_def]

namespace Header

/-- A name that needs no quotes: a letter of ASCII or an underscore, and then letters, numerals and
underscores of any script. -/
def IsBareName (w : List Char) : Prop :=
  ∃ first rest, w = first :: rest ∧ (first = '_' ∨ first.isAlpha = true) ∧
    ∀ c ∈ rest, Text.isWordChar c = true

instance : (w : List Char) → Decidable (IsBareName w)
  | [] => .isFalse fun ⟨_, _, other, _⟩ => by cases other
  | first :: rest =>
    decidable_of_iff ((first == '_' || first.isAlpha) && rest.all Text.isWordChar)
      (by simp [IsBareName])

variable {w : List Char}

theorem isNamePart_of_isWordChar {c : Char} (word : Text.isWordChar c = true) :
    isNamePart c = true := by
  rw [isNamePart, word, Bool.true_or, Bool.true_or]

theorem nameStart_facts {c : Char} (start : isNameStart c = true) :
    isFoldedNameStart c = true ∧ Text.isBlank c = false ∧ closingMark? c = none := by
  have letter : isIdentifierChar c = true := by
    rcases Bool.or_eq_true_iff.mp start with underscore | alpha
    · rw [isIdentifierChar, underscore, Bool.true_or]
    · exact identifierChar_of_alpha alpha
  have facts := of_identifierChar (p := fun c => !isNameStart c ||
    (isFoldedNameStart c && !Text.isBlank c && (closingMark? c).isNone)) (by decide +kernel) letter
  simpa [start, and_assoc] using facts

theorem IsBareName.starts (bare : IsBareName w) :
    ∃ first rest, w = first :: rest ∧ isNameStart first = true ∧
      ∀ c ∈ rest, Text.isWordChar c = true := by
  obtain ⟨first, rest, shape, start, parts⟩ := bare
  refine ⟨first, rest, shape, ?_, parts⟩
  rcases start with rfl | alpha
  · rfl
  · rw [isNameStart, alpha, Bool.or_true]

theorem IsBareName.visible (bare : IsBareName w) : ∀ c ∈ w, Text.isBlank c = false := by
  obtain ⟨first, rest, rfl, start, parts⟩ := bare.starts
  rw [List.forall_mem_cons]
  refine ⟨(nameStart_facts start).2.1, fun c member => ?_⟩
  rw [Bool.eq_false_iff]
  intro blank
  have other := Text.isWordChar_of_isBlank blank
  rw [parts c member] at other
  cases other

theorem isBareName_of_lowWord {first : Char} {rest : List Char} (low : LowWord w first rest) :
    IsBareName w := by
  obtain ⟨rfl, alpha, chars⟩ := low
  refine ⟨first, rest, rfl, .inr alpha, fun c member => ?_⟩
  exact Text.isWordChar_of_identifierChar (chars c (List.mem_cons_of_mem _ member)).1

theorem name?_bare (bare : IsBareName w) {starts : Char → Bool}
    (begins : ∀ c, isNameStart c = true → starts c = true) {after : List Char}
    (ends : ∀ c ∈ after.head?, isNamePart c = false) :
    name? starts (w ++ after) = some (w, after) := by
  obtain ⟨first, rest, rfl, start, parts⟩ := bare.starts
  have letters : ∀ c ∈ rest, isNamePart c = true := fun c member =>
    isNamePart_of_isWordChar (parts c member)
  rw [List.cons_append, name?, (nameStart_facts start).2.2]
  simp only [begins first start, if_true, span_stops letters ends]

theorem trimChars_visible {w : List Char} (visible : ∀ c ∈ w, Text.isBlank c = false) :
    Text.trimChars w = w :=
  Text.trimChars_eq_self (fun c head => visible c (List.mem_of_head? head))
    fun c last => visible c (List.mem_of_getLast? last)

theorem lastName_bare (bare : IsBareName w) : lastName w = w := by
  have trimmed := trimChars_visible bare.visible
  have whole : name? isNameStart (w ++ []) = some (w, []) :=
    name?_bare bare (fun _ start => start) nofun
  rw [List.append_nil] at whole
  obtain ⟨first, rest, rfl, start, -⟩ := bare.starts
  have found : namesFrom (first :: rest).length (first :: rest) = [first :: rest] := by
    simp only [List.length_cons, namesFrom, whole]
    rw [namesFrom_nil]
  rw [lastName, found, List.getLast?_singleton]
  simp only [unquote, trimmed]
  cases rest with
  | nil => rfl
  | cons => simp [(nameStart_facts start).2.2]

theorem qualified?_bare (bare : IsBareName w) (after : List Char) :
    qualified? (w ++ (" AS ENUM ".toList ++ after)) = some (w, " AS ENUM ".toList ++ after) := by
  have ends : ∀ c ∈ (" AS ENUM ".toList ++ after).head?, isNamePart c = false := by
    rintro c ⟨⟩
    decide
  have named := name?_bare bare (fun _ start => (nameStart_facts start).1) ends
  have more : ∀ fuel, moreNames fuel (" AS ENUM ".toList ++ after) =
      ([], " AS ENUM ".toList ++ after) := by
    have none : pointName? (" AS ENUM ".toList ++ after) = none := rfl
    intro fuel
    cases fuel with
    | zero => rfl
    | succ fuel => rw [moreNames, none]
  simp only [qualified?, named, Option.bind_eq_bind, Option.bind_some, more, List.append_nil]

def enumParts? (statement : List Char) : Option (List Char × List Char) := do
  let text ← spacedKeyword? "create" (skipBlank statement)
  let text ← spacedKeyword? "type" text
  let (name, rest) ← qualified? text
  let text ← spacedKeyword? "as" (← blank? rest)
  let text ← keyword? "enum" text
  match skipBlank text with
  | '(' :: body =>
    match (Text.trimRight body).reverse with
    | ')' :: listed => some (name, listed.reverse)
    | _ => none
  | _ => none

theorem createEnum?_eq (statement : List Char) :
    createEnum? statement =
      (enumParts? statement).map fun (name, listed) => (lastName name, literals listed) := by
  unfold createEnum? enumParts?
  simp only [Option.bind_eq_bind, Option.map_bind, Function.comp_def]
  refine Option.bind_congr fun _ _ => Option.bind_congr fun _ _ => Option.bind_congr fun _ _ =>
    Option.bind_congr fun _ _ => Option.bind_congr fun _ _ => Option.bind_congr fun text _ => ?_
  grind

theorem enumParts?_written (bare : IsBareName w) (listed : List Char) :
    enumParts? ('C' :: ("REATE TYPE ".toList ++ (w ++
      (" AS ENUM ".toList ++ '(' :: (listed ++ [')']))))) = some (w, listed) := by
  have create (rest : List Char) : spacedKeyword? "create"
      (skipBlank ('C' :: ("REATE TYPE ".toList ++ rest))) = some ("TYPE ".toList ++ rest) := rfl
  have kind (rest : List Char) :
      spacedKeyword? "type" ("TYPE ".toList ++ rest) = some (skipBlank rest) := rfl
  have shown (rest : List Char) : skipBlank (w ++ rest) = w ++ rest := by
    obtain ⟨first, more, shape, start, -⟩ := bare.starts
    rw [shape]
    exact skipBlank_cons (nameStart_facts start).2.1 _
  have space (rest : List Char) :
      blank? (" AS ENUM ".toList ++ rest) = some ("AS ENUM ".toList ++ rest) := rfl
  have as (rest : List Char) :
      spacedKeyword? "as" ("AS ENUM ".toList ++ rest) = some ("ENUM ".toList ++ rest) := rfl
  have enum (rest : List Char) :
      keyword? "enum" ("ENUM ".toList ++ rest) = some (' ' :: rest) := rfl
  have opened (rest : List Char) : skipBlank (' ' :: '(' :: rest) = '(' :: rest := rfl
  have closed : Text.trimRight (listed ++ [')']) = listed ++ [')'] := by
    have blank : Text.isBlank ')' = false := by decide
    simp [Text.trimRight, Text.trimLeft, blank]
  simp only [enumParts?, create, kind, shown, qualified?_bare bare, space, as, enum, opened, closed,
    Option.bind_eq_bind, Option.bind_some, List.reverse_append, List.reverse_cons,
    List.reverse_nil, List.nil_append, List.cons_append, List.reverse_reverse]

theorem enumParts?_generated (d : Dialect) {name : String} (bare : IsBareName name.toList)
    (values : List String) :
    enumParts? ((Statement.createEnum name values).text d).toList =
      some (name.toList, (valueList values).toList) := by
  rw [createEnum_toList, enumParts?_written bare]

theorem createEnum?_generated (d : Dialect) {name : String} (bare : IsBareName name.toList)
    (values : List String) :
    createEnum? ((Statement.createEnum name values).text d).toList =
      some (name.toList, values) := by
  simp only [createEnum?_eq, enumParts?_generated d bare, Option.map_some, lastName_bare bare,
    literals_valueList]

/-- Whatever the values are, a declaration has the parts of one, its name is the name of the type,
and the literals in its list are the values; so it is read as what was declared. -/
theorem enumDeclaration_restored (d : Dialect) {name : String} (bare : IsBareName name.toList)
    (values : List String) :
    (∃ declared listed, enumParts? ((Statement.createEnum name values).text d).toList =
        some (declared, listed) ∧ lastName declared = name.toList ∧ literals listed = values) ∧
      createEnum? ((Statement.createEnum name values).text d).toList =
        some (name.toList, values) := by
  constructor
  · refine ⟨name.toList, (valueList values).toList, enumParts?_generated d bare values, ?_, ?_⟩
    · exact lastName_bare bare
    · exact literals_valueList values
  · exact createEnum?_generated d bare values

def awkwardValues : List String := ["", "'", "it''s", "a', 'b", ");\n(", "''''"]

theorem awkwardValues_restored :
    IsBareName "_größe2".toList ∧
      (Statement.createEnum "_größe2" awkwardValues).text .postgresql =
        "CREATE TYPE _größe2 AS ENUM ('', '''', 'it''''s', 'a'', ''b', ');\n(', '''''''''')" ∧
      createEnum? ((Statement.createEnum "_größe2" awkwardValues).text .postgresql).toList =
        some ("_größe2".toList, awkwardValues) := by
  have bare : IsBareName "_größe2".toList := by decide +kernel
  refine ⟨bare, by decide +kernel, ?_⟩
  exact (enumDeclaration_restored .postgresql bare awkwardValues).2

theorem createTable?_createEnum (d : Dialect) (name : String) (values : List String) :
    createTable? ((Statement.createEnum name values).text d).toList = none := by
  rw [createEnum_toList]
  rfl

theorem typeShape_word {first : Char} {rest : List Char} (low : LowWord w first rest) :
    TypeShape w first rest [] := by
  obtain ⟨rfl, alpha, chars⟩ := low
  have start : isNameStart first = true := by rw [isNameStart, alpha, Bool.or_true]
  obtain ⟨starts, visible, -⟩ := nameStart_facts start
  refine ⟨by simp, starts, visible, fun c member => ?_, .inl rfl⟩
  have own := (chars c (List.mem_cons_of_mem _ member)).1
  exact isNamePart_of_isWordChar (Text.isWordChar_of_identifierChar own)

end Header

theorem declaredValues?_written {d : Dialect} {name type : String} (h : Enclosed d name)
    {first : Char} {rest tail : List Char} (low : LowWord type.toList first rest)
    (ends : Header.Ends tail) (enums : Body.Enums) :
    Body.declaredValues? enums ('\n' :: ' ' :: ' ' :: ((quoteIdentifier d name).toList ++
      ' ' :: (type.toList ++ tail))) = enums.values? type := by
  have head := Header.columnHead?_written h (Header.typeShape_word low) ends
  simp only [Body.declaredValues?, head, Option.bind_eq_bind, Option.bind_some,
    Header.lastName_bare (Header.isBareName_of_lowWord low), String.ofList_toList, low.lower]

end Sql

end RelSchema
