import RelSchema.Proofs.Framing.Uncut
import RelSchema.Proofs.Names
import RelSchema.Proofs.RoundTrip.Header
import RelSchema.Validation.Check

namespace RelSchema

def Table.IsFirstNamed (t : Table) (name : String) (c : Column) : Prop :=
  ∃ before after, t.columns = before ++ c :: after ∧ Text.lower c.name = Text.lower name ∧
    ∀ other ∈ before, Text.lower other.name ≠ Text.lower name

theorem Table.column?_eq_some_iff {t : Table} {name : String} {c : Column} :
    t.column? name = some c ↔ t.IsFirstNamed name c := by
  rw [column?, List.find?_eq_some_iff_append]
  simp only [sameName_iff, Bool.not_eq_eq_eq_not, Bool.not_true, ← Bool.not_eq_true]
  constructor
  · rintro ⟨same, before, after, split, others⟩
    exact ⟨before, after, split, same, others⟩
  · rintro ⟨before, after, split, same, others⟩
    exact ⟨same, before, after, split, others⟩

theorem Table.column?_isSome_iff {t : Table} {name : String} :
    (t.column? name).isSome = true ↔ ∃ c ∈ t.columns, Text.lower c.name = Text.lower name := by
  simp only [column?, List.find?_isSome, sameName_iff]

namespace Text

theorem trimChars_padded {before w after : List Char} (blank : ∀ c ∈ before, isBlank c = true)
    (blank' : ∀ c ∈ after, isBlank c = true) (trimmed : IsTrimmed w) :
    trimChars (before ++ (w ++ after)) = w := by
  have left : trimLeft (before ++ (w ++ after)) = w ++ after := by
    rw [trimLeft, List.dropWhile_append_of_pos blank]
    refine trimLeft_eq_self fun c head => trimmed.head c ?_
    rwa [List.head?_append_of_ne_nil _ trimmed.nonempty] at head
  have right : trimLeft (after.reverse ++ w.reverse) = w.reverse := by
    rw [trimLeft,
      List.dropWhile_append_of_pos fun c member => blank' c (List.mem_reverse.mp member)]
    refine trimLeft_eq_self fun c last => trimmed.last c ?_
    rwa [List.head?_reverse] at last
  rw [trimChars, left, trimRight, List.reverse_append, right, List.reverse_reverse]

end Text

namespace Validation.Check

def QuoteFree (text : String) : Prop := ∀ c ∈ text.toList, isQuote c = false

instance (text : String) : Decidable (QuoteFree text) :=
  List.decidableBAll (fun c => isQuote c = false) text.toList

/-- An argument in quotes of one kind, with white space around it. -/
inductive Quotes (argument : String) : List Char → Prop where
  | enclosed {before after : List Char} {mark : Char}
      (blank : ∀ c ∈ before, Text.isBlank c = true) (blank' : ∀ c ∈ after, Text.isBlank c = true)
      (quote : isQuote mark = true) (free : QuoteFree argument) :
      Quotes argument (before ++ (mark :: (argument.toList ++ [mark]) ++ after))

theorem isQuote_iff {mark : Char} : isQuote mark = true ↔ mark = '\'' ∨ mark = '"' := by
  simp only [isQuote, Bool.or_eq_true, beq_iff_eq]

theorem withoutQuotes_enclosed {mark : Char} (quote : isQuote mark = true) {w : List Char}
    (free : ∀ c ∈ w, isQuote c = false) : withoutQuotes (mark :: (w ++ [mark])) = w := by
  cases w with
  | nil => simp [withoutQuotes, quote]
  | cons c rest =>
    have left : (mark :: (c :: rest ++ [mark])).dropWhile isQuote = c :: rest ++ [mark] := by
      simp [quote, free c List.mem_cons_self]
    have right : (c :: rest).reverse.dropWhile isQuote = (c :: rest).reverse := by
      cases back : (c :: rest).reverse with
      | nil => rfl
      | cons last more =>
        have member : last ∈ c :: rest := List.mem_reverse.mp (back ▸ List.mem_cons_self)
        simp [free last member]
    rw [withoutQuotes, left, List.reverse_append, List.reverse_singleton, List.singleton_append,
      List.dropWhile_cons_of_pos quote, right, List.reverse_reverse]

section Quotes

variable {argument : String} {piece : List Char} (quotes : Quotes argument piece)

include quotes

theorem Quotes.trimmed : ∃ mark, isQuote mark = true ∧ QuoteFree argument ∧
    Text.trimChars piece = mark :: (argument.toList ++ [mark]) := by
  obtain ⟨blank, blank', quote, free⟩ := quotes
  rename_i before after mark
  have visible : Text.isBlank mark = false := by
    rcases isQuote_iff.mp quote with rfl | rfl <;> decide
  refine ⟨mark, quote, free, Text.trimChars_padded blank blank' ⟨List.cons_ne_nil _ _, ?_, ?_⟩⟩
  · rintro c ⟨⟩
    exact visible
  · intro c last
    rw [← List.cons_append, List.getLast?_concat] at last
    cases last
    exact visible

theorem Quotes.level : Sql.Level Sql.notComma piece := by
  obtain ⟨blank, blank', quote, free⟩ := quotes
  rename_i before after mark
  have blanks {w : List Char} (all : ∀ c ∈ w, Text.isBlank c = true) :
      Sql.Level Sql.notComma w := by
    refine .of_plain (List.all_eq_true.mpr fun c member => ?_)
    have other : c ≠ ',' := by
      rintro rfl
      cases all _ member
    simp [Sql.isPlain_of_isBlank (all c member), Sql.notComma, other]
  have closes : Sql.closing? mark = some mark := by
    rcases isQuote_iff.mp quote with rfl | rfl <;> rfl
  have inside : mark ∉ argument.toList := by
    intro member
    rw [free mark member] at quote
    cases quote
  exact (blanks blank).append ((Sql.Level.quotation closes inside).append (blanks blank'))

end Quotes

theorem arguments_quotes {list : List String} {pieces : List (List Char)}
    (quotes : List.Forall₂ Quotes list pieces) :
    arguments ([','].intercalate pieces) = list := by
  have level : ∀ piece ∈ pieces, Sql.Level Sql.notComma piece := by
    induction quotes with
    | nil => nofun
    | cons quotes _ ih => exact List.forall_mem_cons.mpr ⟨quotes.level, ih⟩
  have unquoted : ((pieces.map Text.trimChars).filter (!·.isEmpty)).map
      (fun a => String.ofList (withoutQuotes a)) = list := by
    clear level
    induction quotes with
    | nil => rfl
    | cons quotes _ ih =>
      obtain ⟨mark, quote, free, trimmed⟩ := quotes.trimmed
      rw [List.map_cons, trimmed, List.filter_cons_of_pos rfl, List.map_cons, ih,
        withoutQuotes_enclosed quote free, String.ofList_toList]
  by_cases none : pieces = []
  · subst none
    cases quotes
    rfl
  · rw [arguments, Sql.splitTopLevel_intercalate none level, unquoted]

theorem between?_parentheses (inside : List Char) :
    between? ('(' :: (inside ++ [')'])) = some inside := by
  have trimmed : Text.trimChars ('(' :: (inside ++ [')'])) = '(' :: (inside ++ [')']) := by
    refine Text.trimChars_eq_self (fun c head => ?_) fun c last => ?_
    · cases head
      decide
    · rw [← List.cons_append, List.getLast?_concat] at last
      cases last
      decide
  rw [between?, trimmed]
  simp only [List.getLast?_concat, ↓reduceIte, List.dropLast_concat]

theorem split?_call {name : List Char} (letters : ∀ c ∈ name, Text.isWordChar c = true)
    (some : name ≠ []) (inside : List Char) :
    split? (name ++ '(' :: (inside ++ [')'])) =
      .some (String.ofList name, arguments inside) := by
  have visible : (name ++ '(' :: (inside ++ [')'])).dropWhile Text.isBlank =
      name ++ '(' :: (inside ++ [')']) := by
    refine Text.trimLeft_eq_self fun c head => ?_
    rw [List.head?_append_of_ne_nil _ some] at head
    by_contra blank
    have other := Text.isWordChar_of_isBlank (Bool.of_not_eq_false blank)
    rw [letters c (List.mem_of_head? head)] at other
    cases other
  have word : (name ++ '(' :: (inside ++ [')'])).span Text.isWordChar =
      (name, '(' :: (inside ++ [')'])) := by
    refine Sql.Header.span_stops letters fun c head => ?_
    cases head
    rfl
  have named : name.isEmpty = false := by simpa using some
  simp only [split?, visible, word, named, Bool.false_eq_true, if_false, between?_parentheses,
    Option.map_some]

theorem read_quotes (name : String) {text : String} {list : List String} {pieces : List (List Char)}
    (letters : ∀ c ∈ name.toList, Text.isWordChar c = true) (some : name.toList ≠ [])
    (quotes : List.Forall₂ Quotes list pieces)
    (spelled : text.toList = name.toList ++ '(' :: ([','].intercalate pieces ++ [')'])) :
    read text = ofArguments text name list := by
  rw [read, spelled, split?_call letters some, arguments_quotes quotes, String.ofList_toList]

/-- Whatever is free of quotes can be asked for in quotes: a column by its name, and the type of the
first column with that name, case disregarded. -/
theorem evaluate_quoted (t : Table) {name type : String} (free : QuoteFree name)
    (free' : QuoteFree type) :
    (∃ passes, evaluate t ("has_column('" ++ name ++ "')") = .ok passes ∧
      (passes = true ↔ ∃ c ∈ t.columns, Text.lower c.name = Text.lower name)) ∧
    ∃ passes, evaluate t ("has_column_type('" ++ name ++ "', '" ++ type ++ "')") = .ok passes ∧
      (passes = true ↔
        ∃ c, t.IsFirstNamed name c ∧ Text.upper c.type.name = Text.upper type) := by
  have first : Quotes name ('\'' :: (name.toList ++ ['\''])) := by
    simpa using @Quotes.enclosed name [] [] '\'' nofun nofun rfl free
  have second : Quotes type (' ' :: '\'' :: (type.toList ++ ['\''])) := by
    simpa using @Quotes.enclosed type [' '] [] '\'' (List.all_eq_true.mp rfl) nofun rfl free'
  constructor
  · refine ⟨(t.column? name).isSome, ?_, Table.column?_isSome_iff⟩
    rw [evaluate, read_quotes "has_column" (List.all_eq_true.mp (by decide)) (by decide)
      (.cons first .nil) (by simp)]
    rfl
  · refine ⟨holds t (.hasColumnType name type), ?_, ?_⟩
    · rw [evaluate, read_quotes "has_column_type" (List.all_eq_true.mp (by decide)) (by decide)
        (.cons first (.cons second .nil)) (by simp)]
      rfl
    · simp only [holds, ← Table.column?_eq_some_iff]
      cases t.column? name with
      | none => simp
      | some c => simp

def bracketTable : Table :=
  { name := "t", columns := [{ name := "a" }, { name := "a, (b]\n", type := .int }] }

theorem bracketTable_found :
    QuoteFree "A, (B]\n" ∧ QuoteFree "int" ∧
      evaluate bracketTable ("has_column('" ++ "A, (B]\n" ++ "')") = .ok true ∧
      evaluate bracketTable ("has_column_type('" ++ "A, (B]\n" ++ "', '" ++ "int" ++ "')") =
        .ok true := by
  have free : QuoteFree "A, (B]\n" := by decide
  have free' : QuoteFree "int" := by decide
  obtain ⟨⟨passes, found, named⟩, passes', found', typed⟩ :=
    evaluate_quoted bracketTable free free'
  have has : passes = true :=
    named.mpr ⟨_, List.mem_cons_of_mem _ List.mem_cons_self, by decide +kernel⟩
  have fits : passes' = true :=
    typed.mpr ⟨_, ⟨[{ name := "a" }], [], rfl, by decide +kernel, by decide +kernel⟩,
      by decide +kernel⟩
  rw [has] at found
  rw [fits] at found'
  exact ⟨free, free', found, found'⟩

end Validation.Check

end RelSchema
