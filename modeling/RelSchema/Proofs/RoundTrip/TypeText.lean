import RelSchema.Proofs.Reading.Columns
import RelSchema.Proofs.RoundTrip.Types
import RelSchema.Sql.Statement

namespace RelSchema.Sql

namespace Header

structure Ends (tail : List Char) : Prop where
  word : tail.dropWhile isNamePart = tail
  typeWord : skipTypeWord tail = tail
  arguments : skipArguments tail = tail
  brackets : ∀ fuel, skipBrackets fuel tail = tail

structure TypeShape (text : List Char) (first : Char) (word arguments : List Char) : Prop where
  whole : text = first :: (word ++ arguments)
  starts : isFoldedNameStart first = true
  visible : Text.isBlank first = false
  letters : ∀ c ∈ word, isNamePart c = true
  enclosed : arguments = [] ∨ ∃ inside, arguments = '(' :: (inside ++ [')']) ∧ ')' ∉ inside

theorem dropWhile_word {word arguments tail : List Char} (letters : ∀ c ∈ word, isNamePart c = true)
    (enclosed : arguments = [] ∨ ∃ inside, arguments = '(' :: (inside ++ [')']) ∧ ')' ∉ inside)
    (ends : Ends tail) : (word ++ (arguments ++ tail)).dropWhile isNamePart = arguments ++ tail := by
  rw [List.dropWhile_append_of_pos letters]
  rcases enclosed with rfl | ⟨inside, rfl, -⟩
  · exact ends.word
  · have parenthesis : isNamePart '(' = false := by decide
    simp [parenthesis]

theorem skipArguments_enclosed {arguments tail : List Char}
    (enclosed : arguments = [] ∨ ∃ inside, arguments = '(' :: (inside ++ [')']) ∧ ')' ∉ inside)
    (ends : Ends tail) : skipArguments (skipTypeWord (arguments ++ tail)) = tail := by
  rcases enclosed with rfl | ⟨inside, rfl, free⟩
  · rw [List.nil_append, ends.typeWord, ends.arguments]
  · have typeWord : skipTypeWord ('(' :: (inside ++ ')' :: tail)) = '(' :: (inside ++ ')' :: tail) :=
      rfl
    have all : ∀ c ∈ inside, (c != ')') = true := by
      intro c member
      simp only [bne_iff_ne]
      rintro rfl
      exact free member
    have blank : Text.isBlank '(' = false := by decide
    rw [List.cons_append, List.append_assoc, List.singleton_append, typeWord, skipArguments,
      skipBlank_cons blank]
    simp [List.dropWhile_append_of_pos all]

theorem skipBlank_indented {d : Dialect} {name : String} (h : Enclosed d name) (rest : List Char) :
    skipBlank ('\n' :: ' ' :: ' ' :: ((quoteIdentifier d name).toList ++ rest)) =
      (quoteIdentifier d name).toList ++ rest := by
  have lineBreak : Text.isBlank '\n' = true := by decide
  have blank : Text.isBlank ' ' = true := by decide
  rw [quoteIdentifier_toList h]
  simp [skipBlank, lineBreak, blank, isBlank_opening]

theorem columnHead?_written {d : Dialect} {name : String} (h : Enclosed d name)
    {text : List Char} {first : Char} {word arguments tail : List Char}
    (shape : TypeShape text first word arguments) (ends : Ends tail) :
    columnHead? ('\n' :: ' ' :: ' ' :: ((quoteIdentifier d name).toList ++ ' ' :: (text ++ tail))) =
      some { name := (quoteIdentifier d name).toList, type := text, rest := tail } := by
  obtain ⟨rfl, starts, visible, letters, enclosed⟩ := shape
  have blank : blank? (' ' :: first :: (word ++ (arguments ++ tail))) =
      some (first :: (word ++ (arguments ++ tail))) := by
    have space : Text.isBlank ' ' = true := by decide
    simp [blank?, space, skipBlank_cons visible]
  have cut : taken (first :: (word ++ (arguments ++ tail))) tail = first :: (word ++ arguments) := by
    have length : (first :: (word ++ (arguments ++ tail))).length - tail.length =
        (first :: (word ++ arguments)).length := by
      simp only [List.length_cons, List.length_append]
      omega
    have whole : first :: (word ++ (arguments ++ tail)) = first :: (word ++ arguments) ++ tail := by
      simp
    rw [taken, length, whole, List.take_left]
  unfold columnHead?
  rw [List.cons_append, List.append_assoc, skipBlank_indented h, name?_quoted h]
  simp only [Option.bind_eq_bind, Option.bind_some, blank, starts, ↓reduceIte,
    dropWhile_word letters enclosed ends, skipArguments_enclosed enclosed ends, ends.brackets, cut]

end Header

def flags (c : Column) : List Char :=
  (if c.nullable then [] else " NOT NULL".toList) ++ (if c.unique then " UNIQUE".toList else [])

theorem columnDefinition_toList {d : Dialect} {table : String} {c : Column} (key : c.KeyNotNull)
    (plain : c.constraints = []) :
    (columnDefinition d table c).toList = (quoteIdentifier d c.name).toList ++
      ' ' :: ((renderType d (some table) c).toList ++ flags c) := by
  have notNull : (!c.nullable || c.primaryKey) = !c.nullable := by
    cases nullable : c.nullable with
    | false => rfl
    | true =>
      cases isKey : c.primaryKey with
      | false => rfl
      | true =>
        have contra := key isKey
        rw [nullable] at contra
        cases contra
  have unique : isDeclaredUnique c = c.unique := by
    simp [isDeclaredUnique, plain]
  have default : c.default? = none := by
    simp [Column.default?, plain]
  rw [columnDefinition, notNull, unique, default, flags]
  cases c.nullable <;> cases c.unique <;> simp

theorem ends_flags (c : Column) {after : List Char} (h : after = [] ∨ after = ['\n']) :
    Header.Ends (flags c ++ after) := by
  unfold flags
  cases c.nullable <;> cases c.unique <;> rcases h with rfl | rfl <;>
    exact ⟨by decide, by decide, by decide, fun fuel => by cases fuel <;> rfl⟩

theorem toString_chars {n : Int} (natural : 0 ≤ n) : ∀ c ∈ (toString n).toList, c.isDigit = true := by
  obtain ⟨m, rfl⟩ := Int.eq_ofNat_of_zero_le natural
  exact Text.repr_isDigit m

theorem decimalArguments?_chars {c : Column} {arguments : String}
    (h : decimalArguments? "," c = some arguments) (length : ∀ n, c.length = some n → 0 ≤ n)
    (scale : ∀ n, c.scale = some n → 0 ≤ n) :
    ∀ ch ∈ arguments.toList, ch.isDigit = true ∨ ch = ',' := by
  unfold decimalArguments? at h
  split at h
  · cases h
  · cases h
  · rename_i precision _ found
    cases h
    have precise := toString_chars (length precision found)
    cases whole : c.scale with
    | none =>
      intro ch member
      exact .inl (precise ch member)
    | some digits =>
      have scaled := toString_chars (scale digits whole)
      intro ch member
      have parts : ch ∈ (toString precision ++ "," ++ toString digits).toList := member
      simp only [String.toList_append, List.mem_append] at parts
      rcases parts with (left | comma) | right
      · exact .inl (precise ch left)
      · exact .inr (by simpa using comma)
      · exact .inl (scaled ch right)

theorem renderType_decimal (d : Dialect) (table : Option String) {c : Column}
    (type : c.type = .decimal) :
    (∃ base, (base = "DECIMAL" ∨ base = "NUMBER") ∧
      (decimalArguments? "," c = none ∧ renderType d table c = base ∨
        ∃ arguments, decimalArguments? "," c = some arguments ∧
          renderType d table c = base ++ "(" ++ arguments ++ ")")) ∧
      d.typeName? .boolean ≠ some (renderType d table c) := by
  have scalar : renderType d table c = renderScalar d table c := by
    simp [renderType, type]
  obtain ⟨name, named, base⟩ : ∃ name, d.typeName? .decimal = some name ∧
      (name = "DECIMAL" ∨ name = "NUMBER") := by
    cases d <;> exact ⟨_, rfl, by decide⟩
  have supported : d.supports .decimal = true := by
    cases d <;> rfl
  rw [scalar]
  unfold renderScalar
  simp only [type, named, supported, Bool.not_true, Bool.false_eq_true, ↓reduceIte]
  cases found : decimalArguments? "," c with
  | none =>
    refine ⟨⟨name, base, .inl ⟨rfl, rfl⟩⟩, ?_⟩
    rcases base with rfl | rfl <;> cases d <;> decide
  | some arguments =>
    simp only
    split
    · refine ⟨⟨"DECIMAL", .inl rfl, .inr ⟨arguments, rfl, rfl⟩⟩, ?_⟩
      intro same
      have heads := congrArg (Option.map fun text => text.toList.head?) same
      change _ = some ("DECIMAL(" ++ arguments ++ ")").toList.head? at heads
      cases d <;> simp [Dialect.typeName?, ColumnType.name] at heads
    · rename_i other
      exact ⟨⟨name, base, .inr ⟨arguments, rfl, rfl⟩⟩, other⟩

def isShouted (c : Char) : Bool := !Text.isBlank c && Text.upperChar c == [c]

theorem compact_shouted {text : List Char} (h : ∀ c ∈ text, isShouted c = true) :
    Body.compact text = String.ofList text := by
  have visible : text.filter (fun c => !Text.isBlank c) = text := by
    rw [List.filter_eq_self]
    intro c member
    have shouted := h c member
    simp only [isShouted, Bool.and_eq_true] at shouted
    exact shouted.1
  have upper : text.flatMap Text.upperChar = text := by
    clear visible
    induction text with
    | nil => rfl
    | cons c rest ih =>
      rw [List.forall_mem_cons] at h
      have first := h.1
      simp only [isShouted, Bool.and_eq_true, beq_iff_eq] at first
      rw [List.flatMap_cons, first.2, ih h.2]
      rfl
  rw [Body.compact, visible, Text.upper, String.toList_ofList, upper]

theorem isShouted_of_isDigit {c : Char} (h : c.isDigit = true) : isShouted c = true := by
  have digits : ∀ code < 58, 48 ≤ code → isShouted (Char.ofNat code) = true := by decide
  have range := Char.isDigit_iff_toNat.mp h
  have zero : '0'.toNat = 48 := rfl
  have nine : '9'.toNat = 57 := rfl
  have shouted := digits c.toNat (by omega) (by omega)
  rwa [Char.ofNat_toNat] at shouted

theorem typeShape_decimal {d : Dialect} (table : Option String) {c : Column}
    (h : Expressible d c.type c.length c.scale) (type : c.type = .decimal) :
    ∃ first word arguments,
      Header.TypeShape (renderType d table c).toList first word arguments ∧
        ∀ ch ∈ (renderType d table c).toList, isShouted ch = true := by
  obtain ⟨⟨base, names, called⟩, -⟩ := renderType_decimal d table type
  obtain ⟨first, word, text, starts, visible, letters, shouted⟩ : ∃ first word,
      base.toList = first :: word ∧ Header.isFoldedNameStart first = true ∧
        Text.isBlank first = false ∧ (∀ ch ∈ word, Header.isNamePart ch = true) ∧
        ∀ ch ∈ base.toList, isShouted ch = true := by
    rcases names with rfl | rfl
    · exact ⟨'D', "ECIMAL".toList, rfl, by decide, by decide,
        List.all_eq_true.mp (by decide), List.all_eq_true.mp (by decide)⟩
    · exact ⟨'N', "UMBER".toList, rfl, by decide, by decide,
        List.all_eq_true.mp (by decide), List.all_eq_true.mp (by decide)⟩
  rcases called with ⟨-, rendered⟩ | ⟨arguments, found, rendered⟩
  · rw [rendered]
    exact ⟨first, word, [], ⟨by simp [text], starts, visible, letters, .inl rfl⟩, shouted⟩
  · have chars := decimalArguments?_chars found h.natural.1 h.natural.2
    have parenthesis : ')' ∉ arguments.toList := by
      intro member
      rcases chars _ member with digit | comma
      · exact absurd digit (by decide)
      · cases comma
    have whole : (renderType d table c).toList =
        first :: (word ++ '(' :: (arguments.toList ++ [')'])) := by
      simp [rendered, text]
    refine ⟨first, word, '(' :: (arguments.toList ++ [')']),
      ⟨whole, starts, visible, letters, .inr ⟨_, rfl, parenthesis⟩⟩, ?_⟩
    intro ch member
    rw [whole, ← List.cons_append, ← text, List.mem_append, List.mem_cons, List.mem_append,
      List.mem_singleton] at member
    rcases member with name | opening | inside | closing
    · exact shouted ch name
    · rw [opening]; decide
    · rcases chars ch inside with digit | comma
      · exact isShouted_of_isDigit digit
      · rw [comma]; decide
    · rw [closing]; decide

theorem compact_truth (d : Dialect) :
    Body.compact ((d.typeName? .boolean).getD "").toList = (d.typeName? .boolean).getD "" := by
  have shouted : ((d.typeName? .boolean).getD "").toList.all isShouted = true := by
    cases d <;> decide
  rw [compact_shouted (List.all_eq_true.mp shouted), String.ofList_toList]

theorem withTruthSpelling_number {d : Dialect} {item : List Char} {c : Column}
    {name text rest : List Char} (type : c.type = .decimal)
    (head : Header.columnHead? item = some { name, type := text, rest }) :
    Body.withTruthSpelling d item c =
      if Body.compact text = (d.typeName? .boolean).getD "" then
        { c with type := .boolean, length := none, scale := none }
      else c := by
  simp only [Body.withTruthSpelling, type, head, compact_truth]

theorem withTruthSpelling_other {d : Dialect} {item : List Char} {c : Column}
    (type : c.type ≠ .decimal) : Body.withTruthSpelling d item c = c := by
  unfold Body.withTruthSpelling
  split
  · contradiction
  · rfl

def withFoundType (d : Dialect) (c : Column) : Column :=
  { c with
    type := (foundType d c).type, length := (foundType d c).length, scale := (foundType d c).scale }

theorem withTruthSpelling_written {d : Dialect} (table : String) {c b : Column} {rest : List Char}
    (enclosed : Enclosed d c.name) (h : Expressible d c.type c.length c.scale)
    (ends : Header.Ends rest) (type : b.type = c.type) (length : b.length = c.length)
    (scale : b.scale = c.scale) :
    Body.withTruthSpelling d ('\n' :: ' ' :: ' ' :: ((quoteIdentifier d c.name).toList ++
      ' ' :: ((renderType d (some table) c).toList ++ rest))) (withFoundType d b) = b := by
  by_cases number : c.type = .decimal
  · obtain ⟨first, word, arguments, shape, shouted⟩ :=
      typeShape_decimal (some table) h number
    have other := (renderType_decimal d (some table) number).2
    have head := Header.columnHead?_written enclosed shape ends
    have decimal : b.type = .decimal := type.trans number
    have same : withFoundType d b = b := by
      have numeric : ¬ (d = .oracle ∧ b.type = .boolean) := by simp [decimal]
      simp only [withFoundType, foundType, if_neg numeric]
    have unlike : Body.compact (renderType d (some table) c).toList ≠
        (d.typeName? .boolean).getD "" := by
      rw [compact_shouted shouted, String.ofList_toList]
      intro equal
      apply other
      rw [equal]
      cases d <;> rfl
    rw [same, withTruthSpelling_number decimal head, if_neg unlike]
  · by_cases truth : d = .oracle ∧ c.type = .boolean
    · obtain ⟨rfl, boolean⟩ := truth
      obtain ⟨bare, unscaled⟩ := h.bare_of_boolean boolean
      have rendered : renderType .oracle (some table) c = "NUMBER(1)" := by
        simp [renderType, renderScalar, boolean, Dialect.typeName?, Dialect.supports]
      have shape : Header.TypeShape "NUMBER(1)".toList 'N' "UMBER".toList "(1)".toList :=
        ⟨rfl, by decide, by decide, List.all_eq_true.mp (by decide), .inr ⟨['1'], rfl, by decide⟩⟩
      have head := Header.columnHead?_written enclosed shape ends
      have decimal : (withFoundType .oracle b).type = .decimal := by
        simp [withFoundType, foundType, type, boolean]
      have spelling : Body.compact "NUMBER(1)".toList =
          (Dialect.oracle.typeName? .boolean).getD "" := by decide
      rw [rendered, withTruthSpelling_number decimal head, if_pos spelling]
      exact (Column.mk.injEq ..).mpr
        ⟨rfl, (type.trans boolean).symm, rfl, (length.trans bare).symm,
          (scale.trans unscaled).symm, rfl, rfl, rfl, rfl, rfl, rfl, rfl⟩
    · have same : withFoundType d b = b := by
        rw [← type] at truth
        simp only [withFoundType, foundType, if_neg truth]
      rw [same, withTruthSpelling_other (by rwa [type])]

end RelSchema.Sql
