import RelSchema.Proofs.Framing.TypeName
import RelSchema.Proofs.Quotes
import RelSchema.Sql.Statement

namespace RelSchema

def Column.OnlyUnique (c : Column) : Prop := ∀ k ∈ c.constraints, k.kind = .unique

instance (c : Column) : Decidable c.OnlyUnique :=
  inferInstanceAs (Decidable (∀ k ∈ c.constraints, k.kind = .unique))

theorem Column.OnlyUnique.default? {c : Column} (h : c.OnlyUnique) : c.default? = none := by
  have none : c.constraints.find? (·.kind == .default) = none := by
    rw [List.find?_eq_none]
    intro k member
    simp [h k member]
  simp [Column.default?, none]

theorem Column.OnlyUnique.checks {c : Column} (h : c.OnlyUnique) : c.checks = [] := by
  rw [Column.checks, List.filterMap_eq_nil_iff]
  intro k member
  simp [h k member]

namespace Sql

/-- Two closing brackets in a row do not stand for one inside brackets, where two quotes do. -/
def Quotable (d : Dialect) (name : String) : Prop := d = .sqlserver → ']' ∉ name.toList

instance (d : Dialect) (name : String) : Decidable (Quotable d name) :=
  inferInstanceAs (Decidable (d = .sqlserver → ']' ∉ name.toList))

theorem level_quoteIdentifier {ok : Char → Bool} {d : Dialect} {name : String}
    (h : Quotable d name) : Level ok (quoteIdentifier d name).toList := by
  rw [quoteIdentifier, String.toList_ofList, quoteChars]
  cases d with
  | sqlserver =>
    have within := h rfl
    simp only [quoteMarks, doubled_of_not_mem within]
    exact Level.quotation rfl within
  | mysql => exact Level.doubled rfl name.toList
  | postgresql => exact Level.doubled rfl name.toList
  | sqlite => exact Level.doubled rfl name.toList
  | oracle => exact Level.doubled rfl name.toList

theorem level_literal {ok : Char → Bool} (s : String) : Level ok (literal s).toList := by
  rw [literal, String.toList_ofList]
  exact Level.doubled rfl s.toList

theorem level_intercalate {ok : Char → Bool} {separator : List Char} (between : Level ok separator)
    {list : List (List Char)} (h : ∀ w ∈ list, Level ok w) :
    Level ok (separator.intercalate list) := by
  induction list with
  | nil => exact Level.nil
  | cons w rest ih =>
    rw [List.forall_mem_cons] at h
    cases rest with
    | nil =>
      rw [List.intercalate_singleton]
      exact h.1
    | cons next more =>
      rw [List.intercalate_cons_cons, List.append_assoc]
      exact h.1.append (between.append (ih h.2))

theorem level_valueList (values : List String) :
    Level (fun _ => true) (valueList values).toList := by
  rw [valueList, String.toList_intercalate]
  refine level_intercalate (Level.of_plain (by decide)) ?_
  simp only [List.mem_map, forall_exists_index, and_imp, forall_apply_eq_imp_iff₂]
  exact fun value _ => level_literal value

theorem plain_of_isDigit {c : Char} (h : c.isDigit = true) :
    (isPlain c && notComma c) = true := by
  have word : Text.isWordChar c = true := by
    rw [Text.isWordChar_eq, Text.wordRanges, Text.Ranges.contains_append, Text.asciiWord_iff]
    simp [Char.isAlphanum, h]
  rw [isPlain_of_isWordChar word, notComma_of_isWordChar word]
  rfl

theorem level_digits (n : Nat) : Level notComma n.repr.toList := by
  apply Level.of_plain
  rw [List.all_eq_true]
  intro c member
  rw [Nat.toList_repr] at member
  exact plain_of_isDigit (Nat.isDigit_of_mem_toDigits (by decide) (by decide) member)

theorem level_int (n : Int) : Level notComma (toString n).toList := by
  rw [Int.toString_eq_repr]
  cases n with
  | ofNat n => exact level_digits n
  | negSucc n =>
    have digits := level_digits (n + 1)
    have minus : (Int.negSucc n).repr.toList = '-' :: (n + 1).repr.toList := by
      simp [Int.repr]
    rw [minus]
    cases shape : (n + 1).repr.toList with
    | nil =>
      rw [Nat.toList_repr] at shape
      exact absurd shape Nat.toDigits_ne_nil
    | cons c rest =>
      rw [shape] at digits
      have isDigit : c.isDigit = true := by
        rw [Nat.toList_repr] at shape
        exact Nat.isDigit_of_mem_toDigits (by decide) (by decide) (shape ▸ List.mem_cons_self)
      refine Level.minus ?_ digits
      rintro rfl
      exact absurd isDigit (by decide)

theorem level_call (name arguments : List Char) (plain : Level notComma name)
    (within : Level (fun _ => true) arguments) :
    Level notComma (name ++ '(' :: (arguments ++ [')'])) :=
  plain.append (Level.parentheses within)

theorem typeName?_cases {d : Dialect} {type : ColumnType} {name : String}
    (h : d.typeName? type = some name) :
    (name.toList.all fun c => isPlain c && notComma c) = true ∨
      name = "NVARCHAR(MAX)" ∨ name = "NUMBER(1)" := by
  cases d <;> cases type <;> cases h <;> decide

theorem level_typeName {d : Dialect} {type : ColumnType} {name : String}
    (h : d.typeName? type = some name) : Level notComma name.toList := by
  rcases typeName?_cases h with plain | rfl | rfl
  · exact Level.of_plain plain
  · exact level_call "NVARCHAR".toList "MAX".toList (Level.of_plain (by decide))
      (Level.of_plain (by decide))
  · exact level_call "NUMBER".toList "1".toList (Level.of_plain (by decide))
      (Level.of_plain (by decide))

theorem level_stringType (d : Dialect) : Level notComma d.stringType.toList := by
  have length : Level (fun _ => true) "255".toList := Level.of_plain (by decide)
  cases d with
  | mysql => exact level_call "VARCHAR".toList _ (Level.of_plain (by decide)) length
  | sqlserver => exact level_call "NVARCHAR".toList _ (Level.of_plain (by decide)) length
  | oracle => exact level_call "VARCHAR2".toList _ (Level.of_plain (by decide)) length
  | postgresql => exact Level.of_plain (by decide)
  | sqlite => exact Level.of_plain (by decide)

theorem level_decimalArguments {c : Column} {arguments : String}
    (h : decimalArguments? "," c = some arguments) :
    Level (fun _ => true) arguments.toList := by
  have free : ∀ n : Int, Level (fun _ => true) (toString n).toList :=
    fun n => (level_int n).mono fun _ _ => rfl
  unfold decimalArguments? at h
  split at h
  · cases h
  · cases h
  · rename_i precision _ _
    cases h
    cases c.scale with
    | none => exact free precision
    | some scale =>
      have comma : Level (fun _ => true) ",".toList := Level.of_plain (by decide)
      have whole := (free precision).append (comma.append (free scale))
      rw [← String.toList_append, ← String.toList_append, ← String.append_assoc] at whole
      exact whole

theorem level_called {name arguments : String} (plain : Level notComma name.toList)
    (within : Level (fun _ => true) arguments.toList) :
    Level notComma s!"{name}({arguments})".toList := by
  have whole := level_call name.toList arguments.toList plain within
  have text : s!"{name}({arguments})".toList = name.toList ++ '(' :: (arguments.toList ++ [')']) := by
    change (name ++ "(" ++ arguments ++ ")").toList = _
    simp
  rw [text]
  exact whole

theorem level_decimal {arguments : String} (within : Level (fun _ => true) arguments.toList) :
    Level notComma s!"DECIMAL({arguments})".toList := by
  have whole := level_call "DECIMAL".toList arguments.toList (Level.of_plain (by decide)) within
  have text : s!"DECIMAL({arguments})".toList =
      "DECIMAL".toList ++ '(' :: (arguments.toList ++ [')']) := by
    change ("DECIMAL(" ++ arguments ++ ")").toList = _
    simp
  rw [text]
  exact whole

theorem level_enumTypeName (table column : String) :
    Level notComma (enumTypeName table column).toList := by
  obtain ⟨front, name, spelled⟩ := enumTypeName_spelled table column
  rw [name]
  exact level_spelled (spelled ' ')

theorem level_renderScalar (d : Dialect) (table : Option String) (c : Column) :
    Level notComma (renderScalar d table c).toList := by
  unfold renderScalar
  split
  · exact level_stringType d
  · rename_i name named
    have plain := level_typeName named
    split
    · exact level_stringType d
    · split
      · have within : Level (fun _ => true) (toString (varcharLength c.length)).toList :=
          (level_int _).mono fun _ _ => rfl
        exact level_called plain within
      · split
        · exact plain
        · rename_i arguments found
          have within := level_decimalArguments found
          simp only
          split
          · exact level_decimal within
          · exact level_called plain within
      · split
        · exact level_stringType d
        · split
          · split
            · exact level_enumTypeName _ _
            · exact level_stringType d
          · exact level_called plain (level_valueList _)
      · exact plain

theorem level_renderType (d : Dialect) (table : Option String) (c : Column) :
    Level notComma (renderType d table c).toList := by
  unfold renderType
  split
  · rw [String.toList_append]
    exact (level_renderScalar _ _ _).append (Level.quotation rfl List.not_mem_nil)
  · exact level_renderScalar _ _ _

theorem level_columnDefinition {d : Dialect} {table : String} {c : Column}
    (quotable : Quotable d c.name) (plain : c.OnlyUnique) :
    Level notComma (columnDefinition d table c).toList := by
  rw [columnDefinition, String.toList_intercalate, plain.default?]
  apply level_intercalate (Level.of_plain (by decide))
  intro w member
  simp only [List.append_nil, List.map_append, List.map_cons, List.map_nil, List.mem_append,
    List.mem_cons, List.not_mem_nil, or_false] at member
  rcases member with ((rfl | rfl) | notNull) | unique
  · exact level_quoteIdentifier quotable
  · exact level_renderType _ _ _
  · split at notNull
    · rw [List.map_singleton, List.mem_singleton] at notNull
      rw [notNull]
      exact Level.of_plain (by decide)
    · cases notNull
  · split at unique
    · rw [List.map_singleton, List.mem_singleton] at unique
      rw [unique]
      exact Level.of_plain (by decide)
    · cases unique

def BodyLine.Quotable (d : Dialect) : BodyLine → Prop
  | .column c => Sql.Quotable d c.name ∧ c.OnlyUnique
  | .primaryKey names => ∀ name ∈ names, Sql.Quotable d name
  | .foreignKey name target =>
    Sql.Quotable d name ∧ Sql.Quotable d target.table ∧ Sql.Quotable d target.column
  | .check _ => False

theorem primaryKey_toList (d : Dialect) (tableName : String) (names : List String) :
    ((BodyLine.primaryKey names).text d tableName).toList = "PRIMARY KEY ".toList ++
      '(' :: ((", ".intercalate (names.map (quoteIdentifier d))).toList ++ [')']) := by
  change ("PRIMARY KEY (" ++ ", ".intercalate (names.map (quoteIdentifier d)) ++ ")").toList = _
  simp

theorem foreignKey_toList (d : Dialect) (tableName name : String) (target : Reference) :
    ((BodyLine.foreignKey name target).text d tableName).toList =
      "FOREIGN KEY ".toList ++ '(' :: ((quoteIdentifier d name).toList ++ [')']) ++
        (" REFERENCES ".toList ++ ((quoteIdentifier d target.table).toList ++
          '(' :: ((quoteIdentifier d target.column).toList ++ [')']))) := by
  change ("FOREIGN KEY (" ++ quoteIdentifier d name ++ ") REFERENCES " ++
    (quoteIdentifier d target.table ++ "(" ++ quoteIdentifier d target.column ++ ")")).toList = _
  simp

theorem level_line {d : Dialect} {tableName : String} {line : BodyLine} (h : line.Quotable d) :
    Level notComma (line.text d tableName).toList := by
  cases line with
  | column c => exact level_columnDefinition h.1 h.2
  | primaryKey names =>
    have within : Level (fun _ => true) (", ".intercalate (names.map (quoteIdentifier d))).toList := by
      rw [String.toList_intercalate]
      apply level_intercalate (Level.of_plain (by decide))
      simp only [List.mem_map, forall_exists_index, and_imp, forall_apply_eq_imp_iff₂]
      exact fun name member => level_quoteIdentifier (h name member)
    rw [primaryKey_toList]
    exact level_call "PRIMARY KEY ".toList _ (Level.of_plain (by decide)) within
  | foreignKey name target =>
    obtain ⟨own, table, referenced⟩ := h
    have first := level_call "FOREIGN KEY ".toList _ (Level.of_plain (by decide))
      (level_quoteIdentifier own)
    have second := level_call (quoteIdentifier d target.table).toList _
      (level_quoteIdentifier table) (level_quoteIdentifier referenced)
    have between : Level notComma " REFERENCES ".toList := Level.of_plain (by decide)
    have whole := first.append (between.append second)
    rw [foreignKey_toList]
    exact whole
  | check expression => exact h.elim

def bodyPieces : List (List Char) → List (List Char)
  | [] => [['\n', '\n']]
  | [line] => ['\n' :: ' ' :: ' ' :: (line ++ ['\n'])]
  | line :: rest => ('\n' :: ' ' :: ' ' :: line) :: bodyPieces rest

theorem bodyPieces_ne_nil (lines : List (List Char)) : bodyPieces lines ≠ [] := by
  cases lines with
  | nil => simp [bodyPieces]
  | cons line rest => cases rest <;> simp [bodyPieces]

theorem intercalate_bodyPieces (lines : List (List Char)) :
    [','].intercalate (bodyPieces lines) =
      '\n' :: ([',', '\n'].intercalate (lines.map fun line => ' ' :: ' ' :: line) ++ ['\n']) := by
  induction lines with
  | nil => rfl
  | cons line rest ih =>
    cases rest with
    | nil => simp [bodyPieces, List.intercalate_singleton]
    | cons next more =>
      have shape := bodyPieces_ne_nil (next :: more)
      rw [bodyPieces, List.intercalate_cons_of_ne_nil shape, ih]
      · simp [List.intercalate_cons_cons]
      · simp

theorem level_bodyPieces {lines : List (List Char)} (h : ∀ line ∈ lines, Level notComma line) :
    ∀ piece ∈ bodyPieces lines, Level notComma piece := by
  have start : Level notComma ['\n', ' ', ' '] := Level.of_plain (by decide)
  have finish : Level notComma ['\n'] := Level.of_plain (by decide)
  induction lines with
  | nil =>
    intro piece member
    rw [List.mem_singleton.mp member]
    exact Level.of_plain (by decide)
  | cons line rest ih =>
    rw [List.forall_mem_cons] at h
    have first := start.append h.1
    cases rest with
    | nil =>
      intro piece member
      rw [List.mem_singleton.mp member]
      exact first.append finish
    | cons next more =>
      rw [bodyPieces, List.forall_mem_cons]
      · exact ⟨first, ih h.2⟩
      · simp

end Sql

end RelSchema
