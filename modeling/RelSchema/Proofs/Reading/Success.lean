import RelSchema.Proofs.Numerals
import RelSchema.Proofs.Reading.Outcome

namespace RelSchema

theorem exists_mapM_ok {ε α β : Type} {f : α → Except ε β} {list : List α} :
    (∃ results, list.mapM f = .ok results) ↔ ∀ a ∈ list, ∃ b, f a = .ok b := by
  induction list with
  | nil => simp [pure, Except.pure]
  | cons a rest ih =>
    rw [List.forall_mem_cons, ← ih, List.mapM_cons]
    cases f a with
    | error e => simp [bind, Except.bind]
    | ok b => cases rest.mapM f <;> simp [bind, Except.bind, pure, Except.pure]

namespace Remarked

variable {ε α β : Type}

def Succeeds (r : Remarked ε α) : Prop := ∃ a, r.result = .ok a

@[simp] theorem succeeds_pure (a : α) : (pure a : Remarked ε α).Succeeds := ⟨a, rfl⟩

theorem succeeds_bind {r : Remarked ε α} {f : α → Remarked ε β} :
    (r >>= f).Succeeds ↔ ∃ a, r.result = .ok a ∧ (f a).Succeeds := by
  simp only [Succeeds, result_bind_ok]
  constructor
  · rintro ⟨b, a, first, second⟩
    exact ⟨a, first, b, second⟩
  · rintro ⟨a, first, b, second⟩
    exact ⟨b, a, first, second⟩

theorem succeeds_note_bind {n : Notice} {f : Unit → Remarked ε β} :
    ((note n : Remarked ε Unit) >>= f).Succeeds ↔ (f ()).Succeeds := by
  rw [succeeds_bind]
  exact ⟨fun ⟨_, _, h⟩ => h, fun h => ⟨(), rfl, h⟩⟩

theorem succeeds_bind_of_all {r : Remarked ε α} {f : α → Remarked ε β}
    (all : ∀ a, (f a).Succeeds) : (r >>= f).Succeeds ↔ r.Succeeds := by
  rw [succeeds_bind]
  exact exists_congr fun a => and_iff_left (all a)

end Remarked

namespace Sql

open Body (ItemReader Enums)

namespace TypeSpec

/-- The arguments of a type that look like numbers are numbers, or its length is the greatest. -/
def IsSized (name : String) (arguments : List String) : Prop :=
  isUnbounded ((columnType? name).getD .varchar) arguments = true ∨
    ∀ a ∈ arguments, Text.isDigits a = true → Text.IsNumeral a

def declaredParts (name : String) : String × List String :=
  let (kind, inside) := cutAt '(' name.toList
  (Text.upper (String.ofList (Text.trimChars kind)), argumentsIn inside)

def IsMeaningful : TypeSpec → Prop
  | scalar name arguments _ => IsSized name arguments
  | declared name arguments _ =>
    IsSized (declaredParts name).1 ((declaredParts name).2 ++ arguments)
  | array none => True
  | array (some element) => element.IsMeaningful
  | catalog _ => False

theorem numbers_ok_iff {arguments : List String} :
    (∃ found, numbers arguments = .ok found) ↔
      ∀ a ∈ arguments, Text.isDigits a = true → Text.IsNumeral a := by
  unfold numbers
  rw [exists_mapM_ok]
  simp only [List.mem_filter, and_imp]
  refine forall₃_congr fun a _ digits => ?_
  have some : a.isEmpty = false := by
    simp only [Text.isDigits, Bool.and_eq_true, Bool.not_eq_true'] at digits
    exact digits.1
  rw [← Text.number_ok_iff some]
  cases Text.number a <;> simp [Except.map, Except.mapError]

theorem sized_succeeds_iff {name : String} {arguments : List String} :
    (sized name arguments).Succeeds ↔ IsSized name arguments := by
  have as (type : ColumnType) : (∃ s, sizedAs type arguments = .ok s) ↔
      isUnbounded type arguments = true ∨
        ∀ a ∈ arguments, Text.isDigits a = true → Text.IsNumeral a := by
    rw [← numbers_ok_iff]
    unfold sizedAs
    split
    · simp_all
    · cases numbers arguments <;> simp_all [bind, Except.bind, pure, Except.pure]
  unfold sized IsSized
  cases columnType? name with
  | some type => exact as type
  | none => exact as .varchar

theorem meaning_succeeds_iff (type : TypeSpec) :
    type.meaning.Succeeds ↔ type.IsMeaningful := by
  induction type using meaning.induct with
  | case1 name arguments values =>
    rw [meaning, Remarked.succeeds_bind_of_all fun _ => Remarked.succeeds_pure _]
    exact sized_succeeds_iff
  | case2 name arguments values =>
    rw [meaning]
    simp only
    rw [Remarked.succeeds_bind_of_all fun _ => Remarked.succeeds_pure _]
    exact sized_succeeds_iff
  | case3 => simp [meaning, IsMeaningful]
  | case4 element ih =>
    rw [meaning, Remarked.succeeds_bind_of_all fun _ => Remarked.succeeds_pure _]
    exact ih
  | case5 name =>
    simp only [meaning, IsMeaningful, iff_false]
    rintro ⟨_, error⟩
    cases error

end TypeSpec

namespace Body

def AreComplete (rules : List Rule) : Prop := ∀ r ∈ rules, r ≠ .nameOnly ∧ r ≠ .incomplete

/-- A column that can be made: declared values stand for a type, and a type must mean something. -/
def IsColumn (type : Option TypeSpec) (rules : List Rule) (declared : Option (List String)) :
    Prop :=
  (declared = none → ∀ t, type = some t → t.IsMeaningful) ∧ AreComplete rules

def withPlainType (head : Header.ColumnHead) : List Char :=
  head.name ++ " TEXT".toList ++ head.rest

/-- A column whose type the reader does not know: its other rules can be carried out, and its type
has a size, unless it is declared or an array. -/
def IsUnknownColumn (read : ItemReader) (enums : Enums) (item : List Char) : Prop :=
  match Header.columnHead? item with
  | none => True
  | some head =>
    match read (withPlainType head) with
    | some (.column _ type rules) =>
      IsColumn type rules none ∧
        (declaredValues? enums item = none → endsInBracket head.type = false →
          TypeSpec.IsSized (bareTypeName head.type)
            (TypeSpec.argumentsIn (TypeSpec.cutAt '(' head.type).2))
    | _ => True

def IsReadable (read : ItemReader) (enums : Enums) (item : List Char) : Prop :=
  isPassedOver item = false →
    match read item with
    | some (.column _ type rules) => IsColumn type rules (declaredValues? enums item)
    | some (.rules rules) => .incomplete ∉ rules
    | none => IsUnknownColumn read enums item

theorem underRule_ok_iff (c : Column) (r : Rule) :
    (∃ c', underRule c r = .ok c') ↔ r ≠ .nameOnly ∧ r ≠ .incomplete := by
  cases r with
  | primaryKey columns => cases columns <;> simp [underRule]
  | _ => simp [underRule]

theorem underRules_ok_iff {c : Column} {rules : List Rule} :
    (∃ c', underRules c rules = .ok c') ↔ AreComplete rules := by
  have folded : (∃ c', rules.foldlM underRule c = .ok c') ↔ AreComplete rules := by
    induction rules generalizing c with
    | nil => simp [AreComplete, pure, Except.pure]
    | cons r rest ih =>
      rw [AreComplete, List.forall_mem_cons, ← underRule_ok_iff c r, List.foldlM_cons]
      cases underRule c r with
      | error e => simp [bind, Except.bind]
      | ok next => simpa [bind, Except.bind, AreComplete] using ih
  rw [← folded]
  unfold underRules
  cases rules.foldlM underRule c <;> simp [Except.map]

theorem applyTo_succeeds_iff {c : Column} {type : TypeSpec} :
    (type.applyTo c).Succeeds ↔ type.IsMeaningful := by
  unfold TypeSpec.applyTo
  rw [Remarked.succeeds_bind_of_all fun _ => Remarked.succeeds_pure _]
  exact type.meaning_succeeds_iff

theorem column_succeeds_iff (name : String) (type : Option TypeSpec) (rules : List Rule)
    (declared : Option (List String)) :
    (column name type rules declared).Succeeds ↔ IsColumn type rules declared := by
  have after (typed : Outcome Column) :
      (typed >>= fun c => (⟨[], underRules c rules⟩ : Outcome Column)).Succeeds ↔
        typed.Succeeds ∧ AreComplete rules := by
    rw [Remarked.succeeds_bind]
    simp only [Remarked.Succeeds, underRules_ok_iff, exists_and_right]
  unfold column IsColumn
  cases declared with
  | some values => simp [after]
  | none =>
    cases type with
    | some type => simp [after, applyTo_succeeds_iff]
    | none => simp [after]

theorem unknownTypeColumn_succeeds_iff {read : ItemReader} {enums : Enums} {item : List Char} :
    (unknownTypeColumn read enums item).Succeeds ↔ IsUnknownColumn read enums item := by
  unfold unknownTypeColumn IsUnknownColumn
  cases Header.columnHead? item with
  | none => simp
  | some head =>
    simp only
    rw [show head.name ++ " TEXT".toList ++ head.rest = withPlainType head from rfl]
    cases read (withPlainType head) with
    | none => simp
    | some other =>
      cases other with
      | rules rules => simp
      | column name type rules =>
        simp only
        rw [← column_succeeds_iff name]
        cases declaredValues? enums item with
        | some values =>
          rw [Remarked.succeeds_bind_of_all fun _ => Remarked.succeeds_pure _]
          simp
        | none =>
          cases endsInBracket head.type with
          | true =>
            simp only [↓reduceIte]
            rw [Remarked.succeeds_bind_of_all fun _ => Remarked.succeeds_pure _]
            simp
          | false =>
            simp only [Bool.false_eq_true, ↓reduceIte, forall_const]
            rw [Remarked.succeeds_bind, ← TypeSpec.sized_succeeds_iff]
            simp only [Remarked.succeeds_bind_of_all fun _ => Remarked.succeeds_pure _,
              exists_and_right]
            rfl

def Contributes (found : Outcome Contribution) : Prop :=
  ∃ c, found.result = .ok c ∧ .incomplete ∉ c.rules

theorem contributes_column {made : Outcome Column} {f : Column → Column} :
    Contributes (made >>= fun c => pure { columns := [f c] }) ↔ made.Succeeds := by
  unfold Contributes Remarked.Succeeds
  constructor
  · rintro ⟨_, found, -⟩
    obtain ⟨c, first, -⟩ := Remarked.result_bind_ok.mp found
    exact ⟨c, first⟩
  · rintro ⟨c, first⟩
    exact ⟨{ columns := [f c] }, Remarked.result_bind_ok.mpr ⟨c, first, rfl⟩, by simp⟩

theorem contribution_iff (d : Dialect) (read : ItemReader) (enums : Enums) (table : String)
    (item : List Char) :
    Contributes (contribution d read enums table item) ↔ IsReadable read enums item := by
  unfold contribution IsReadable
  cases isPassedOver item with
  | true => simp [Contributes]
  | false =>
    simp only [Bool.false_eq_true, ↓reduceIte, forall_const]
    cases read item with
    | some made =>
      cases made with
      | rules rules => simp [Contributes]
      | column name type rules => exact contributes_column.trans (column_succeeds_iff name ..)
    | none =>
      simp only
      rw [← unknownTypeColumn_succeeds_iff]
      constructor
      · rintro ⟨_, found, -⟩
        obtain ⟨unknown, first, -⟩ := Remarked.result_bind_ok.mp found
        exact ⟨unknown, first⟩
      · rintro ⟨unknown, first⟩
        cases unknown with
        | some c => exact ⟨_, Remarked.result_bind_ok.mpr ⟨_, first, rfl⟩, by simp⟩
        | none => exact ⟨{}, Remarked.result_bind_ok.mpr ⟨_, first, rfl⟩, by simp⟩

theorem contributions_iff (d : Dialect) (read : ItemReader) (enums : Enums) (table : String)
    (items : List (List Char)) :
    Contributes (contributions d read enums table items) ↔
      ∀ item ∈ items, IsReadable read enums item := by
  induction items with
  | nil => simp [contributions, Contributes]
  | cons item rest ih =>
    rw [List.forall_mem_cons, ← ih, ← contribution_iff d read enums table item, contributions]
    constructor
    · rintro ⟨_, found, complete⟩
      obtain ⟨first, hfirst, tail⟩ := Remarked.result_bind_ok.mp found
      obtain ⟨more, hmore, last⟩ := Remarked.result_bind_ok.mp tail
      cases last
      rw [List.mem_append, not_or] at complete
      exact ⟨⟨first, hfirst, complete.1⟩, more, hmore, complete.2⟩
    · rintro ⟨⟨first, hfirst, complete⟩, more, hmore, laterComplete⟩
      refine ⟨_, Remarked.result_bind_ok.mpr ⟨first, hfirst,
        Remarked.result_bind_ok.mpr ⟨more, hmore, rfl⟩⟩, ?_⟩
      rw [List.mem_append, not_or]
      exact ⟨complete, laterComplete⟩

theorem table_succeeds_iff (d : Dialect) (read : ItemReader) (enums : Enums) (name : String)
    (body : List Char) :
    (table d read enums name body).Succeeds ↔
      ∀ item ∈ splitTopLevel body ',', IsReadable read enums item := by
  rw [← contributions_iff d read enums name]
  unfold table Contributes
  rw [Remarked.succeeds_bind]
  refine exists_congr fun c => and_congr_right fun _ => ?_
  have complete : (c.rules.any (·.isIncomplete)) = true ↔ .incomplete ∈ c.rules := by
    simp [Rule.isIncomplete]
  unfold Remarked.Succeeds
  rw [← complete]
  cases c.rules.any (·.isIncomplete) <;> simp

end Body

theorem tableOf?_succeeds_iff (d : Dialect) (read : ItemReader) (enums : Enums)
    (statement : List Char) :
    (tableOf? d read enums statement).Succeeds ↔
      ∀ definition ∈ createdTables [statement], ∀ item ∈ splitTopLevel definition.2 ',',
        Body.IsReadable read enums item := by
  unfold tableOf? createdTables
  cases header : Header.createTable? statement with
  | none => simp [Remarked.succeeds_note_bind, header]
  | some found =>
    obtain ⟨name, rest⟩ := found
    simp only [List.filterMap_cons, header, Option.map_some, List.filterMap_nil,
      List.mem_singleton, forall_eq]
    rw [← Body.table_succeeds_iff d read enums (String.ofList name)]
    unfold Remarked.Succeeds
    rw [Remarked.result_map]
    cases (Body.table d read enums (String.ofList name) (wrappedBody rest)).result <;>
      simp [Functor.map, Except.map]

theorem createdTables_cons (statement : List Char) (rest : List (List Char)) :
    createdTables (statement :: rest) = createdTables [statement] ++ createdTables rest := by
  unfold createdTables
  rw [← List.filterMap_append, List.singleton_append]

theorem addTables_succeeds_iff (d : Dialect) (read : ItemReader) (enums : Enums)
    (tables : List Table) (statements : List (List Char)) :
    (addTables d read enums tables statements).Succeeds ↔
      ∀ definition ∈ createdTables statements, ∀ item ∈ splitTopLevel definition.2 ',',
        Body.IsReadable read enums item := by
  induction statements generalizing tables with
  | nil => simp [addTables, createdTables]
  | cons statement rest ih =>
    rw [createdTables_cons, List.forall_mem_append, ← tableOf?_succeeds_iff d, addTables,
      Remarked.succeeds_bind]
    refine Iff.trans (exists_congr fun made => and_congr_right fun _ => ?_) exists_and_right
    cases made with
    | none => exact ih _
    | some t =>
      simp only
      split
      · exact Remarked.succeeds_note_bind.trans (ih _)
      · exact ih _

theorem succeeds_readWith {d : Dialect} {read : ItemReader} {script : String} :
    (readWith d read script).Succeeds ↔
      (addTables d read (declaredEnums (Script.statementChars script.toList)) []
        (Script.statementChars script.toList)).Succeeds :=
  Remarked.succeeds_bind_of_all fun _ => Remarked.succeeds_note_bind.mpr (Remarked.succeeds_pure _)

/-- A script is read as a schema exactly when all items of its tables can be read. -/
theorem readWith_succeeds_iff (d : Dialect) (read : ItemReader) (script : String) :
    (∃ s, (readWith d read script).result = .ok s) ↔
      ∀ definition ∈ createdTables (Script.statementChars script.toList),
        ∀ item ∈ splitTopLevel definition.2 ',',
          Body.IsReadable read (declaredEnums (Script.statementChars script.toList)) item := by
  rw [← addTables_succeeds_iff d read _ []]
  exact Remarked.succeeds_bind_of_all fun tables =>
    Remarked.succeeds_note_bind.mpr (Remarked.succeeds_pure _)

def superscriptReader : ItemReader :=
  readerOf [("a VARCHAR(²)", .column "a" (some (.scalar "VARCHAR" ["²"] [])) [])]

/-- A superscript looks like a number and is none. -/
theorem superscriptLength_unread :
    (readWith .mysql superscriptReader "CREATE TABLE t (a VARCHAR(²))").result =
      .error (.number (.notANumber "²")) := by
  decide +kernel

end Sql

end RelSchema
