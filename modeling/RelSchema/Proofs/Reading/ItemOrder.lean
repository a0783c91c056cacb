import RelSchema.Proofs.Reading.ForeignKeys
import RelSchema.Proofs.Reading.Headers

namespace RelSchema.Sql

/-- No comma and no closing parenthesis of the text stands outside the quotations and parentheses
that are open before it. -/
def IsInside (s : Scan) : List Char → Prop
  | [] => True
  | c :: rest => (c = ',' ∨ c = ')' → s.isTop = false) ∧ IsInside (s.step c) rest

instance IsInside.decide (s : Scan) : (w : List Char) → Decidable (IsInside s w)
  | [] => inferInstanceAs (Decidable True)
  | c :: rest =>
    have := IsInside.decide (s.step c) rest
    inferInstanceAs (Decidable ((c = ',' ∨ c = ')' → s.isTop = false) ∧ IsInside (s.step c) rest))

/-- An item that closes what it opens, and nothing else, and that no comma divides. -/
structure IsClosedItem (item : List Char) : Prop where
  inside : IsInside {} item
  ends : Scan.run {} item = {}

instance (item : List Char) : Decidable (IsClosedItem item) :=
  decidable_of_iff (IsInside {} item ∧ Scan.run {} item = {})
    ⟨fun h => ⟨h.1, h.2⟩, fun h => ⟨h.inside, h.ends⟩⟩

theorem IsInside.undivided {s : Scan} {w : List Char} (inside : IsInside s w)
    {before after : List Char} (split : w = before ++ ',' :: after) :
    (s.run before).isTop = false := by
  subst split
  induction before generalizing s with
  | nil => exact inside.1 (.inl rfl)
  | cons c before ih => exact ih inside.2

theorem IsClosedItem.closes {item : List Char} (closed : IsClosedItem item) : Closes 0 item :=
  closes_iff.mpr closed.ends

theorem IsClosedItem.undivided {item : List Char} (closed : IsClosedItem item) :
    IsUndivided ',' item := by
  intro before after split closes
  have inside := closed.inside.undivided split
  rw [closes.run] at inside
  cases inside

theorem IsInside.bodyFrom {s : Scan} {w : List Char} (inside : IsInside s w) (rest : List Char) :
    bodyFrom s (w ++ rest) = w ++ bodyFrom (s.run w) rest := by
  induction w generalizing s with
  | nil => rfl
  | cons c w ih =>
    have within : (s.isTop && c == ')') = false := by
      by_cases close : c = ')'
      · simp [inside.1 (.inr close)]
      · simp [close]
    rw [List.cons_append, Sql.bodyFrom, within, ih inside.2]
    rfl

section Joined

variable {items : List (List Char)} (closed : ∀ item ∈ items, IsClosedItem item)

include closed

theorem splitTopLevel_join (nonempty : items ≠ []) :
    splitTopLevel ([','].intercalate items) ',' = items := by
  have decomposes : Decomposes ',' ([','].intercalate items) items := by
    refine ⟨nonempty, rfl, ?_, ?_⟩
    · intro item member
      exact (closed item (List.dropLast_subset items member)).closes
    · intro item member
      exact (closed item member).undivided
  exact (Decomposes.eq rfl decomposes).symm

theorem wrappedBody_join {after : List Char} (ends : ∀ c ∈ after.head?, c = ')') :
    wrappedBody ([','].intercalate items ++ after) = [','].intercalate items := by
  induction items with
  | nil =>
    cases after with
    | nil => rfl
    | cons c more =>
      obtain rfl := ends c rfl
      rfl
  | cons item rest ih =>
    rw [List.forall_mem_cons] at closed
    have later := ih closed.2
    cases rest with
    | nil =>
      rw [List.intercalate_singleton, wrappedBody, closed.1.inside.bodyFrom, closed.1.ends]
      exact (congrArg (item ++ ·) later).trans (List.append_nil item)
    | cons next more =>
      rw [List.intercalate_cons_cons, List.append_assoc, List.append_assoc, List.append_assoc,
        wrappedBody, closed.1.inside.bodyFrom, closed.1.ends]
      exact congrArg (item ++ ',' :: ·) later

end Joined

def Item.isColumn : Item → Bool
  | .column .. => true
  | .rules _ => false

namespace Body

/-- What an item is read as with a plain type in the place of its own. -/
def plainItem? (read : ItemReader) (item : List Char) : Option Item :=
  (Header.columnHead? item).bind fun head => read (head.name ++ " TEXT".toList ++ head.rest)

def isColumnItem (read : ItemReader) (item : List Char) : Bool :=
  !isPassedOver item && ((read item).or (plainItem? read item)).any (·.isColumn)

def isRuleItem (read : ItemReader) (item : List Char) : Bool :=
  !isPassedOver item && (read item).any (!·.isColumn)

section Parts

variable {d : Dialect} {read : ItemReader} {enums : Enums} {table : String} {item : List Char}

theorem rulesIn_of_not_rule (other : isRuleItem read item = false) : rulesIn read item = [] := by
  unfold isRuleItem at other
  unfold rulesIn
  cases passed : isPassedOver item with
  | true => rfl
  | false =>
    rw [passed] at other
    cases reads : read item with
    | none => rfl
    | some found =>
      cases found with
      | column name type rules => rfl
      | rules rules =>
        rw [reads] at other
        cases other

theorem unknownTypeColumn_none (other : (plainItem? read item).any (·.isColumn) = false) :
    unknownTypeColumn read enums item = pure none := by
  unfold plainItem? at other
  unfold unknownTypeColumn
  cases header : Header.columnHead? item with
  | none => rfl
  | some head =>
    rw [header, Option.bind_some] at other
    simp only
    split
    · rename_i reads
      rw [reads] at other
      cases other
    · rfl

theorem contribution_of_not_column (other : isColumnItem read item = false) :
    (contribution d read enums table item).result = .ok { rules := rulesIn read item } := by
  unfold isColumnItem at other
  unfold contribution rulesIn
  cases passed : isPassedOver item with
  | true => rfl
  | false =>
    rw [passed, Bool.not_false, Bool.true_and] at other
    cases reads : read item with
    | some found =>
      cases found with
      | column name type rules =>
        rw [reads] at other
        cases other
      | rules rules => rfl
    | none =>
      rw [reads, Option.none_or] at other
      simp only [unknownTypeColumn_none other]
      rfl

theorem contributions_cons_result (item : List Char) (rest : List (List Char)) :
    (contributions d read enums table (item :: rest)).result =
      (contribution d read enums table item).result.bind fun first =>
        (contributions d read enums table rest).result.map fun more =>
          { columns := first.columns ++ more.columns, rules := first.rules ++ more.rules } := by
  rw [contributions, Remarked.result_bind]
  simp only [Remarked.result_bind]
  rfl

theorem contributions_parts (items : List (List Char)) :
    (contributions d read enums table items).result =
      (contributions d read enums table (items.filter (isColumnItem read))).result.map fun found =>
        { columns := found.columns, rules := items.flatMap (rulesIn read) } := by
  induction items with
  | nil => rfl
  | cons item rest ih =>
    -- An item that is no column cannot fail, so the first failure is that of a column either way.
    rw [contributions_cons_result, ih, List.flatMap_cons]
    cases column : isColumnItem read item with
    | true =>
      rw [List.filter_cons_of_pos column, contributions_cons_result]
      cases own : (contribution d read enums table item).result with
      | error e => rfl
      | ok first =>
        rw [← contribution_rules own]
        cases (contributions d read enums table (rest.filter (isColumnItem read))).result <;> rfl
    | false =>
      have dropped : ¬ isColumnItem read item = true := by simp [column]
      rw [List.filter_cons_of_neg dropped, contribution_of_not_column column]
      cases (contributions d read enums table (rest.filter (isColumnItem read))).result <;> rfl

theorem flatMap_rulesIn_filter (items : List (List Char)) :
    (items.filter (isRuleItem read)).flatMap (rulesIn read) = items.flatMap (rulesIn read) := by
  induction items with
  | nil => rfl
  | cons item rest ih =>
    cases rule : isRuleItem read item with
    | true => rw [List.filter_cons_of_pos rule, List.flatMap_cons, List.flatMap_cons, ih]
    | false =>
      have dropped : ¬ isRuleItem read item = true := by simp [rule]
      rw [List.filter_cons_of_neg dropped, ih, List.flatMap_cons, rulesIn_of_not_rule rule,
        List.nil_append]

theorem contributions_congr_parts {items items' : List (List Char)}
    (columns : items'.filter (isColumnItem read) = items.filter (isColumnItem read))
    (rules : items'.filter (isRuleItem read) = items.filter (isRuleItem read)) :
    (contributions d read enums table items').result =
      (contributions d read enums table items).result := by
  rw [contributions_parts items', contributions_parts items, columns,
    ← flatMap_rulesIn_filter items', ← flatMap_rulesIn_filter items, rules]

theorem table_result_congr {body body' : List Char}
    (same : (contributions d read enums table (splitTopLevel body ',')).result =
      (contributions d read enums table (splitTopLevel body' ',')).result) :
    (Body.table d read enums table body).result = (Body.table d read enums table body').result := by
  rw [Body.table, Body.table, Remarked.result_bind, Remarked.result_bind, same]

end Parts

end Body

def joinedStatement (head : List Char) (items : List (List Char)) (after : List Char) : List Char :=
  head ++ '(' :: ([','].intercalate items ++ after)

open Body (ItemReader Enums isColumnItem isRuleItem)

theorem filter_joined {items : List (List Char)} (closed : ∀ item ∈ items, IsClosedItem item)
    {p : List Char → Bool} (blank : p [] = false) :
    (splitTopLevel ([','].intercalate items) ',').filter p = items.filter p := by
  by_cases none : items = []
  · subst none
    exact List.filter_cons_of_neg (by simp [blank])
  · rw [splitTopLevel_join closed none]

/-- The table of a statement stays the same when its items are put in another order, in which the
columns are in their old order and so are the rules, and when items are put in or left out that are
passed over or not read. -/
theorem tableOf?_itemOrder {d : Dialect} {read : ItemReader} {enums : Enums}
    {head after name : List Char} {items items' : List (List Char)}
    (header : Header.createTable? (joinedStatement head items after) =
      some (name, [','].intercalate items ++ after))
    (ends : ∀ c ∈ after.head?, c = ')') (closed : ∀ item ∈ items, IsClosedItem item)
    (closed' : ∀ item ∈ items', IsClosedItem item)
    (columns : items'.filter (isColumnItem read) = items.filter (isColumnItem read))
    (rules : items'.filter (isRuleItem read) = items.filter (isRuleItem read)) :
    (tableOf? d read enums (joinedStatement head items' after)).result =
      (tableOf? d read enums (joinedStatement head items after)).result := by
  have header' : Header.createTable? (joinedStatement head items' after) =
      some (name, [','].intercalate items' ++ after) :=
    Header.createTable?_with_body header _
  rw [← filter_joined closed rfl, ← filter_joined closed' rfl] at columns rules
  rw [tableOf?, tableOf?, header, header']
  simp only [wrappedBody_join closed ends, wrappedBody_join closed' ends]
  rw [Remarked.result_map, Remarked.result_map,
    Body.table_result_congr (Body.contributions_congr_parts columns rules)]

def stopItems : List (List Char) :=
  ["FOREIGN KEY (line) REFERENCES lines(id)".toList, "at GEOMETRY(4, 2) NOT NULL".toList,
    "line INT".toList, "UNIQUE (at)".toList]

def mixedStopItems : List (List Char) :=
  ["  ".toList, "at GEOMETRY(4, 2) NOT NULL".toList, "KEY k (line, at)".toList,
    "FOREIGN KEY (line) REFERENCES lines(id)".toList, "EXCLUDE USING gist (at WITH &&)".toList,
    "line INT".toList, "UNIQUE (at)".toList]

def stopReader : ItemReader :=
  readerOf
    [("FOREIGN KEY (line) REFERENCES lines(id)",
        .rules [.foreignKey ["line"] (some ⟨"lines", ["id"]⟩)]),
      ("at TEXT NOT NULL", .column "at" (some (.scalar "TEXT" [] [])) [.nullable false]),
      ("line INT", .column "line" (some (.scalar "INT" [] [])) []),
      ("UNIQUE (at)", .rules [.unique ["at"]])]

theorem stopItems_mixed :
    Header.createTable? (joinedStatement "CREATE TABLE stops ".toList stopItems ");".toList) =
        some ("stops".toList, [','].intercalate stopItems ++ ");".toList) ∧
      (∀ c ∈ ");".toList.head?, c = ')') ∧ (∀ item ∈ stopItems, IsClosedItem item) ∧
      (∀ item ∈ mixedStopItems, IsClosedItem item) ∧
      mixedStopItems.filter (isColumnItem stopReader) = stopItems.filter (isColumnItem stopReader) ∧
      mixedStopItems.filter (isRuleItem stopReader) = stopItems.filter (isRuleItem stopReader) ∧
      (tableOf? .postgresql stopReader []
          (joinedStatement "CREATE TABLE stops ".toList mixedStopItems ");".toList)).result =
        (tableOf? .postgresql stopReader []
          (joinedStatement "CREATE TABLE stops ".toList stopItems ");".toList)).result ∧
      (tableOf? .postgresql stopReader []
          (joinedStatement "CREATE TABLE stops ".toList stopItems ");".toList)).result =
        .ok (some
          { name := "stops",
            columns :=
              [{ name := "at", length := some 4, scale := some 2, nullable := false,
                 unique := true },
               { name := "line", type := .int, references := some ⟨"lines", "id"⟩ }] }) := by
  have header : Header.createTable?
      (joinedStatement "CREATE TABLE stops ".toList stopItems ");".toList) =
        some ("stops".toList, [','].intercalate stopItems ++ ");".toList) := by decide +kernel
  have ends : ∀ c ∈ ");".toList.head?, c = ')' := by
    rintro c ⟨⟩
    rfl
  have closed : ∀ item ∈ stopItems, IsClosedItem item := by decide +kernel
  have closed' : ∀ item ∈ mixedStopItems, IsClosedItem item := by decide +kernel
  have columns : mixedStopItems.filter (isColumnItem stopReader) =
      stopItems.filter (isColumnItem stopReader) := by decide +kernel
  have rules : mixedStopItems.filter (isRuleItem stopReader) =
      stopItems.filter (isRuleItem stopReader) := by decide +kernel
  exact ⟨header, ends, closed, closed', columns, rules,
    tableOf?_itemOrder header ends closed closed' columns rules, by decide +kernel⟩

end RelSchema.Sql
