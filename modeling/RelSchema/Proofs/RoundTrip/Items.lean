import Mathlib.Data.List.TakeWhile
import RelSchema.Proofs.Framing.Script
import RelSchema.Proofs.RoundTrip.Rules
import RelSchema.Proofs.RoundTrip.TypeText

namespace RelSchema.Sql

open Body (ItemReader Enums Contribution contribution contributions keyRules referenceRules)

def itemRules (c : Column) : List Rule :=
  (if c.nullable then [] else [.nullable false]) ++ (if c.unique then [.unique []] else [])

/-- What a line says to a reader of items. Checks are left open. -/
def BodyLine.item? (d : Dialect) : BodyLine → Option Item
  | column c => some (.column c.name (some (itemType d c)) (itemRules c))
  | primaryKey names => some (.rules [.primaryKey (some names)])
  | foreignKey name r => some (.rules [.foreignKey [name] (some ⟨r.table, [r.column]⟩)])
  | check _ => none

def BodyLine.piece (d : Dialect) (table : String) (line : BodyLine) (isLast : Bool) : List Char :=
  '\n' :: ' ' :: ' ' :: ((line.text d table).toList ++ if isLast then ['\n'] else [])

/-- A reader of items reads the lines of a table for what they say. -/
def Understands (d : Dialect) (read : ItemReader) (t : Table) : Prop :=
  ∀ line ∈ bodyLines t, ∀ item ∈ line.item? d, ∀ isLast, read (line.piece d t.name isLast) = some item

/-- A column that comes through text unchanged, as far as text can tell of it. -/
structure Restorable (d : Dialect) (c : Column) : Prop where
  name : Enclosed d c.name
  type : Expressible d c.type c.length c.scale
  keyNotNull : c.KeyNotNull
  plain : c.constraints = []
  references : ∀ r, c.references = some r → Enclosed d r.table ∧ Enclosed d r.column

def BodyLine.Restorable (d : Dialect) : BodyLine → Prop
  | column c => Sql.Restorable d c
  | primaryKey _ | foreignKey .. => True
  | check _ => False

def BodyLine.given : BodyLine → Contribution
  | column c => { columns := [c.own] }
  | primaryKey names => { rules := [.primaryKey (some names)] }
  | foreignKey name r => { rules := [.foreignKey [name] (some ⟨r.table, [r.column]⟩)] }
  | check _ => {}

theorem declaredValues?_nil (item : List Char) : Body.declaredValues? [] item = none := by
  unfold Body.declaredValues?
  cases Header.columnHead? item <;> rfl

theorem isPassedOver_quoted (d : Dialect) (rest : List Char) :
    Body.isPassedOver ('\n' :: ' ' :: ' ' :: (quoteMarks d).opening :: rest) = false := by
  have index : Header.isIndexItem ('\n' :: ' ' :: ' ' :: (quoteMarks d).opening :: rest) = false := by
    cases d <;> rfl
  have blank := Header.isBlank_opening d
  simp [Body.isPassedOver, index, blank]

theorem isPassedOver_primaryKey (d : Dialect) (table : String) (names : List String)
    (isLast : Bool) :
    Body.isPassedOver ((BodyLine.primaryKey names).piece d table isLast) = false := by
  rw [BodyLine.piece, primaryKey_toList, List.append_assoc]
  rfl

theorem isPassedOver_foreignKey (d : Dialect) (table name : String) (r : Reference)
    (isLast : Bool) :
    Body.isPassedOver ((BodyLine.foreignKey name r).piece d table isLast) = false := by
  rw [BodyLine.piece, foreignKey_toList, List.append_assoc, List.append_assoc]
  rfl

theorem underRules_itemRules (c : Column) {b : Column} (key : b.primaryKey = false)
    (nullable : b.nullable = true) (unique : b.unique = false) :
    Body.underRules b (itemRules c) = .ok { b with nullable := c.nullable, unique := c.unique } := by
  obtain ⟨_, _, _, _, _, _, _, _, _, _, _, _⟩ := b
  simp only at key nullable unique
  subst key nullable unique
  unfold itemRules
  cases c.nullable <;> cases c.unique <;> rfl

theorem column_written {d : Dialect} {c : Column} (h : Restorable d c) :
    (Body.column c.name (some (itemType d c)) (itemRules c) none).result =
      .ok (withFoundType d c.own) := by
  have typed := TypeSpec.applyTo_itemType h.type c.name
  have ruled := underRules_itemRules c
    (b := { name := c.name, type := (foundType d c).type, length := (foundType d c).length,
            scale := (foundType d c).scale }) rfl rfl rfl
  simp only [Body.column, Remarked.result_bind, typed]
  exact ruled

theorem columnDefinition_keyed (d : Dialect) (table : String) (c : Column) :
    columnDefinition d table (Body.keyed c) = columnDefinition d table c := by
  unfold Body.keyed
  split
  · rename_i key
    simp only [columnDefinition, key, Bool.not_false, Bool.or_true]
    rfl
  · rfl

theorem columnPiece {d : Dialect} (table : String) {c : Column} (plain : c.constraints = [])
    (isLast : Bool) :
    ∃ tail, Header.Ends tail ∧ (BodyLine.column c).piece d table isLast =
      '\n' :: ' ' :: ' ' :: ((quoteIdentifier d c.name).toList ++
        ' ' :: ((renderType d (some table) c).toList ++ tail)) := by
  have ending : (if isLast then ['\n'] else []) = [] ∨
      (if isLast then ['\n'] else []) = ['\n'] := by
    cases isLast <;> simp
  have same : (Body.keyed c).name = c.name ∧ (Body.keyed c).constraints = c.constraints ∧
      renderType d (some table) (Body.keyed c) = renderType d (some table) c := by
    unfold Body.keyed
    split <;> exact ⟨rfl, rfl, rfl⟩
  have text : (columnDefinition d table (Body.keyed c)).toList = _ :=
    columnDefinition_toList (Body.keyed_keyNotNull c) (same.2.1.trans plain)
  rw [columnDefinition_keyed, same.1, same.2.2] at text
  refine ⟨_, ends_flags (Body.keyed c) ending, ?_⟩
  change '\n' :: ' ' :: ' ' :: ((columnDefinition d table c).toList ++ _) = _
  rw [text]
  simp

theorem isPassedOver_column {d : Dialect} (table : String) {c : Column} (name : Enclosed d c.name)
    (plain : c.constraints = []) (isLast : Bool) :
    Body.isPassedOver ((BodyLine.column c).piece d table isLast) = false := by
  obtain ⟨tail, -, text⟩ := columnPiece table plain isLast
  rw [text, quoteIdentifier_toList name]
  exact isPassedOver_quoted d _

theorem contribution_column {d : Dialect} {read : ItemReader} {table : String} {c : Column}
    (h : Restorable d c) (isLast : Bool)
    (reads : read ((BodyLine.column c).piece d table isLast) =
      some (.column c.name (some (itemType d c)) (itemRules c))) :
    (contribution d read [] table ((BodyLine.column c).piece d table isLast)).result =
      .ok { columns := [c.own] } := by
  have kept := isPassedOver_column table h.name h.plain isLast
  obtain ⟨tail, ends, text⟩ := columnPiece table h.plain isLast
  have spelled := withTruthSpelling_written table (b := c.own) h.name h.type ends rfl rfl rfl
  rw [← text] at spelled
  unfold contribution
  simp only [kept, Bool.false_eq_true, ↓reduceIte, reads, declaredValues?_nil,
    Remarked.result_bind, column_written h]
  change Except.ok (Contribution.mk [Body.withTruthSpelling d _ _] []) = _
  rw [spelled]

theorem contribution_rules {d : Dialect} {read : ItemReader} {enums : Enums} {table : String}
    {piece : List Char} {rules : List Rule} (kept : Body.isPassedOver piece = false)
    (reads : read piece = some (.rules rules)) :
    (contribution d read enums table piece).result = .ok { rules } := by
  unfold contribution
  simp only [kept, Bool.false_eq_true, ↓reduceIte, reads]
  rfl

theorem contribution_line {d : Dialect} {read : ItemReader} {table : String} {line : BodyLine}
    (h : line.Restorable d) (isLast : Bool)
    (reads : ∀ item ∈ line.item? d, read (line.piece d table isLast) = some item) :
    (contribution d read [] table (line.piece d table isLast)).result = .ok line.given := by
  cases line with
  | column c => exact contribution_column h isLast (reads _ rfl)
  | primaryKey names =>
    exact contribution_rules (isPassedOver_primaryKey d table names isLast) (reads _ rfl)
  | foreignKey name r =>
    exact contribution_rules (isPassedOver_foreignKey d table name r isLast) (reads _ rfl)
  | check expression => exact h.elim

theorem contributions_cons {d : Dialect} {read : ItemReader} {enums : Enums} {table : String}
    {item : List Char} {rest : List (List Char)} {first more : Contribution}
    (hfirst : (contribution d read enums table item).result = .ok first)
    (hmore : (contributions d read enums table rest).result = .ok more) :
    (contributions d read enums table (item :: rest)).result =
      .ok { columns := first.columns ++ more.columns, rules := first.rules ++ more.rules } := by
  simp only [contributions, Remarked.result_bind, hfirst, hmore]
  rfl

theorem contributions_lines {d : Dialect} {read : ItemReader} (table : String)
    {lines : List BodyLine} (restorable : ∀ line ∈ lines, line.Restorable d)
    (reads : ∀ line ∈ lines, ∀ item ∈ line.item? d, ∀ isLast,
      read (line.piece d table isLast) = some item) :
    (contributions d read [] table
      (bodyPieces (lines.map fun line => (line.text d table).toList))).result =
        .ok { columns := lines.flatMap (·.given.columns), rules := lines.flatMap (·.given.rules) } := by
  induction lines with
  | nil => rfl
  | cons line rest ih =>
    rw [List.forall_mem_cons] at restorable reads
    have own := fun isLast =>
      contribution_line restorable.1 isLast fun item member => reads.1 item member isLast
    cases rest with
    | nil =>
      have nothing : (contributions d read [] table []).result = .ok {} := rfl
      have only := contributions_cons (own true) nothing
      simpa [bodyPieces, BodyLine.piece] using only
    | cons next more =>
      have all := contributions_cons (own false) (ih restorable.2 reads.2)
      simpa [bodyPieces, BodyLine.piece] using all

theorem bodyLines_restorable {d : Dialect} {t : Table} (h : ∀ c ∈ t.columns, Restorable d c) :
    ∀ line ∈ bodyLines t, line.Restorable d := by
  intro line member
  simp only [bodyLines, List.mem_append] at member
  rcases member with ((column | key) | reference) | check
  · obtain ⟨c, inside, rfl⟩ := List.mem_map.mp column
    exact h c inside
  · split at key
    · cases key
    · rw [List.mem_singleton.mp key]
      trivial
  · obtain ⟨c, -, made⟩ := List.mem_filterMap.mp reference
    obtain ⟨r, -, rfl⟩ := Option.map_eq_some_iff.mp made
    trivial
  · obtain ⟨c, inside, made⟩ := List.mem_flatMap.mp check
    simp [Column.checks, (h c inside).plain] at made

theorem noChecks {d : Dialect} {columns : List Column} (h : ∀ c ∈ columns, Restorable d c) :
    columns.flatMap (fun c => c.checks.map BodyLine.check) = [] := by
  rw [List.flatMap_eq_nil_iff]
  intro c member
  simp [Column.checks, (h c member).plain]

theorem flatMap_bodyLines {β : Type} {f : BodyLine → List β}
    (keys : ∀ names, f (.primaryKey names) = []) (references : ∀ name r, f (.foreignKey name r) = [])
    (checks : ∀ expression, f (.check expression) = []) {t : Table} :
    (bodyLines t).flatMap f = t.columns.flatMap fun c => f (.column c) := by
  have noKeys : (if t.primaryKey.isEmpty then []
      else [BodyLine.primaryKey (t.primaryKey.map (·.name))]).flatMap f = [] := by
    split <;> simp [keys]
  have noReferences : (t.columns.filterMap fun c =>
      c.references.map (BodyLine.foreignKey c.name)).flatMap f = [] := by
    rw [List.flatMap_eq_nil_iff]
    intro line member
    obtain ⟨c, -, made⟩ := List.mem_filterMap.mp member
    obtain ⟨r, -, rfl⟩ := Option.map_eq_some_iff.mp made
    exact references c.name r
  have noChecks : (t.columns.flatMap fun c => c.checks.map BodyLine.check).flatMap f = [] := by
    simp [List.flatMap_assoc, List.flatMap_map, checks]
  rw [bodyLines, List.flatMap_append, List.flatMap_append, List.flatMap_append, List.flatMap_map,
    noKeys, noReferences, noChecks, List.append_nil, List.append_nil, List.append_nil]

theorem bodyLines_columns (t : Table) :
    (bodyLines t).flatMap (·.given.columns) = t.columns.map Column.own := by
  rw [flatMap_bodyLines (fun _ => rfl) (fun _ _ => rfl) fun _ => rfl]
  exact List.flatMap_pure_eq_map Column.own t.columns

theorem bodyLines_rules {d : Dialect} {t : Table} (h : ∀ c ∈ t.columns, Restorable d c) :
    (bodyLines t).flatMap (·.given.rules) = keyRules t ++ referenceRules t := by
  have columns : (t.columns.map BodyLine.column).flatMap (·.given.rules) = [] := by
    rw [List.flatMap_map, List.flatMap_eq_nil_iff]
    exact fun _ _ => rfl
  have keys : (if t.primaryKey.isEmpty then []
      else [BodyLine.primaryKey (t.primaryKey.map (·.name))]).flatMap (·.given.rules) =
        keyRules t := by
    unfold keyRules
    split <;> rfl
  have references : (t.columns.filterMap fun c =>
      c.references.map (BodyLine.foreignKey c.name)).flatMap (·.given.rules) =
        referenceRules t := by
    rw [referenceRules, List.filterMap_eq_flatMap_toList, List.filterMap_eq_flatMap_toList,
      List.flatMap_assoc]
    congr 1
    funext c
    cases c.references <;> rfl
  rw [bodyLines, noChecks h, List.append_nil, List.flatMap_append, List.flatMap_append, columns,
    keys, references, List.nil_append]

theorem table_written {d : Dialect} {read : ItemReader} {t : Table}
    (distinct : DistinctNames (t.columns.map (·.name))) (h : ∀ c ∈ t.columns, Restorable d c)
    (understands : Understands d read t) {body : List Char}
    (pieces : splitTopLevel body ',' =
      bodyPieces ((bodyLines t).map fun line => (line.text d t.name).toList)) :
    (Body.table d read [] t.name body).result = .ok t.told := by
  have contributed := contributions_lines t.name (bodyLines_restorable h) understands
  rw [bodyLines_columns, bodyLines_rules h] at contributed
  have first : Body.firstOfEach (t.columns.map Column.own) = t.columns.map Column.own := by
    rw [Body.firstOfEach_eq]
    apply firstOfName_of_distinct
    rw [List.map_map]
    exact distinct
  have complete := Body.tableRules_complete t
  have all : (keyRules t ++ referenceRules t).takeWhile (!·.isIncomplete) =
      keyRules t ++ referenceRules t := by
    rw [List.takeWhile_eq_self_iff]
    intro rule member
    rw [complete rule member]
    rfl
  have none : (keyRules t ++ referenceRules t).any (·.isIncomplete) = false := by
    rw [List.any_eq_false]
    intro rule member
    rw [complete rule member]
    decide
  have told := Body.through_told distinct fun c member => (h c member).keyNotNull
  unfold Body.table
  rw [pieces, Remarked.result_bind, contributed]
  simp only [bind, Except.bind, first, all, none, told]
  rfl

end RelSchema.Sql
