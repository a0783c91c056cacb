import Mathlib.Data.List.TakeWhile
import RelSchema.Proofs.Reading.Outcome
import RelSchema.Proofs.RoundTrip.Rules

namespace RelSchema

def Table.reference? (t : Table) (name : String) : Option Reference :=
  (t.column? name).bind (·.references)

def Table.RefersBy (t : Table) (columns : List String) (target : String) (keys : List String) :
    Prop :=
  List.Forall₂ (fun column key => t.reference? column = some ⟨target, key⟩) columns keys

instance (t : Table) (columns : List String) (target : String) (keys : List String) :
    Decidable (t.RefersBy columns target keys) :=
  inferInstanceAs (Decidable (List.Forall₂ _ columns keys))

theorem Table.RefersBy.unique {t : Table} {columns : List String} {target : String}
    {keys keys' : List String} (h : t.RefersBy columns target keys)
    (h' : t.RefersBy columns target keys') : keys = keys' := by
  induction h generalizing keys' with
  | nil => cases h'; rfl
  | cons refers _ ih =>
    cases h' with
    | cons refers' rest =>
      rw [refers, Option.some.injEq, Reference.mk.injEq] at refers'
      rw [refers'.2, ih rest]

theorem Table.reference?_eq (t : Table) (name : String) :
    t.reference? name =
      ((t.columns.map fun c => (c.name, c.references)).find?
        fun entry => Text.sameName entry.1 name).bind (·.2) := by
  rw [List.find?_map, reference?, column?]
  change _ = ((t.columns.find? fun c => Text.sameName c.name name).map _).bind _
  cases t.columns.find? fun c => Text.sameName c.name name <;> rfl

theorem Table.isSome_column?_of_core {t t' : Table}
    (core : t'.columns.map Column.core = t.columns.map Column.core) (name : String) :
    (t'.column? name).isSome = (t.column? name).isSome := by
  have byCore (t : Table) : (t.column? name).isSome =
      (t.columns.map Column.core).any fun c => Text.sameName c.name name := by
    rw [column?, List.isSome_find?, List.any_map]
    rfl
  rw [byCore, byCore, core]

namespace Sql.Body

def referring : Rule → List String
  | .foreignKey columns (some _) => columns
  | _ => []

def referTo (r : Reference) (c : Column) : Column := { c with references := some r }

theorem referTo_name (r : Reference) (c : Column) : (referTo r c).name = c.name := rfl

theorem column?_change {f : Column → Column} (named : ∀ c, (f c).name = c.name) (t : Table)
    (name other : String) :
    (change t name f).column? other =
      if Text.sameName name other then (t.column? other).map f else t.column? other := by
  -- The column that is changed is the first of its name, so it is the one that a look-up meets.
  rw [change, Table.column?, Table.column?]
  induction t.columns with
  | nil => simp [changeFirst]
  | cons c rest ih =>
    unfold changeFirst
    by_cases met : Text.sameName c.name name = true
    · have alike : Text.sameName c.name other = Text.sameName name other := by
        rw [Bool.eq_iff_iff, sameName_iff, sameName_iff, sameName_iff.mp met]
      rw [if_pos met, List.find?_cons, List.find?_cons, named, alike]
      cases Text.sameName name other <;> rfl
    · rw [if_neg met, List.find?_cons, List.find?_cons, ih]
      cases here : Text.sameName c.name other with
      | false => rfl
      | true =>
        have apart : Text.sameName name other = false := by
          rw [Bool.eq_false_iff]
          intro same
          rw [sameName_iff] at here same
          exact met (sameName_iff.mpr (here.trans same.symm))
        rw [apart]
        rfl

theorem reference?_change {f : Column → Column} (named : ∀ c, (f c).name = c.name)
    (kept : ∀ c, (f c).references = c.references) (t : Table) (name other : String) :
    (change t name f).reference? other = t.reference? other := by
  rw [Table.reference?, column?_change named, Table.reference?]
  split
  · cases t.column? other with
    | none => rfl
    | some c => exact kept c
  · rfl

theorem reference?_other {t : Table} {name other : String} (r : Reference)
    (apart : Text.sameName name other = false) :
    (change t name (referTo r)).reference? other = t.reference? other := by
  rw [Table.reference?, column?_change (referTo_name r), if_neg (by simp [apart])]
  rfl

theorem reference?_own {t : Table} {name : String} (r : Reference)
    (there : (t.column? name).isSome = true) :
    (change t name (referTo r)).reference? name = some r := by
  obtain ⟨c, found⟩ := Option.isSome_iff_exists.mp there
  rw [Table.reference?, column?_change (referTo_name r), if_pos (sameName_self name), found]
  rfl

theorem through_keeps {α β : Type} {f : Table → α → Table × List Notice} {g : Table → β}
    {list : List α} (step : ∀ a ∈ list, ∀ t, g (f t a).1 = g t) (t : Table) :
    g (through f t list).1 = g t := by
  induction list generalizing t with
  | nil => rfl
  | cons a rest ih =>
    rw [List.forall_mem_cons] at step
    exact (ih step.2 _).trans (step.1 t)

theorem reference?_underTableRule {rule : Rule} {name : String}
    (other : ∀ c ∈ referring rule, Text.sameName c name = false) (t : Table) :
    (underTableRule t rule).1.reference? name = t.reference? name := by
  unfold underTableRule
  split
  · refine through_keeps (g := (·.reference? name)) (fun column _ t => ?_) t
    simp only [changeOr_fst]
    exact reference?_change (by intro _; rfl) (by intro _; rfl) t column name
  · rename_i columns target
    refine through_keeps (g := (·.reference? name)) (fun pair member t => ?_) t
    obtain ⟨i, inside, rfl⟩ := List.mem_mapIdx.mp member
    simp only [changeOr_fst]
    exact reference?_other _ (other _ (List.getElem_mem inside))
  · exact reference?_change (by intro _; rfl) (by intro _; rfl) t _ name
  · split
    · exact reference?_change (by intro _; rfl) (by intro _; rfl) t _ name
    · rfl
  · rfl

def part (target : Target) (i : Nat) : Reference := ⟨target.table, target.columns[i]?.getD ""⟩

def referFrom (t : Table) (pair : String × Reference) : Table × List Notice :=
  changeOr (.foreignKeyUnknown t.name pair.1) t pair.1 (referTo pair.2)

theorem underTableRule_foreignKey (t : Table) (columns : List String) (target : Target) :
    underTableRule t (.foreignKey columns (some target)) =
      through referFrom t (columns.mapIdx fun i column => (column, part target i)) := rfl

theorem isSome_column?_referFrom (t : Table) (pair : String × Reference) (name : String) :
    ((referFrom t pair).1.column? name).isSome = (t.column? name).isSome := by
  have ruled : Ruled t (referFrom t pair).1 := changeOr_ruled t (fun _ => rfl) (fun _ h => h)
  exact Table.isSome_column?_of_core ruled.core name

theorem reference?_referFrom {pairs : List (String × Reference)} {name : String} {r : Reference}
    (distinct : DistinctNames (pairs.map (·.1))) (member : (name, r) ∈ pairs) {t : Table}
    (there : (t.column? name).isSome = true) :
    (through referFrom t pairs).1.reference? name = some r := by
  -- What a pair settles stays, as the names of the later pairs are different.
  induction pairs generalizing t with
  | nil => cases member
  | cons pair rest ih =>
    rw [List.map_cons, DistinctNames.cons] at distinct
    rcases List.mem_cons.mp member with rfl | later
    · have kept := through_keeps (f := referFrom) (g := (·.reference? name))
        (fun other inside t => by
          simp only [referFrom, changeOr_fst]
          apply reference?_other
          rw [sameName_comm]
          exact distinct.1 _ (List.mem_map_of_mem inside)) (referFrom t (name, r)).1
      have own : (referFrom t (name, r)).1.reference? name = some r := by
        simp only [referFrom, changeOr_fst]
        exact reference?_own r there
      exact kept.trans own
    · have still : ((referFrom t pair).1.column? name).isSome = true := by
        rwa [isSome_column?_referFrom]
      exact ih distinct.2 later still

/-- Rules in which a foreign key is the last to say what its columns refer to. -/
def IsLastWord (rules : List Rule) (columns : List String) (target : Target) : Prop :=
  ∃ before after, rules = before ++ .foreignKey columns (some target) :: after ∧
    ∀ rule ∈ after, ∀ own ∈ referring rule, ∀ column ∈ columns, Text.sameName own column = false

theorem reference?_lastWord {rules : List Rule} {columns : List String} {target : Target}
    (last : IsLastWord rules columns target) (distinct : DistinctNames columns) (t : Table) {i : Nat}
    (inside : i < columns.length) (there : (t.column? columns[i]).isSome = true) :
    (through underTableRule t rules).1.reference? columns[i] = some (part target i) := by
  obtain ⟨before, after, rfl, silent⟩ := last
  have ruled := through_ruled underTableRule_ruled t before
  have names : (columns.mapIdx fun i column => (column, part target i)).map (·.1) = columns := by
    apply List.ext_getElem <;> simp
  have said := reference?_referFrom (names.symm ▸ distinct)
    (List.mem_mapIdx.mpr ⟨i, inside, rfl⟩)
    ((Table.isSome_column?_of_core ruled.core columns[i]).trans there)
  rw [← underTableRule_foreignKey] at said
  rw [through_append]
  exact (through_keeps (g := (·.reference? columns[i]))
    (fun rule member => reference?_underTableRule fun own refers =>
      silent rule member own refers _ (List.getElem_mem inside)) _).trans said

def rulesIn (read : ItemReader) (item : List Char) : List Rule :=
  if isPassedOver item then []
  else match read item with
    | some (.rules rules) => rules
    | _ => []

def tableRules (read : ItemReader) (body : List Char) : List Rule :=
  (splitTopLevel body ',').flatMap (rulesIn read)

theorem contribution_rules {d : Dialect} {read : ItemReader} {enums : Enums} {table : String}
    {item : List Char} {found : Contribution}
    (h : (contribution d read enums table item).result = .ok found) :
    found.rules = rulesIn read item := by
  unfold rulesIn
  rcases contribution_cases h with ⟨rfl, passed | unread⟩ | ⟨rules, rfl, kept, reads⟩ |
    ⟨c, rfl, ⟨name, type, rules, reads, -⟩ | ⟨unread, -⟩⟩
  · rw [if_pos passed]
  · rw [unread]
    exact (ite_self _).symm
  · rw [kept, reads]
    rfl
  · rw [reads]
    exact (ite_self _).symm
  · rw [unread]
    exact (ite_self _).symm

theorem contributions_rules {d : Dialect} {read : ItemReader} {enums : Enums} {table : String}
    {items : List (List Char)} {found : Contribution}
    (h : (contributions d read enums table items).result = .ok found) :
    found.rules = items.flatMap (rulesIn read) := by
  induction items generalizing found with
  | nil => cases h; rfl
  | cons item rest ih =>
    unfold contributions at h
    obtain ⟨first, hfirst, tail⟩ := Remarked.result_bind_ok.mp h
    obtain ⟨more, hmore, last⟩ := Remarked.result_bind_ok.mp tail
    cases last
    simp only [contribution_rules hfirst, ih hmore, List.flatMap_cons]

theorem table_ruled {d : Dialect} {read : ItemReader} {enums : Enums} {name : String}
    {body : List Char} {t : Table} (h : (table d read enums name body).result = .ok t) :
    ∃ plain, t = (through underTableRule plain (tableRules read body)).1 := by
  unfold table at h
  obtain ⟨found, hfound, rest⟩ := Remarked.result_bind_ok.mp h
  have rules : found.rules = tableRules read body := contributions_rules hfound
  simp only [rules] at rest
  split at rest
  · cases rest
  · rename_i complete
    have whole : (tableRules read body).takeWhile (!·.isIncomplete) = tableRules read body := by
      rw [List.takeWhile_eq_self_iff]
      simpa using complete
    rw [whole] at rest
    cases rest
    exact ⟨_, rfl⟩

end Sql.Body

theorem Table.reference?_of_withoutIds {s : Schema} {t written : Table}
    (same : t.withoutIds = (written.resolved s).withoutIds) (name : String) :
    t.reference? name = (written.reference? name).map (Reference.resolved s) := by
  have entries := congrArg (fun table => table.columns.map fun c => (c.name, c.references)) same
  simp only [Table.withoutIds, Table.resolved, List.map_map] at entries
  change (t.columns.map fun c => (c.name, c.references)) =
    written.columns.map fun c => (c.name, c.references.map (Reference.resolved s)) at entries
  rw [Table.reference?_eq, entries, List.find?_map, Table.reference?, Table.column?]
  change ((written.columns.find? fun c => Text.sameName c.name name).map _).bind _ = _
  cases written.columns.find? fun c => Text.sameName c.name name <;> rfl

namespace Sql

open Body (ItemReader IsLastWord tableRules part)

theorem readWith_foreignKey {d : Dialect} {read : ItemReader} {script : String} {s : Schema}
    {definition : String × List Char} {child : Table} {columns : List String} {target : Target}
    (ok : (readWith d read script).result = .ok s)
    (defined : definition ∈
      firstOfName (·.1) (createdTables (Script.statementChars script.toList)))
    (found : s.table? definition.1 = some child)
    (last : IsLastWord (tableRules read definition.2) columns target)
    (distinct : DistinctNames columns)
    (there : ∀ column ∈ columns, (child.column? column).isSome = true) {i : Nat}
    (inside : i < columns.length) :
    child.reference? columns[i] = some ((part target i).resolved s) := by
  have wellRead := readWith_wellRead ok
  obtain ⟨partner, met, definedBy⟩ :=
    wellRead.tableNames.find?_partner wellRead.definitions (fun _ _ h => h.named) defined
  obtain ⟨written, makes, same⟩ := definedBy.written
  obtain rfl : partner = child := Option.some.inj (met.symm.trans found)
  obtain ⟨plain, rfl⟩ := Body.table_ruled makes
  have known := there _ (List.getElem_mem inside)
  rw [Table.isSome_column?_of_core (core_of_withoutIds same),
    Table.isSome_column?_of_core (Body.through_ruled Body.underTableRule_ruled _ _).core] at known
  rw [Table.reference?_of_withoutIds same, Body.reference?_lastWord last distinct plain inside known]
  rfl

structure Pairing (s : Schema) (child : Table) (columns : List String) (target : Target) :
    Prop where
  /-- Columns that are listed are referred to one by one. -/
  listed : target.columns.length = columns.length → (∀ key ∈ target.columns, key ≠ "") →
    child.RefersBy columns target.table target.columns
  /-- Without a list all columns refer to the first of the key. -/
  open_first : target.columns = [] → ∀ parent, s.table? target.table = some parent →
    ∀ first, parent.primaryKey.head? = some first →
      child.RefersBy columns target.table (List.replicate columns.length first.name)
  /-- So the columns of a key are referred to one by one only if it is a single one. -/
  open_paired_iff : target.columns = [] → ∀ parent, s.table? target.table = some parent →
    parent.primaryKey ≠ [] → parent.primaryKey.length = columns.length →
      (child.RefersBy columns target.table (parent.primaryKey.map (·.name)) ↔ columns.length = 1)

theorem Pairing.of_parts {s : Schema} {child : Table} {columns : List String} {target : Target}
    (distinct : ∀ t ∈ s.tables, DistinctNames (t.columns.map (·.name)))
    (parts : ∀ (i : Nat) (inside : i < columns.length),
      child.reference? columns[i] = some ((part target i).resolved s)) :
    Pairing s child columns target := by
  have open_first : target.columns = [] → ∀ parent, s.table? target.table = some parent →
      ∀ first, parent.primaryKey.head? = some first →
        child.RefersBy columns target.table (List.replicate columns.length first.name) := by
    intro bare parent there first head
    refine List.forall₂_iff_get.mpr ⟨by simp, fun i inside _ => ?_⟩
    have refers := parts i inside
    rw [part, bare, Reference.resolved, there, Option.bind_some, head] at refers
    simpa using refers
  refine ⟨fun count named => ?_, open_first, fun bare parent there keyed count => ?_⟩
  · refine List.forall₂_iff_get.mpr ⟨count.symm, fun i inside inside' => ?_⟩
    have refers := parts i inside
    have key := named _ (List.getElem_mem inside')
    rw [part, List.getElem?_eq_getElem inside', Option.getD_some, Reference.resolved,
      if_neg key] at refers
    exact refers
  · obtain ⟨first, rest, key⟩ := List.exists_cons_of_ne_nil keyed
    have all := open_first bare parent there first (by rw [key]; rfl)
    constructor
    · intro paired
      have names := all.unique paired
      have keyNames : DistinctNames (parent.primaryKey.map (·.name)) := by
        have sub : (parent.primaryKey.map (·.name)).Sublist (parent.columns.map (·.name)) :=
          List.filter_sublist.map _
        exact (distinct parent (List.mem_of_find?_eq_some there)).sublist (sub.map Text.lower)
      rw [← names, DistinctNames, List.map_replicate, List.nodup_replicate] at keyNames
      rw [key, List.length_cons] at count
      omega
    · intro single
      rw [key, List.length_cons, single] at count
      have none : rest = [] := List.eq_nil_of_length_eq_zero (by omega)
      rw [single] at all
      rw [key, none]
      exact all

/-- A foreign key of several columns refers to the columns it lists one by one, but without a list
from every column to the first of the key. -/
theorem readWith_foreignKey_pairs {d : Dialect} {read : ItemReader} {script : String} {s : Schema}
    {definition : String × List Char} {child : Table} {columns : List String} {target : Target}
    (ok : (readWith d read script).result = .ok s)
    (defined : definition ∈
      firstOfName (·.1) (createdTables (Script.statementChars script.toList)))
    (found : s.table? definition.1 = some child)
    (last : IsLastWord (tableRules read definition.2) columns target)
    (distinct : DistinctNames columns)
    (there : ∀ column ∈ columns, (child.column? column).isSome = true) :
    Pairing s child columns target :=
  Pairing.of_parts (readWith_wellRead ok).columnNames fun _ inside =>
    readWith_foreignKey ok defined found last distinct there inside

def twoKeysScript : String :=
  "CREATE TABLE t (a INT, b INT, PRIMARY KEY (a, b));\n" ++
    "CREATE TABLE u (x INT, y INT, FOREIGN KEY (x, y) REFERENCES t);\n" ++
    "CREATE TABLE v (x INT, y INT, FOREIGN KEY (x, y) REFERENCES t(b, a))"

def twoKeysReader : ItemReader :=
  readerOf
    [("a INT", .column "a" (some (.scalar "INT" [] [])) []),
      (" b INT", .column "b" (some (.scalar "INT" [] [])) []),
      (" PRIMARY KEY (a, b)", .rules [.primaryKey (some ["a", "b"])]),
      ("x INT", .column "x" (some (.scalar "INT" [] [])) []),
      (" y INT", .column "y" (some (.scalar "INT" [] [])) []),
      (" FOREIGN KEY (x, y) REFERENCES t", .rules [.foreignKey ["x", "y"] (some ⟨"t", []⟩)]),
      (" FOREIGN KEY (x, y) REFERENCES t(b, a)",
        .rules [.foreignKey ["x", "y"] (some ⟨"t", ["b", "a"]⟩)])]

def twoKeysSchema : Schema :=
  assemble .mysql
    [{ name := "t",
       columns := [{ name := "a", type := .int, nullable := false, primaryKey := true },
                   { name := "b", type := .int, nullable := false, primaryKey := true }] },
     { name := "u",
       columns := [{ name := "x", type := .int, references := some ⟨"t", ""⟩ },
                   { name := "y", type := .int, references := some ⟨"t", ""⟩ }] },
     { name := "v",
       columns := [{ name := "x", type := .int, references := some ⟨"t", "b"⟩ },
                   { name := "y", type := .int, references := some ⟨"t", "a"⟩ }] }]

theorem twoKeys_read : (readWith .mysql twoKeysReader twoKeysScript).result = .ok twoKeysSchema := by
  decide +kernel

theorem twoKeys_listed :
    ∃ child, twoKeysSchema.table? "v" = some child ∧
      Pairing twoKeysSchema child ["x", "y"] ⟨"t", ["b", "a"]⟩ ∧
        child.RefersBy ["x", "y"] "t" ["b", "a"] := by
  have defined : ("v", "x INT, y INT, FOREIGN KEY (x, y) REFERENCES t(b, a)".toList) ∈
      firstOfName (·.1) (createdTables (Script.statementChars twoKeysScript.toList)) := by
    decide +kernel
  have last : IsLastWord (tableRules twoKeysReader
      "x INT, y INT, FOREIGN KEY (x, y) REFERENCES t(b, a)".toList) ["x", "y"]
        ⟨"t", ["b", "a"]⟩ := ⟨[], [], by decide +kernel, by simp⟩
  have pairs := readWith_foreignKey_pairs twoKeys_read defined rfl last (by decide +kernel)
    (by decide +kernel)
  exact ⟨_, rfl, pairs, pairs.listed rfl (by decide)⟩

theorem twoKeys_open :
    (readWith .mysql twoKeysReader twoKeysScript).result = .ok twoKeysSchema ∧
      IsLastWord (tableRules twoKeysReader "x INT, y INT, FOREIGN KEY (x, y) REFERENCES t".toList)
        ["x", "y"] ⟨"t", []⟩ ∧
        ∃ parent child, twoKeysSchema.table? "t" = some parent ∧
          parent.primaryKey.map (·.name) = ["a", "b"] ∧ twoKeysSchema.table? "u" = some child ∧
            child.RefersBy ["x", "y"] "t" ["a", "a"] ∧
              ¬ child.RefersBy ["x", "y"] "t" ["a", "b"] := by
  refine ⟨twoKeys_read, ⟨[], [], by decide +kernel, by simp⟩, _, _, rfl, ?_, rfl, ?_, ?_⟩ <;>
    decide +kernel

end Sql

end RelSchema
