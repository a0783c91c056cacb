import Mathlib.Data.List.Perm.Basic
import RelSchema.Proofs.Suggestion.Linking

namespace RelSchema

/-- What an edge joins: two tables by their ids, and the columns at its two ends. -/
abbrev Ends := String × String × Option String × Option String

def Edge.ends (e : Edge) : Ends := (e.source, e.target, e.sourceColumn, e.targetColumn)

def keyEnds (tables : List Table) : List Ends := (foreignKeyEdges tables).map Edge.ends

def placedColumns (tables : List Table) : List (String × Column) :=
  tables.flatMap fun t => t.columns.map (t.id, ·)

def referencedId? (tables : List Table) (name : String) : Option String :=
  (referenced? tables name).map (·.id)

def endsOf? (idOf? : String → Option String) (place : String × Column) : Option Ends :=
  place.2.references.bind fun r =>
    (idOf? r.table).map fun id => (id, place.1, some r.column, some place.2.name)

def keysTo (tables : List Table) (parent : Table) : List Ends :=
  (placedColumns tables).filterMap <|
    endsOf? fun name => if Text.sameName parent.name name then some parent.id else none

theorem keyEnds_eq (tables : List Table) :
    keyEnds tables = (placedColumns tables).filterMap (endsOf? (referencedId? tables)) := by
  have made : ∀ t c, (edgeOf? tables t c).map Edge.ends =
      endsOf? (referencedId? tables) (t.id, c) := by
    intro t c
    cases refers : c.references with
    | none => simp [edgeOf?, endsOf?, refers]
    | some r =>
      cases found : referenced? tables r.table <;>
        simp [edgeOf?, endsOf?, refers, referencedId?, found, Edge.ends]
  have unnumbered : ∀ edges, (numberEdges edges).map Edge.ends = edges.map Edge.ends := by
    intro edges
    apply List.ext_getElem
    · simp [numberEdges]
    · simp [numberEdges, Edge.ends]
  rw [keyEnds, foreignKeyEdges, unnumbered, placedColumns, List.map_flatMap, List.filterMap_flatMap]
  refine List.flatMap_congr fun t _ => ?_
  rw [List.map_filterMap, List.filterMap_map]
  exact congrArg (List.filterMap · t.columns) (funext (made t))

theorem placedColumns_append (tables more : List Table) :
    placedColumns (tables ++ more) = placedColumns tables ++ placedColumns more :=
  List.flatMap_append

theorem referencedId?_replaced {before after : List Table} {t t' : Table} (id : t'.id = t.id)
    (name : t'.name = t.name) :
    referencedId? (before ++ t' :: after) = referencedId? (before ++ t :: after) := by
  funext wanted
  simp only [referencedId?, referenced?, List.reverse_append, List.reverse_cons, List.append_assoc,
    List.singleton_append, List.find?_append, List.find?_cons, name]
  cases after.reverse.find? fun t => Text.sameName t.name wanted with
  | some found => rfl
  | none => cases Text.sameName t.name wanted <;> simp [id]

theorem referencedId?_of_mem {tables : List Table} (distinct : DistinctNames (tables.map (·.name)))
    {t : Table} (member : t ∈ tables) : referencedId? tables t.name = some t.id := by
  rw [referencedId?, referenced?, distinct.find?_reverse, distinct.find?_eq member (sameName_self _)]
  rfl

theorem endsOf?_none {idOf? : String → Option String} {id : String} {c : Column}
    (free : c.references = none) : endsOf? idOf? (id, c) = none := by
  simp [endsOf?, free]

theorem filterMap_or_perm {α β : Type} {f g : α → Option β} {list : List α}
    (apart : ∀ a ∈ list, f a = none ∨ g a = none) :
    (list.filterMap fun a => (f a).or (g a)).Perm (list.filterMap f ++ list.filterMap g) := by
  induction list with
  | nil => exact .nil
  | cons a rest ih =>
    have later := ih fun b member => apart b (List.mem_cons_of_mem a member)
    rcases apart a List.mem_cons_self with none | none
    · cases second : g a with
      | none => simpa [none, second] using later
      | some b =>
        simp only [List.filterMap_cons, none, second, Option.none_or]
        exact (later.cons b).trans List.perm_middle.symm
    · cases first : f a with
      | none => simpa [none, first] using later
      | some b => simpa [none, first] using later

theorem referencedId?_last (tables : List Table) (t : Table) (wanted : String) :
    referencedId? (tables ++ [t]) wanted =
      if Text.sameName t.name wanted then some t.id else referencedId? tables wanted := by
  rw [referencedId?, referenced?, List.reverse_append, List.reverse_singleton, List.singleton_append,
    List.find?_cons]
  cases Text.sameName t.name wanted <;> rfl

theorem referencedId?_missing {tables : List Table} {name wanted : String}
    (missing : tables.find? (fun t => Text.sameName t.name name) = none)
    (same : Text.sameName name wanted = true) : referencedId? tables wanted = none := by
  rw [referencedId?, referenced?, Option.map_eq_none_iff, List.find?_eq_none]
  intro t member named
  refine List.find?_eq_none.mp missing t (List.mem_reverse.mp member) ?_
  exact sameName_iff.mpr ((sameName_iff.mp named).trans (sameName_iff.mp same).symm)

theorem keyEnds_addEmpty {tables : List Table} {t : Table} (empty : t.columns = [])
    (missing : tables.find? (fun other => Text.sameName other.name t.name) = none) :
    (keyEnds (tables ++ [t])).Perm (keyEnds tables ++ keysTo tables t) := by
  have none : placedColumns [t] = [] := by simp [placedColumns, empty]
  rw [keyEnds_eq, keyEnds_eq, keysTo, placedColumns_append, none, List.append_nil]
  -- A name means the new table or one of the others, so no reference has two edges.
  have split : ∀ place : String × Column,
      endsOf? (referencedId? (tables ++ [t])) place = (endsOf? (referencedId? tables) place).or
        (endsOf? (fun name => if Text.sameName t.name name then some t.id else .none) place) ∧
      (endsOf? (referencedId? tables) place = .none ∨
        endsOf? (fun name => if Text.sameName t.name name then some t.id else .none) place =
          .none) := by
    rintro ⟨id, c⟩
    cases refers : c.references with
    | none => simp [endsOf?, refers]
    | some r =>
      by_cases same : Text.sameName t.name r.table = true
      · simp [endsOf?, refers, referencedId?_last, same, referencedId?_missing missing same]
      · simp [endsOf?, refers, referencedId?_last, same]
  rw [funext fun place => (split place).1]
  exact filterMap_or_perm fun place _ => (split place).2

theorem keyEnds_replaced {before after : List Table} {t t' : Table} (id : t'.id = t.id)
    (name : t'.name = t.name) {new : Ends}
    (columns : (t'.columns.filterMap fun c =>
        endsOf? (referencedId? (before ++ t :: after)) (t.id, c)).Perm
      ((t.columns.filterMap fun c =>
        endsOf? (referencedId? (before ++ t :: after)) (t.id, c)) ++ [new])) :
    (keyEnds (before ++ t' :: after)).Perm (keyEnds (before ++ t :: after) ++ [new]) := by
  rw [keyEnds_eq, keyEnds_eq, referencedId?_replaced id name]
  generalize referencedId? (before ++ t :: after) = idOf? at columns ⊢
  simp only [placedColumns, List.flatMap_append, List.flatMap_cons, List.filterMap_append,
    List.filterMap_map, Function.comp_def, id, List.append_assoc]
  refine List.Perm.append_left _ ((columns.append_right _).trans ?_)
  rw [List.append_assoc]
  exact List.Perm.append_left _ List.perm_append_comm

namespace Suggestion

theorem linkedColumns_perm {s : Schema} {t : Table} {name : String}
    (notKey : (t.column? name).filter (·.isForeignKey) = none) (key : Column) (r : Reference)
    (primaryKey : Bool) {β : Type} {f : Column → Option β}
    (free : ∀ c, c.references = none → f c = none) {b : β}
    (made : ∀ c, c.name = ((t.column? name).map (·.name)).getD name → c.references = some r →
      f c = some b) :
    ((linkedColumns s t name key r primaryKey).filterMap f).Perm
      (t.columns.filterMap f ++ [b]) := by
  unfold linkedColumns
  cases found : t.column? name with
  | none =>
    rw [found] at made
    have new := made { newColumn s name key primaryKey with references := some r } rfl rfl
    simp [new]
  | some c =>
    rw [found] at made
    have unlinked : c.references = none := by
      simpa [found, Option.filter_eq_none_iff, Column.isForeignKey] using notKey
    have new := made { c with references := some r } rfl rfl
    obtain ⟨before, after, whole, changed⟩ := setReference_split found r
    simp only
    rw [changed, whole]
    simp only [List.filterMap_append, List.filterMap_cons, new, free c unlinked, List.append_assoc]
    exact List.Perm.append_left _ (List.perm_append_singleton b _).symm

/-- Foreign keys and edges tell the same, but for some foreign keys without an edge. -/
def Balanced (s : Schema) (without : List Ends) : Prop :=
  (keyEnds s.tables).Perm (s.edges.map Edge.ends ++ without)

theorem addForeignKey_balanced {s : Schema} (distinct : DistinctNames (s.tables.map (·.name)))
    {source : Table} (there : ∃ t ∈ s.tables, t.id = source.id ∧ t.name = source.name)
    {without : List Ends} (balanced : Balanced s without) (place : Nat) (link : Link) :
    Balanced (addForeignKey s source place link).1 without := by
  cases inside : s.tables[place]? with
  | none => simpa only [addForeignKey, inside] using balanced
  | some target =>
    obtain ⟨parent, member, parentId, parentName⟩ := there
    have means := referencedId?_of_mem distinct member
    rw [parentId, parentName] at means
    rcases addForeignKey_cases inside source link with ⟨-, unchanged⟩ | ⟨notKey, changed⟩
    · rwa [unchanged]
    · obtain ⟨before, after, whole, replaced⟩ := split_at inside
      have columns := linkedColumns_perm (s := s) notKey (referencedKey source link.sourceColumn)
        ⟨source.name, (referencedKey source link.sourceColumn).name⟩ link.primaryKey
        (f := fun c => endsOf? (referencedId? s.tables) (target.id, c))
        (b := (linkEdge s source target link).ends)
        (fun c free => endsOf?_none free)
        (fun c named refers => by simp [endsOf?, refers, means, named, Edge.ends, linkEdge])
      have id : (relinked s source target link).id = target.id := rfl
      rw [whole] at columns
      have keys := keyEnds_replaced id rfl columns
      rw [← whole] at keys
      rw [Balanced, changed, replaced, List.map_append, List.append_assoc]
      refine keys.trans ((balanced.append_right _).trans ?_)
      rw [List.append_assoc]
      exact List.Perm.append_left _ List.perm_append_comm

theorem Balanced.addEmpty {s : Schema} {without : List Ends} (balanced : Balanced s without)
    {t : Table} (empty : t.columns = []) (missing : s.table? t.name = none) :
    Balanced { s with tables := s.tables ++ [t] } (without ++ keysTo s.tables t) := by
  rw [Balanced, ← List.append_assoc]
  exact (keyEnds_addEmpty empty missing).trans (balanced.append_right _)

def emptyJoinTable (s : Schema) (a b : Table) : Table :=
  { name := joinTableName a b, id := freshId "table" (s.tables.map (·.id)) }

/-- The foreign keys, without an edge so far, to the name of the table that a suggestion adds. -/
def overtakenBy (s : Schema) (suggestion : Suggestion) : List Ends :=
  match s.table? suggestion.source, s.table? suggestion.target with
  | some a, some b =>
    if suggestion.cardinality = .manyToMany ∧ s.table? (joinTableName a b) = none then
      keysTo s.tables (emptyJoinTable s a b)
    else []
  | _, _ => []

def overtaken : Schema → List Suggestion → List Ends
  | _, [] => []
  | s, suggestion :: rest =>
    overtakenBy s suggestion ++ overtaken (suggestion.applyTo s).1 rest

theorem addJoinTable_balanced {s : Schema} (sound : Sound s) {a b : Table} (ha : a ∈ s.tables)
    (hb : b ∈ s.tables) (missing : s.table? (joinTableName a b) = none) {without : List Ends}
    (balanced : Balanced s without) :
    Balanced (addJoinTable s a b).1 (without ++ keysTo s.tables (emptyJoinTable s a b)) := by
  have joined : Sound { s with tables := s.tables ++ [emptyJoinTable s a b] } :=
    sound.addEmpty missing (freshId_not_mem "table" (s.tables.map (·.id)))
  have start := balanced.addEmpty (t := emptyJoinTable s a b) rfl missing
  obtain ⟨first, keeps⟩ := addForeignKey_sound joined
    ⟨a, List.mem_append_left _ ha, rfl, rfl⟩ s.tables.length { primaryKey := true }
  obtain ⟨b', hb', keepsB⟩ := keeps b (List.mem_append_left _ hb)
  have one := addForeignKey_balanced joined.tableNames ⟨a, List.mem_append_left _ ha, rfl, rfl⟩
    start s.tables.length { primaryKey := true }
  have two := addForeignKey_balanced first.tableNames ⟨b', hb', keepsB.id, keepsB.name⟩ one
    s.tables.length { primaryKey := true }
  unfold addJoinTable
  simp only [missing]
  exact two

theorem applyTo_balanced {s : Schema} (sound : Sound s) {without : List Ends}
    (balanced : Balanced s without) (suggestion : Suggestion) :
    Balanced (suggestion.applyTo s).1 (without ++ overtakenBy s suggestion) := by
  unfold applyTo overtakenBy
  cases hsource : s.table? suggestion.source with
  | none => simpa using balanced
  | some source =>
    cases htarget : s.table? suggestion.target with
    | none => simpa using balanced
    | some target =>
      have sourceThere := List.mem_of_find?_eq_some hsource
      have targetThere := List.mem_of_find?_eq_some htarget
      obtain ⟨place, hplace, -⟩ := placeOf?_found htarget
      simp only [hplace]
      split
      · rename_i many
        cases missing : s.table? (joinTableName source target) with
        | none =>
          simpa [many] using addJoinTable_balanced sound sourceThere targetThere missing balanced
        | some there => simpa [addJoinTable, missing] using balanced
      · rename_i notMany
        simpa [notMany] using
          addForeignKey_balanced sound.tableNames ⟨source, sourceThere, rfl, rfl⟩ balanced place _

theorem applyAll_balanced {s : Schema} (sound : Sound s) {without : List Ends}
    (balanced : Balanced s without) (suggestions : List Suggestion) :
    Balanced (applyAll s suggestions) (without ++ overtaken s suggestions) := by
  induction suggestions generalizing s without with
  | nil => simpa [overtaken, applyAll] using balanced
  | cons suggestion rest ih =>
    rw [overtaken, ← List.append_assoc]
    exact ih (applyTo_sound sound suggestion) (applyTo_balanced sound balanced suggestion)

end Suggestion

namespace Sql

open Body (ItemReader)

/-- Whatever is suggested for a schema that was read: its edges join what its foreign keys do, but
for the foreign keys that were overtaken by a join table of the name they refer to. -/
theorem edited_balanced {d : Dialect} {read : ItemReader} {script : String} {s : Schema}
    (h : (readWith d read script).result = .ok s) (suggestions : List Suggestion) :
    ((foreignKeyEdges (Suggestion.applyAll s suggestions).tables).map Edge.ends).Perm
      ((Suggestion.applyAll s suggestions).edges.map Edge.ends ++
        Suggestion.overtaken s suggestions) := by
  obtain ⟨tables, rfl, makes⟩ := readWith_ok h
  have balanced : Suggestion.Balanced (assemble d tables) [] := by
    rw [Suggestion.Balanced, List.append_nil]
    exact .refl _
  exact Suggestion.applyAll_balanced (assemble_wellRead makes).sound balanced suggestions

def openGrantScript : String :=
  "CREATE TABLE users (id INT);\nCREATE TABLE roles (id INT);\n" ++
    "CREATE TABLE visits (grant_id INT REFERENCES user_roles)"

def openGrantReader : ItemReader :=
  readerOf
    [("id INT", .column "id" (some (.scalar "INT" [] [])) []),
      ("grant_id INT REFERENCES user_roles",
        .column "grant_id" (some (.scalar "INT" [] [])) [.references ⟨"user_roles", []⟩])]

def openGrantSchema : Schema :=
  { tables :=
      [{ name := "users", id := "table-1",
         columns := [{ name := "id", type := .int, id := "column-1" }] },
       { name := "roles", id := "table-2",
         columns := [{ name := "id", type := .int, id := "column-2" }] },
       { name := "visits", id := "table-3",
         columns := [{ name := "grant_id", type := .int, id := "column-3",
                       references := some ⟨"user_roles", "id"⟩ }] }] }

def grantSuggestions : List Suggestion :=
  [{ id := "suggestion-1", source := "users", target := "roles", cardinality := .manyToMany },
   { id := "suggestion-2", source := "user_roles", target := "visits", cardinality := .oneToMany }]

theorem openGrant_read :
    (readWith .mysql openGrantReader openGrantScript).result = .ok openGrantSchema := by
  decide +kernel

theorem openGrant_balanced :
    ((foreignKeyEdges (Suggestion.applyAll openGrantSchema grantSuggestions).tables).map
        Edge.ends).Perm
      ((Suggestion.applyAll openGrantSchema grantSuggestions).edges.map Edge.ends ++
        Suggestion.overtaken openGrantSchema grantSuggestions) :=
  edited_balanced openGrant_read grantSuggestions

theorem openGrant_overtaken :
    (readWith .mysql openGrantReader openGrantScript).result = .ok openGrantSchema ∧
      ¬ ((foreignKeyEdges (Suggestion.applyAll openGrantSchema grantSuggestions).tables).map
          Edge.ends).Perm
        ((Suggestion.applyAll openGrantSchema grantSuggestions).edges.map Edge.ends) := by
  refine ⟨openGrant_read, ?_⟩
  decide +kernel

example : Suggestion.overtaken openGrantSchema grantSuggestions =
    [("table-4", "table-3", some "id", some "grant_id")] := by decide +kernel

end Sql

end RelSchema
