import RelSchema.Proofs.Ids
import RelSchema.Proofs.Reading.Outcome

namespace RelSchema

open Suggestion (columnIds freshId freshId_not_mem Link)

/-- The column is a foreign key to the table, and the edge names both its ends. -/
def Edge.Names (e : Edge) (parent : Table) (c : Column) : Prop :=
  e.targetColumn = some c.name ∧
    ∃ r, c.references = some r ∧ Text.sameName r.table parent.name = true ∧
      e.sourceColumn = some r.column

/-- An edge stands for a foreign key of its target that refers to its source. -/
def Drawn (tables : List Table) (e : Edge) : Prop :=
  ∃ parent ∈ tables, ∃ child ∈ tables, e.source = parent.id ∧ e.target = child.id ∧
    ∃ c ∈ child.columns, e.Names parent c

/-- Names and ids are unique, keys take no null, and every edge stands for a foreign key. -/
structure Sound (s : Schema) : Prop where
  tableNames : DistinctNames (s.tables.map (·.name))
  columnNames : ∀ t ∈ s.tables, DistinctNames (t.columns.map (·.name))
  tableIds : (s.tables.map (·.id)).Nodup
  columnIds : (columnIds s).Nodup
  edgeIds : (s.edges.map (·.id)).Nodup
  keyNotNull : ∀ t ∈ s.tables, ∀ c ∈ t.columns, c.KeyNotNull
  edges : ∀ e ∈ s.edges, Drawn s.tables e

structure Keeps (t t' : Table) : Prop where
  id : t'.id = t.id
  name : t'.name = t.name
  keys : ∀ c ∈ t.columns, c.isForeignKey = true → c ∈ t'.columns

theorem Keeps.refl (t : Table) : Keeps t t := ⟨rfl, rfl, fun _ member _ => member⟩

def KeepsAll (tables tables' : List Table) : Prop := ∀ t ∈ tables, ∃ t' ∈ tables', Keeps t t'

theorem KeepsAll.refl (tables : List Table) : KeepsAll tables tables :=
  fun t member => ⟨t, member, Keeps.refl t⟩

theorem Edge.Names.isForeignKey {e : Edge} {parent : Table} {c : Column} (h : e.Names parent c) :
    c.isForeignKey = true := by
  obtain ⟨-, r, references, -⟩ := h
  simp [Column.isForeignKey, references]

theorem Edge.Names.renamed {e : Edge} {parent parent' : Table} {c : Column}
    (h : e.Names parent c) (same : parent'.name = parent.name) : e.Names parent' c := by
  obtain ⟨target, r, references, named, source⟩ := h
  exact ⟨target, r, references, by rw [same, named], source⟩

theorem Drawn.kept {tables tables' : List Table} {e : Edge} (drawn : Drawn tables e)
    (keeps : KeepsAll tables tables') : Drawn tables' e := by
  obtain ⟨parent, hparent, child, hchild, source, target, c, hc, names⟩ := drawn
  obtain ⟨parent', hparent', keepsParent⟩ := keeps parent hparent
  obtain ⟨child', hchild', keepsChild⟩ := keeps child hchild
  refine ⟨parent', hparent', child', hchild', ?_, ?_, c, ?_, names.renamed keepsParent.name⟩
  · rw [source, keepsParent.id]
  · rw [target, keepsChild.id]
  · exact keepsChild.keys c hc names.isForeignKey

/-- What an edit may do to a table of a schema: its columns stay but for a foreign key. -/
structure Edit (s : Schema) (t t' : Table) : Prop extends Keeps t t' where
  columnNames : DistinctNames (t'.columns.map (·.name))
  keyNotNull : ∀ c ∈ t'.columns, c.KeyNotNull
  columnIds : ∃ new, (∀ id ∈ new, id ∉ columnIds s) ∧ new.Nodup ∧
    t'.columns.map (·.id) = t.columns.map (·.id) ++ new

theorem keepsAll_replaced {before after : List Table} {t t' : Table} (keeps : Keeps t t') :
    KeepsAll (before ++ t :: after) (before ++ t' :: after) := by
  intro other member
  rcases List.mem_append.mp member with member | member
  · exact ⟨other, List.mem_append_left _ member, Keeps.refl other⟩
  · rcases List.mem_cons.mp member with rfl | member
    · exact ⟨t', by simp, keeps⟩
    · exact ⟨other, by simp [member], Keeps.refl other⟩

theorem mem_replaced {before after : List Table} {t t' other : Table}
    (member : other ∈ before ++ t' :: after) : other = t' ∨ other ∈ before ++ t :: after := by
  simp only [List.mem_append, List.mem_cons] at member ⊢
  tauto

theorem columnIds_replaced {s : Schema} {before after : List Table} {t t' : Table}
    (tables : s.tables = before ++ t :: after) (nodup : (columnIds s).Nodup)
    {new : List String} (free : ∀ id ∈ new, id ∉ columnIds s) (different : new.Nodup)
    (ids : t'.columns.map (·.id) = t.columns.map (·.id) ++ new) :
    ((before ++ t' :: after).flatMap fun t => t.columns.map (·.id)).Nodup := by
  have whole : columnIds s = before.flatMap (fun t => t.columns.map (·.id)) ++
      (t.columns.map (·.id) ++ after.flatMap fun t => t.columns.map (·.id)) := by
    simp [columnIds, tables]
  have moved : ((before ++ t' :: after).flatMap fun t => t.columns.map (·.id)).Perm
      (columnIds s ++ new) := by
    rw [whole, List.flatMap_append, List.flatMap_cons, ids, List.append_assoc, List.append_assoc,
      List.append_assoc]
    exact ((List.perm_append_comm.append_left _).append_left _)
  rw [moved.nodup_iff]
  exact nodup.append different fun id here there => free id there here

theorem Sound.replace {s : Schema} (sound : Sound s) {before after : List Table} {t t' : Table}
    (tables : s.tables = before ++ t :: after) (edit : Edit s t t') {e : Edge}
    (free : e.id ∉ s.edges.map (·.id)) (drawn : Drawn (before ++ t' :: after) e) :
    Sound { s with tables := before ++ t' :: after, edges := s.edges ++ [e] } := by
  have keeps : KeepsAll s.tables (before ++ t' :: after) := by
    rw [tables]
    exact keepsAll_replaced edit.toKeeps
  have names : (before ++ t' :: after).map (·.name) = s.tables.map (·.name) := by
    simp [tables, edit.name]
  have ids : (before ++ t' :: after).map (·.id) = s.tables.map (·.id) := by
    simp [tables, edit.id]
  obtain ⟨new, unused, different, columnIds⟩ := edit.columnIds
  refine ⟨?_, ?_, ?_, columnIds_replaced tables sound.columnIds unused different columnIds, ?_, ?_,
    ?_⟩
  · simpa only [names] using sound.tableNames
  · intro other member
    rcases mem_replaced (t := t) member with rfl | member
    · exact edit.columnNames
    · exact sound.columnNames other (tables ▸ member)
  · simpa only [ids] using sound.tableIds
  · rw [List.map_append]
    exact sound.edgeIds.append (by simp) (by simpa using free)
  · intro other member
    rcases mem_replaced (t := t) member with rfl | member
    · exact edit.keyNotNull
    · exact sound.keyNotNull other (tables ▸ member)
  · intro other member
    rcases List.mem_append.mp member with member | member
    · exact (sound.edges other member).kept keeps
    · rw [List.mem_singleton.mp member]
      exact drawn

theorem Sound.addEmpty {s : Schema} (sound : Sound s) {name id : String}
    (newName : s.table? name = none) (newId : id ∉ s.tables.map (·.id)) :
    Sound { s with tables := s.tables ++ [{ name := name, id := id }] } := by
  have keeps : KeepsAll s.tables (s.tables ++ [{ name := name, id := id }]) :=
    fun t member => ⟨t, List.mem_append_left _ member, Keeps.refl t⟩
  refine ⟨?_, ?_, ?_, ?_, sound.edgeIds, ?_, fun e member => (sound.edges e member).kept keeps⟩
  · exact sound.tableNames.append_new newName
  · intro t member
    rcases List.mem_append.mp member with member | member
    · exact sound.columnNames t member
    · rw [List.mem_singleton.mp member]
      exact List.nodup_nil
  · rw [List.map_append]
    exact sound.tableIds.append (by simp) (by simpa using newId)
  · simpa [Suggestion.columnIds] using sound.columnIds
  · intro t member
    rcases List.mem_append.mp member with member | member
    · exact sound.keyNotNull t member
    · rw [List.mem_singleton.mp member]
      simp

namespace Suggestion

theorem setReference_split {name : String} {columns : List Column} {c : Column}
    (found : columns.find? (fun c => Text.sameName c.name name) = some c) (r : Reference) :
    ∃ before after, columns = before ++ c :: after ∧
      setReference name r columns = before ++ { c with references := some r } :: after := by
  induction columns with
  | nil => cases found
  | cons first rest ih =>
    unfold setReference
    by_cases named : Text.sameName first.name name = true
    · simp only [List.find?_cons, named] at found
      cases found
      exact ⟨[], rest, rfl, by simp [named]⟩
    · simp only [List.find?_cons, named] at found
      obtain ⟨before, after, whole, changed⟩ := ih found
      exact ⟨first :: before, after, by simp [whole], by simp [named, changed]⟩

theorem edit_setReference {s : Schema} (sound : Sound s) {t : Table} (member : t ∈ s.tables)
    {name : String} {c : Column} (found : t.column? name = some c) (free : c.references = none)
    (r : Reference) :
    Edit s t { t with columns := setReference name r t.columns } ∧
      { c with references := some r } ∈ setReference name r t.columns := by
  obtain ⟨before, after, whole, changed⟩ := setReference_split found r
  have names := sound.columnNames t member
  have notNull := sound.keyNotNull t member
  rw [whole] at names notNull
  rw [changed]
  refine ⟨⟨⟨rfl, rfl, ?_⟩, by simpa using names, ?_, [], by simp, List.nodup_nil, by simp [whole]⟩,
    by simp⟩
  · intro other here key
    rw [whole] at here
    have different : other ≠ c := by
      rintro rfl
      simp [Column.isForeignKey, free] at key
    simp only [List.mem_append, List.mem_cons, different, false_or] at here ⊢
    tauto
  · intro other here
    rcases List.mem_append.mp here with here | here
    · exact notNull other (List.mem_append_left _ here)
    · rcases List.mem_cons.mp here with rfl | here
      · exact notNull c (by simp)
      · exact notNull other (by simp [here])

theorem edit_newColumn {s : Schema} (sound : Sound s) {t : Table} (member : t ∈ s.tables)
    {name : String} (missing : t.column? name = none) (key : Column) (r : Reference)
    (primaryKey : Bool) :
    Edit s t { t with columns :=
      t.columns ++ [{ newColumn s name key primaryKey with references := some r }] } := by
  refine ⟨⟨rfl, rfl, fun c here _ => List.mem_append_left _ here⟩, ?_, ?_,
    [freshId "column" (columnIds s)], ?_, by simp, by simp [newColumn]⟩
  · exact (sound.columnNames t member).append_new missing
  · intro c here
    rcases List.mem_append.mp here with here | here
    · exact sound.keyNotNull t member c here
    · rw [List.mem_singleton.mp here]
      intro isKey
      simpa [newColumn] using isKey
  · intro id here
    rw [List.mem_singleton.mp here]
    exact freshId_not_mem "column" (columnIds s)

theorem split_at {α : Type} {list : List α} {i : Nat} {a : α} (h : list[i]? = some a) :
    ∃ before after, list = before ++ a :: after ∧ ∀ b, list.set i b = before ++ b :: after := by
  obtain ⟨inside, rfl⟩ := List.getElem?_eq_some_iff.mp h
  refine ⟨list.take i, list.drop (i + 1), by simp, ?_⟩
  intro b
  simp [List.set_eq_take_append_cons_drop, inside]

theorem edit_linkedColumns {s : Schema} (sound : Sound s) {t : Table} (member : t ∈ s.tables)
    {name : String} (notKey : (t.column? name).filter (·.isForeignKey) = none) (key : Column)
    (r : Reference) (primaryKey : Bool) :
    Edit s t { t with columns := linkedColumns s t name key r primaryKey } ∧
      ∃ c ∈ linkedColumns s t name key r primaryKey,
        c.name = ((t.column? name).map (·.name)).getD name ∧ c.references = some r := by
  unfold linkedColumns
  cases found : t.column? name with
  | none =>
    refine ⟨edit_newColumn sound member found key r primaryKey, ?_⟩
    exact ⟨_, List.mem_append_right _ (List.mem_singleton_self _), rfl, rfl⟩
  | some c =>
    have free : c.references = none := by
      simpa [found, Option.filter_eq_none_iff, Column.isForeignKey] using notKey
    obtain ⟨edit, here⟩ := edit_setReference sound member found free r
    exact ⟨edit, _, here, rfl, rfl⟩

theorem addForeignKey_sound {s : Schema} (sound : Sound s) {source : Table}
    (there : ∃ t ∈ s.tables, t.id = source.id ∧ t.name = source.name) (place : Nat) (link : Link) :
    Sound (addForeignKey s source place link).1 ∧
      KeepsAll s.tables (addForeignKey s source place link).1.tables := by
  unfold addForeignKey
  split
  · exact ⟨sound, KeepsAll.refl _⟩
  · rename_i target inside
    obtain ⟨before, after, whole, replaced⟩ := split_at inside
    have member : target ∈ s.tables := by simp [whole]
    obtain ⟨parent, hparent, parentId, parentName⟩ := there
    simp only
    generalize referencedKey source link.sourceColumn = key
    generalize keyColumnName source key link.targetColumn = name
    split
    · exact ⟨sound, KeepsAll.refl _⟩
    · rename_i notKey
      obtain ⟨edit, c, here, named, references⟩ :=
        edit_linkedColumns sound member notKey key ⟨source.name, key.name⟩ link.primaryKey
      generalize linkedColumns s target name key _ link.primaryKey = columns at edit here ⊢
      rw [replaced]
      have keeps : KeepsAll s.tables (before ++ { target with columns } :: after) := by
        rw [whole]
        exact keepsAll_replaced edit.toKeeps
      obtain ⟨parent', hparent', keepsParent⟩ := keeps parent hparent
      have drawn : Drawn (before ++ { target with columns } :: after)
          { id := freshId "edge" (s.edges.map (·.id)), source := source.id, target := target.id,
            cardinality := link.cardinality, sourceColumn := some key.name,
            targetColumn := some (((target.column? name).map (·.name)).getD name) } := by
        refine ⟨parent', hparent', { target with columns }, by simp, ?_, rfl, c, here, ?_, _,
          references, ?_, rfl⟩
        · simp only [keepsParent.id, parentId]
        · simp only [named]
        · rw [keepsParent.name, parentName]
          exact sameName_self _
      exact ⟨sound.replace whole edit (freshId_not_mem "edge" _) drawn, keeps⟩

theorem addJoinTable_sound {s : Schema} (sound : Sound s) {a b : Table} (ha : a ∈ s.tables)
    (hb : b ∈ s.tables) : Sound (addJoinTable s a b).1 := by
  unfold addJoinTable
  simp only
  split
  · exact sound
  · rename_i missing
    have joined := sound.addEmpty missing (freshId_not_mem "table" (s.tables.map (·.id)))
    obtain ⟨first, keeps⟩ := addForeignKey_sound joined
      ⟨a, List.mem_append_left _ ha, rfl, rfl⟩ s.tables.length { primaryKey := true }
    obtain ⟨b', hb', keepsB⟩ := keeps b (List.mem_append_left _ hb)
    exact (addForeignKey_sound first ⟨b', hb', keepsB.id, keepsB.name⟩ s.tables.length
      { primaryKey := true }).1

theorem applyTo_sound {s : Schema} (sound : Sound s) (suggestion : Suggestion) :
    Sound (suggestion.applyTo s).1 := by
  unfold applyTo
  split
  · rename_i source target place hsource htarget _
    have sourceThere := List.mem_of_find?_eq_some hsource
    have targetThere := List.mem_of_find?_eq_some htarget
    split
    · exact addJoinTable_sound sound sourceThere targetThere
    · exact (addForeignKey_sound sound ⟨source, sourceThere, rfl, rfl⟩ place _).1
  · exact sound

def applyAll (s : Schema) (suggestions : List Suggestion) : Schema :=
  suggestions.foldl (fun s suggestion => (suggestion.applyTo s).1) s

theorem applyAll_sound {s : Schema} (sound : Sound s) (suggestions : List Suggestion) :
    Sound (applyAll s suggestions) := by
  induction suggestions generalizing s with
  | nil => exact sound
  | cons suggestion rest ih => exact ih (applyTo_sound sound suggestion)

end Suggestion

namespace Sql

open Body (ItemReader)

theorem drawn_of_keyEdge {s : Schema} {e : Edge} (member : e ∈ s.keyEdges) : Drawn s.tables e := by
  obtain ⟨child, hchild, inner⟩ := List.mem_flatMap.mp member
  obtain ⟨c, hc, made⟩ := List.mem_filterMap.mp inner
  obtain ⟨r, references, drawn⟩ := Option.bind_eq_some_iff.mp made
  obtain ⟨parent, found, rfl⟩ := Option.map_eq_some_iff.mp drawn
  have named : Text.sameName parent.name r.table = true := by
    simpa using List.find?_some found
  rw [sameName_comm] at named
  exact ⟨parent, List.mem_of_find?_eq_some found, child, hchild, rfl, rfl, c, hc, rfl, r,
    references, named, rfl⟩

theorem WellRead.sound {d : Dialect} {read : ItemReader} {script : String} {s : Schema}
    (h : WellRead d read script s) : Sound s := by
  refine ⟨h.tableNames, h.columnNames, ?_, ?_, ?_, h.keyNotNull, ?_⟩
  · rw [h.tableIds]
    simpa only [Nat.add_comm] using numbered_nodup "table" 1 s.tables.length
  · have ids := h.columnIds
    rw [List.map_flatMap] at ids
    rw [Suggestion.columnIds, ids]
    simpa only [Nat.add_comm] using numbered_nodup "column" 1 _
  · have ids : s.edges.map (·.id) =
        (List.range s.keyEdges.length).map fun i => numbered "edge" (1 + i) := by
      rw [h.edges]
      apply List.ext_getElem
      · simp
      · intro i _ _
        simp [Nat.add_comm]
    rw [ids]
    exact numbered_nodup "edge" 1 _
  · intro e member
    rw [h.edges, List.mem_mapIdx] at member
    obtain ⟨i, inside, rfl⟩ := member
    have drawn := drawn_of_keyEdge (List.getElem_mem inside)
    exact drawn

/-- Whatever is suggested for a schema that was read, it stays sound. -/
theorem edited_sound {d : Dialect} {read : ItemReader} {script : String} {s : Schema}
    (h : (readWith d read script).result = .ok s) (suggestions : List Suggestion) :
    Sound (Suggestion.applyAll s suggestions) := by
  obtain ⟨tables, rfl, makes⟩ := readWith_ok h
  exact Suggestion.applyAll_sound (assemble_wellRead makes).sound suggestions

def someSuggestions : List Suggestion :=
  [{ id := "suggestion-1", source := "A", target := "b", cardinality := .manyToMany },
   { id := "suggestion-2", source := "b", target := "B", cardinality := .oneToOne,
     targetColumn := some "A_ID" },
   { id := "suggestion-3", source := "b", target := "b", cardinality := .oneToOne,
     targetColumn := some "parent" },
   { id := "suggestion-4", source := "b", target := "c", cardinality := .oneToMany }]

theorem openReference_edited_sound :
    Sound (Suggestion.applyAll openReferenceSchema someSuggestions) :=
  edited_sound openReference_read someSuggestions

end Sql

end RelSchema
