import RelSchema.Proofs.Suggestion.Linking
import RelSchema.Suggestion.Structure

namespace RelSchema

structure Schema.Apart (s : Schema) : Prop extends s.NamesDiffer where
  ids : (s.tables.map (·.id)).Nodup

namespace Suggestion

theorem mem_pairs {α : Type} {list : List α} {a b : α} (member : (a, b) ∈ pairs list) :
    a ∈ list ∧ b ∈ list := by
  induction list with
  | nil => contradiction
  | cons first rest ih =>
    rcases List.mem_append.mp member with here | later
    · obtain ⟨other, inside, same⟩ := List.mem_map.mp here
      obtain ⟨rfl, rfl⟩ := Prod.mk.inj same
      exact ⟨List.mem_cons_self, List.mem_cons_of_mem _ inside⟩
    · have both := ih later
      exact ⟨List.mem_cons_of_mem _ both.1, List.mem_cons_of_mem _ both.2⟩

structure Joins (x : Suggestion) (s : Schema) (a b : Table) : Prop where
  first_mem : a ∈ s.tables
  second_mem : b ∈ s.tables
  source : x.source = a.name
  target : x.target = b.name
  cardinality : x.cardinality = .manyToMany
  unjoined : isJoined s a b = false

structure Refers (x : Suggestion) (s : Schema) (child parent : Table) : Prop where
  places : ∃ i j : Nat, i ≠ j ∧ s.tables[i]? = some child ∧ s.tables[j]? = some parent
  source : x.source = parent.name
  target : x.target = child.name
  cardinality : x.cardinality = .oneToMany
  unconnected : connected s child parent = false

theorem Refers.child_mem {x : Suggestion} {s : Schema} {child parent : Table}
    (refers : x.Refers s child parent) : child ∈ s.tables := by
  obtain ⟨_, _, -, inside, -⟩ := refers.places
  exact List.mem_of_getElem? inside

theorem Refers.parent_mem {x : Suggestion} {s : Schema} {child parent : Table}
    (refers : x.Refers s child parent) : parent ∈ s.tables := by
  obtain ⟨_, _, -, -, inside⟩ := refers.places
  exact List.mem_of_getElem? inside

theorem Refers.ids_differ {x : Suggestion} {s : Schema} {child parent : Table}
    (refers : x.Refers s child parent) (ids : (s.tables.map (·.id)).Nodup) :
    child.id ≠ parent.id := by
  intro same
  obtain ⟨i, j, different, hchild, hparent⟩ := refers.places
  have childId : (s.tables.map (·.id))[i]? = some child.id := by
    rw [List.getElem?_map, hchild]
    rfl
  have parentId : (s.tables.map (·.id))[j]? = some parent.id := by
    rw [List.getElem?_map, hparent]
    rfl
  have inside : i < (s.tables.map (·.id)).length := (List.getElem?_eq_some_iff.mp childId).1
  exact different ((List.getElem?_inj inside ids).mp (by rw [childId, parentId, same]))

theorem joins_of_ofPair? {s : Schema} {a b : Table} {x : Suggestion}
    (pair : (a, b) ∈ pairs s.tables) (made : ofPair? s a b = some x) : x.Joins s a b := by
  unfold ofPair? at made
  split at made
  · rename_i clear
    obtain rfl := Option.some.inj made
    simp only [Bool.and_eq_true, Bool.not_eq_true'] at clear
    exact ⟨(mem_pairs pair).1, (mem_pairs pair).2, rfl, rfl, rfl, clear.1.2⟩
  · contradiction

theorem refers_of_lexical {s : Schema} {child parent : Table} {i j : Nat} {x : Suggestion}
    (hchild : (child, i) ∈ placed s.tables) (hparent : (parent, j) ∈ placed s.tables)
    (made : (if i ≠ j ∧ embeds child parent ∧ !connected s child parent then
      some (lexical child parent) else none) = some x) : x.Refers s child parent := by
  split at made
  · rename_i clear
    obtain rfl := Option.some.inj made
    obtain ⟨different, -, apart⟩ := clear
    rw [placed, List.mem_zipIdx_iff_getElem?] at hchild hparent
    exact ⟨⟨i, j, different, hchild, hparent⟩, rfl, rfl, rfl, by simpa using apart⟩
  · contradiction

theorem joins_or_refers {s : Schema} {x : Suggestion} (member : x ∈ fromTableNames s) :
    (∃ a b, x.Joins s a b) ∨ ∃ child parent, x.Refers s child parent := by
  obtain ⟨y, inside, id, rfl⟩ := mem_number member
  rcases List.mem_append.mp inside with pair | word
  · obtain ⟨⟨a, b⟩, here, made⟩ := List.mem_filterMap.mp pair
    exact .inl ⟨a, b, { joins_of_ofPair? here made with }⟩
  · obtain ⟨⟨child, i⟩, hchild, word⟩ := List.mem_flatMap.mp word
    obtain ⟨⟨parent, j⟩, hparent, made⟩ := List.mem_filterMap.mp word
    exact .inr ⟨child, parent, { refers_of_lexical hchild hparent made with }⟩

def head (t : Table) : String × String := (t.name, t.id)

def keyInPlace? (source target : Table) (link : Link) : Option Column :=
  (target.column? (keyColumnName source (referencedKey source link.sourceColumn)
    link.targetColumn)).filter (·.isForeignKey)

theorem addForeignKey_heads (s : Schema) (source : Table) (place : Nat) (link : Link) :
    (addForeignKey s source place link).1.tables.map head = s.tables.map head := by
  unfold addForeignKey
  split
  · rfl
  · rename_i target inside
    obtain ⟨before, after, tables, replaced⟩ := split_at inside
    simp only
    split
    · rfl
    · simp only [replaced]
      rw [tables]
      simp [head]

theorem addForeignKey_edge {s : Schema} {source target : Table} {place : Nat} {link : Link}
    (inside : s.tables[place]? = some target) (free : keyInPlace? source target link = none) :
    ∃ e ∈ (addForeignKey s source place link).1.edges,
      e.source = source.id ∧ e.target = target.id := by
  rw [keyInPlace?] at free
  simp only [addForeignKey, inside, free]
  exact ⟨_, List.mem_append_right _ (List.mem_singleton_self _), rfl, rfl⟩

theorem connected_of_edge {s : Schema} {child parent : Table} {e : Edge} (member : e ∈ s.edges)
    (source : e.source = parent.id) (target : e.target = child.id)
    (different : child.id ≠ parent.id) : connected s child parent = true := by
  have between : e ∈ s.edgesBetween child parent := by
    rw [Schema.edgesBetween, List.mem_filter]
    simp [source, target, different.symm, member]
  have some : (s.edgesBetween child parent).isEmpty = false := by
    rw [List.isEmpty_eq_false_iff]
    exact List.ne_nil_of_mem between
  simp [connected, some]

def joiningName (s : Schema) (a b : Table) : String :=
  ((s.table? (joinTableName a b)).map (·.name)).getD (joinTableName a b)

theorem addJoinTable_joined (s : Schema) (a b : Table) :
    ∃ t ∈ (addJoinTable s a b).1.tables, t.name = joiningName s a b := by
  unfold addJoinTable joiningName
  simp only
  cases found : s.table? (joinTableName a b) with
  | some t => exact ⟨t, List.mem_of_find?_eq_some found, rfl⟩
  | none =>
    simp only [Option.map_none, Option.getD_none]
    generalize joined : ({ s with tables := s.tables ++ [_] } : Schema) = larger
    have heads := (addForeignKey_heads (addForeignKey larger a s.tables.length
      { primaryKey := true }).1 b s.tables.length { primaryKey := true }).trans
        (addForeignKey_heads larger a s.tables.length { primaryKey := true })
    have new : (joinTableName a b, freshId "table" (s.tables.map (·.id))) ∈
        larger.tables.map head := by
      simp [← joined, head]
    rw [← heads] at new
    obtain ⟨t, member, same⟩ := List.mem_map.mp new
    exact ⟨t, member, congrArg Prod.fst same⟩

/-- Whether a suggestion makes a difference that is noticed: the foreign key is not there already,
or the table that joins the two has a name by which it is looked for. -/
def TakesEffect (x : Suggestion) (s : Schema) : Prop :=
  ∀ source ∈ s.table? x.source, ∀ target ∈ s.table? x.target,
    if x.cardinality = .manyToMany then joiningName s source target ∈ joinNames source target
    else keyInPlace? source target
      { sourceColumn := x.sourceColumn, targetColumn := x.targetColumn } = none

instance (x : Suggestion) (s : Schema) : Decidable (x.TakesEffect s) :=
  inferInstanceAs (Decidable (∀ _ ∈ s.table? x.source, ∀ _ ∈ s.table? x.target, ite _ _ _))

def Repeats (x y : Suggestion) : Prop :=
  x.source = y.source ∧ x.target = y.target ∧ x.cardinality = y.cardinality

instance (x y : Suggestion) : Decidable (x.Repeats y) := inferInstanceAs (Decidable (_ ∧ _ ∧ _))

theorem joined_settles {s : Schema} (apart : s.Apart) {x : Suggestion} {a b : Table}
    (joins : x.Joins s a b) (effect : x.TakesEffect s) :
    ∀ y ∈ fromTableNames (x.applyTo s).1, ¬ y.Repeats x := by
  obtain ⟨first, second, -⟩ :=
    ends_found apart.tables joins.first_mem joins.second_mem joins.source joins.target
  have known := effect a first b second
  rw [if_pos joins.cardinality] at known
  obtain ⟨t, member, named⟩ := addJoinTable_joined s a b
  rw [applyTo_joinTable apart.tables joins.first_mem joins.second_mem joins.source joins.target
    joins.cardinality]
  rintro y again ⟨source, target, cardinality⟩
  rcases joins_or_refers again with ⟨a', b', joins'⟩ | ⟨child, parent, refers⟩
  · have names : joinNames a' b' = joinNames a b := by
      have firstName : a'.name = a.name := by rw [← joins'.source, source, joins.source]
      have secondName : b'.name = b.name := by rw [← joins'.target, target, joins.target]
      rw [joinNames, joinNames, firstName, secondName]
    have joined : isJoined (addJoinTable s a b).1 a' b' = true := by
      rw [isJoined, List.any_eq_true, names]
      exact ⟨t, member, by simpa [named] using known⟩
    rw [joins'.unjoined] at joined
    contradiction
  · rw [refers.cardinality, joins.cardinality] at cardinality
    contradiction

theorem id_of_name {s r : Schema} (apart : s.Apart)
    (heads : r.tables.map head = s.tables.map head) {t t' : Table} (member : t ∈ s.tables)
    (member' : t' ∈ r.tables) (named : t'.name = t.name) : t'.id = t.id := by
  have inside : head t' ∈ s.tables.map head := heads ▸ List.mem_map_of_mem member'
  obtain ⟨old, here, same⟩ := List.mem_map.mp inside
  obtain ⟨name, id⟩ := Prod.mk.inj same
  have own : old = t := apart.tables.eq_of_sameName here member
    (by rw [name, named, sameName_self])
  rw [← id, own]

theorem linked_settles {s : Schema} (apart : s.Apart) {x : Suggestion} {child parent : Table}
    (refers : x.Refers s child parent) (effect : x.TakesEffect s) :
    ∀ y ∈ fromTableNames (x.applyTo s).1, ¬ y.Repeats x := by
  obtain ⟨first, second, -⟩ :=
    ends_found apart.tables refers.parent_mem refers.child_mem refers.source refers.target
  obtain ⟨place, inside, applied⟩ := applyTo_foreignKey apart.tables refers.parent_mem
    refers.child_mem refers.source refers.target refers.cardinality
  have free := effect parent first child second
  rw [if_neg (by simp [refers.cardinality])] at free
  have heads := addForeignKey_heads s parent place
    { sourceColumn := x.sourceColumn, targetColumn := x.targetColumn }
  obtain ⟨e, drawn, source, target⟩ := addForeignKey_edge inside free
  rw [← applied] at heads drawn
  -- Were the suggestion made again, the edge would join the tables it is about.
  rintro y again ⟨sameSource, sameTarget, cardinality⟩
  rcases joins_or_refers again with ⟨a, b, joins⟩ | ⟨child', parent', refers'⟩
  · rw [joins.cardinality, refers.cardinality] at cardinality
    contradiction
  · have childId := id_of_name apart heads refers.child_mem refers'.child_mem
      (by rw [← refers'.target, sameTarget, refers.target])
    have parentId := id_of_name apart heads refers.parent_mem refers'.parent_mem
      (by rw [← refers'.source, sameSource, refers.source])
    have different : child'.id ≠ parent'.id := by
      rw [childId, parentId]
      exact refers.ids_differ apart.ids
    have linked := connected_of_edge drawn (source.trans parentId.symm) (target.trans childId.symm)
      different
    rw [refers'.unconnected] at linked
    contradiction

/-- A foreign key that is there already is left alone, so the suggestion is made again. -/
theorem repeated_of_keyInPlace {s : Schema} (apart : s.Apart) {x : Suggestion}
    (member : x ∈ fromTableNames s) {child parent : Table} (refers : x.Refers s child parent)
    {c : Column} (taken : keyInPlace? parent child
      { sourceColumn := x.sourceColumn, targetColumn := x.targetColumn } = some c) :
    x ∈ fromTableNames (x.applyTo s).1 := by
  obtain ⟨place, inside, applied⟩ := applyTo_foreignKey apart.tables refers.parent_mem
    refers.child_mem refers.source refers.target refers.cardinality
  rw [keyInPlace?] at taken
  rw [applied]
  simp only [addForeignKey, inside, taken]
  exact member

/-- A suggestion that makes a difference is not made again. -/
theorem applied_not_repeated {s : Schema} (apart : s.Apart) {x : Suggestion}
    (member : x ∈ fromTableNames s) (effect : x.TakesEffect s) :
    ∀ y ∈ fromTableNames (x.applyTo s).1, ¬ y.Repeats x := by
  rcases joins_or_refers member with ⟨a, b, joins⟩ | ⟨child, parent, refers⟩
  · exact joined_settles apart joins effect
  · exact linked_settles apart refers effect

def namedTable (name : String) (columns : List Column) : Table := { name, columns, id := name }

def idColumn : Column := { name := "id", type := .int, primaryKey := true }

def courseSchema : Schema :=
  { tables := [namedTable "students" [idColumn], namedTable "courses" [idColumn]] }

def courseSuggestion : Suggestion :=
  { manyToMany (namedTable "students" [idColumn]) (namedTable "courses" [idColumn]) with
    id := "suggestion-1" }

theorem courseSuggestion_not_repeated :
    courseSuggestion ∈ fromTableNames courseSchema ∧
      ∀ y ∈ fromTableNames (courseSuggestion.applyTo courseSchema).1,
        ¬ y.Repeats courseSuggestion := by
  have apart : courseSchema.Apart := ⟨⟨by decide +kernel, by decide +kernel⟩, by decide +kernel⟩
  have member : courseSuggestion ∈ fromTableNames courseSchema := by decide +kernel
  exact ⟨member, applied_not_repeated apart member (by decide +kernel)⟩

def takenKeySchema : Schema :=
  { tables :=
      [namedTable "user" [idColumn], namedTable "people" [idColumn],
       namedTable "login_users" [idColumn,
         { name := "user_id", type := .int, references := some ⟨"people", "id"⟩ }]] }

def categorySchema : Schema :=
  { tables := [namedTable "categories" [idColumn], namedTable "products" [idColumn]] }

theorem some_repeated :
    (takenKeySchema.Apart ∧ ∃ x ∈ fromTableNames takenKeySchema,
      ∃ y ∈ fromTableNames (x.applyTo takenKeySchema).1, y.Repeats x) ∧
    categorySchema.Apart ∧ ∃ x ∈ fromTableNames categorySchema,
      ∃ y ∈ fromTableNames (x.applyTo categorySchema).1, y.Repeats x :=
  ⟨⟨⟨⟨by decide +kernel, by decide +kernel⟩, by decide +kernel⟩, by decide +kernel⟩,
    ⟨⟨by decide +kernel, by decide +kernel⟩, by decide +kernel⟩, by decide +kernel⟩

end Suggestion

end RelSchema
