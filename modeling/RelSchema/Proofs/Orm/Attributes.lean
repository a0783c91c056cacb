import Mathlib.Data.List.Nodup
import Mathlib.Data.List.Pairwise
import RelSchema.Orm.Relation
import RelSchema.Proofs.Ids
import RelSchema.Proofs.Names
import RelSchema.Proofs.Words

namespace RelSchema.Orm

def candidate (name : String) : Nat → String
  | 0 => name
  | n + 1 => s!"{name}_{n + 2}"

theorem candidates_eq (name : String) (count : Nat) :
    candidates name count = (List.range (count + 1)).map (candidate name) := by
  rw [List.range_succ_eq_map, List.map_cons, List.map_map]
  rfl

theorem lower_candidate_injective (name : String) :
    Function.Injective fun n => Text.lower (candidate name n) := by
  have longer (n : Nat) : Text.lower (candidate name (n + 1)) ≠ Text.lower name := by
    intro same
    have lengths := congrArg String.length same
    rw [candidate, Text.lower_numbered, String.length_append, String.length_append] at lengths
    have one : "_".length = 1 := rfl
    omega
  intro m n same
  cases m with
  | zero =>
    cases n with
    | zero => rfl
    | succ n => exact absurd same.symm (longer n)
  | succ m =>
    cases n with
    | zero => exact absurd same (longer m)
    | succ n =>
      simp only [candidate, Text.lower_numbered] at same
      have numbers := repr_injective ((String.append_right_inj _).mp same)
      omega

def IsFirstFree (taken : List String) (name free : String) : Prop :=
  ∃ n, free = candidate name n ∧ Text.lower free ∉ taken ∧
    ∀ m < n, Text.lower (candidate name m) ∈ taken

theorem freeName_isFirstFree (taken : List String) (name : String) :
    IsFirstFree taken name (freeName taken name) := by
  rw [freeName, candidates_eq]
  cases found : ((List.range (taken.length + 1)).map (candidate name)).find?
      fun c => !taken.contains (Text.lower c) with
  | some free =>
    obtain ⟨untaken, n, inside, own, earlier⟩ := List.find?_eq_some_iff_getElem.mp found
    simp only [List.getElem_map, List.getElem_range] at own earlier
    refine ⟨n, own.symm, by simpa using untaken, fun m less => ?_⟩
    simpa using earlier m less
  | none =>
    obtain ⟨n, inside, untaken⟩ := exists_untaken (lower_candidate_injective name) taken
    have member := List.mem_map_of_mem (f := candidate name) (List.mem_range.mpr inside)
    have occupied := List.find?_eq_none.mp found _ member
    simp [untaken] at occupied

example : freeName ["user", "user_3", "user_2"] "User" = "User_4" := by decide +kernel

/-- The names differ from each other, and from the names in lower case that are taken. -/
structure Fresh (names taken : List String) : Prop where
  distinct : DistinctNames names
  untaken : ∀ name ∈ names, Text.lower name ∉ taken

theorem Fresh.cons {name : String} {names taken : List String} (untaken : Text.lower name ∉ taken)
    (rest : Fresh names (Text.lower name :: taken)) : Fresh (name :: names) taken := by
  refine ⟨?_, ?_⟩
  · rw [DistinctNames, List.map_cons, List.nodup_cons]
    refine ⟨fun member => ?_, rest.distinct⟩
    obtain ⟨other, inside, same⟩ := List.mem_map.mp member
    exact rest.untaken other inside (same ▸ List.mem_cons_self)
  · intro other member
    rcases List.mem_cons.mp member with rfl | inside
    · exact untaken
    · exact fun old => rest.untaken other inside (List.mem_cons_of_mem _ old)

namespace Taken

variable {taken : Taken} {place : Nat} {name : String}

theorem length_claim : (taken.claim place name).2.length = taken.length :=
  List.length_modify _ _ _

theorem claim_own (inside : place < taken.length) :
    (taken.claim place name).2.getD place [] =
      Text.lower (taken.claim place name).1 :: taken.getD place [] := by
  simp [claim, List.getD_eq_getElem?_getD, inside]

theorem claim_other {other : Nat} (different : place ≠ other) :
    (taken.claim place name).2.getD other [] = taken.getD other [] := by
  simp [claim, List.getD_eq_getElem?_getD, different]

theorem fresh_claim {other : Nat} {names : List String} (inside : other < taken.length)
    (rest : Fresh names ((taken.claim place name).2.getD other [])) :
    Fresh ((if place = other then [(taken.claim place name).1] else []) ++ names)
      (taken.getD other []) := by
  by_cases own : place = other
  · subst own
    rw [claim_own inside] at rest
    obtain ⟨-, -, untaken, -⟩ := freeName_isFirstFree (taken.getD place []) name
    rw [if_pos rfl]
    exact rest.cons untaken
  · rw [claim_other own] at rest
    rw [if_neg own]
    exact rest

end Taken

def attributesAt (relations : List Relation) (place : Nat) : List String :=
  relations.flatMap fun r =>
    (if r.child.place = place then [r.name] else []) ++
      (if r.parent.place = place then [r.reverseName] else [])

theorem fresh_nameLinks {place : Nat} (list : List Link) {taken : Taken}
    (inside : place < taken.length) :
    Fresh (attributesAt (nameLinks taken list) place) (taken.getD place []) := by
  induction list generalizing taken with
  | nil => exact ⟨List.nodup_nil, fun _ member => by cases member⟩
  | cons l rest ih =>
    have inside' : place < (taken.claim l.child.place l.preferredName).2.length := by
      rwa [Taken.length_claim]
    rw [nameLinks, attributesAt, List.flatMap_cons, List.append_assoc]
    apply Taken.fresh_claim inside
    apply Taken.fresh_claim inside'
    apply ih
    rwa [Taken.length_claim]

section Keys

theorem mem_placed {α : Type} {list : List α} {a : Placed α} :
    a ∈ placed list ↔ list[a.place]? = some a.item := by
  rw [placed, List.mem_mapIdx]
  constructor
  · rintro ⟨i, inside, rfl⟩
    exact List.getElem?_eq_getElem inside
  · intro own
    obtain ⟨inside, same⟩ := List.getElem?_eq_some_iff.mp own
    exact ⟨a.place, inside, by rw [same]⟩

theorem placed_places {α : Type} (list : List α) :
    (placed list).map (·.place) = List.range list.length := by
  apply List.ext_getElem
  · simp [placed]
  · intro i first second
    simp [placed]

def keyPlaces (key : Placed Table × Placed Column × Reference) : Nat × Nat :=
  (key.1.place, key.2.1.place)

theorem mem_foreignKeys {s : Schema} {child : Placed Table} {column : Placed Column}
    {r : Reference} :
    (child, column, r) ∈ foreignKeys s ↔ s.tables[child.place]? = some child.item ∧
      child.item.columns[column.place]? = some column.item ∧ column.item.references = some r := by
  simp only [foreignKeys, List.mem_flatMap, List.mem_filterMap, Option.map_eq_some_iff,
    Prod.mk.injEq, mem_placed]
  constructor
  · rintro ⟨t, table, c, own, _, refers, rfl, rfl, rfl⟩
    exact ⟨table, own, refers⟩
  · rintro ⟨table, own, refers⟩
    exact ⟨child, table, column, own, r, refers, rfl, rfl, rfl⟩

theorem keysOf_nodup (child : Placed Table) (columns : List Column) :
    (((placed columns).filterMap fun column =>
      column.item.references.map fun r => (child, column, r)).map keyPlaces).Nodup := by
  have within (list : List (Placed Column)) :
      ((list.filterMap fun column => column.item.references.map fun r => (child, column, r)).map
        keyPlaces).Sublist (list.map fun column => (child.place, column.place)) := by
    induction list with
    | nil => exact .slnil
    | cons column rest ih =>
      cases refers : column.item.references with
      | none => simpa [refers] using ih.cons _
      | some r => simpa [refers, keyPlaces] using ih
  have all : (placed columns).map (fun column => (child.place, column.place)) =
      (List.range columns.length).map (child.place, ·) := by
    rw [← placed_places, List.map_map]
    rfl
  refine (within (placed columns)).nodup (all ▸ ?_)
  exact List.nodup_range.map fun _ _ same => (Prod.mk.inj same).2

theorem foreignKeys_nodup (s : Schema) : ((foreignKeys s).map keyPlaces).Nodup := by
  rw [foreignKeys, List.map_flatMap, List.nodup_flatMap]
  refine ⟨fun child _ => keysOf_nodup child child.item.columns, ?_⟩
  have apart : (placed s.tables).Pairwise fun a b => a.place ≠ b.place := by
    have places : ((placed s.tables).map (·.place)).Nodup := by
      rw [placed_places]
      exact List.nodup_range
    exact List.pairwise_map.mp places
  refine apart.imp fun {a b} different => ?_
  have first {child : Placed Table} {key : Nat × Nat}
      (member : key ∈ ((placed child.item.columns).filterMap fun column =>
        column.item.references.map fun r => (child, column, r)).map keyPlaces) :
      key.1 = child.place := by
    simp only [List.mem_map, List.mem_filterMap, Option.map_eq_some_iff] at member
    obtain ⟨_, ⟨_, _, _, _, rfl⟩, rfl⟩ := member
    rfl
  exact fun key left right => different ((first left).symm.trans (first right))

end Keys

def LinksAt (s : Schema) (table column : Nat) : Prop :=
  ∃ t c r, s.tables[table]? = some t ∧ t.columns[column]? = some c ∧ c.references = some r ∧
    ∃ parent ∈ s.tables, Text.lower parent.name = Text.lower r.table

/-- The link is what a foreign key of the schema says: its parent is the first table of the name. -/
structure Link.IsOf (l : Link) (s : Schema) : Prop where
  child : s.tables[l.child.place]? = some l.child.item
  column : l.child.item.columns[l.column.place]? = some l.column.item
  parent : s.tables[l.parent.place]? = some l.parent.item
  refers : ∃ name, l.column.item.references = some ⟨name, l.parentColumn⟩ ∧
    Text.lower l.parent.item.name = Text.lower name ∧
    ∀ i < l.parent.place, ∀ t, s.tables[i]? = some t → Text.lower t.name ≠ Text.lower name

theorem parent?_eq_some {s : Schema} {name : String} {parent : Placed Table} :
    parent? s name = some parent ↔ s.tables[parent.place]? = some parent.item ∧
      Text.lower parent.item.name = Text.lower name ∧
      ∀ i < parent.place, ∀ t, s.tables[i]? = some t → Text.lower t.name ≠ Text.lower name := by
  have length : (placed s.tables).length = s.tables.length := List.length_mapIdx
  rw [parent?, List.find?_eq_some_iff_getElem, sameName_iff]
  constructor
  · rintro ⟨same, i, inside, rfl, earlier⟩
    simp only [placed, List.getElem_mapIdx] at same earlier ⊢
    refine ⟨by simp, same, fun j less t here => ?_⟩
    obtain ⟨_, rfl⟩ := List.getElem?_eq_some_iff.mp here
    have other := earlier j less
    simpa [Text.sameName] using other
  · rintro ⟨own, same, earlier⟩
    obtain ⟨inside, here⟩ := List.getElem?_eq_some_iff.mp own
    refine ⟨same, parent.place, length ▸ inside, by simp [placed, here], fun j less => ?_⟩
    have other := earlier j less _ (List.getElem?_eq_getElem (by omega))
    simpa [placed, Text.sameName] using other

theorem parent?_isSome {s : Schema} {name : String} :
    (parent? s name).isSome = true ↔
      ∃ parent ∈ s.tables, Text.lower parent.name = Text.lower name := by
  rw [parent?, List.find?_isSome]
  simp only [sameName_iff]
  constructor
  · rintro ⟨parent, member, same⟩
    exact ⟨parent.item, List.mem_of_getElem? (mem_placed.mp member), same⟩
  · rintro ⟨t, member, same⟩
    obtain ⟨i, here⟩ := List.getElem?_of_mem member
    exact ⟨⟨i, t⟩, mem_placed.mpr here, same⟩

theorem mem_links {s : Schema} {l : Link} : l ∈ links s ↔ l.IsOf s := by
  simp only [links, List.mem_filterMap, Option.map_eq_some_iff]
  constructor
  · rintro ⟨⟨child, column, r⟩, member, parent, found, rfl⟩
    obtain ⟨table, own, refers⟩ := mem_foreignKeys.mp member
    obtain ⟨here, same, earlier⟩ := parent?_eq_some.mp found
    exact ⟨table, own, here, r.table, refers, same, earlier⟩
  · rintro ⟨table, own, here, name, refers, same, earlier⟩
    exact ⟨(l.child, l.column, ⟨name, l.parentColumn⟩), mem_foreignKeys.mpr ⟨table, own, refers⟩,
      l.parent, parent?_eq_some.mpr ⟨here, same, earlier⟩, rfl⟩

def Link.places (l : Link) : Nat × Nat := (l.child.place, l.column.place)

theorem filterMap_sublist {α β γ : Type} {f : α → Option β} {key : α → γ} {place : β → γ}
    (keeps : ∀ a b, f a = some b → place b = key a) (list : List α) :
    ((list.filterMap f).map place).Sublist (list.map key) := by
  induction list with
  | nil => exact .slnil
  | cons a rest ih =>
    cases found : f a with
    | none => simpa [found] using ih.cons _
    | some b => simpa [found, keeps a b found] using ih

theorem links_nodup (s : Schema) : ((links s).map Link.places).Nodup := by
  refine (filterMap_sublist (fun key l found => ?_) (foreignKeys s)).nodup (foreignKeys_nodup s)
  obtain ⟨parent, -, rfl⟩ := Option.map_eq_some_iff.mp found
  rfl

theorem mem_links_places {s : Schema} {table column : Nat} :
    (table, column) ∈ (links s).map Link.places ↔ LinksAt s table column := by
  simp only [List.mem_map, mem_links, Link.places, Prod.mk.injEq]
  constructor
  · rintro ⟨l, own, rfl, rfl⟩
    obtain ⟨name, refers, same, -⟩ := own.refers
    exact ⟨_, _, _, own.child, own.column, refers, _, List.mem_of_getElem? own.parent, same⟩
  · rintro ⟨t, c, r, here, own, refers, exists_parent⟩
    obtain ⟨parent, found⟩ := Option.isSome_iff_exists.mp (parent?_isSome.mpr exists_parent)
    obtain ⟨place, same, earlier⟩ := parent?_eq_some.mp found
    exact ⟨⟨⟨table, t⟩, ⟨column, c⟩, parent, r.column⟩,
      ⟨here, own, place, r.table, refers, same, earlier⟩, rfl, rfl⟩

theorem nameLinks_links (list : List Link) (taken : Taken) :
    (nameLinks taken list).map (·.toLink) = list := by
  induction list generalizing taken with
  | nil => rfl
  | cons l rest ih => rw [nameLinks, List.map_cons, ih]

/-- Some relations stand for the foreign keys to tables of a schema, each for one. -/
structure OnePerKey (s : Schema) (relations : List Relation) : Prop where
  own : ∀ r ∈ relations, r.toLink.IsOf s
  once : (relations.map fun r => r.places).Nodup
  all : ∀ table column, (table, column) ∈ relations.map (fun r => r.places) ↔
    LinksAt s table column

theorem relations_onePerKey (s : Schema) : OnePerKey s (relations s) := by
  have toLinks : (relations s).map (·.toLink) = links s := nameLinks_links _ _
  have places : (relations s).map (fun r => r.places) = (links s).map Link.places := by
    rw [← toLinks, List.map_map]
    rfl
  refine ⟨fun r member => ?_, ?_, fun table column => ?_⟩
  · exact mem_links.mp (toLinks ▸ List.mem_map_of_mem member)
  · rw [places]
    exact links_nodup s
  · rw [places]
    exact mem_links_places

theorem getElem?_placed {α : Type} (list : List α) (place : Nat) :
    (placed list)[place]? = list[place]?.map (.mk place) := by
  simp [placed]

theorem getElem?_taken (tables : List Table) (place : Nat) :
    (Taken.ofTables tables)[place]? =
      tables[place]?.map fun t => t.columns.map fun c => Text.lower c.name := by
  simp [Taken.ofTables]

theorem attributesAt_fresh {s : Schema} {place : Nat} {t : Table}
    (here : s.tables[place]? = some t) :
    Fresh (attributesAt (relations s) place) (t.columns.map fun c => Text.lower c.name) := by
  have names := getElem?_taken s.tables place
  rw [here, Option.map_some] at names
  have inside := (List.getElem?_eq_some_iff.mp names).1
  have fresh := fresh_nameLinks (links s) inside
  rwa [List.getD_eq_getElem?_getD, names, Option.getD_some] at fresh

section Ends

variable {α β : Type} {list : List Relation} {place : Nat} {child parent : Relation → α}

theorem mem_ends {a : α} :
    (a ∈ list.flatMap fun r =>
      (if r.child.place = place then [child r] else []) ++
        (if r.parent.place = place then [parent r] else [])) ↔
      ∃ r ∈ list, r.child.place = place ∧ a = child r ∨ r.parent.place = place ∧ a = parent r := by
  simp only [List.mem_flatMap, List.mem_append, List.mem_ite_nil_right, List.mem_singleton]

theorem map_ends (f : α → β) :
    (list.flatMap fun r =>
      (if r.child.place = place then [child r] else []) ++
        (if r.parent.place = place then [parent r] else [])).map f =
      list.flatMap fun r =>
        (if r.child.place = place then [f (child r)] else []) ++
          (if r.parent.place = place then [f (parent r)] else []) := by
  rw [List.map_flatMap]
  refine List.flatMap_congr fun r _ => ?_
  rw [List.map_append, apply_ite (List.map f), apply_ite (List.map f)]
  rfl

end Ends

theorem eq_of_mem_flatMap {α β : Type} {f : α → List β} {list : List α}
    (nodup : (list.flatMap f).Nodup) {a a' : α} (member : a ∈ list) (member' : a' ∈ list) {b : β}
    (inside : b ∈ f a) (inside' : b ∈ f a') : a = a' := by
  by_contra different
  have symmetric : Std.Symm (Function.onFun List.Disjoint f) := ⟨fun _ _ => List.disjoint_symm⟩
  have apart := (List.nodup_flatMap.mp nodup).2
  exact apart.forall member member' different inside inside'

theorem eq_of_name {s : Schema} {r q : Relation} (member : r ∈ relations s)
    (member' : q ∈ relations s) (child : r.child.place = q.child.place)
    (name : r.name = q.name) : r = q := by
  have here := ((relations_onePerKey s).own r member).child
  have nodup : (attributesAt (relations s) r.child.place).Nodup :=
    (attributesAt_fresh here).distinct.of_map
  exact eq_of_mem_flatMap nodup member member' (b := r.name) (by simp) (by simp [child, name])

/-- There is one relation for every foreign key to a table of the schema; its attributes have the
first names that are free, which differ from the other attributes and the columns of each table. -/
theorem relations_attributes (s : Schema) :
    OnePerKey s (relations s) ∧
      (∀ taken name, IsFirstFree taken name (freeName taken name)) ∧
      ∀ place : Fin s.tables.length,
        Fresh (attributesAt (relations s) place)
          (s.tables[place].columns.map fun c => Text.lower c.name) := by
  refine ⟨relations_onePerKey s, freeName_isFirstFree, fun place => ?_⟩
  have names : (Taken.ofTables s.tables).getD place [] =
      s.tables[place].columns.map fun c => Text.lower c.name := by
    simp [Taken.ofTables, List.getD_eq_getElem?_getD]
  have inside : place < (Taken.ofTables s.tables).length := by simp [Taken.ofTables]
  rw [← names]
  exact fresh_nameLinks (links s) inside

end RelSchema.Orm
