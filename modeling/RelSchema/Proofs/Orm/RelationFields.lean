import RelSchema.Orm.Prisma
import RelSchema.Proofs.Orm.Attributes
import RelSchema.Proofs.Orm.ModelNames

namespace RelSchema.Orm.Prisma

theorem getElem?_models (s : Schema) (place : Nat) :
    (models s)[place]? = s.tables[place]?.map fun t => model (relations s) ⟨place, t⟩ := by
  rw [models, List.getElem?_map, getElem?_placed, Option.map_map]
  rfl

def Field.relationNames (f : Field) : List String :=
  f.attributes.filterMap fun
    | .relation name _ => name
    | _ => none

theorem childField_relationNames (list : List Relation) (r : Relation) :
    (childField list r).relationNames = (relationName? list r).toList := by
  unfold childField Field.relationNames
  cases relationName? list r <;> rfl

theorem parentField_relationNames (list : List Relation) (r : Relation) :
    (parentField list r).relationNames = (relationName? list r).toList := by
  unfold parentField Field.relationNames
  cases relationName? list r <;> rfl

def CarriesAt (s : Schema) (place : Nat) (field : String) (relation : Option String) : Prop :=
  ∃ m, (models s)[place]? = some m ∧
    ∃ f ∈ m.fields, f.name = field ∧ f.relationNames = relation.toList

theorem carriesAt_ends {s : Schema} {r : Relation} (member : r ∈ relations s) :
    CarriesAt s r.child.place r.name (relationName? (relations s) r) ∧
      CarriesAt s r.parent.place r.reverseName (relationName? (relations s) r) := by
  have own := (relations_onePerKey s).own r member
  have child := getElem?_models s r.child.place
  have parent := getElem?_models s r.parent.place
  rw [own.child, Option.map_some] at child
  rw [own.parent, Option.map_some] at parent
  constructor
  · refine ⟨_, child, childField (relations s) r, List.mem_append_right _ ?_, rfl,
      childField_relationNames _ r⟩
    exact mem_ends.mpr ⟨r, member, .inl ⟨rfl, rfl⟩⟩
  · refine ⟨_, parent, parentField (relations s) r, List.mem_append_right _ ?_, rfl,
      parentField_relationNames _ r⟩
    exact mem_ends.mpr ⟨r, member, .inr ⟨rfl, rfl⟩⟩

def directed (list : List Relation) (child parent : Nat) : List Relation :=
  list.filter fun r => r.child.place == child && r.parent.place == parent

def between (list : List Relation) (a b : Nat) : List Relation :=
  list.filter fun r =>
    (r.child.place == a && r.parent.place == b) || (r.child.place == b && r.parent.place == a)

section Counts

variable {list : List Relation} {r : Relation} {a b : Nat}

theorem mem_directed :
    r ∈ directed list a b ↔ r ∈ list ∧ r.child.place = a ∧ r.parent.place = b := by
  simp [directed]

theorem mem_between : r ∈ between list a b ↔ r ∈ directed list a b ∨ r ∈ directed list b a := by
  simp [between, directed, and_or_left]

theorem filter_isParallel :
    list.filter (isParallel r) = directed list r.child.place r.parent.place := by
  refine List.filter_congr fun q _ => ?_
  simp only [isParallel, BEq.comm]

theorem relationName?_isSome_iff :
    (relationName? list r).isSome = true ↔ r.child.place = r.parent.place ∨
      1 < (directed list r.child.place r.parent.place).length := by
  rw [relationName?, filter_isParallel]
  simp [Link.isSelf]

theorem relationName?_eq_some {name : String} (named : relationName? list r = some name) :
    name = modelName r.child.item.name ++ "_" ++ r.name := by
  unfold relationName? at named
  split at named
  · exact (Option.some.inj named).symm
  · cases named

theorem named_between_iff :
    (∀ r ∈ between list a b, (relationName? list r).isSome = true) ↔
      a = b ∨ ((directed list a b).length ≠ 1 ∧ (directed list b a).length ≠ 1) := by
  -- Each direction is counted by itself: what the other one holds does not matter.
  have alone {a b : Nat} (different : a ≠ b) (one : (directed list a b).length = 1) :
      ∃ r ∈ directed list a b, (relationName? list r).isSome = false := by
    obtain ⟨r, only⟩ := List.length_eq_one_iff.mp one
    have member : r ∈ directed list a b := only ▸ List.mem_cons_self
    obtain ⟨-, rfl, rfl⟩ := mem_directed.mp member
    refine ⟨r, member, ?_⟩
    rw [Bool.eq_false_iff, ne_eq, relationName?_isSome_iff, one]
    simpa using different
  have several {a b : Nat} {r : Relation} (member : r ∈ directed list a b)
      (more : a = b ∨ (directed list a b).length ≠ 1) :
      (relationName? list r).isSome = true := by
    have some := List.length_pos_of_mem member
    obtain ⟨-, rfl, rfl⟩ := mem_directed.mp member
    rw [relationName?_isSome_iff]
    omega
  constructor
  · intro named
    refine or_iff_not_imp_left.mpr fun different => ⟨fun one => ?_, fun one => ?_⟩
    · obtain ⟨r, member, unnamed⟩ := alone different one
      exact Bool.eq_false_iff.mp unnamed (named r (mem_between.mpr (.inl member)))
    · obtain ⟨r, member, unnamed⟩ := alone (Ne.symm different) one
      exact Bool.eq_false_iff.mp unnamed (named r (mem_between.mpr (.inr member)))
  · intro more r member
    rcases mem_between.mp member with member | member
    · exact several member (more.imp_right And.left)
    · exact several member (more.imp Eq.symm And.right)

end Counts

/-- Two relations of a schema have one name only if they point in opposite directions, between
models of one name, and the children have one name for their parents. -/
theorem relationName?_eq_iff {s : Schema} {r q : Relation} (member : r ∈ relations s)
    (member' : q ∈ relations s) (different : r ≠ q)
    (named : (relationName? (relations s) r).isSome = true)
    (named' : (relationName? (relations s) q).isSome = true) :
    relationName? (relations s) r = relationName? (relations s) q ↔
      r.child.place ≠ q.child.place ∧ modelName r.child.item.name = modelName q.child.item.name ∧
        r.name = q.name := by
  obtain ⟨name, found⟩ := Option.isSome_iff_exists.mp named
  obtain ⟨name', found'⟩ := Option.isSome_iff_exists.mp named'
  rw [found, found', Option.some.injEq, relationName?_eq_some found, relationName?_eq_some found']
  constructor
  · intro same
    obtain ⟨models, names⟩ := modelName_append_inj same
    exact ⟨fun child => different (eq_of_name member member' child names), models, names⟩
  · rintro ⟨-, models, names⟩
    rw [models, names]

/-- The relations between two tables all have names if the tables are one, or if neither direction
has a single one, and only then. The names differ but for relations in opposite directions that
agree in all that a name is made of. Both fields of a relation carry its name. -/
theorem relationNames_between (s : Schema) (a b : Nat) :
    ((∀ r ∈ between (relations s) a b, (relationName? (relations s) r).isSome = true) ↔
      a = b ∨ ((directed (relations s) a b).length ≠ 1 ∧
        (directed (relations s) b a).length ≠ 1)) ∧
    (∀ r ∈ between (relations s) a b, ∀ q ∈ between (relations s) a b, r ≠ q →
      (relationName? (relations s) r).isSome = true →
      (relationName? (relations s) q).isSome = true →
      (relationName? (relations s) r = relationName? (relations s) q ↔
        r.child.place ≠ q.child.place ∧
          modelName r.child.item.name = modelName q.child.item.name ∧ r.name = q.name)) ∧
    ∀ r ∈ between (relations s) a b,
      CarriesAt s r.child.place r.name (relationName? (relations s) r) ∧
        CarriesAt s r.parent.place r.reverseName (relationName? (relations s) r) := by
  have own {r : Relation} (member : r ∈ between (relations s) a b) : r ∈ relations s :=
    List.mem_of_mem_filter member
  refine ⟨named_between_iff, ?_, fun r member => carriesAt_ends (own member)⟩
  intro r member q member' different named named'
  exact relationName?_eq_iff (own member) (own member') different named named'

def keyedTable (name : String) (keys : List (String × String)) : Table where
  name := name
  columns := { name := "id", type := .int, primaryKey := true, nullable := false } ::
    keys.map fun (column, table) => { name := column, type := .int, references := some ⟨table, "id"⟩ }

def letterSchema : Schema :=
  { tables := [keyedTable "users" [],
      keyedTable "letters" [("sender_id", "users"), ("recipient_id", "users")]] }

theorem letterSchema_named :
    (∀ r ∈ between (relations letterSchema) 0 1,
      (relationName? (relations letterSchema) r).isSome = true) ∧
    ∀ r ∈ between (relations letterSchema) 0 1, ∀ q ∈ between (relations letterSchema) 0 1,
      r ≠ q →
        relationName? (relations letterSchema) r ≠ relationName? (relations letterSchema) q := by
  have counts : (directed (relations letterSchema) 0 1).length = 0 ∧
      (directed (relations letterSchema) 1 0).length = 2 := by decide +kernel
  have children : ∀ r ∈ between (relations letterSchema) 0 1, r.child.place = 1 := by
    decide +kernel
  obtain ⟨named, distinct, -⟩ := relationNames_between letterSchema 0 1
  have all := named.mpr (.inr (by omega))
  refine ⟨all, fun r member q member' different same => ?_⟩
  have opposed := (distinct r member q member' different (all r member) (all q member')).mp same
  exact opposed.1 ((children r member).trans (children q member').symm)

/-- Teams have an owner and users a team: two relations between the tables, and none has a name. -/
def teamSchema : Schema :=
  { tables := [keyedTable "users" [("team_id", "teams")],
      keyedTable "teams" [("owner_id", "users")]] }

theorem teamSchema_unnamed :
    (between (relations teamSchema) 0 1).length = 2 ∧
      ∀ r ∈ between (relations teamSchema) 0 1, relationName? (relations teamSchema) r = none := by
  decide +kernel

end RelSchema.Orm.Prisma
