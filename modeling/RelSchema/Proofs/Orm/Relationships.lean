import RelSchema.Proofs.Orm.AttributeNames
import RelSchema.Proofs.Orm.Attributes

namespace RelSchema.Orm.SqlAlchemy

def StandsIn (piece text : String) : Prop := piece.toList <:+: text.toList

theorem StandsIn.trans {a b c : String} (inner : StandsIn a b) (outer : StandsIn b c) :
    StandsIn a c :=
  List.IsInfix.trans inner outer

theorem standsIn_append_left (a b : String) : StandsIn a (a ++ b) := by
  rw [StandsIn, String.toList_append]
  exact (List.prefix_append _ _).isInfix

theorem standsIn_intercalate {a separator : String} {items : List String} (member : a ∈ items) :
    StandsIn a (separator.intercalate items) := by
  rw [StandsIn, String.toList_intercalate]
  induction items with
  | nil => cases member
  | cons first rest ih =>
    cases rest with
    | nil =>
      rw [List.mem_singleton.mp member]
      simp
    | cons second rest =>
      rw [List.map_cons, List.map_cons, List.intercalate_cons_cons, ← List.map_cons]
      rcases List.mem_cons.mp member with rfl | member
      · rw [List.append_assoc]
        exact (List.prefix_append _ _).isInfix
      · exact (ih member).trans (List.suffix_append _ _).isInfix

theorem getElem?_classes (s : Schema) (place : Nat) :
    (classes s)[place]? = s.tables[place]?.map fun t => .ofTable (relations s) ⟨place, t⟩ := by
  rw [classes, List.getElem?_map, getElem?_placed, Option.map_map]
  rfl

theorem standsIn_generate {s : Schema} {c : Class} (member : c ∈ classes s) :
    StandsIn c.text (generate s) := by
  refine .trans (standsIn_intercalate ?_) (standsIn_append_left _ "\n")
  exact List.mem_cons_of_mem _ (List.mem_map_of_mem member)

theorem Class.standsIn_text {c : Class} {e : Relationship} (member : e ∈ c.relationships) :
    StandsIn e.line c.text := by
  apply standsIn_intercalate
  have some : c.relationships.isEmpty = false := by
    rw [List.isEmpty_eq_false_iff]
    exact List.ne_nil_of_mem member
  rw [some]
  apply List.mem_append_right
  exact List.mem_cons_of_mem _ (List.mem_map_of_mem member)

/-- The line of one end stands in the class at a place, and the class in the code. -/
def ShowsAt (s : Schema) (place : Nat) (e : Relationship) : Prop :=
  ∃ c, (classes s)[place]? = some c ∧ e ∈ c.relationships ∧ StandsIn e.line c.text ∧
    StandsIn c.text (generate s)

theorem showsAt_of_mem {s : Schema} {place : Nat} {t : Table} {e : Relationship}
    (here : s.tables[place]? = some t) (inside : e ∈ Class.endsAt (relations s) place) :
    ShowsAt s place e := by
  have found := getElem?_classes s place
  rw [here, Option.map_some] at found
  have member := List.mem_of_getElem? found
  exact ⟨_, found, inside, Class.standsIn_text inside, standsIn_generate member⟩

/-- Each relation has a line in the class of its child and one in the class of its parent. The line
of an end names the other end as it is called, if the name of that one is fit, and only then. -/
theorem relationships_meet (s : Schema) (r : Relation) (member : r ∈ relations s) :
    ShowsAt s r.child.place (.ofChild r) ∧ ShowsAt s r.parent.place (.ofParent r) ∧
      ((Relationship.ofChild r).backPopulates = (Relationship.ofParent r).name ↔
        IsFit r.reverseName) ∧
      ((Relationship.ofParent r).backPopulates = (Relationship.ofChild r).name ↔
        IsFit r.name) := by
  have own := (relations_onePerKey s).own r member
  refine ⟨showsAt_of_mem own.child ?_, showsAt_of_mem own.parent ?_, ?_, ?_⟩
  · exact mem_ends.mpr ⟨r, member, .inl ⟨rfl, rfl⟩⟩
  · exact mem_ends.mpr ⟨r, member, .inr ⟨rfl, rfl⟩⟩
  · exact eq_comm.trans attributeName_eq_self_iff
  · exact eq_comm.trans attributeName_eq_self_iff

def classTable : Table :=
  { name := "classes", columns := [{ name := "id", type := .int, primaryKey := true }] }

def classColumn : Column :=
  { name := "class_id", type := .int, references := some ⟨"classes", "id"⟩ }

def studentTable : Table :=
  { name := "students", columns := [{ name := "id", type := .int, primaryKey := true }, classColumn] }

def schoolSchema : Schema := { tables := [classTable, studentTable] }

def attendance : Relation :=
  { child := ⟨1, studentTable⟩, column := ⟨1, classColumn⟩, parent := ⟨0, classTable⟩,
    parentColumn := "id", name := "class", reverseName := "students" }

theorem attendance_meets :
    attendance ∈ relations schoolSchema ∧ IsFit attendance.reverseName ∧
      ShowsAt schoolSchema 1 (.ofChild attendance) ∧
      ShowsAt schoolSchema 0 (.ofParent attendance) ∧
      (Relationship.ofChild attendance).backPopulates =
        (Relationship.ofParent attendance).name := by
  have member : attendance ∈ relations schoolSchema := by decide +kernel
  have fit : IsFit attendance.reverseName := attributeName_eq_self_iff.mp (by decide +kernel)
  obtain ⟨child, parent, meets, -⟩ := relationships_meet schoolSchema attendance member
  exact ⟨member, fit, child, parent, meets.mpr fit⟩

/-- The class of the parent calls the other end `class`, but there it is called `class_`. -/
theorem attendance_missed :
    attendance ∈ relations schoolSchema ∧
      (Relationship.ofParent attendance).backPopulates ≠
        (Relationship.ofChild attendance).name := by
  constructor <;> decide +kernel

example : (Relationship.ofParent attendance).line =
    "    students = relationship('Student', foreign_keys='Student.class_id', " ++
      "back_populates='class')" := by
  decide +kernel

end RelSchema.Orm.SqlAlchemy
