import RelSchema.Proofs.Orm.AttributeNames
import RelSchema.Proofs.Orm.RelationFields

namespace RelSchema.Orm.Prisma

section FieldNames

variable {name : String}

def IsKept (name : String) : Prop :=
  isName name = true ∨
    (∀ c ∈ name.toList, Text.isWordChar c = true) ∧ ∃ c, name.toList.head? = some c ∧ c ≠ '_'

theorem reservedWords_isName : ∀ w ∈ SqlAlchemy.reservedWords, isName w = true := by decide +kernel

theorem reservedWords_start : ∀ w ∈ SqlAlchemy.reservedWords, w.toList.head? ≠ some '_' := by
  decide +kernel

theorem fieldName_isKept (column : String) : IsKept (fieldName column) := by
  unfold fieldName
  split
  · rename_i kept
    exact .inl kept
  · dsimp only
    split
    · exact .inl (by decide)
    · rename_i some
      rw [IsKept, String.toList_ofList]
      have letters : (SqlAlchemy.attributeName column).toList.dropWhile (· == '_') ≠ [] := by
        simpa using some
      refine .inr ⟨fun c member => ?_, _, List.head?_eq_some_head letters, ?_⟩
      · exact (SqlAlchemy.attributeName_isFit column).words c
          ((List.dropWhile_sublist _).subset member)
      · simpa using List.head_dropWhile_not (· == '_') letters

theorem dropWhile_attributeName {c : Char} (other : isName name = false)
    (words : ∀ c ∈ name.toList, Text.isWordChar c = true) (head : name.toList.head? = some c)
    (start : c ≠ '_') :
    (SqlAlchemy.attributeName name).toList.dropWhile (· == '_') = name.toList := by
  obtain ⟨rest, chars⟩ := List.head?_eq_some_iff.mp head
  have stops : (c :: rest).dropWhile (· == '_') = c :: rest :=
    List.dropWhile_cons_of_neg (by simpa using start)
  by_cases digit : Text.isDigit c = true
  · have free : String.ofList ('_' :: c :: rest) ∉ SqlAlchemy.reservedWords := fun reserved =>
      reservedWords_start _ reserved (by rw [String.toList_ofList]; rfl)
    rw [SqlAlchemy.attributeName_eq, SqlAlchemy.spelled_of_words words, chars, SqlAlchemy.started,
      if_pos digit, if_neg (by simpa using free), String.toList_ofList]
    exact (List.dropWhile_cons_of_pos (by decide)).trans stops
  · have fit : SqlAlchemy.IsFit name := by
      refine ⟨words, ⟨c, head, by simpa using digit⟩, fun reserved => ?_⟩
      exact absurd (reservedWords_isName _ reserved) (by simp [other])
    rw [fit.attributeName_eq, chars, stops]

theorem fieldName_eq_self_iff : fieldName name = name ↔ IsKept name := by
  refine ⟨fun same => same ▸ fieldName_isKept name, fun kept => ?_⟩
  by_cases isName : isName name = true
  · exact if_pos isName
  · obtain isName' | ⟨words, c, head, start⟩ := kept
    · exact absurd isName' isName
    · have chars := dropWhile_attributeName (by simpa using isName) words head start
      have some : name ≠ "" := by
        rintro rfl
        cases head
      rw [fieldName, if_neg isName, chars, String.ofList_toList, if_neg some]

end FieldNames

def Model.fieldNames (m : Model) : List String := m.fields.map (·.name)

theorem fieldNames_model (list : List Relation) (t : Placed Table) :
    (model list t).fieldNames =
      (t.item.columns.map fun c => fieldName c.name) ++ attributesAt list t.place := by
  rw [Model.fieldNames, model, List.map_append, List.map_map, relationFields, map_ends]
  rfl

section Declared

variable {s : Schema} {place : Nat} {t : Table}

theorem mem_fieldNames_iff (here : s.tables[place]? = some t) {c : Column} (member : c ∈ t.columns) :
    c.name ∈ (model (relations s) ⟨place, t⟩).fieldNames ↔ IsKept c.name := by
  rw [fieldNames_model, List.mem_append]
  constructor
  · rintro (column | given)
    · obtain ⟨other, -, same⟩ := List.mem_map.mp column
      exact same ▸ fieldName_isKept other.name
    · have untaken := (attributesAt_fresh here).untaken c.name given
      exact absurd (List.mem_map_of_mem member) untaken
  · intro kept
    exact .inl (List.mem_map.mpr ⟨c, member, fieldName_eq_self_iff.mpr kept⟩)

theorem fieldNames_nodup_iff (here : s.tables[place]? = some t) :
    (model (relations s) ⟨place, t⟩).fieldNames.Nodup ↔
      (t.columns.map fun c => fieldName c.name).Nodup ∧
        ∀ c ∈ t.columns, ¬ IsKept c.name →
          fieldName c.name ∉ attributesAt (relations s) place := by
  have fresh := attributesAt_fresh here
  have attributes : (attributesAt (relations s) place).Nodup := fresh.distinct.of_map
  rw [fieldNames_model, List.nodup_append]
  refine and_congr_right fun _ => ?_
  simp only [attributes, true_and, List.forall_mem_map]
  refine forall₂_congr fun c member => ⟨fun apart _ given => apart _ given rfl, ?_⟩
  intro apart a given same
  by_cases kept : IsKept c.name
  · rw [fieldName_eq_self_iff.mpr kept] at same
    exact fresh.untaken a given (same ▸ List.mem_map_of_mem member)
  · exact apart kept (same ▸ given)

end Declared

section Joints

def FieldAttribute.joint? : FieldAttribute → Option Joint
  | .relation _ joint => joint
  | _ => none

def Field.joints (f : Field) : List Joint := f.attributes.filterMap FieldAttribute.joint?

theorem columnField_joints (t : Table) (c : Column) : (columnField t c).joints = [] := by
  rw [Field.joints, List.filterMap_eq_nil_iff]
  intro a member
  simp only [columnField, List.mem_append, Option.mem_toList, Option.map_eq_some_iff] at member
  rcases member with ((member | member) | ⟨_, _, rfl⟩) | member
  · split at member <;> simp_all [FieldAttribute.joint?]
  · split at member <;> simp_all [FieldAttribute.joint?]
  · rfl
  · split at member <;> simp_all [FieldAttribute.joint?]

def jointOf (r : Relation) : Joint := { fields := [r.column.item.name], references := [r.parentColumn] }

theorem childField_joints (list : List Relation) (r : Relation) :
    (childField list r).joints = [jointOf r] := rfl

theorem parentField_joints (list : List Relation) (r : Relation) :
    (parentField list r).joints = [] := by
  unfold parentField Field.joints
  cases relationName? list r <;> rfl

theorem mem_joints_iff {list : List Relation} {t : Placed Table} {f : Field} {j : Joint} :
    f ∈ (model list t).fields ∧ j ∈ f.joints ↔
      ∃ r ∈ list, r.child.place = t.place ∧ f = childField list r ∧ j = jointOf r := by
  constructor
  · rintro ⟨field, joint⟩
    rcases List.mem_append.mp field with column | relation
    · obtain ⟨c, -, rfl⟩ := List.mem_map.mp column
      rw [columnField_joints] at joint
      cases joint
    · obtain ⟨r, member, ⟨here, rfl⟩ | ⟨-, rfl⟩⟩ := mem_ends.mp relation
      · rw [childField_joints] at joint
        exact ⟨r, member, here, rfl, List.mem_singleton.mp joint⟩
      · rw [parentField_joints] at joint
        cases joint
  · rintro ⟨r, member, here, rfl, rfl⟩
    rw [childField_joints]
    have field : childField list r ∈ relationFields list t.place :=
      mem_ends.mpr ⟨r, member, .inl ⟨here, rfl⟩⟩
    exact ⟨List.mem_append_right _ field, List.mem_singleton_self _⟩

end Joints

/-- The fields of a model differ in their names, and composite keys and joints refer to declared
fields: on the one side of the model, on the other of the model of the parent. -/
structure DeclaresFields (s : Schema) : Prop where
  distinct : ∀ m ∈ models s, m.fieldNames.Nodup
  keys : ∀ m ∈ models s, m.compositeKey ⊆ m.fieldNames
  joints : ∀ place m, (models s)[place]? = some m → ∀ f ∈ m.fields, ∀ j ∈ f.joints,
    j.fields ⊆ m.fieldNames ∧
      ∃ r ∈ relations s, r.child.place = place ∧ f = childField (relations s) r ∧
        ∃ parent, (models s)[r.parent.place]? = some parent ∧ j.references ⊆ parent.fieldNames

/-- Columns do not meet other fields when they are renamed, and those that are referred to keep
their names. -/
structure KeepsFields (s : Schema) : Prop where
  apart : ∀ t ∈ s.tables, (t.columns.map fun c => fieldName c.name).Nodup
  clear : ∀ place t, s.tables[place]? = some t → ∀ c ∈ t.columns, ¬ IsKept c.name →
    fieldName c.name ∉ attributesAt (relations s) place
  keys : ∀ t ∈ s.tables, 1 < t.primaryKey.length → ∀ c ∈ t.primaryKey, IsKept c.name
  joined : ∀ r ∈ relations s, IsKept r.column.item.name ∧ IsKept r.parentColumn

def RefersExactly (s : Schema) : Prop :=
  ∀ t ∈ s.tables, ∀ c ∈ t.columns, ∀ r ∈ c.references, ∀ parent ∈ s.tables,
    Text.lower parent.name = Text.lower r.table → ∃ key ∈ parent.columns, key.name = r.column

instance (s : Schema) : Decidable (RefersExactly s) :=
  inferInstanceAs <| Decidable <| ∀ t ∈ s.tables, ∀ c ∈ t.columns, ∀ r ∈ c.references,
    ∀ parent ∈ s.tables, Text.lower parent.name = Text.lower r.table →
      ∃ key ∈ parent.columns, key.name = r.column

section Main

variable {s : Schema}

theorem forall_mem_models {p : Model → Prop} :
    (∀ m ∈ models s, p m) ↔
      ∀ place t, s.tables[place]? = some t → p (model (relations s) ⟨place, t⟩) := by
  constructor
  · intro all place t here
    have found := getElem?_models s place
    rw [here, Option.map_some] at found
    exact all _ (List.mem_of_getElem? found)
  · intro all m member
    obtain ⟨t, inside, rfl⟩ := List.mem_map.mp member
    exact all t.place t.item (mem_placed.mp inside)

theorem compositeKey_subset_iff {place : Nat} {t : Table} (here : s.tables[place]? = some t) :
    (model (relations s) ⟨place, t⟩).compositeKey ⊆
        (model (relations s) ⟨place, t⟩).fieldNames ↔
      (1 < t.primaryKey.length → ∀ c ∈ t.primaryKey, IsKept c.name) := by
  have own : ∀ c ∈ t.primaryKey, c.name ∈ (model (relations s) ⟨place, t⟩).fieldNames ↔
      IsKept c.name := fun c member => mem_fieldNames_iff here (List.mem_of_mem_filter member)
  rw [← forall₂_congr own]
  by_cases several : 1 < t.primaryKey.length
  · simp [model, several, List.subset_def]
  · simp [model, several]

theorem RefersExactly.key (exact : RefersExactly s) {r : Relation} (member : r ∈ relations s) :
    ∃ key ∈ r.parent.item.columns, key.name = r.parentColumn := by
  have own := (relations_onePerKey s).own r member
  obtain ⟨name, refers, same, -⟩ := own.refers
  exact exact _ (List.mem_of_getElem? own.child) _ (List.mem_of_getElem? own.column) _ refers _
    (List.mem_of_getElem? own.parent) same

theorem joint_declared_iff (exact : RefersExactly s) {r : Relation} (member : r ∈ relations s) :
    (r.column.item.name ∈ (model (relations s) r.child).fieldNames ↔ IsKept r.column.item.name) ∧
      (r.parentColumn ∈ (model (relations s) r.parent).fieldNames ↔ IsKept r.parentColumn) := by
  have own := (relations_onePerKey s).own r member
  obtain ⟨key, inside, named⟩ := exact.key member
  have parent := mem_fieldNames_iff own.parent inside
  rw [named] at parent
  exact ⟨mem_fieldNames_iff own.child (List.mem_of_getElem? own.column), parent⟩

theorem getElem?_models_ends {r : Relation} (member : r ∈ relations s) :
    (models s)[r.child.place]? = some (model (relations s) r.child) ∧
      (models s)[r.parent.place]? = some (model (relations s) r.parent) := by
  have own := (relations_onePerKey s).own r member
  rw [getElem?_models, getElem?_models, own.child, own.parent]
  exact ⟨rfl, rfl⟩

theorem DeclaresFields.keepsFields (exact : RefersExactly s) (declares : DeclaresFields s) :
    KeepsFields s := by
  have names := forall_mem_models.mp declares.distinct
  refine ⟨fun t member => ?_, fun place t here => ?_, fun t member => ?_, fun r member => ?_⟩
  · obtain ⟨place, here⟩ := List.getElem?_of_mem member
    exact ((fieldNames_nodup_iff here).mp (names place t here)).1
  · exact ((fieldNames_nodup_iff here).mp (names place t here)).2
  · obtain ⟨place, here⟩ := List.getElem?_of_mem member
    exact (compositeKey_subset_iff here).mp (forall_mem_models.mp declares.keys place t here)
  · obtain ⟨column, key⟩ := joint_declared_iff exact member
    obtain ⟨child, parent⟩ := getElem?_models_ends member
    obtain ⟨field, joint⟩ := mem_joints_iff.mpr ⟨r, member, rfl, rfl, rfl⟩
    obtain ⟨fields, r', member', place, field', m, found, references⟩ :=
      declares.joints _ _ child _ field _ joint
    -- The field belongs to one relation only, since relations of a child differ in their names.
    have same : r' = r := eq_of_name member' member place (congrArg Field.name field').symm
    subst same
    rw [parent, Option.some.injEq] at found
    subst found
    exact ⟨column.mp (fields List.mem_cons_self), key.mp (references List.mem_cons_self)⟩

theorem KeepsFields.declaresFields (exact : RefersExactly s) (keeps : KeepsFields s) :
    DeclaresFields s := by
  refine ⟨forall_mem_models.mpr fun place t here => ?_,
    forall_mem_models.mpr fun place t here => ?_, fun place m found f field j joint => ?_⟩
  · exact (fieldNames_nodup_iff here).mpr
      ⟨keeps.apart t (List.mem_of_getElem? here), keeps.clear place t here⟩
  · exact (compositeKey_subset_iff here).mpr (keeps.keys t (List.mem_of_getElem? here))
  · rw [getElem?_models, Option.map_eq_some_iff] at found
    obtain ⟨t, here, rfl⟩ := found
    obtain ⟨r, member, rfl, rfl, rfl⟩ := mem_joints_iff.mp ⟨field, joint⟩
    obtain ⟨column, key⟩ := joint_declared_iff exact member
    obtain ⟨kept, kept'⟩ := keeps.joined r member
    have own := ((relations_onePerKey s).own r member).child
    rw [own, Option.some.injEq] at here
    subst here
    refine ⟨?_, r, member, rfl, rfl, _, (getElem?_models_ends member).2, ?_⟩
    · simpa [jointOf] using column.mpr kept
    · simpa [jointOf] using key.mpr kept'

/-- Models declare their fields, each once, and all that they refer to, exactly if the columns that
are referred to keep their names and no other column is renamed to a name in use. So they do if all
columns keep their names. -/
theorem declaresFields_iff (s : Schema)
    (names : ∀ t ∈ s.tables, DistinctNames (t.columns.map (·.name))) (exact : RefersExactly s) :
    (DeclaresFields s ↔ KeepsFields s) ∧
      ((∀ t ∈ s.tables, ∀ c ∈ t.columns, IsKept c.name) → DeclaresFields s) := by
  refine ⟨⟨DeclaresFields.keepsFields exact, KeepsFields.declaresFields exact⟩, fun kept => ?_⟩
  apply KeepsFields.declaresFields exact
  refine ⟨fun t member => ?_, fun place t here c member other => ?_, fun t member _ c key => ?_,
    fun r member => ?_⟩
  · have same : (t.columns.map fun c => fieldName c.name) = t.columns.map (·.name) :=
      List.map_congr_left fun c inside => fieldName_eq_self_iff.mpr (kept t member c inside)
    rw [same]
    exact (names t member).of_map
  · exact absurd (kept t (List.mem_of_getElem? here) c member) other
  · exact kept t member c (List.mem_of_mem_filter key)
  · have own := (relations_onePerKey s).own r member
    obtain ⟨key, inside, named⟩ := exact.key member
    exact ⟨kept _ (List.mem_of_getElem? own.child) _ (List.mem_of_getElem? own.column),
      named ▸ kept _ (List.mem_of_getElem? own.parent) key inside⟩

end Main

def enrolmentSchema : Schema :=
  { tables := [keyedTable "students" [], keyedTable "courses" [],
      { name := "enrolments"
        columns :=
          [{ name := "student_id", type := .int, primaryKey := true, nullable := false,
             references := some ⟨"students", "id"⟩ },
           { name := "course_id", type := .int, primaryKey := true, nullable := false,
             references := some ⟨"courses", "id"⟩ }] }] }

theorem enrolmentSchema_declares :
    (∀ t ∈ enrolmentSchema.tables, DistinctNames (t.columns.map (·.name))) ∧
      RefersExactly enrolmentSchema ∧ DeclaresFields enrolmentSchema := by
  have names : ∀ t ∈ enrolmentSchema.tables, DistinctNames (t.columns.map (·.name)) := by
    decide +kernel
  have exact : RefersExactly enrolmentSchema := by decide +kernel
  have plain : ∀ t ∈ enrolmentSchema.tables, ∀ c ∈ t.columns, isName c.name = true := by
    decide +kernel
  obtain ⟨-, declares⟩ := declaresFields_iff enrolmentSchema names exact
  exact ⟨names, exact, declares fun t member c inside => .inl (plain t member c inside)⟩

/-- A foreign key with an underscore in front of its name, which its field does not have. -/
def hiddenKeySchema : Schema :=
  { tables := [keyedTable "users" [], keyedTable "posts" [("_user_id", "users")]] }

theorem hiddenKeySchema_undeclared :
    DistinctNames (hiddenKeySchema.tables.map (·.name)) ∧
      (∀ t ∈ hiddenKeySchema.tables, DistinctNames (t.columns.map (·.name))) ∧
      RefersExactly hiddenKeySchema ∧ ¬ DeclaresFields hiddenKeySchema := by
  have exact : RefersExactly hiddenKeySchema := by decide +kernel
  refine ⟨by decide +kernel, by decide +kernel, exact, fun declares => ?_⟩
  have renamed : ∃ r ∈ relations hiddenKeySchema,
      fieldName r.column.item.name ≠ r.column.item.name := by decide +kernel
  obtain ⟨r, member, other⟩ := renamed
  exact other (fieldName_eq_self_iff.mpr ((declares.keepsFields exact).joined r member).1)

end RelSchema.Orm.Prisma
