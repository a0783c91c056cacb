import RelSchema.Proofs.Orm.AsciiNames
import RelSchema.Proofs.Orm.ModelNames
import RelSchema.Proofs.Orm.Relationships

namespace RelSchema

namespace Text

variable {c : Char}

theorem isWordChar_ascii (ascii : isAscii c = true) : isWordChar c = (c == '_' || c.isAlphanum) := by
  rw [isWordChar, isAlphanumeric, if_pos ascii]

theorem isDigit_eq_false (other : isDigit c = false) : c.isDigit = false := by
  by_contra digit
  rw [Bool.not_eq_false] at digit
  simp [isDigit, isDecimal, decimalValue?_digit digit] at other

theorem toUpper_alphanumeric (ascii : isAscii c = true) (alphanumeric : c.isAlphanum = true) :
    c.toUpper.isAlphanum = true ∧ c.toUpper.isLower = false :=
  ascii_forall (p := fun c => c.isAlphanum = true →
    c.toUpper.isAlphanum = true ∧ c.toUpper.isLower = false) (by decide +kernel) ascii alphanumeric

end Text

/-- A legal name: an ASCII letter or an underscore, then ASCII letters, digits and underscores. -/
def IsLegal (name : String) : Prop :=
  ∃ first rest, name.toList = first :: rest ∧ (first = '_' ∨ first.isAlpha = true) ∧
    ∀ c ∈ rest, c = '_' ∨ c.isAlphanum = true

theorem isLegal_of_chars {name : String} {first : Char} (head : name.toList.head? = some first)
    (digit : first.isDigit = false)
    (chars : ∀ c ∈ name.toList, c = '_' ∨ c.isAlphanum = true) : IsLegal name := by
  obtain ⟨rest, shape⟩ := List.head?_eq_some_iff.mp head
  rw [shape, List.forall_mem_cons] at chars
  refine ⟨first, rest, shape, chars.1.imp_right fun alphanumeric => ?_, chars.2⟩
  simpa [Char.isAlphanum, digit] using alphanumeric

section ModelNames

variable {name : String} {c : Char}

theorem pascalCase_ascii (ascii : IsAscii name) (member : c ∈ (pascalCase name).toList) :
    c.isAlphanum = true := by
  obtain ⟨d, own, alphanumeric, same⟩ := mem_pascalCase member
  have small := ascii d own
  rw [Text.isAlphanumeric, if_pos small] at alphanumeric
  rcases same with rfl | upper
  · exact alphanumeric
  · rw [Text.upperChar, if_pos small, List.mem_singleton] at upper
    rw [upper]
    exact (Text.toUpper_alphanumeric small alphanumeric).1

theorem pascalCase_head (ascii : IsAscii name) (head : (pascalCase name).toList.head? = some c) :
    c.isLower = false := by
  rw [pascalCase, String.toList_ofList] at head
  cases parts : nameParts name with
  | nil =>
    rw [parts] at head
    cases head
  | cons part rest =>
    obtain ⟨letters, own⟩ := mem_nameParts (parts ▸ List.mem_cons_self : part ∈ nameParts name)
    obtain ⟨d, more, shape⟩ := List.exists_cons_of_ne_nil letters
    obtain ⟨alphanumeric, inside⟩ := own d (shape ▸ List.mem_cons_self)
    have small := ascii d inside
    rw [Text.isAlphanumeric, if_pos small] at alphanumeric
    rw [parts, List.flatMap_cons, shape, capitalized, Text.upperChar, if_pos small] at head
    cases head
    exact (Text.toUpper_alphanumeric small alphanumeric).2

theorem modelName_isLegal (ascii : IsAscii name) : IsLegal (modelName name) := by
  obtain model | ⟨first, rest, pascal, chars⟩ := modelName_cases name
  · have letters : "Model".toList.all Char.isAlphanum = true := by decide
    rw [model]
    exact isLegal_of_chars rfl (by decide) fun c member => .inr (List.all_eq_true.mp letters c member)
  · have letters : ∀ c ∈ first :: rest, c = '_' ∨ c.isAlphanum = true := fun c member =>
      .inr (pascalCase_ascii ascii.singularize (pascal ▸ member))
    split at chars
    · refine isLegal_of_chars (by rw [chars]; rfl) (by decide) (chars ▸ ?_)
      exact List.forall_mem_cons.mpr ⟨.inl rfl, letters⟩
    · rename_i digit
      have start := Text.isDigit_eq_false (by simpa using digit)
      exact isLegal_of_chars (by rw [chars]; rfl) start (chars ▸ letters)

theorem modelName_head (ascii : IsAscii name) (head : (modelName name).toList.head? = some c) :
    c.isLower = false := by
  obtain model | ⟨first, rest, pascal, chars⟩ := modelName_cases name
  · rw [model] at head
    cases head
    decide
  · rw [chars] at head
    split at head
    · cases head
      decide
    · cases head
      exact pascalCase_head ascii.singularize (by rw [pascal]; rfl)

end ModelNames

namespace Orm.SqlAlchemy

def capitalWords : List String := ["False", "None", "True"]

theorem reservedWords_capital : ∀ w ∈ reservedWords,
    w ∈ capitalWords ∨ w.toList.head?.any Char.isLower = true := by
  decide +kernel

theorem modelName_reserved_iff {table : String} (ascii : IsAscii table) :
    modelName table ∈ reservedWords ↔ modelName table ∈ capitalWords := by
  have capital : ∀ w ∈ capitalWords, w ∈ reservedWords := by decide
  refine ⟨fun reserved => ?_, capital _⟩
  refine (reservedWords_capital _ reserved).resolve_right fun small => ?_
  cases head : (modelName table).toList.head? with
  | none => simp [head] at small
  | some c => simp [head, modelName_head ascii head] at small

theorem attributeName_ascii {name : String} (ascii : IsAscii name) :
    IsAscii (attributeName name) :=
  forall_mem_attributeName (p := fun c => Text.isAscii c = true) (by decide) fun c member _ =>
    ascii c member

theorem attributeName_isLegal {name : String} (ascii : IsAscii name) :
    IsLegal (attributeName name) := by
  have fit := attributeName_isFit name
  obtain ⟨first, head, digit⟩ := fit.starts
  refine isLegal_of_chars head (Text.isDigit_eq_false digit) fun c member => ?_
  have word := fit.words c member
  rw [Text.isWordChar_ascii (attributeName_ascii ascii c member)] at word
  simpa using word

def Class.attributeNames (c : Class) : List String :=
  c.attributes.map (·.name) ++ c.relationships.map (·.name)

def sourceNames (list : List Relation) (t : Placed Table) : List String :=
  t.item.columns.map (·.name) ++ attributesAt list t.place

theorem ofTable_name (list : List Relation) (t : Placed Table) :
    (Class.ofTable list t).name = modelName t.item.name := by
  -- Not by `rfl`, which would unfold `modelName` before the class.
  rw [Class.ofTable]

theorem attributeNames_ofTable (list : List Relation) (t : Placed Table) :
    (Class.ofTable list t).attributeNames = (sourceNames list t).map attributeName := by
  rw [Class.attributeNames, Class.ofTable, sourceNames, List.map_append, List.map_map,
    List.map_map, Class.endsAt, map_ends, attributesAt, map_ends]
  rfl

/-- No name of the list that changes meets another one. -/
def StayApart (names : List String) : Prop :=
  ∀ name ∈ names, ¬ IsFit name → ∀ other ∈ names, attributeName other = attributeName name →
    other = name

theorem nodup_attributeName_iff {names : List String} (distinct : names.Nodup) :
    (names.map attributeName).Nodup ↔ StayApart names := by
  rw [List.nodup_map_iff_inj_on distinct]
  constructor
  · intro apart name member _ other member' same
    exact apart other member' name member same
  · intro apart a member b member' same
    by_cases fit : IsFit a
    · by_cases fit' : IsFit b
      · rwa [fit.attributeName_eq, fit'.attributeName_eq] at same
      · exact apart b member' fit' a member same
    · exact (apart a member fit b member' same.symm).symm

/-- A class with names that code can have, and with each attribute once. -/
structure Class.IsUsable (c : Class) : Prop where
  name : IsLegal c.name ∧ c.name ∉ reservedWords
  attributes : ∀ name ∈ c.attributeNames, IsLegal name ∧ name ∉ reservedWords
  distinct : c.attributeNames.Nodup

section Classes

variable {s : Schema} {place : Nat} {t : Table}

theorem sourceNames_nodup (columns : ∀ t ∈ s.tables, DistinctNames (t.columns.map (·.name)))
    (here : s.tables[place]? = some t) : (sourceNames (relations s) ⟨place, t⟩).Nodup := by
  have fresh := attributesAt_fresh here
  have distinct := columns t (List.mem_of_getElem? here)
  rw [sourceNames, List.nodup_append]
  refine ⟨distinct.of_map, fresh.distinct.of_map, fun name column other given same => ?_⟩
  obtain ⟨c, member, rfl⟩ := List.mem_map.mp column
  exact fresh.untaken other given (same ▸ List.mem_map_of_mem member)

theorem sourceNames_ascii (ascii : s.HasAsciiNames) (here : s.tables[place]? = some t) :
    ∀ name ∈ sourceNames (relations s) ⟨place, t⟩, IsAscii name := by
  intro name member
  rcases List.mem_append.mp member with column | given
  · obtain ⟨c, inside, rfl⟩ := List.mem_map.mp column
    exact (ascii t (List.mem_of_getElem? here)).2 c inside
  · exact attributesAt_ascii ascii name given

theorem attributeNames_legal (ascii : s.HasAsciiNames) (here : s.tables[place]? = some t) :
    ∀ name ∈ (Class.ofTable (relations s) ⟨place, t⟩).attributeNames,
      IsLegal name ∧ name ∉ reservedWords := by
  rw [attributeNames_ofTable]
  refine List.forall_mem_map.mpr fun name member => ?_
  have small := sourceNames_ascii ascii here name member
  exact ⟨attributeName_isLegal small, (attributeName_isFit name).free⟩

theorem ofTable_isUsable_iff (ascii : s.HasAsciiNames)
    (columns : ∀ t ∈ s.tables, DistinctNames (t.columns.map (·.name)))
    (here : s.tables[place]? = some t) :
    (Class.ofTable (relations s) ⟨place, t⟩).IsUsable ↔
      modelName t.name ∉ capitalWords ∧ StayApart (sourceNames (relations s) ⟨place, t⟩) := by
  have table := (ascii t (List.mem_of_getElem? here)).1
  rw [← nodup_attributeName_iff (sourceNames_nodup columns here), ← attributeNames_ofTable,
    ← modelName_reserved_iff table]
  constructor
  · rintro ⟨⟨-, free⟩, -, distinct⟩
    rw [ofTable_name] at free
    exact ⟨free, distinct⟩
  · rintro ⟨free, distinct⟩
    refine ⟨?_, attributeNames_legal ascii here, distinct⟩
    rw [ofTable_name]
    exact ⟨modelName_isLegal table, free⟩

/-- Where names are ASCII, all names of classes and attributes are legal, and no attribute is named
by a reserved word. A class is so exactly if it is one of the three words with a capital; attributes
are named apart exactly if no name that is made fit becomes that of another. -/
theorem classes_usable_iff (s : Schema) (ascii : s.HasAsciiNames)
    (columns : ∀ t ∈ s.tables, DistinctNames (t.columns.map (·.name))) (place : Nat) (t : Table)
    (here : s.tables[place]? = some t) :
    ∃ c, (classes s)[place]? = some c ∧ StandsIn c.text (generate s) ∧ c.name = modelName t.name ∧
      c.attributeNames = (sourceNames (relations s) ⟨place, t⟩).map attributeName ∧
      IsLegal c.name ∧ (∀ name ∈ c.attributeNames, IsLegal name ∧ name ∉ reservedWords) ∧
      (c.IsUsable ↔
        modelName t.name ∉ capitalWords ∧ StayApart (sourceNames (relations s) ⟨place, t⟩)) := by
  have legal := modelName_isLegal (ascii t (List.mem_of_getElem? here)).1
  have attributes := attributeNames_legal ascii here
  have usable := ofTable_isUsable_iff ascii columns here
  have found : (classes s)[place]? = some (.ofTable (relations s) ⟨place, t⟩) := by
    rw [getElem?_classes, here, Option.map_some]
  refine ⟨.ofTable (relations s) ⟨place, t⟩, found, standsIn_generate (List.mem_of_getElem? found),
    ofTable_name _ _, attributeNames_ofTable _ _, ?_, attributes, usable⟩
  rw [ofTable_name]
  exact legal

end Classes

theorem schoolSchema_usable :
    schoolSchema.HasAsciiNames ∧
      (∀ t ∈ schoolSchema.tables, DistinctNames (t.columns.map (·.name))) ∧
      schoolSchema.tables[1]? = some studentTable ∧
      ∃ c, (classes schoolSchema)[1]? = some c ∧
        c.attributeNames = ["id", "class_id", "class_"] ∧ c.IsUsable := by
  have ascii : schoolSchema.HasAsciiNames := by decide +kernel
  have columns : ∀ t ∈ schoolSchema.tables, DistinctNames (t.columns.map (·.name)) := by
    decide +kernel
  have here : schoolSchema.tables[1]? = some studentTable := rfl
  obtain ⟨c, found, -, -, names, -, -, usable⟩ :=
    classes_usable_iff schoolSchema ascii columns 1 studentTable here
  have source : sourceNames (relations schoolSchema) ⟨1, studentTable⟩ =
      ["id", "class_id", "class"] := by
    decide +kernel
  have distinct : ["id", "class_id", "class"].Nodup := by decide +kernel
  rw [source] at names usable
  refine ⟨ascii, columns, here, c, found, ?_, usable.mpr ⟨by decide +kernel, ?_⟩⟩
  · rw [names]
    decide +kernel
  · exact (nodup_attributeName_iff distinct).mp (by decide +kernel)

def noneSchema : Schema :=
  { tables := [{ name := "none"
                 columns := [{ name := "a b", type := .int }, { name := "a_b", type := .int }] }] }

theorem noneSchema_unusable :
    noneSchema.HasAsciiNames ∧ DistinctNames (noneSchema.tables.map (·.name)) ∧
      (∀ t ∈ noneSchema.tables, DistinctNames (t.columns.map (·.name))) ∧
      ∃ c ∈ classes noneSchema, c.name ∈ reservedWords ∧ ¬ c.attributeNames.Nodup := by
  refine ⟨?_, ?_, ?_, ?_⟩ <;> decide +kernel

end Orm.SqlAlchemy

end RelSchema
