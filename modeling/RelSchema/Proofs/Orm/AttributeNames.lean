import RelSchema.Orm.SqlAlchemy

namespace RelSchema.Orm.SqlAlchemy

/-- A name fit for an attribute: a word that starts with no digit and is not reserved. -/
structure IsFit (name : String) : Prop where
  words : ∀ c ∈ name.toList, Text.isWordChar c = true
  starts : ∃ c, name.toList.head? = some c ∧ Text.isDigit c = false
  free : name ∉ reservedWords

def spelled (name : List Char) : List Char :=
  name.map fun c => if Text.isWordChar c then c else '_'

def started : List Char → List Char
  | [] => ['_']
  | c :: rest => if Text.isDigit c then '_' :: c :: rest else c :: rest

theorem attributeName_eq (name : String) :
    attributeName name =
      if reservedWords.contains (String.ofList (started (spelled name.toList))) then
        String.ofList (started (spelled name.toList)) ++ "_"
      else String.ofList (started (spelled name.toList)) := by
  have same : (match spelled name.toList with
      | [] => ['_']
      | c :: _ => if Text.isDigit c then '_' :: spelled name.toList else spelled name.toList) =
      started (spelled name.toList) := by
    cases spelled name.toList <;> rfl
  rw [← same]
  rfl

theorem underscore_isWordChar : Text.isWordChar '_' = true := by decide

theorem forall_mem_spelled {p : Char → Prop} {name : List Char} (underscore : p '_')
    (words : ∀ c ∈ name, Text.isWordChar c = true → p c) : ∀ c ∈ spelled name, p c := by
  refine List.forall_mem_map.mpr fun c member => ?_
  by_cases word : Text.isWordChar c = true
  · rw [if_pos word]
    exact words c member word
  · rw [if_neg word]
    exact underscore

theorem spelled_of_words {name : List Char} (words : ∀ c ∈ name, Text.isWordChar c = true) :
    spelled name = name :=
  (List.map_congr_left fun c member => if_pos (words c member)).trans (List.map_id' name)

theorem forall_mem_started {p : Char → Prop} {name : List Char} (underscore : p '_')
    (chars : ∀ c ∈ name, p c) : ∀ c ∈ started name, p c := by
  have underscored : ∀ c ∈ '_' :: name, p c := List.forall_mem_cons.mpr ⟨underscore, chars⟩
  cases name with
  | nil => exact underscored
  | cons d rest =>
    rw [started]
    split
    · exact underscored
    · exact chars

theorem forall_mem_attributeName {p : Char → Prop} {name : String} (underscore : p '_')
    (words : ∀ c ∈ name.toList, Text.isWordChar c = true → p c) :
    ∀ c ∈ (attributeName name).toList, p c := by
  have chars := forall_mem_started underscore (forall_mem_spelled underscore words)
  have ending : "_".toList = ['_'] := rfl
  rw [attributeName_eq]
  split
  · rw [String.toList_append, String.toList_ofList, ending]
    exact List.forall_mem_append.mpr ⟨chars, List.forall_mem_singleton.mpr underscore⟩
  · rwa [String.toList_ofList]

theorem started_starts (name : List Char) :
    ∃ c, (started name).head? = some c ∧ Text.isDigit c = false := by
  have underscore : Text.isDigit '_' = false := by decide
  cases name with
  | nil => exact ⟨'_', rfl, underscore⟩
  | cons d rest =>
    rw [started]
    split
    · exact ⟨'_', rfl, underscore⟩
    · rename_i digit
      exact ⟨d, rfl, by simpa using digit⟩

theorem started_of_starts {name : List Char} {c : Char} (head : name.head? = some c)
    (digit : Text.isDigit c = false) : started name = name := by
  cases name with
  | nil => cases head
  | cons d rest =>
    cases head
    rw [started, if_neg (by simp [digit])]

theorem reservedWords_end : ∀ w ∈ reservedWords, w.toList.getLast? ≠ some '_' := by decide +kernel

theorem attributeName_starts (name : String) :
    ∃ c, (attributeName name).toList.head? = some c ∧ Text.isDigit c = false := by
  obtain ⟨c, head, digit⟩ := started_starts (spelled name.toList)
  refine ⟨c, ?_, digit⟩
  rw [attributeName_eq]
  split
  · rw [String.toList_append, String.toList_ofList, List.head?_append, head]
    rfl
  · rwa [String.toList_ofList]

theorem attributeName_free (name : String) : attributeName name ∉ reservedWords := by
  rw [attributeName_eq]
  split
  · intro reserved
    have ending : "_".toList = ['_'] := rfl
    apply reservedWords_end _ reserved
    rw [String.toList_append, ending]
    exact List.getLast?_concat
  · rename_i free
    simpa using free

theorem attributeName_isFit (name : String) : IsFit (attributeName name) where
  words := forall_mem_attributeName underscore_isWordChar fun _ _ word => word
  starts := attributeName_starts name
  free := attributeName_free name

theorem IsFit.attributeName_eq {name : String} (fit : IsFit name) : attributeName name = name := by
  obtain ⟨c, head, digit⟩ := fit.starts
  rw [SqlAlchemy.attributeName_eq, spelled_of_words fit.words, started_of_starts head digit,
    String.ofList_toList, if_neg (by simpa using fit.free)]

theorem attributeName_eq_self_iff {name : String} : attributeName name = name ↔ IsFit name := by
  refine ⟨fun same => ?_, IsFit.attributeName_eq⟩
  rw [← same]
  exact attributeName_isFit name

end RelSchema.Orm.SqlAlchemy
