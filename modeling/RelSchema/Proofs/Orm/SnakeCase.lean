import RelSchema.Proofs.Orm.ModelNames

namespace RelSchema

def isSmall (c : Char) : Bool := c.isLower || c.isDigit

def IsWord (word : String) : Prop :=
  ∃ first rest, word.toList = first :: rest ∧ first.isLower = true ∧ ∀ c ∈ rest, isSmall c = true

instance (word : String) : Decidable (IsWord word) :=
  match chars : word.toList with
  | [] => isFalse fun ⟨_, _, shape, _⟩ => by rw [chars] at shape; cases shape
  | first :: rest =>
    decidable_of_iff (first.isLower = true ∧ rest.all isSmall = true) (by
      rw [List.all_eq_true]
      constructor
      · exact fun ⟨lower, small⟩ => ⟨first, rest, chars, lower, small⟩
      · rintro ⟨first', rest', shape, lower, small⟩
        rw [chars] at shape
        obtain ⟨rfl, rfl⟩ := List.cons.inj shape
        exact ⟨lower, small⟩)

def IsSnakeCase (name : String) : Prop :=
  ∃ words, words ≠ [] ∧ (∀ w ∈ words, IsWord w) ∧ name = "_".intercalate words

theorem isSmall_ascii {c : Char} (small : isSmall c = true) : Text.isAscii c = true := by
  have nine : '9'.toNat = 57 := rfl
  rw [Text.isAscii, decide_eq_true_eq]
  rcases Bool.or_eq_true_iff.mp small with lower | digit
  · have bounds : (decide (97 ≤ c.val) && decide (c.val ≤ 122)) = true := lower
    have range : 97 ≤ c.toNat ∧ c.toNat ≤ 122 := by
      simpa [UInt32.le_iff_toNat_le, ← Char.toNat_val] using bounds
    omega
  · have range := Char.isDigit_iff_toNat.mp digit
    omega

theorem isSmall_alphanumeric {c : Char} (small : isSmall c = true) :
    Text.isAlphanumeric c = true := by
  have parts : c.isAlphanum = (c.isUpper || c.isLower || c.isDigit) := rfl
  rw [Text.isAlphanumeric, if_pos (isSmall_ascii small), parts]
  rcases Bool.or_eq_true_iff.mp small with lower | digit
  · rw [lower, Bool.or_true, Bool.true_or]
  · rw [digit, Bool.or_true]

theorem toUpper_isLower {c : Char} (lower : c.isLower = true) :
    isSmall c.toUpper = false ∧ Text.isDigit c.toUpper = false ∧ c.toUpper.toLower = c := by
  have small : isSmall c = true := by rw [isSmall, lower, Bool.true_or]
  exact Text.ascii_forall (p := fun c => c.isLower = true →
    isSmall c.toUpper = false ∧ Text.isDigit c.toUpper = false ∧ c.toUpper.toLower = c)
    (by decide) (isSmall_ascii small) lower

section Words

variable {word : String} {words words' : List String}

theorem IsWord.chars (is : IsWord word) : ∀ c ∈ word.toList, isSmall c = true := by
  obtain ⟨first, rest, chars, lower, small⟩ := is
  rw [chars, List.forall_mem_cons]
  exact ⟨by rw [isSmall, lower, Bool.true_or], small⟩

theorem IsWord.ne_nil (is : IsWord word) : word.toList ≠ [] := by
  obtain ⟨first, rest, chars, -⟩ := is
  rw [chars]
  exact List.cons_ne_nil _ _

theorem IsWord.splitBy (is : IsWord word) :
    word.toList.splitBy (fun a b => Text.isAlphanumeric a == Text.isAlphanumeric b) =
      [word.toList] := by
  refine List.splitBy_of_isChain is.ne_nil (List.Pairwise.isChain ?_)
  rw [List.pairwise_iff_forall_sublist]
  intro a b pair
  have left := isSmall_alphanumeric (is.chars a (pair.subset List.mem_cons_self))
  have right := isSmall_alphanumeric
    (is.chars b (pair.subset (List.mem_cons_of_mem _ List.mem_cons_self)))
  rw [left, right]
  rfl

theorem nameParts_word (is : IsWord word) : nameParts word = [word] := by
  have letters : word.toList.any Text.isAlphanumeric = true := by
    obtain ⟨first, rest, chars, -⟩ := id is
    have first : isSmall first = true := is.chars first (chars ▸ List.mem_cons_self)
    rw [chars, List.any_cons, isSmall_alphanumeric first, Bool.true_or]
  rw [nameParts, is.splitBy, List.filterMap_cons, if_pos letters, String.ofList_toList]
  rfl

theorem nameParts_append (is : IsWord word) {rest : String} {first : Char} {more : List Char}
    (chars : rest.toList = first :: more) (lower : first.isLower = true) :
    nameParts (word ++ "_" ++ rest) = word :: nameParts rest := by
  have small : isSmall first = true := by rw [isSmall, lower, Bool.true_or]
  have letter := isSmall_alphanumeric small
  have other : Text.isAlphanumeric '_' = false := by decide
  have text : (word ++ "_" ++ rest).toList = word.toList ++ ['_'] ++ rest.toList := by
    rw [String.toList_append, String.toList_append]
    rfl
  have before : ∀ x ∈ (word.toList ++ ['_']).getLast?, ∀ y ∈ rest.toList.head?,
      (Text.isAlphanumeric x == Text.isAlphanumeric y) = false := by
    simp [chars, letter, other]
  have inside : ∀ x ∈ word.toList.getLast?, ∀ y ∈ ['_'].head?,
      (Text.isAlphanumeric x == Text.isAlphanumeric y) = false := by
    intro x last y head
    cases head
    rw [isSmall_alphanumeric (is.chars x (List.mem_of_getLast? last)), other]
    rfl
  have own := nameParts_word is
  rw [nameParts] at own
  rw [nameParts, text, List.splitBy_append before, List.splitBy_append inside,
    List.filterMap_append, List.filterMap_append, own, nameParts]
  rfl

theorem head_intercalate (is : IsWord word) (rest : List String) :
    ∃ first more, ("_".intercalate (word :: rest)).toList = first :: more ∧
      first.isLower = true := by
  obtain ⟨first, more, chars, lower, -⟩ := is
  cases rest with
  | nil => exact ⟨first, more, by rw [String.intercalate_singleton, chars], lower⟩
  | cons v rest =>
    refine ⟨first, more ++ ("_" ++ "_".intercalate (v :: rest)).toList, ?_, lower⟩
    rw [String.intercalate_cons_cons, String.append_assoc, String.toList_append, chars,
      List.cons_append]

theorem nameParts_intercalate (each : ∀ w ∈ words, IsWord w) :
    nameParts ("_".intercalate words) = words := by
  induction words with
  | nil => rfl
  | cons w rest ih =>
    rw [List.forall_mem_cons] at each
    cases rest with
    | nil => rw [String.intercalate_singleton, nameParts_word each.1]
    | cons v rest =>
      obtain ⟨first, more, chars, lower⟩ := head_intercalate (each.2 v List.mem_cons_self) rest
      rw [String.intercalate_cons_cons, nameParts_append each.1 chars lower, ih each.2]

theorem eq_of_append_small {t t' rest rest' : List Char} (small : ∀ c ∈ t, isSmall c = true)
    (small' : ∀ c ∈ t', isSmall c = true) (ends : rest.takeWhile isSmall = [])
    (ends' : rest'.takeWhile isSmall = []) (same : t ++ rest = t' ++ rest') :
    t = t' ∧ rest = rest' := by
  have equal : t = t' := by
    have taken := congrArg (List.takeWhile isSmall) same
    rwa [List.takeWhile_append_of_pos small, List.takeWhile_append_of_pos small', ends, ends',
      List.append_nil, List.append_nil] at taken
  subst equal
  exact ⟨rfl, List.append_cancel_left same⟩

theorem IsWord.capitalized (is : IsWord word) :
    ∃ first rest, word.toList = first :: rest ∧ first.isLower = true ∧
      (∀ c ∈ rest, isSmall c = true) ∧ capitalized word.toList = first.toUpper :: rest := by
  obtain ⟨first, rest, chars, lower, small⟩ := is
  refine ⟨first, rest, chars, lower, small, ?_⟩
  have ascii : Text.isAscii first = true :=
    isSmall_ascii (by rw [isSmall, lower, Bool.true_or])
  rw [chars, RelSchema.capitalized, Text.upperChar, if_pos ascii, List.singleton_append]

theorem takeWhile_capitalized (each : ∀ w ∈ words, IsWord w) :
    (words.flatMap fun w => capitalized w.toList).takeWhile isSmall = [] := by
  cases words with
  | nil => rfl
  | cons w rest =>
    obtain ⟨first, more, -, lower, -, capital⟩ := (each w List.mem_cons_self).capitalized
    have large : ¬isSmall first.toUpper = true := by simp [(toUpper_isLower lower).1]
    rw [List.flatMap_cons, capital, List.cons_append, List.takeWhile_cons_of_neg large]

theorem eq_of_capitalized (each : ∀ w ∈ words, IsWord w) (each' : ∀ w ∈ words', IsWord w)
    (same : (words.flatMap fun w => capitalized w.toList) =
      words'.flatMap fun w => capitalized w.toList) : words = words' := by
  induction words generalizing words' with
  | nil =>
    cases words' with
    | nil => rfl
    | cons w' rest' =>
      obtain ⟨first, more, -, -, -, capital⟩ := (each' w' List.mem_cons_self).capitalized
      rw [List.flatMap_cons, capital] at same
      cases same
  | cons w rest ih =>
    rw [List.forall_mem_cons] at each
    obtain ⟨first, more, chars, lower, small, capital⟩ := each.1.capitalized
    cases words' with
    | nil =>
      rw [List.flatMap_cons, capital] at same
      cases same
    | cons w' rest' =>
      rw [List.forall_mem_cons] at each'
      obtain ⟨first', more', chars', lower', small', capital'⟩ := each'.1.capitalized
      rw [List.flatMap_cons, List.flatMap_cons, capital, capital', List.cons_append,
        List.cons_append] at same
      obtain ⟨upper, same⟩ := List.cons.inj same
      obtain ⟨inner, later⟩ := eq_of_append_small small small' (takeWhile_capitalized each.2)
        (takeWhile_capitalized each'.2) same
      have letter : first = first' := by
        rw [← (toUpper_isLower lower).2.2, upper, (toUpper_isLower lower').2.2]
      have head : w = w' := String.toList_inj.mp (by rw [chars, chars', letter, inner])
      rw [head, ih each.2 each'.2 later]

end Words

namespace IsSnakeCase

variable {a b : String}

theorem pascalCase_inj (snake : IsSnakeCase a) (snake' : IsSnakeCase b) :
    pascalCase a = pascalCase b ↔ a = b := by
  refine ⟨fun same => ?_, congrArg pascalCase⟩
  obtain ⟨words, -, each, rfl⟩ := snake
  obtain ⟨words', -, each', rfl⟩ := snake'
  rw [pascalCase, pascalCase, nameParts_intercalate each, nameParts_intercalate each',
    String.ofList_inj] at same
  rw [eq_of_capitalized each each' same]

theorem append (snake : IsSnakeCase a) (snake' : IsSnakeCase b) : IsSnakeCase (a ++ "_" ++ b) := by
  obtain ⟨words, some, each, rfl⟩ := snake
  obtain ⟨words', some', each', rfl⟩ := snake'
  refine ⟨words ++ words', by simp [some], ?_, ?_⟩
  · rw [List.forall_mem_append]
    exact ⟨each, each'⟩
  · rw [String.intercalate_append_of_ne_nil some some']

theorem pascalCase_append (snake : IsSnakeCase a) (snake' : IsSnakeCase b) :
    pascalCase (a ++ "_" ++ b) = pascalCase a ++ pascalCase b := by
  obtain ⟨words, some, each, rfl⟩ := snake
  obtain ⟨words', some', each', rfl⟩ := snake'
  have all : ∀ w ∈ words ++ words', IsWord w := List.forall_mem_append.mpr ⟨each, each'⟩
  rw [← String.intercalate_append_of_ne_nil some some', pascalCase, pascalCase, pascalCase,
    nameParts_intercalate all, nameParts_intercalate each, nameParts_intercalate each',
    List.flatMap_append, String.ofList_append]

theorem modelName_eq {table : String} (snake : IsSnakeCase (singularize table)) :
    modelName table = pascalCase (singularize table) := by
  obtain ⟨words, some, each, name⟩ := snake
  obtain ⟨w, rest, rfl⟩ := List.exists_cons_of_ne_nil some
  obtain ⟨first, more, -, lower, -, capital⟩ := (each w List.mem_cons_self).capitalized
  have pascal : (pascalCase (singularize table)).toList = first.toUpper ::
      (more ++ rest.flatMap fun part => capitalized part.toList) := by
    rw [name, pascalCase, nameParts_intercalate each, String.toList_ofList, List.flatMap_cons,
      capital, List.cons_append]
  obtain ⟨empty, -⟩ | ⟨c, tail, shape, chars⟩ := modelName_spec table
  · rw [empty] at pascal
    cases pascal
  · rw [pascal] at shape
    obtain ⟨rfl, rfl⟩ := List.cons.inj shape
    rw [if_neg (Bool.eq_false_iff.mp (toUpper_isLower lower).2.1), ← pascal] at chars
    exact String.toList_inj.mp chars

end IsSnakeCase

end RelSchema
