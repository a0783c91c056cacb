import Mathlib.Data.List.Basic
import Mathlib.Data.List.Pairwise
import Mathlib.Data.List.SplitBy
import RelSchema.Proofs.Words
import RelSchema.Schema.Naming

namespace RelSchema

namespace Text

theorem upperRuns_missUnderscore :
    ∀ run ∈ upperRuns, run.last + run.shift < '_'.toNat ∨ '_'.toNat < run.first + run.shift := by
  decide +kernel

theorem upperSequences_missUnderscore :
    ∀ sequence ∈ upperSequences, ∀ code ∈ sequence.2, Char.ofNat code ≠ '_' := by
  decide +kernel

theorem toNat_ofNat_cases (n : Nat) : (Char.ofNat n).toNat = n ∨ (Char.ofNat n).toNat = 0 := by
  by_cases valid : n.isValidChar
  · exact .inl (by rw [Char.ofNat, dif_pos valid]; rfl)
  · exact .inr (by rw [Char.ofNat, dif_neg valid]; rfl)

theorem mapCase_ne_underscore {c : Char} (other : c ≠ '_') : mapCase upperRuns c ≠ '_' := by
  unfold mapCase
  split
  · rename_i run found
    have covers := List.find?_some found
    have misses := upperRuns_missUnderscore run (List.mem_of_find?_eq_some found)
    simp only [CaseRun.covers, Bool.and_eq_true, decide_eq_true_eq] at covers
    intro same
    have code := toNat_ofNat_cases (c.toNat + run.shift).toNat
    have underscore : '_'.toNat = 95 := rfl
    rw [same] at code
    omega
  · exact other

theorem upperChar_ne_underscore {c : Char} (alphanumeric : isAlphanumeric c = true) :
    '_' ∉ upperChar c := by
  have other : c ≠ '_' := by
    rintro rfl
    exact absurd alphanumeric (by decide)
  unfold upperChar
  split
  · rename_i ascii
    have upper : c.toUpper ≠ '_' :=
      ascii_forall (p := fun c => isAlphanumeric c = true → c.toUpper ≠ '_') (by decide +kernel)
        ascii alphanumeric
    simpa using upper.symm
  · split
    · rename_i codes found
      have misses := upperSequences_missUnderscore _ (List.mem_of_find?_eq_some found)
      simpa [eq_comm] using misses
    · simpa using (mapCase_ne_underscore other).symm

end Text

theorem isAlphanumeric_of_mem_splitBy {run list : List Char}
    (split : run ∈ list.splitBy fun a b => Text.isAlphanumeric a == Text.isAlphanumeric b)
    (some : run.any Text.isAlphanumeric = true) : ∀ c ∈ run, Text.isAlphanumeric c = true := by
  let same (a b : Char) : Prop := Text.isAlphanumeric a = Text.isAlphanumeric b
  have transitive : Trans same same same := ⟨Eq.trans⟩
  have symmetric : Std.Symm same := ⟨fun _ _ => Eq.symm⟩
  have chain : run.IsChain same :=
    (List.isChain_of_mem_splitBy split).imp fun _ _ equal => eq_of_beq equal
  obtain ⟨d, member, alphanumeric⟩ := List.any_eq_true.mp some
  intro c inside
  have equal : same d c :=
    chain.pairwise.forall_of_forall (R := same) (fun _ _ => rfl) member inside
  exact equal.symm.trans alphanumeric

theorem mem_nameParts {name part : String} (member : part ∈ nameParts name) :
    part.toList ≠ [] ∧
      ∀ c ∈ part.toList, Text.isAlphanumeric c = true ∧ c ∈ name.toList := by
  obtain ⟨run, split, kept⟩ := List.mem_filterMap.mp member
  split at kept
  · rename_i some
    cases kept
    rw [String.toList_ofList]
    refine ⟨List.ne_nil_of_mem_splitBy split, fun c inside => ⟨?_, ?_⟩⟩
    · exact isAlphanumeric_of_mem_splitBy split some c inside
    · rw [← List.flatten_splitBy _ name.toList]
      exact List.mem_flatten.mpr ⟨run, split, inside⟩
  · cases kept

theorem mem_pascalCase {name : String} {c : Char} (member : c ∈ (pascalCase name).toList) :
    ∃ d ∈ name.toList, Text.isAlphanumeric d = true ∧ (c = d ∨ c ∈ Text.upperChar d) := by
  rw [pascalCase, String.toList_ofList] at member
  obtain ⟨part, inside, member⟩ := List.mem_flatMap.mp member
  obtain ⟨-, letters⟩ := mem_nameParts inside
  cases chars : part.toList with
  | nil =>
    rw [chars] at member
    cases member
  | cons d rest =>
    rw [chars] at member letters
    rcases List.mem_append.mp member with member | member
    · obtain ⟨alphanumeric, own⟩ := letters d List.mem_cons_self
      exact ⟨d, own, alphanumeric, .inr member⟩
    · obtain ⟨alphanumeric, own⟩ := letters c (List.mem_cons_of_mem _ member)
      exact ⟨c, own, alphanumeric, .inl rfl⟩

theorem pascalCase_ne_underscore {name : String} : '_' ∉ (pascalCase name).toList := by
  intro member
  obtain ⟨d, -, alphanumeric, rfl | upper⟩ := mem_pascalCase member
  · exact absurd alphanumeric (by decide)
  · exact Text.upperChar_ne_underscore alphanumeric upper

/-- A model is named "Model" only where nothing is left of its table's name. -/
theorem modelName_spec (table : String) :
    (pascalCase (singularize table)).toList = [] ∧ modelName table = "Model" ∨
      ∃ first rest, (pascalCase (singularize table)).toList = first :: rest ∧
        (modelName table).toList =
          if Text.isDigit first then '_' :: first :: rest else first :: rest := by
  unfold modelName
  split
  · exact .inl ⟨‹_›, rfl⟩
  · rename_i first rest shape
    exact .inr ⟨first, rest, shape, String.toList_ofList⟩

theorem modelName_cases (table : String) :
    modelName table = "Model" ∨
      ∃ first rest, (pascalCase (singularize table)).toList = first :: rest ∧
        (modelName table).toList =
          if Text.isDigit first then '_' :: first :: rest else first :: rest :=
  (modelName_spec table).imp_left And.right

theorem modelName_chars (table : String) :
    ∃ w, w ≠ [] ∧ '_' ∉ w ∧
      ((modelName table).toList = w ∨ (modelName table).toList = '_' :: w) := by
  obtain model | ⟨first, rest, pascal, chars⟩ := modelName_cases table
  · rw [model]
    exact ⟨"Model".toList, by decide, by decide, .inl rfl⟩
  · refine ⟨first :: rest, List.cons_ne_nil _ _, pascal ▸ pascalCase_ne_underscore, ?_⟩
    split at chars
    · exact .inr chars
    · exact .inl chars

theorem eq_of_append_underscore {w w' rest rest' : List Char} (free : '_' ∉ w) (free' : '_' ∉ w')
    (same : w ++ '_' :: rest = w' ++ '_' :: rest') : w = w' ∧ rest = rest' := by
  have first {w : List Char} (free : '_' ∉ w) (rest : List Char) :
      (w ++ '_' :: rest).takeWhile (· != '_') = w := by
    rw [List.takeWhile_append_of_pos]
    · simp
    · intro c member
      simpa using ne_of_mem_of_not_mem member free
  have equal : w = w' := by rw [← first free rest, same, first free']
  subst equal
  exact ⟨rfl, List.cons_inj_right _ |>.mp (List.append_cancel_left same)⟩

theorem modelName_append_inj {a b x y : String}
    (same : modelName a ++ "_" ++ x = modelName b ++ "_" ++ y) :
    modelName a = modelName b ∧ x = y := by
  have chars (t z : String) :
      (modelName t ++ "_" ++ z).toList = (modelName t).toList ++ '_' :: z.toList := by
    rw [String.append_assoc, String.toList_append, String.toList_append]
    rfl
  have lists := congrArg String.toList same
  rw [chars, chars] at lists
  rw [← String.toList_inj, ← String.toList_inj]
  obtain ⟨w, some, free, hw⟩ := modelName_chars a
  obtain ⟨w', some', free', hw'⟩ := modelName_chars b
  obtain ⟨c, v, rfl⟩ := List.exists_cons_of_ne_nil some
  obtain ⟨c', v', rfl⟩ := List.exists_cons_of_ne_nil some'
  rcases hw with hw | hw <;> rcases hw' with hw' | hw' <;> rw [hw, hw'] at lists ⊢
  · exact eq_of_append_underscore free free' lists
  · exact absurd (List.cons.inj lists).1 (List.ne_of_not_mem_cons free).symm
  · exact absurd (List.cons.inj lists).1.symm (List.ne_of_not_mem_cons free').symm
  · obtain ⟨names, rest⟩ := eq_of_append_underscore free free' (List.cons.inj lists).2
    exact ⟨congrArg _ names, rest⟩

end RelSchema
