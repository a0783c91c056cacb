import RelSchema.Proofs.Reading.Success

namespace RelSchema.Sql.Body

theorem Enums.mem_of_values? {enums : Enums} {name : String} {values : List String}
    (h : enums.values? name = some values) : (name, values) ∈ enums := by
  obtain ⟨before, after, split, -⟩ := List.lookup_eq_some_iff.mp h
  rw [← List.mem_reverse, split]
  simp

theorem Enums.exists_values? {enums : Enums} {name : String} {values : List String}
    (declared : (name, values) ∈ enums) : ∃ last, enums.values? name = some last := by
  rw [← Option.isSome_iff_exists, values?, List.lookup_isSome_iff]
  exact ⟨_, List.mem_reverse.mpr declared, by simp⟩

structure AsDeclared (name : String) (declared : Option (List String)) (c : Column) : Prop where
  name : c.name = name
  values : ∀ values, declared = some values → c.type = .enum ∧ c.values = values

theorem AsDeclared.of_core {name : String} {declared : Option (List String)} {c c' : Column}
    (h : AsDeclared name declared c) (core : c'.core = c.core) : AsDeclared name declared c' := by
  have named := congrArg Column.name core
  have type := congrArg Column.type core
  have listed := congrArg Column.values core
  refine ⟨named.trans h.name, fun values declared => ?_⟩
  exact ⟨type.trans (h.values values declared).1, listed.trans (h.values values declared).2⟩

theorem underRule_core {c c' : Column} {r : Rule} (h : underRule c r = .ok c') :
    c'.core = c.core := by
  cases r with
  | primaryKey columns => cases columns <;> cases h <;> rfl
  | nameOnly | incomplete => cases h
  | _ => cases h; rfl

theorem keyed_core (c : Column) : (keyed c).core = c.core := by
  unfold keyed
  split <;> rfl

theorem underRules_core {c c' : Column} {rules : List Rule} (h : underRules c rules = .ok c') :
    c'.core = c.core := by
  have each : ∀ last, rules.foldlM underRule c = .ok last → last.core = c.core := by
    clear h
    induction rules generalizing c with
    | nil =>
      rintro last ⟨⟩
      rfl
    | cons r rest ih =>
      intro last done
      rw [List.foldlM_cons] at done
      cases first : underRule c r with
      | error e => rw [first] at done; cases done
      | ok next =>
        rw [first] at done
        exact (ih last done).trans (underRule_core first)
  unfold underRules at h
  cases done : rules.foldlM underRule c with
  | error e => rw [done] at h; cases h
  | ok last =>
    rw [done] at h
    cases h
    exact (keyed_core last).trans (each last done)

theorem applyTo_name {c c' : Column} {type : TypeSpec} (h : (type.applyTo c).result = .ok c') :
    c'.name = c.name := by
  obtain ⟨meaning, -, last⟩ := Remarked.result_bind_ok.mp h
  cases last
  rfl

theorem column_asDeclared {name : String} {type : Option TypeSpec} {rules : List Rule}
    {declared : Option (List String)} {c : Column}
    (h : (column name type rules declared).result = .ok c) : AsDeclared name declared c := by
  unfold column at h
  cases declared with
  | some values =>
    obtain ⟨typed, made, ruled⟩ := Remarked.result_bind_ok.mp h
    cases made
    exact AsDeclared.of_core ⟨rfl, fun _ same => ⟨rfl, Option.some.inj same⟩⟩
      (underRules_core ruled)
  | none =>
    have undeclared : ∀ {typed : Column}, typed.name = name → AsDeclared name none typed :=
      fun named => ⟨named, fun _ absurd => by cases absurd⟩
    cases type with
    | some type =>
      obtain ⟨typed, made, ruled⟩ := Remarked.result_bind_ok.mp h
      exact (undeclared (applyTo_name made)).of_core (underRules_core ruled)
    | none =>
      obtain ⟨typed, made, ruled⟩ := Remarked.result_bind_ok.mp h
      cases made
      exact (undeclared rfl).of_core (underRules_core ruled)

theorem withTruthSpelling_asDeclared (d : Dialect) (item : List Char) {name : String}
    {declared : Option (List String)} {c : Column} (h : AsDeclared name declared c) :
    AsDeclared name declared (withTruthSpelling d item c) := by
  unfold withTruthSpelling
  split
  · rename_i decimal _
    split
    · refine ⟨h.name, fun values declared => ?_⟩
      have enum := (h.values values declared).1
      rw [decimal] at enum
      cases enum
    · exact h
  · exact h

theorem unknownTypeColumn_asDeclared {read : ItemReader} {enums : Enums} {item : List Char}
    {head : Header.ColumnHead} {name : String} {type : Option TypeSpec} {rules : List Rule}
    (split : Header.columnHead? item = some head)
    (reads : read (withPlainType head) = some (.column name type rules))
    (usable : IsUnknownColumn read enums item) :
    ∃ c, (unknownTypeColumn read enums item).result = .ok (some c) ∧
      AsDeclared name (declaredValues? enums item) c := by
  obtain ⟨found, made⟩ := unknownTypeColumn_succeeds_iff.mpr usable
  have whole := made
  unfold unknownTypeColumn at made
  rw [split] at made
  simp only [show head.name ++ " TEXT".toList ++ head.rest = withPlainType head from rfl,
    reads] at made
  obtain ⟨plain, hplain, rest⟩ := Remarked.result_bind_ok.mp made
  have named := (column_asDeclared hplain).name
  cases declared : declaredValues? enums item with
  | some values =>
    rw [declared] at rest
    cases rest
    exact ⟨_, whole, named, fun _ same => ⟨rfl, Option.some.inj same⟩⟩
  | none =>
    rw [declared] at rest
    simp only at rest
    split at rest
    · cases rest
      exact ⟨_, whole, named, fun _ absurd => by cases absurd⟩
    · obtain ⟨sized, -, last⟩ := Remarked.result_bind_ok.mp rest
      cases last
      exact ⟨_, whole, named, fun _ absurd => by cases absurd⟩

end RelSchema.Sql.Body
