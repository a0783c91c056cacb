import RelSchema.Proofs.Ids
import RelSchema.Proofs.RoundTrip.Declarations
import RelSchema.Proofs.RoundTrip.TypeText

namespace RelSchema

def ColumnType.sizeless : List ColumnType :=
  [int, text, boolean, date, timestamp, float, double, json, uuid]

/-- A column of a type that the dialect writes as such, with sizes that make sense for it. -/
inductive Column.IsNative (d : Dialect) (c : Column) : Prop where
  | bare (member : c.type ∈ ColumnType.sizeless) (supported : d.supports c.type = true)
  | varchar {n : Int} (type : c.type = .varchar) (length : c.length = some n) (positive : 1 ≤ n)
  | decimal (type : c.type = .decimal) (length : c.length = none) (scale : c.scale = none)
  | precise {n : Int} (type : c.type = .decimal) (length : c.length = some n) (positive : 1 ≤ n)
      (scale : ∀ s, c.scale = some s → 0 ≤ s)
  | enum (dialect : d = .mysql) (type : c.type = .enum) (values : c.values ≠ [])

/-- Columns of one type, with the same sizes or values where the type has any. -/
structure Column.SameType (a b : Column) : Prop where
  type : a.type = b.type
  length : a.type = .varchar ∨ a.type = .decimal → a.length = b.length
  scale : a.type = .decimal → a.scale = b.scale
  values : a.type = .enum → a.values = b.values

namespace Sql

def typeWord (text : String) : List Char := text.toList.takeWhile (· != '(')

def typeWords (d : Dialect) : ColumnType → List (List Char)
  | .decimal => ["DECIMAL".toList, "NUMBER".toList]
  | type => (d.typeName? type).toList.map typeWord

/-- Where types share a word: a text without limit is a long text of limited length, and a truth
value is a short number. -/
def sharesWord : Dialect → ColumnType → ColumnType → Bool
  | .sqlserver, .text, .varchar | .sqlserver, .varchar, .text => true
  | .oracle, .boolean, .decimal | .oracle, .decimal, .boolean => true
  | _, a, b => a = b

theorem typeWords_apart : ∀ d ∈ Dialect.all, ∀ a ∈ ColumnType.all, ∀ b ∈ ColumnType.all,
    ∀ word ∈ typeWords d a, word ∈ typeWords d b → sharesWord d a b = true := by
  decide +kernel

theorem typeWord_called {name : String} (free : '(' ∉ name.toList) (arguments : String) :
    typeWord (name ++ "(" ++ arguments ++ ")") = name.toList := by
  have text : (name ++ "(" ++ arguments ++ ")").toList =
      name.toList ++ '(' :: (arguments.toList ++ [')']) := by simp
  have whole := Header.span_quoted free (arguments.toList ++ [')'])
  rw [List.span_eq_takeWhile_dropWhile, Prod.mk.injEq] at whole
  rw [typeWord, text]
  exact whole.1

section Texts

variable {d : Dialect} (table : Option String) {c : Column}

theorem renderType_name (member : c.type ∈ ColumnType.sizeless)
    (supported : d.supports c.type = true) :
    d.typeName? c.type = some (renderType d table c) := by
  have named : ∃ name, d.typeName? c.type = some name := by
    cases type : c.type <;> simp [type, ColumnType.sizeless] at member <;> cases d <;>
      exact ⟨_, rfl⟩
  obtain ⟨name, named⟩ := named
  rw [named, Option.some.injEq]
  cases type : c.type <;> simp [type, ColumnType.sizeless] at member <;>
    rw [type] at named supported <;>
    simp [renderType, renderScalar, type, named, supported]

theorem renderType_varchar {n : Int} (type : c.type = .varchar) (length : c.length = some n)
    (positive : 1 ≤ n) : ∃ name, d.typeName? .varchar = some name ∧
      renderType d table c = name ++ "(" ++ toString n ++ ")" := by
  obtain ⟨name, named⟩ : ∃ name, d.typeName? .varchar = some name := by
    cases d <;> exact ⟨_, rfl⟩
  have size : varcharLength c.length = n := by
    rw [length]
    exact if_neg (by omega)
  refine ⟨name, named, ?_⟩
  simp only [renderType, renderScalar, type, named, Dialect.supports, size, reduceCtorEq,
    false_and, Bool.not_true, Bool.false_eq_true, ↓reduceIte]
  rfl

theorem renderType_values (type : c.type = .enum) (values : c.values ≠ []) :
    renderType .mysql table c = "ENUM" ++ "(" ++ valueList c.values ++ ")" := by
  have some : c.values.isEmpty = false := by simpa using values
  simp only [renderType, renderScalar, type, some, Dialect.typeName?, Dialect.supports,
    Dialect.supportsEnums, reduceCtorEq, false_and, Bool.not_true, Bool.false_eq_true, ↓reduceIte]
  rfl

theorem typeWord_name {type : ColumnType} {name : String} (other : type ≠ .decimal)
    (named : d.typeName? type = some name) : typeWord name ∈ typeWords d type := by
  unfold typeWords
  split
  · contradiction
  · rw [named]
    exact List.mem_singleton.mpr rfl

theorem typeWord_decimal (type : c.type = .decimal) :
    typeWord (renderType d table c) ∈ typeWords d .decimal := by
  obtain ⟨⟨base, names, called⟩, -⟩ := renderType_decimal d table type
  have word : typeWord (renderType d table c) = base.toList := by
    rcases called with ⟨-, rendered⟩ | ⟨arguments, -, rendered⟩
    · rw [rendered]
      rcases names with rfl | rfl <;> decide
    · rw [rendered]
      rcases names with rfl | rfl <;> exact typeWord_called (by decide) arguments
  rw [word]
  rcases names with rfl | rfl <;> simp [typeWords]

theorem typeWord_native (native : c.IsNative d) :
    typeWord (renderType d table c) ∈ typeWords d c.type := by
  cases native with
  | bare member supported =>
    refine typeWord_name ?_ (renderType_name table member supported)
    intro type
    simp [type, ColumnType.sizeless] at member
  | varchar type length positive =>
    obtain ⟨name, named, rendered⟩ := renderType_varchar (d := d) table type length positive
    have free : '(' ∉ name.toList := by
      cases d <;> cases named <;> decide
    have word := typeWord_name (by decide) named
    have short : typeWord name = name.toList := by
      cases d <;> cases named <;> decide
    rw [rendered, typeWord_called free, type, ← short]
    exact word
  | decimal type => exact type ▸ typeWord_decimal table type
  | precise type => exact type ▸ typeWord_decimal table type
  | enum dialect type values =>
    subst dialect
    rw [renderType_values table type values, typeWord_called (by decide), type]
    decide

theorem renderType_text_ne {table' : Option String} {a : Column} (text : a.type = .text)
    (varchar : c.type = .varchar) (native : c.IsNative d) :
    renderType d table' a ≠ renderType d table c := by
  intro same
  have named := renderType_name (d := d) table' (c := a) (by rw [text]; decide) (by rw [text]; rfl)
  obtain ⟨n, length, positive⟩ : ∃ n, c.length = some n ∧ 1 ≤ n := by
    cases native with
    | varchar _ length positive => exact ⟨_, length, positive⟩
    | _ => simp_all [ColumnType.sizeless]
  obtain ⟨name, own, rendered⟩ := renderType_varchar (d := d) table varchar length positive
  rw [same, rendered, text] at named
  have shape : (name ++ "(" ++ toString n ++ ")").toList.dropLast =
      name.toList ++ '(' :: (toString n).toList := by
    rw [String.toList_append, show ")".toList = [')'] from rfl, List.dropLast_concat]
    simp
  obtain ⟨last, ends⟩ : ∃ last, (toString n).toList.getLast? = some last := by
    obtain ⟨m, rfl⟩ := Int.eq_ofNat_of_zero_le (show 0 ≤ n by omega)
    exact ⟨_, List.getLast?_eq_some_getLast (Text.repr_ne_nil m)⟩
  have digit := toString_chars (show 0 ≤ n by omega) last (List.mem_of_getLast? ends)
  have before := congrArg (Option.map fun text => text.toList.dropLast.getLast?) named
  rw [Option.map_some, shape, List.getLast?_append, List.getLast?_cons, ends] at before
  cases d <;> cases before <;> cases digit

end Texts

section Same

variable {d : Dialect} {table table' : Option String} {a b : Column}

theorem type_eq_of_renderType (ha : a.IsNative d) (hb : b.IsNative d)
    (same : renderType d table a = renderType d table' b) : a.type = b.type := by
  have shares : sharesWord d a.type b.type = true := by
    refine typeWords_apart d (by cases d <;> decide) a.type (by cases a.type <;> decide) b.type
      (by cases b.type <;> decide) _ (typeWord_native table ha) ?_
    rw [same]
    exact typeWord_native table' hb
  have truth {table table' : Option String} {a b : Column} (boolean : a.type = .boolean)
      (decimal : b.type = .decimal) : renderType d table a ≠ renderType d table' b := by
    intro same
    have named := renderType_name (d := d) table (c := a) (by rw [boolean]; decide)
      (by rw [boolean]; rfl)
    rw [boolean, same] at named
    exact (renderType_decimal d table' decimal).2 named
  unfold sharesWord at shares
  split at shares
  · rename_i text varchar
    exact absurd same (renderType_text_ne table' text varchar hb)
  · rename_i varchar text
    exact absurd same.symm (renderType_text_ne table text varchar ha)
  · rename_i boolean decimal
    exact absurd same (truth boolean decimal)
  · rename_i decimal boolean
    exact absurd same.symm (truth boolean decimal)
  · exact of_decide_eq_true shares

end Same

theorem toString_inj {n m : Int} (natural : 0 ≤ n) (natural' : 0 ≤ m)
    (same : toString n = toString m) : n = m := by
  obtain ⟨i, rfl⟩ := Int.eq_ofNat_of_zero_le natural
  obtain ⟨j, rfl⟩ := Int.eq_ofNat_of_zero_le natural'
  rw [repr_injective same]

theorem called_inj {name name' arguments arguments' : String} (free : '(' ∉ name.toList)
    (free' : '(' ∉ name'.toList)
    (same : name ++ "(" ++ arguments ++ ")" = name' ++ "(" ++ arguments' ++ ")") :
    arguments = arguments' := by
  have cut {name : String} (free : '(' ∉ name.toList) (arguments : String) :
      (name ++ "(" ++ arguments ++ ")").toList.span (· != '(') =
        (name.toList, '(' :: (arguments.toList ++ [')'])) := by
    rw [← Header.span_quoted free (arguments.toList ++ [')'])]
    simp
  have parts := cut free arguments
  rw [same, cut free' arguments'] at parts
  simpa [String.toList_inj] using (Prod.mk.inj parts).2.symm

def scaleChars : Option Int → List Char
  | none => []
  | some scale => ',' :: (toString scale).toList

theorem scaleChars_inj {scale scale' : Option Int} (natural : ∀ s, scale = some s → 0 ≤ s)
    (natural' : ∀ s, scale' = some s → 0 ≤ s) (same : scaleChars scale = scaleChars scale') :
    scale = scale' := by
  cases scale with
  | none =>
    cases scale' with
    | none => rfl
    | some => cases same
  | some s =>
    cases scale' with
    | none => cases same
    | some s' =>
      have digits := String.toList_inj.mp (List.cons.inj same).2
      rw [toString_inj (natural s rfl) (natural' s' rfl) digits]

theorem decimalArguments?_precise {c : Column} {n : Int} (length : c.length = some n)
    (positive : 1 ≤ n) : ∃ arguments, decimalArguments? "," c = some arguments ∧
      arguments.toList = (toString n).toList ++ scaleChars c.scale := by
  unfold decimalArguments?
  rw [length]
  split
  · contradiction
  · rename_i zero
    cases zero
    contradiction
  · rename_i precision _ same
    cases same
    refine ⟨_, rfl, ?_⟩
    cases c.scale with
    | none => exact (List.append_nil _).symm
    | some scale =>
      change (toString n ++ "," ++ toString scale).toList = _
      simp [scaleChars]

theorem decimalArguments?_native {d : Dialect} {c : Column} (native : c.IsNative d)
    (type : c.type = .decimal) :
    decimalArguments? "," c = none ∧ c.length = none ∧ c.scale = none ∨
      ∃ n, c.length = some n ∧ 1 ≤ n ∧ ∀ s, c.scale = some s → 0 ≤ s := by
  cases native with
  | decimal _ length scale =>
    refine .inl ⟨?_, length, scale⟩
    rw [decimalArguments?, length]
  | precise _ length positive scale => exact .inr ⟨_, length, positive, scale⟩
  | _ => simp_all [ColumnType.sizeless]

theorem decimalArguments?_inj {d : Dialect} {a b : Column} (ha : a.IsNative d) (hb : b.IsNative d)
    (type : a.type = .decimal) (type' : b.type = .decimal)
    (same : decimalArguments? "," a = decimalArguments? "," b) :
    a.length = b.length ∧ a.scale = b.scale := by
  rcases decimalArguments?_native ha type with
    ⟨none, length, scale⟩ | ⟨n, length, positive, scale⟩ <;>
  rcases decimalArguments?_native hb type' with
    ⟨none', length', scale'⟩ | ⟨m, length', positive', scale'⟩
  · exact ⟨length.trans length'.symm, scale.trans scale'.symm⟩
  · obtain ⟨arguments, found, -⟩ := decimalArguments?_precise length' positive'
    rw [none, found] at same
    cases same
  · obtain ⟨arguments, found, -⟩ := decimalArguments?_precise length positive
    rw [none', found] at same
    cases same
  · obtain ⟨arguments, found, text⟩ := decimalArguments?_precise length positive
    obtain ⟨arguments', found', text'⟩ := decimalArguments?_precise length' positive'
    rw [found, found', Option.some.injEq] at same
    have cut {n : Int} (natural : 0 ≤ n) (scale : Option Int) :
        ((toString n).toList ++ scaleChars scale).span Char.isDigit =
          ((toString n).toList, scaleChars scale) := by
      refine Header.span_stops (toString_chars natural) ?_
      cases scale <;> rintro c ⟨⟩
      rfl
    have parts := cut (show 0 ≤ n by omega) a.scale
    rw [← text, same, text', cut (by omega), Prod.mk.injEq] at parts
    have precision := toString_inj (by omega) (by omega) (String.toList_inj.mp parts.1)
    rw [length, length', precision]
    exact ⟨rfl, scaleChars_inj scale scale' parts.2.symm⟩

section Same

variable {d : Dialect} {table table' : Option String} {a b : Column} (ha : a.IsNative d)
  (hb : b.IsNative d) (same : renderType d table a = renderType d table' b)

include ha hb same

theorem decimal_eq_of_renderType (type : a.type = .decimal) (type' : b.type = .decimal) :
    a.length = b.length ∧ a.scale = b.scale := by
  refine decimalArguments?_inj ha hb type type' ?_
  obtain ⟨⟨base, names, called⟩, -⟩ := renderType_decimal d table type
  obtain ⟨⟨base', names', called'⟩, -⟩ := renderType_decimal d table' type'
  rw [same] at called
  have free : '(' ∉ base.toList := by rcases names with rfl | rfl <;> decide
  have free' : '(' ∉ base'.toList := by rcases names' with rfl | rfl <;> decide
  rcases called with ⟨none, bare⟩ | ⟨arguments, found, text⟩ <;>
  rcases called' with ⟨none', bare'⟩ | ⟨arguments', found', text'⟩
  · rw [none, none']
  · rw [← bare, text'] at free
    simp at free
  · rw [← bare', text] at free'
    simp at free'
  · rw [found, found', called_inj free free' (text.symm.trans text')]

theorem varchar_eq_of_renderType (type : a.type = .varchar) (type' : b.type = .varchar) :
    a.length = b.length := by
  have limit {c : Column} (native : c.IsNative d) (type : c.type = .varchar) :
      ∃ n, c.length = some n ∧ 1 ≤ n := by
    cases native with
    | varchar _ length positive => exact ⟨_, length, positive⟩
    | _ => simp_all [ColumnType.sizeless]
  obtain ⟨n, length, positive⟩ := limit ha type
  obtain ⟨m, length', positive'⟩ := limit hb type'
  obtain ⟨name, named, text⟩ := renderType_varchar (d := d) table type length positive
  obtain ⟨name', named', text'⟩ := renderType_varchar (d := d) table' type' length' positive'
  rw [named, Option.some.injEq] at named'
  subst named'
  have free : '(' ∉ name.toList := by
    cases d <;> cases named <;> decide
  rw [text, text'] at same
  rw [length, length', toString_inj (by omega) (by omega) (called_inj free free same)]

theorem values_eq_of_renderType (type : a.type = .enum) (type' : b.type = .enum) :
    a.values = b.values := by
  have listed {c : Column} (native : c.IsNative d) (type : c.type = .enum) :
      d = .mysql ∧ c.values ≠ [] := by
    cases native with
    | enum dialect _ values => exact ⟨dialect, values⟩
    | _ => simp_all [ColumnType.sizeless]
  obtain ⟨rfl, values⟩ := listed ha type
  obtain ⟨-, values'⟩ := listed hb type'
  rw [renderType_values table type values, renderType_values table' type' values'] at same
  have lists := called_inj (by decide) (by decide) same
  rw [← literals_valueList a.values, lists, literals_valueList]

end Same

theorem renderType_of_sameType {d : Dialect} {table table' : Option String} {a b : Column}
    (ha : a.IsNative d) (hb : b.IsNative d) (same : a.SameType b) :
    renderType d table a = renderType d table' b := by
  have number (type : a.type = .decimal) : renderType d table a = renderType d table' b := by
    have arguments : decimalArguments? "," a = decimalArguments? "," b := by
      rw [decimalArguments?, same.length (.inr type), same.scale type, ← decimalArguments?]
    have type' := same.type.symm.trans type
    simp only [renderType, renderScalar, type, type', arguments, reduceCtorEq, false_and,
      ↓reduceIte]
  cases ha with
  | bare member supported =>
    have text := renderType_name table member supported
    rw [same.type] at member supported
    rw [same.type, renderType_name table' member supported] at text
    exact (Option.some.inj text).symm
  | @varchar n type length positive =>
    obtain ⟨name, own, text⟩ := renderType_varchar (d := d) table type length positive
    obtain ⟨name', own', text'⟩ := renderType_varchar (d := d) table' (same.type.symm.trans type)
      ((same.length (.inl type)).symm.trans length) positive
    rw [own, Option.some.injEq] at own'
    rw [text, text', own']
  | decimal type => exact number type
  | precise type => exact number type
  | enum dialect type values =>
    subst dialect
    have listed := same.values type
    rw [renderType_values table type values,
      renderType_values table' (same.type.symm.trans type) (listed ▸ values), listed]

/-- Native types are written alike exactly if they are the same type with the same sizes or
values. -/
theorem renderType_eq_iff_sameType {d : Dialect} {a b : Column} (ha : a.IsNative d)
    (hb : b.IsNative d) (table table' : Option String) :
    renderType d table a = renderType d table' b ↔ a.SameType b := by
  refine ⟨fun same => ?_, renderType_of_sameType ha hb⟩
  have type := type_eq_of_renderType ha hb same
  constructor
  · exact type
  · rintro (varchar | decimal)
    · exact varchar_eq_of_renderType ha hb same varchar (type.symm.trans varchar)
    · exact (decimal_eq_of_renderType ha hb same decimal (type.symm.trans decimal)).1
  · intro decimal
    exact (decimal_eq_of_renderType ha hb same decimal (type.symm.trans decimal)).2
  · intro enum
    exact values_eq_of_renderType ha hb same enum (type.symm.trans enum)

theorem shortNumber_told :
    ({ name := "enabled", type := .boolean } : Column).IsNative .oracle ∧
      ({ name := "grade", type := .decimal, length := some 1 } : Column).IsNative .oracle ∧
      renderType .oracle none { name := "enabled", type := .boolean } ≠
        renderType .oracle none { name := "grade", type := .decimal, length := some 1 } := by
  have flag : ({ name := "enabled", type := .boolean } : Column).IsNative .oracle :=
    .bare (by decide) rfl
  have grade :
      ({ name := "grade", type := .decimal, length := some 1 } : Column).IsNative .oracle :=
    .precise rfl rfl (by decide) nofun
  refine ⟨flag, grade, fun same => ?_⟩
  have type := ((renderType_eq_iff_sameType flag grade none none).mp same).type
  cases type

end Sql

end RelSchema
