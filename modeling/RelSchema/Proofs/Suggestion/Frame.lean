import RelSchema.Proofs.Suggestion.Linking

namespace RelSchema

section Replaced

variable {α : Type} {before after : List α} {a b : α}

theorem forall₂_self {R : α → α → Prop} (same : ∀ a, R a a) (list : List α) :
    List.Forall₂ R list list :=
  List.forall₂_same.mpr fun a _ => same a

theorem forall₂_replaced {R : α → α → Prop} (same : ∀ a, R a a) (new : R a b) :
    List.Forall₂ R (before ++ a :: after) (before ++ b :: after) :=
  List.rel_append (forall₂_self same before) (.cons new (forall₂_self same after))

theorem getElem?_replaced {i : Nat} (other : i ≠ before.length) :
    (before ++ b :: after)[i]? = (before ++ a :: after)[i]? := by
  rcases Nat.lt_or_gt_of_ne other with less | more
  · rw [List.getElem?_append_left less, List.getElem?_append_left less]
  · obtain ⟨k, rfl⟩ := Nat.exists_eq_add_of_lt more
    rw [List.getElem?_append_right (by omega), List.getElem?_append_right (by omega)]
    simp [Nat.add_assoc]

end Replaced

def Column.Extends (c c' : Column) : Prop :=
  c' = c ∨ c.references = none ∧ ∃ r, c' = { c with references := some r }

theorem Column.Extends.refl (c : Column) : c.Extends c := .inl rfl

/-- The old columns come first, and all of them but one at most are what they were. -/
structure Table.Extends (t t' : Table) : Prop where
  id : t'.id = t.id
  name : t'.name = t.name
  columns : ∃ kept new, t'.columns = kept ++ new ∧ new.length ≤ 1 ∧
    List.Forall₂ Column.Extends t.columns kept ∧
      ∃ place : Nat, ∀ i, i ≠ place → kept[i]? = t.columns[i]?

/-- The old tables come first, and all of them but the one at a place are what they were. -/
structure Schema.Extends (place : Option Nat) (s r : Schema) : Prop where
  dialect : r.dialect = s.dialect
  edges : s.edges <+: r.edges
  tables : ∃ kept new, r.tables = kept ++ new ∧ new.length ≤ 1 ∧
    List.Forall₂ Table.Extends s.tables kept ∧
      ∀ i : Nat, place ≠ some i → kept[i]? = s.tables[i]?

theorem Table.Extends.refl (t : Table) : t.Extends t where
  id := rfl
  name := rfl
  columns := ⟨t.columns, [], by simp, by simp, forall₂_self Column.Extends.refl _, 0,
    fun _ _ => rfl⟩

theorem Table.extends_append (t : Table) (c : Column) :
    t.Extends { t with columns := t.columns ++ [c] } where
  id := rfl
  name := rfl
  columns := ⟨t.columns, [c], rfl, by simp, forall₂_self Column.Extends.refl _, 0,
    fun _ _ => rfl⟩

theorem Table.extends_reference {t : Table} {before after : List Column} {c : Column}
    (columns : t.columns = before ++ c :: after) (free : c.references = none) (r : Reference) :
    t.Extends { t with columns := before ++ { c with references := some r } :: after } where
  id := rfl
  name := rfl
  columns := by
    refine ⟨_, [], (List.append_nil _).symm, by simp, ?_, before.length, ?_⟩
    · rw [columns]
      exact forall₂_replaced Column.Extends.refl (.inr ⟨free, r, rfl⟩)
    · intro i other
      rw [columns]
      exact getElem?_replaced other

theorem Schema.extends_append (place : Option Nat) {s r : Schema} {t : Table}
    (dialect : r.dialect = s.dialect) (edges : s.edges <+: r.edges)
    (tables : r.tables = s.tables ++ [t]) : s.Extends place r where
  dialect := dialect
  edges := edges
  tables := ⟨s.tables, [t], tables, by simp, forall₂_self Table.Extends.refl _, fun _ _ => rfl⟩

theorem Schema.Extends.refl (place : Option Nat) (s : Schema) : s.Extends place s where
  dialect := rfl
  edges := List.prefix_refl _
  tables := ⟨s.tables, [], by simp, by simp, forall₂_self Table.Extends.refl _, fun _ _ => rfl⟩

namespace Suggestion

theorem extends_set {s : Schema} {place : Nat} {t t' : Table}
    (inside : s.tables[place]? = some t) (extended : t.Extends t') (e : Edge) :
    s.Extends (some place)
      { s with tables := s.tables.set place t', edges := s.edges ++ [e] } where
  dialect := rfl
  edges := List.prefix_append _ _
  tables := by
    refine ⟨_, [], (List.append_nil _).symm, by simp, ?_, ?_⟩
    · obtain ⟨before, after, whole, replaced⟩ := split_at inside
      rw [whole] at replaced ⊢
      rw [replaced]
      exact forall₂_replaced Table.Extends.refl extended
    · intro i other
      exact List.getElem?_set_ne fun same => other (congrArg some same)

variable {s : Schema} {target : Table}

theorem relinked_extends {source : Table} {link : Link}
    (free : (target.column? (linkName source link)).filter (·.isForeignKey) = none) :
    target.Extends (relinked s source target link) := by
  unfold relinked linkedColumns
  cases found : target.column? (linkName source link) with
  | none => exact target.extends_append _
  | some c =>
    have unset : c.references = none := by
      simpa [found, Option.filter_eq_none_iff, Column.isForeignKey] using free
    obtain ⟨before, after, whole, changed⟩ := setReference_split found
      ⟨source.name, (referencedKey source link.sourceColumn).name⟩
    simp only [changed]
    exact Table.extends_reference whole unset _

theorem addForeignKey_extends {place : Nat} (inside : s.tables[place]? = some target)
    (source : Table) (link : Link) :
    s.Extends (some place) (addForeignKey s source place link).1 := by
  rcases addForeignKey_cases inside source link with ⟨-, unchanged⟩ | ⟨free, changed⟩
  · rw [unchanged]
    exact Schema.Extends.refl _ s
  · rw [changed]
    exact extends_set inside (relinked_extends free) _

theorem addForeignKey_on_last {before : List Table} (tables : s.tables = before ++ [target])
    (source : Table) (link : Link) :
    ∃ last, (addForeignKey s source before.length link).1.tables = before ++ [last] ∧
      s.edges <+: (addForeignKey s source before.length link).1.edges ∧
      (addForeignKey s source before.length link).1.dialect = s.dialect := by
  have inside : s.tables[before.length]? = some target := by simp [tables]
  rcases addForeignKey_cases inside source link with ⟨-, unchanged⟩ | ⟨-, changed⟩
  · rw [unchanged]
    exact ⟨target, tables, List.prefix_refl _, rfl⟩
  · rw [changed]
    refine ⟨relinked s source target link, ?_, List.prefix_append _ _, rfl⟩
    simp [tables, List.set_append_right]

theorem addJoinTable_extends (place : Option Nat) (s : Schema) (a b : Table) :
    s.Extends place (addJoinTable s a b).1 := by
  cases known : s.table? (joinTableName a b) with
  | some t => simpa only [addJoinTable, known] using Schema.Extends.refl place s
  | none =>
    simp only [addJoinTable, known]
    generalize ({ name := joinTableName a b, id := freshId "table" _ } : Table) = t
    obtain ⟨first, tables, edges, dialect⟩ := addForeignKey_on_last
      (s := { s with tables := s.tables ++ [t] }) rfl a { primaryKey := true }
    obtain ⟨second, tables', edges', dialect'⟩ :=
      addForeignKey_on_last tables b { primaryKey := true }
    exact Schema.extends_append place (dialect'.trans dialect) (edges.trans edges') tables'

end Suggestion

/-- Whatever a suggestion asks for, in the target one column more or one reference more is all that
happens to the old tables. -/
theorem Suggestion.applyTo_extends (x : Suggestion) (s : Schema) :
    s.Extends (placeOf? s x.target) (x.applyTo s).1 := by
  cases first : s.table? x.source with
  | none => simpa [applyTo, first] using Schema.Extends.refl _ s
  | some source =>
    cases second : s.table? x.target with
    | none => simpa [applyTo, first, second] using Schema.Extends.refl _ s
    | some target =>
      by_cases many : x.cardinality = .manyToMany
      · rw [applyTo_join many first second]
        exact addJoinTable_extends _ s source target
      · obtain ⟨place, placed, inside⟩ := placeOf?_found second
        rw [applyTo_link many first second placed, placed]
        exact addForeignKey_extends inside source x.link

end RelSchema
