import Mathlib.Data.List.Basic
import RelSchema.Proofs.Numerals
import RelSchema.Validation.Check

namespace RelSchema.Validation

/-- The error is one of the check, and not of the number in it. -/
def CheckError.IsOfCheck : CheckError → Prop
  | number _ => False
  | _ => True

namespace Check

inductive Refuses (text : String) : CheckError → Prop where
  | unknown
    (foreign : ∀ name list, split? text.toList = some (name, list) → arities.lookup name = none) :
    Refuses text (.unknown text)
  | wrongCount {name : String} {list : List String} {arity : Nat}
    (parts : split? text.toList = some (name, list)) (known : arities.lookup name = some arity)
    (other : list.length ≠ arity) :
    Refuses text (.wrongCount text arity list.length)
  | notDigits {count : String} (parts : split? text.toList = some ("min_columns", [count]))
    (letters : Text.isDigits count = false) :
    Refuses text (.notDigits count)
  | number {count : String} {e : Text.NumberError}
    (parts : split? text.toList = some ("min_columns", [count]))
    (digits : Text.isDigits count = true) (unspelled : Text.number count = .error e) :
    Refuses text (.number e)
  | unknownConvention {name : String}
    (parts : split? text.toList = some ("naming_convention", [name]))
    (foreign : Convention.ofName? name = none) :
    Refuses text (.unknownConvention name)

theorem arity_cases {name : String} {arity : Nat} (known : arities.lookup name = some arity) :
    name = "has_primary_key" ∧ arity = 0 ∨ name = "has_column" ∧ arity = 1 ∨
      name = "min_columns" ∧ arity = 1 ∨ name = "has_column_type" ∧ arity = 2 ∨
      name = "naming_convention" ∧ arity = 1 := by
  obtain ⟨before, after, whole, -⟩ := List.lookup_eq_some_iff.mp known
  have member : (name, arity) ∈ arities := by
    rw [whole]
    exact List.mem_append_right _ List.mem_cons_self
  simpa only [arities, List.mem_cons, Prod.mk.injEq, List.not_mem_nil, or_false] using member

section Arguments

variable {text name : String} {list : List String} {arity : Nat}

theorem ofArguments_wrongCount (known : arities.lookup name = some arity)
    (other : list.length ≠ arity) :
    ofArguments text name list = .error (.wrongCount text arity list.length) := by
  unfold ofArguments
  rw [known]
  rcases arity_cases known with
    ⟨rfl, rfl⟩ | ⟨rfl, rfl⟩ | ⟨rfl, rfl⟩ | ⟨rfl, rfl⟩ | ⟨rfl, rfl⟩ <;>
  rcases list with _ | ⟨first, _ | ⟨second, _ | ⟨third, rest⟩⟩⟩ <;>
  first | rfl | exact absurd rfl other

theorem ofArguments_minColumns (count : String) :
    ofArguments text "min_columns" [count] =
      if Text.isDigits count then ((Text.number count).map .minColumns).mapError .number
      else .error (.notDigits count) := rfl

theorem ofArguments_namingConvention (wanted : String) :
    ofArguments text "naming_convention" [wanted] =
      match Convention.ofName? wanted with
      | some v => .ok (.namingConvention v)
      | none => .error (.unknownConvention wanted) := rfl

theorem refuses_of_arguments {e : CheckError} (parts : split? text.toList = some (name, list))
    (known : arities.lookup name = some arity) (same : list.length = arity)
    (refused : ofArguments text name list = .error e) : Refuses text e := by
  rcases arity_cases known with
    ⟨rfl, rfl⟩ | ⟨rfl, rfl⟩ | ⟨rfl, rfl⟩ | ⟨rfl, rfl⟩ | ⟨rfl, rfl⟩
  · obtain rfl := List.length_eq_zero_iff.mp same
    cases refused
  · obtain ⟨column, rfl⟩ := List.length_eq_one_iff.mp same
    cases refused
  · obtain ⟨count, rfl⟩ := List.length_eq_one_iff.mp same
    rw [ofArguments_minColumns] at refused
    cases digits : Text.isDigits count with
    | false =>
      rw [digits] at refused
      cases refused
      exact .notDigits parts digits
    | true =>
      rw [digits] at refused
      cases spelled : Text.number count with
      | ok n =>
        rw [spelled] at refused
        cases refused
      | error reason =>
        rw [spelled] at refused
        cases refused
        exact .number parts digits spelled
  · obtain ⟨column, type, rfl⟩ := List.length_eq_two.mp same
    cases refused
  · obtain ⟨wanted, rfl⟩ := List.length_eq_one_iff.mp same
    rw [ofArguments_namingConvention] at refused
    cases convention : Convention.ofName? wanted with
    | some v =>
      rw [convention] at refused
      cases refused
    | none =>
      rw [convention] at refused
      cases refused
      exact .unknownConvention parts convention

end Arguments

theorem read_eq_error_iff {text : String} {e : CheckError} :
    read text = .error e ↔ Refuses text e := by
  constructor
  · intro refused
    unfold read at refused
    cases parts : split? text.toList with
    | none =>
      rw [parts] at refused
      cases refused
      exact .unknown fun name list again => by rw [parts] at again; cases again
    | some found =>
      obtain ⟨name, list⟩ := found
      rw [parts] at refused
      simp only at refused
      cases known : arities.lookup name with
      | none =>
        simp only [ofArguments, known] at refused
        cases refused
        refine .unknown fun name' list' again => ?_
        rw [parts] at again
        cases again
        exact known
      | some arity =>
        by_cases same : list.length = arity
        · exact refuses_of_arguments parts known same refused
        · rw [ofArguments_wrongCount known same] at refused
          cases refused
          exact .wrongCount parts known same
  · intro reason
    unfold read
    cases reason with
    | unknown foreign =>
      cases parts : split? text.toList with
      | none => rfl
      | some found => simp only [ofArguments, foreign _ _ parts]
    | wrongCount parts known other =>
      rw [parts]
      exact ofArguments_wrongCount known other
    | notDigits parts letters =>
      rw [parts]
      simp only [ofArguments_minColumns, letters, Bool.false_eq_true, ↓reduceIte]
    | number parts digits unspelled =>
      rw [parts]
      simp only [ofArguments_minColumns, digits, ↓reduceIte, unspelled]
      rfl
    | unknownConvention parts foreign =>
      rw [parts]
      simp only [ofArguments_namingConvention, foreign]

def AsksNoNumber (text : String) : Prop :=
  ∃ digits, split? text.toList = some ("min_columns", [digits]) ∧
    Text.isDigits digits = true ∧ ¬ Text.IsNumeral digits

theorem asksNoNumber_iff {text : String} :
    AsksNoNumber text ↔ ∃ e, Refuses text (.number e) := by
  have nonempty {digits : String} (all : Text.isDigits digits = true) : digits.isEmpty = false := by
    simp only [Text.isDigits, Bool.and_eq_true, Bool.not_eq_true'] at all
    exact all.1
  constructor
  · rintro ⟨digits, parts, all, unspelled⟩
    rw [← Text.number_ok_iff (nonempty all)] at unspelled
    cases number : Text.number digits with
    | ok n => exact absurd ⟨n, number⟩ unspelled
    | error e => exact ⟨e, .number parts all number⟩
  · rintro ⟨e, reason⟩
    cases reason with
    | number parts all unspelled =>
      refine ⟨_, parts, all, fun numeral => ?_⟩
      obtain ⟨n, number⟩ := (Text.number_ok_iff (nonempty all)).mpr numeral
      rw [unspelled] at number
      cases number

theorem evaluate_eq_error_iff {t : Table} {text : String} {e : CheckError} :
    evaluate t text = .error e ↔ Refuses text e := by
  rw [← read_eq_error_iff, evaluate]
  cases read text with
  | ok check => exact iff_of_false nofun nofun
  | error reason => simp only [Except.map, Except.error.injEq]

theorem evaluate_ok_iff {t : Table} {text : String} :
    (∃ passes, evaluate t text = .ok passes) ↔ ∀ e, ¬ Refuses text e := by
  simp only [← evaluate_eq_error_iff (t := t)]
  cases evaluate t text with
  | ok passes => exact iff_of_true ⟨passes, rfl⟩ nofun
  | error reason => exact iff_of_false nofun fun none => none reason rfl

theorem Refuses.unique {text : String} {e e' : CheckError} (first : Refuses text e)
    (second : Refuses text e') : e = e' := by
  rw [← read_eq_error_iff] at first second
  rw [first] at second
  exact Except.error.inj second

/-- A check can be evaluated on all tables or on none, and then it is refused on all for the same
reason. The error is one of the check, but for digits that spell no number. -/
theorem evaluate_uniform (text : String) :
    (((∀ t, ∃ passes, evaluate t text = .ok passes) ∨
      ∃ e, e.IsOfCheck ∧ Refuses text e ∧ ∀ t, evaluate t text = .error e) ↔
        ¬ AsksNoNumber text) ∧
      ((∃ e : Text.NumberError, ∀ t, evaluate t text = .error (.number e)) ↔
        AsksNoNumber text) := by
  have some : Nonempty Table := ⟨{ name := "" }⟩
  simp only [evaluate_ok_iff, evaluate_eq_error_iff, asksNoNumber_iff, forall_const,
    and_self, and_true]
  constructor
  · rintro (none | ⟨e, own, reason⟩) ⟨number, wrong⟩
    · exact none _ wrong
    · rw [reason.unique wrong] at own
      exact own
  · intro spelled
    by_cases refused : ∃ e, Refuses text e
    · obtain ⟨e, reason⟩ := refused
      refine .inr ⟨e, ?_, reason⟩
      cases reason with
      | number parts digits unspelled => exact spelled ⟨_, .number parts digits unspelled⟩
      | _ => trivial
    · exact .inl (not_exists.mp refused)

/-- A superscript counts as a digit, but no number is written with it. -/
theorem superscriptCount_refused :
    evaluate { name := "t" } "min_columns(²)" = .error (.number (.notANumber "²")) ∧
      ¬ CheckError.IsOfCheck (.number (.notANumber "²")) :=
  ⟨by decide +kernel, id⟩

end Check

end RelSchema.Validation
