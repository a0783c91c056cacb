import Mathlib.Tactic.ByContra
import RelSchema.Text.Character
import RelSchema.Text.Quoted

namespace RelSchema.Text

section References

def bareReference : List Char → List Char
  | '#' :: c :: rest =>
    if c = 'x' ∨ c = 'X' then number ['#', c] (rest.takeWhile fun d => (hexValue? d).isSome)
    else number ['#'] ((c :: rest).takeWhile Char.isDigit)
  | text => (text.take 32).takeWhile fun c => !"\t\n\x0c <&#;".toList.contains c
where
  number (mark digits : List Char) : List Char := if digits.isEmpty then [] else mark ++ digits

def reference (text : List Char) : List Char :=
  let bare := bareReference text
  if !bare.isEmpty && (text.drop bare.length).head? == some ';' then bare ++ [';'] else bare

structure References where
  meaning : List Char → Option (List Char)
  written : ∀ c, entity c ≠ [c] → meaning (entity c).tail = some [c]

/-- The text that is meant. A reference without a meaning stays as it is. -/
def References.unescapeFrom (R : References) : Nat → List Char → List Char
  | _, [] => []
  | skipped + 1, _ :: rest => R.unescapeFrom skipped rest
  | 0, c :: rest =>
    if c = '&' then
      match R.meaning (reference rest) with
      | some meant => meant ++ R.unescapeFrom (reference rest).length rest
      | none => c :: R.unescapeFrom 0 rest
    else c :: R.unescapeFrom 0 rest

def References.unescape (R : References) (text : String) : String :=
  String.ofList (R.unescapeFrom 0 text.toList)

theorem escapeChars_append (first second : List Char) :
    escapeChars (first ++ second) = escapeChars first ++ escapeChars second :=
  List.flatMap_append

theorem eq_of_entity {c : Char} (special : entity c ≠ [c]) :
    c = '&' ∨ c = '<' ∨ c = '>' ∨ c = '"' ∨ c = '\'' := by
  by_contra other
  simp only [not_or] at other
  exact special (by simp [entity, other])

def References.own : References where
  meaning := fun found => ("&<>\"'".toList.find? fun c => (entity c).tail == found).map ([·])
  written := by
    intro c special
    rcases eq_of_entity special with rfl | rfl | rfl | rfl | rfl <;> decide

theorem entity_eq {c : Char} (special : entity c ≠ [c]) : entity c = '&' :: (entity c).tail := by
  rcases eq_of_entity special with rfl | rfl | rfl | rfl | rfl <;> decide

theorem reference_entity {c : Char} (special : entity c ≠ [c]) (rest : List Char) :
    reference ((entity c).tail ++ rest) = (entity c).tail := by
  rcases eq_of_entity special with rfl | rfl | rfl | rfl | rfl <;>
    simp [entity, reference, bareReference, bareReference.number, hexValue?]

variable {R : References}

theorem References.unescapeFrom_append (skipped : List Char) (rest : List Char) :
    R.unescapeFrom skipped.length (skipped ++ rest) = R.unescapeFrom 0 rest := by
  induction skipped with
  | nil => rfl
  | cons c more ih => exact ih

theorem References.unescapeFrom_entity (c : Char) (rest : List Char) :
    R.unescapeFrom 0 (entity c ++ rest) = c :: R.unescapeFrom 0 rest := by
  by_cases special : entity c = [c]
  · have plain : c ≠ '&' := by
      rintro rfl
      exact absurd special (by decide)
    rw [special, List.singleton_append, unescapeFrom, if_neg plain]
  · rw [entity_eq special, List.cons_append, unescapeFrom, if_pos rfl, reference_entity special,
      R.written c special]
    exact congrArg (c :: ·) (unescapeFrom_append _ rest)

theorem References.unescapeFrom_escapeChars (text : List Char) :
    R.unescapeFrom 0 (escapeChars text) = text := by
  induction text with
  | nil => rfl
  | cons c rest ih =>
    rw [escapeChars, List.flatMap_cons, unescapeFrom_entity]
    exact congrArg (c :: ·) ih

end References

section Tags

inductive Mark where
  | char (c : Char)
  | tag (inside : List Char)
  deriving DecidableEq, Repr

def marksFrom : Option (List Char) → List Char → List Mark
  | none, [] => []
  | some inside, [] => ('<' :: inside).map .char
  | none, c :: rest => if c = '<' then marksFrom (some []) rest else .char c :: marksFrom none rest
  | some inside, c :: rest =>
    if c = '>' then .tag inside :: marksFrom none rest else marksFrom (some (inside ++ [c])) rest

def marks (text : List Char) : List Mark := marksFrom none text

def IsPlain (text : List Char) : Prop := '<' ∉ text ∧ '>' ∉ text

theorem entity_isPlain (c : Char) : IsPlain (entity c) := by
  by_cases special : entity c = [c]
  · rw [special, IsPlain, List.mem_singleton, List.mem_singleton]
    constructor <;> rintro rfl <;> exact absurd special (by decide)
  · rcases eq_of_entity special with rfl | rfl | rfl | rfl | rfl <;> exact ⟨by decide, by decide⟩

theorem escapeChars_isPlain (text : List Char) : IsPlain (escapeChars text) := by
  constructor <;> rw [escapeChars, List.mem_flatMap] <;> rintro ⟨c, -, member⟩
  · exact (entity_isPlain c).1 member
  · exact (entity_isPlain c).2 member

theorem marks_chars {text : List Char} (unopened : '<' ∉ text) (rest : List Char) :
    marks (text ++ rest) = text.map .char ++ marks rest := by
  induction text with
  | nil => rfl
  | cons c more ih =>
    rw [List.mem_cons, not_or] at unopened
    rw [marks, List.cons_append, marksFrom, if_neg (Ne.symm unopened.1)]
    exact congrArg (Mark.char c :: ·) (ih unopened.2)

theorem marksFrom_tag {inside : List Char} (unclosed : '>' ∉ inside) (read rest : List Char) :
    marksFrom (some read) (inside ++ '>' :: rest) = .tag (read ++ inside) :: marks rest := by
  induction inside generalizing read with
  | nil => simp [marksFrom, marks]
  | cons c more ih =>
    rw [List.mem_cons, not_or] at unclosed
    rw [List.cons_append, marksFrom, if_neg (Ne.symm unclosed.1), ih unclosed.2,
      List.append_assoc, List.singleton_append]

theorem marks_tag {inside : List Char} (unclosed : '>' ∉ inside) (rest : List Char) :
    marks ('<' :: inside ++ '>' :: rest) = .tag inside :: marks rest :=
  marksFrom_tag unclosed [] rest

end Tags

end RelSchema.Text
