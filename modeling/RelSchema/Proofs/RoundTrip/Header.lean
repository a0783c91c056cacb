import Mathlib.Data.List.TakeDrop
import RelSchema.Proofs.Framing.Lines
import RelSchema.Sql.Header

namespace RelSchema.Sql

structure Enclosed (d : Dialect) (name : String) : Prop where
  nonempty : name ≠ ""
  free : (quoteMarks d).closing ∉ name.toList

theorem Enclosed.quotable {d : Dialect} {name : String} (h : Enclosed d name) :
    Quotable d name := by
  rintro rfl
  exact h.free

theorem Enclosed.toList_ne_nil {d : Dialect} {name : String} (h : Enclosed d name) :
    name.toList ≠ [] := by
  simpa using h.nonempty

theorem quoteIdentifier_toList {d : Dialect} {name : String} (h : Enclosed d name) :
    (quoteIdentifier d name).toList =
      (quoteMarks d).opening :: (name.toList ++ [(quoteMarks d).closing]) := by
  rw [quoteIdentifier, String.toList_ofList, quoteChars, doubled_of_not_mem h.free]
  rfl

namespace Header

theorem closingMark?_opening (d : Dialect) :
    closingMark? (quoteMarks d).opening = some (quoteMarks d).closing := by
  cases d <;> rfl

theorem isBlank_opening (d : Dialect) : Text.isBlank (quoteMarks d).opening = false := by
  cases d <;> decide

theorem isBlank_closing (d : Dialect) : Text.isBlank (quoteMarks d).closing = false := by
  cases d <;> decide

theorem skipBlank_cons {c : Char} (h : Text.isBlank c = false) (rest : List Char) :
    skipBlank (c :: rest) = c :: rest := by
  simp [skipBlank, h]

theorem span_stops {p : Char → Bool} {part after : List Char} (within : ∀ m ∈ part, p m = true)
    (ends : ∀ m ∈ after.head?, p m = false) : (part ++ after).span p = (part, after) := by
  have stop : after.takeWhile p = [] ∧ after.dropWhile p = after := by
    cases after with
    | nil => exact ⟨rfl, rfl⟩
    | cons m rest => simp [ends m rfl]
  rw [List.span_eq_takeWhile_dropWhile, List.takeWhile_append_of_pos within,
    List.dropWhile_append_of_pos within, stop.1, stop.2, List.append_nil]

theorem span_quoted {closing : Char} {inside : List Char} (free : closing ∉ inside)
    (rest : List Char) :
    (inside ++ closing :: rest).span (· != closing) = (inside, closing :: rest) := by
  refine span_stops (fun c member => ?_) fun c head => ?_
  · rw [bne_iff_ne]
    rintro rfl
    exact free member
  · rw [← Option.some.inj head, bne_self_eq_false]

theorem name?_quotation {d : Dialect} {inside : List Char} (free : (quoteMarks d).closing ∉ inside)
    (starts : Char → Bool) (rest : List Char) :
    name? starts ((quoteMarks d).opening :: (inside ++ (quoteMarks d).closing :: rest)) =
      if inside = [] then none
      else some ((quoteMarks d).opening :: (inside ++ [(quoteMarks d).closing]), rest) := by
  rw [name?, closingMark?_opening]
  simp only [span_quoted free rest]
  cases inside <;> simp

theorem name?_quoted {d : Dialect} {name : String} (h : Enclosed d name) (starts : Char → Bool)
    (rest : List Char) :
    name? starts ((quoteIdentifier d name).toList ++ rest) =
      some ((quoteIdentifier d name).toList, rest) := by
  have whole := name?_quotation h.free starts rest
  rw [if_neg h.toList_ne_nil] at whole
  rw [quoteIdentifier_toList h, List.cons_append, List.append_assoc, List.singleton_append, whole]

theorem unquote_quoted {d : Dialect} {name : String} (h : Enclosed d name) :
    unquote (quoteIdentifier d name).toList = name.toList := by
  obtain ⟨c, more, shape⟩ := List.exists_cons_of_ne_nil h.toList_ne_nil
  have trimmed : Text.trimChars (quoteIdentifier d name).toList = (quoteIdentifier d name).toList := by
    rw [quoteIdentifier_toList h]
    simp [Text.trimChars, Text.trimLeft, Text.trimRight, isBlank_opening, isBlank_closing]
  unfold unquote
  rw [trimmed, quoteIdentifier_toList h, shape]
  simp [closingMark?_opening]

theorem namesFrom_nil (fuel : Nat) : namesFrom fuel [] = [] := by
  cases fuel <;> rfl

theorem lastName_quoted {d : Dialect} {name : String} (h : Enclosed d name) :
    lastName (quoteIdentifier d name).toList = name.toList := by
  have found : namesFrom (quoteIdentifier d name).toList.length (quoteIdentifier d name).toList =
      [(quoteIdentifier d name).toList] := by
    have whole := name?_quoted h isNameStart []
    rw [List.append_nil] at whole
    have text := quoteIdentifier_toList h
    generalize (quoteIdentifier d name).toList = quoted at whole text ⊢
    subst text
    simp only [List.length_cons, namesFrom, whole]
    rw [namesFrom_nil]
  rw [lastName, found]
  exact unquote_quoted h

theorem moreNames_parenthesis (fuel : Nat) (rest : List Char) :
    moreNames fuel (' ' :: '(' :: rest) = ([], ' ' :: '(' :: rest) := by
  cases fuel with
  | zero => rfl
  | succ fuel =>
    have none : pointName? (' ' :: '(' :: rest) = none := rfl
    rw [moreNames, none]

theorem qualified?_quoted {d : Dialect} {name : String} (h : Enclosed d name) (rest : List Char) :
    qualified? ((quoteIdentifier d name).toList ++ ' ' :: '(' :: rest) =
      some ((quoteIdentifier d name).toList, ' ' :: '(' :: rest) := by
  simp [qualified?, name?_quoted h, moreNames_parenthesis]

theorem createTable?_keywords (d : Dialect) (text : List Char) :
    createTable? ("CREATE TABLE ".toList ++ (quoteMarks d).opening :: text) = (do
      let (name, rest) ← qualified? ((quoteMarks d).opening :: text)
      match skipBlank rest with
      | '(' :: body => some (lastName name, body)
      | _ => none) := by
  cases d <;> rfl

theorem createTable?_generated {d : Dialect} {name : String} (h : Enclosed d name)
    (rest : List Char) :
    createTable? ("CREATE TABLE ".toList ++
      ((quoteIdentifier d name).toList ++ ' ' :: '(' :: rest)) = some (name.toList, rest) := by
  have named := qualified?_quoted h rest
  have last := lastName_quoted h
  have text := quoteIdentifier_toList h
  rw [text] at named last ⊢
  rw [List.cons_append, createTable?_keywords, ← List.cons_append, named]
  simp only [Option.bind_eq_bind, Option.bind_some, last]
  rfl

theorem createEnum?_createTable (text : List Char) :
    createEnum? ("CREATE TABLE ".toList ++ text) = none := rfl

end Header

end RelSchema.Sql
