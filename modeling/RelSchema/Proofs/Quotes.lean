import RelSchema.Sql.Quoting

namespace RelSchema.Sql

section Doubled

variable {mark c : Char} (rest : List Char)

theorem doubled_mark (mark : Char) :
    doubled mark (mark :: rest) = mark :: mark :: doubled mark rest := by
  simp [doubled]

theorem doubled_plain (other : c ≠ mark) : doubled mark (c :: rest) = c :: doubled mark rest := by
  simp [doubled, other]

theorem doubled_append (mark : Char) (first : List Char) :
    doubled mark (first ++ rest) = doubled mark first ++ doubled mark rest :=
  List.flatMap_append

theorem doubled_of_not_mem {w : List Char} (h : mark ∉ w) : doubled mark w = w := by
  induction w with
  | nil => rfl
  | cons c rest ih =>
    rw [List.mem_cons, not_or] at h
    rw [doubled_plain rest (Ne.symm h.1), ih h.2]

end Doubled

/-- What may stand in a literal: no quote is alone. -/
inductive Paired : List Char → Prop where
  | nil : Paired []
  | pair {rest : List Char} (paired : Paired rest) : Paired ('\'' :: '\'' :: rest)
  | plain {c : Char} {rest : List Char} (other : c ≠ '\'') (paired : Paired rest) :
      Paired (c :: rest)

theorem paired_doubled (text : List Char) : Paired (doubled '\'' text) := by
  induction text with
  | nil => exact .nil
  | cons c rest ih =>
    by_cases quote : c = '\''
    · rw [quote, doubled_mark]
      exact ih.pair
    · rw [doubled_plain rest quote]
      exact ih.plain quote

theorem undoubled_plain {c : Char} (other : c ≠ '\'') (rest : List Char) :
    undoubled (c :: rest) = c :: undoubled rest :=
  undoubled.eq_3 c rest fun _ same _ => other same

theorem undoubled_doubled (text : List Char) : undoubled (doubled '\'' text) = text := by
  induction text with
  | nil => rfl
  | cons c rest ih =>
    by_cases quote : c = '\''
    · rw [quote, doubled_mark, undoubled, ih]
    · rw [doubled_plain rest quote, undoubled_plain quote, ih]

theorem Paired.doubled_undoubled {body : List Char} (paired : Paired body) :
    doubled '\'' (undoubled body) = body := by
  induction paired with
  | nil => rfl
  | pair _ ih => rw [undoubled, doubled_mark, ih]
  | plain other _ ih => rw [undoubled_plain other, doubled_plain _ other, ih]

end RelSchema.Sql
