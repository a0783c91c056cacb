import RelSchema.Proofs.Framing.Script
import RelSchema.Proofs.RoundTrip.Header

namespace RelSchema.Sql

instance (d : Dialect) (name : String) : Decidable (Enclosed d name) :=
  decidable_of_iff (name ≠ "" ∧ (quoteMarks d).closing ∉ name.toList)
    ⟨fun h => ⟨h.1, h.2⟩, fun h => ⟨h.nonempty, h.free⟩⟩

def tableHeader (d : Dialect) (name : String) : List Char :=
  "CREATE TABLE ".toList ++ ((quoteIdentifier d name).toList ++ [' ', '('])

theorem tableHeader_append (d : Dialect) (name : String) (rest : List Char) :
    tableHeader d name ++ rest =
      "CREATE TABLE ".toList ++ ((quoteIdentifier d name).toList ++ ' ' :: '(' :: rest) := by
  have opening : [' ', '('] ++ rest = ' ' :: '(' :: rest := rfl
  unfold tableHeader
  rw [List.append_assoc, List.append_assoc, opening]

/-- A text that cannot be the quotes of a name with a body after it: there is nothing in the quotes,
or the character that closes them comes twice. -/
structure IsBroken (d : Dialect) (text : List Char) : Prop where
  split : ∃ inside after, text =
      (quoteMarks d).opening :: (inside ++ (quoteMarks d).closing :: after) ∧
    (quoteMarks d).closing ∉ inside ∧ (inside = [] ∨ after.head? = some (quoteMarks d).closing)

theorem quoteIdentifier_broken {d : Dialect} {name : String} (h : ¬ Enclosed d name)
    (rest : List Char) : IsBroken d ((quoteIdentifier d name).toList ++ rest) := by
  rw [quoteIdentifier, String.toList_ofList, quoteChars]
  by_cases held : (quoteMarks d).closing ∈ name.toList
  · obtain ⟨before, after, split, free⟩ := List.eq_append_cons_of_mem held
    have written : doubled (quoteMarks d).closing name.toList =
        before ++ (quoteMarks d).closing :: (quoteMarks d).closing ::
          doubled (quoteMarks d).closing after := by
      rw [split, doubled_append, doubled_mark, doubled_of_not_mem free]
    refine ⟨before, (quoteMarks d).closing ::
      (doubled (quoteMarks d).closing after ++ (quoteMarks d).closing :: rest), ?_, free, .inr rfl⟩
    rw [written]
    simp
  · have empty : name = "" := by
      by_contra nonempty
      exact h ⟨nonempty, held⟩
    subst empty
    exact ⟨[], rest, rfl, List.not_mem_nil, .inl rfl⟩

namespace Header

theorem moreNames_closing (d : Dialect) (fuel : Nat) (rest : List Char) :
    moreNames fuel ((quoteMarks d).closing :: rest) = ([], (quoteMarks d).closing :: rest) := by
  cases fuel with
  | zero => rfl
  | succ fuel =>
    have none : pointName? ((quoteMarks d).closing :: rest) = none := by cases d <;> rfl
    rw [moreNames, none]

theorem createTable?_broken {d : Dialect} {text : List Char} (h : IsBroken d text) :
    createTable? ("CREATE TABLE ".toList ++ text) = none := by
  obtain ⟨inside, after, rfl, free, broken⟩ := h.split
  rw [createTable?_keywords, qualified?, name?_quotation free]
  by_cases empty : inside = []
  · rw [if_pos empty]
    rfl
  · rcases broken with none | next
    · exact absurd none empty
    obtain ⟨rest, rfl⟩ := List.head?_eq_some_iff.mp next
    rw [if_neg empty]
    simp only [Option.bind_eq_bind, Option.bind_some, moreNames_closing]
    cases d <;> rfl

/-- A generated header is read as the name of its table, up to the parenthesis and whatever follows,
exactly if the name is not empty and free of the character that closes its quotes; a header with any
other name is not read at all. -/
theorem createTable?_tableHeader (d : Dialect) (name : String) :
    (∀ body, tableHeader d name <+: ((Statement.createTable name body).text d).toList) ∧
      ∀ rest, createTable? (tableHeader d name ++ rest) =
        if Enclosed d name then some (name.toList, rest) else none := by
  constructor
  · intro body
    refine ⟨bodyText d name body ++ [')'], ?_⟩
    rw [tableHeader_append, createTable_toList]
  · intro rest
    rw [tableHeader_append]
    by_cases enclosed : Enclosed d name
    · rw [if_pos enclosed]
      exact createTable?_generated enclosed rest
    · rw [if_neg enclosed]
      exact createTable?_broken (quoteIdentifier_broken enclosed _)

/-- A quote in the name of a table keeps its header from being read. -/
theorem quotedQuote_unread :
    createTable? (tableHeader .postgresql "6\" pipes") = none ∧
      createTable? (tableHeader .sqlserver "list[]") = none := by
  decide +kernel

end Header

end RelSchema.Sql
