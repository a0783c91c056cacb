import Mathlib.Data.List.Basic
import RelSchema.Orm.Prisma
import RelSchema.Proofs.Json.RoundTrip
import RelSchema.Proofs.Quotes

namespace RelSchema

theorem Json.read_quote (text : String) : read (quote text) = .ok (.string text) := by
  have written : (string text).write .line = .ok (quote text) := by
    simp [write, isWritable, render, chars, quote]
  exact read_of_write (.string text) written

namespace Orm

open Sql (Paired doubled undoubled undoubled_doubled)

def enclosed (body : List Char) : List Char := '\'' :: body ++ ['\'']

theorem enclosed_inj {body body' : List Char} : enclosed body = enclosed body' ↔ body = body' := by
  simp [enclosed]

theorem toList_literal (text : String) :
    (Sql.literal text).toList = enclosed (doubled '\'' text.toList) := by
  rw [Sql.literal, String.toList_ofList]
  rfl

namespace DefaultValue

theorem quotedBody?_eq_some {s body : List Char} :
    quotedBody? s = some body ↔ s = enclosed body := by
  unfold quotedBody? enclosed
  split
  · rename_i rest
    constructor
    · intro found
      split at found
      · rename_i last
        rw [← Option.some.inj found, List.cons_append, List.dropLast_append_getLast? _ last]
      · contradiction
    · intro shape
      obtain rfl := List.cons.inj shape |>.2
      simp
  · rename_i other
    constructor
    · intro none
      contradiction
    · intro shape
      exact absurd shape (other _)

theorem ofText_eq_text {type : ColumnType} {sql value : String} :
    ofText type sql = .text value ↔
      ∃ body, sql.toList = enclosed body ∧ undoubled body = value.toList := by
  unfold ofText
  split
  · rename_i body found
    rw [quotedBody?_eq_some] at found
    simp only [found, enclosed_inj, exists_eq_left', text.injEq]
    constructor
    · intro read
      rw [← read, String.toList_ofList]
    · intro read
      rw [read, String.ofList_toList]
  · rename_i none
    have bare : ∀ body, sql.toList ≠ enclosed body := by
      intro body shape
      rw [quotedBody?_eq_some.mpr shape] at none
      contradiction
    simp only [bare, false_and, exists_false, iff_false]
    split_ifs <;> simp

/-- The quotes between the first and the last are paired, if these two are quotes. -/
def PairedWithin (s : List Char) : Prop := ∀ body, s = enclosed body → Paired body

theorem eq_literal_iff {type : ColumnType} {sql value : String} :
    sql = Sql.literal value ↔ ofText type sql = .text value ∧ PairedWithin sql.toList := by
  rw [ofText_eq_text]
  constructor
  · intro same
    have shape := toList_literal value
    rw [← same] at shape
    refine ⟨⟨_, shape, undoubled_doubled _⟩, ?_⟩
    intro body again
    rw [shape, enclosed_inj] at again
    rw [← again]
    exact Sql.paired_doubled _
  · rintro ⟨⟨body, shape, read⟩, paired⟩
    apply String.toList_inj.mp
    rw [shape, toList_literal, ← read, (paired body shape).doubled_undoubled]

end DefaultValue

open DefaultValue

/-- A default counts as a text if it is enclosed in quotes, and then scripts hold a string of that
text. The default is the literal of the text exactly if the quotes within are paired. -/
theorem ofColumn?_text_iff {c : Column} {sql : String} (given : c.default? = some sql) :
    ((∃ value, ofColumn? c = some (.text value)) ↔
      ∃ body, Text.trimChars sql.toList = enclosed body) ∧
    ∀ value,
      (Text.trim sql = Sql.literal value ↔
        ofColumn? c = some (.text value) ∧ PairedWithin (Text.trimChars sql.toList)) ∧
      (ofColumn? c = some (.text value) →
        (∀ now expression, ∃ printed,
          (ofColumn? c).bind (·.script now expression) = some printed ∧
            Json.read printed = .ok (.string value)) ∧
        ∀ hasEnum, (hasEnum && c.values.contains value) = false →
          Json.read (Prisma.defaultText c hasEnum (.text value)) = .ok (.string value)) := by
  have kind : ofColumn? c = some (ofText c.type (Text.trim sql)) := by rw [ofColumn?, given]; rfl
  have chars : (Text.trim sql).toList = Text.trimChars sql.toList := String.toList_ofList
  simp only [kind, Option.some.injEq]
  refine ⟨?_, fun value => ⟨?_, fun read => ⟨?_, ?_⟩⟩⟩
  · simp only [ofText_eq_text, chars]
    constructor
    · rintro ⟨value, body, shape, -⟩
      exact ⟨body, shape⟩
    · rintro ⟨body, shape⟩
      exact ⟨String.ofList (undoubled body), body, shape, String.toList_ofList.symm⟩
  · rw [← chars]
    exact eq_literal_iff
  · intro now expression
    rw [read]
    exact ⟨Json.quote value, rfl, Json.read_quote value⟩
  · intro hasEnum other
    simp only [Prisma.defaultText, other, Bool.false_eq_true, ↓reduceIte]
    exact Json.read_quote value

def withDefault (sql : String) : Column :=
  { name := "note", constraints := [{ kind := .default, value := some sql }] }

theorem possessiveDefault_text :
    (withDefault " 'it''s' ").default? = some " 'it''s' " ∧
      ofColumn? (withDefault " 'it''s' ") = some (.text "it's") ∧
      Json.read (Prisma.defaultText (withDefault " 'it''s' ") false (.text "it's")) =
        .ok (.string "it's") := by
  have given : (withDefault " 'it''s' ").default? = some " 'it''s' " := rfl
  have default := (ofColumn?_text_iff given).2 "it's"
  have text := (default.1.mp (by decide +kernel)).1
  exact ⟨given, text, (default.2 text).2 false rfl⟩

theorem joinedDefault_text :
    ofColumn? (withDefault "'a' || 'b'") = some (.text "a' || 'b") ∧
      Text.trim "'a' || 'b'" ≠ Sql.literal "a' || 'b" := by
  decide +kernel

end Orm

end RelSchema
