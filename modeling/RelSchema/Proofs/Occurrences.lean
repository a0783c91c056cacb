import Mathlib.Data.List.Infix
import RelSchema.Proofs.Markup

namespace RelSchema.Text

def occurrences (piece text : String) : Nat :=
  text.toList.tails.countP fun rest => piece.toList <+: rest

def following (piece text : List Char) : List (List Char) :=
  text.tails.filterMap (·.dropPrefix? piece)

def upToQuote (text : List Char) : String := String.ofList (text.takeWhile (· ≠ '"'))

def quotedAfter (piece text : String) : List String :=
  (following piece.toList text.toList).map upToQuote

theorem isSome_dropPrefix? (piece text : List Char) :
    (text.dropPrefix? piece).isSome = true ↔ piece <+: text := by
  rw [Option.isSome_iff_exists]
  simp only [List.dropPrefix?_eq_some_iff, beq_iff_eq, List.IsPrefix]
  constructor
  · rintro ⟨rest, start, rfl, rfl⟩
    exact ⟨rest, rfl⟩
  · rintro ⟨rest, rfl⟩
    exact ⟨rest, piece, rfl, rfl⟩

theorem length_quotedAfter (piece text : String) :
    (quotedAfter piece text).length = occurrences piece text := by
  rw [quotedAfter, List.length_map, following, List.length_filterMap_eq_countP, occurrences]
  exact List.countP_congr fun rest _ => by simp [isSome_dropPrefix?]

section Append

/-- The end of a text does not begin a piece, unless it is the whole piece. -/
def EndsClear (piece text : String) : Prop :=
  ∀ rest ∈ text.toList.tails, rest ≠ [] → rest <+: piece.toList → rest = piece.toList

instance (piece text : String) : Decidable (EndsClear piece text) :=
  inferInstanceAs (Decidable
    (∀ rest ∈ text.toList.tails, rest ≠ [] → rest <+: piece.toList → rest = piece.toList))

theorem countP_tails_append {piece a : List Char} (some : piece ≠ [])
    (clear : ∀ rest ∈ a.tails, rest ≠ [] → rest <+: piece → rest = piece) (b : List Char) :
    (a ++ b).tails.countP (fun rest => piece <+: rest) =
      a.tails.countP (fun rest => piece <+: rest) + b.tails.countP fun rest => piece <+: rest := by
  induction a with
  | nil => simp [some]
  | cons c a ih =>
    have inside : piece <+: c :: a ++ b ↔ piece <+: c :: a := by
      refine ⟨fun starts => ?_, fun starts => starts.trans (List.prefix_append _ _)⟩
      rcases List.prefix_or_prefix_of_prefix starts (List.prefix_append (c :: a) b) with whole | cut
      · exact whole
      · have same := clear _ List.mem_cons_self (List.cons_ne_nil c a) cut
        exact same ▸ List.prefix_rfl
    have more := ih fun rest member => clear rest (List.mem_cons_of_mem _ member)
    rw [List.cons_append] at inside
    rw [List.cons_append, List.tails_cons, List.tails_cons, List.countP_cons, List.countP_cons,
      more]
    simp only [inside]
    omega

theorem occurrences_append {piece a : String} (some : piece.toList ≠ []) (clear : EndsClear piece a)
    (b : String) : occurrences piece (a ++ b) = occurrences piece a + occurrences piece b := by
  rw [occurrences, String.toList_append]
  exact countP_tails_append some clear b.toList

variable {first : Char} {piece text : String}

theorem first_mem {rest : List Char}
    (member : rest ∈ text.toList.tails) (begun : first ∈ rest) : first ∈ text.toList :=
  ((List.mem_tails _ _).mp member).subset begun

theorem endsClear_of_not_mem {more : List Char} (starts : piece.toList = first :: more)
    (absent : first ∉ text.toList) : EndsClear piece text := by
  intro rest member some cut
  cases rest with
  | nil => exact absurd rfl some
  | cons c rest =>
    rw [starts, List.cons_prefix_cons] at cut
    exact absurd (first_mem member (cut.1 ▸ List.mem_cons_self)) absent

theorem occurrences_of_not_mem {more : List Char} (starts : piece.toList = first :: more)
    (absent : first ∉ text.toList) : occurrences piece text = 0 := by
  rw [occurrences, List.countP_eq_zero]
  intro rest member begins
  rw [decide_eq_true_eq, starts] at begins
  exact absent (first_mem member (begins.subset List.mem_cons_self))

end Append

section Quotes

theorem following_cons (piece : List Char) (c : Char) (text : List Char) :
    following piece (c :: text) =
      ((c :: text).dropPrefix? piece).toList ++ following piece text := by
  rw [following, List.tails_cons, List.filterMap_cons, following]
  cases (c :: text).dropPrefix? piece <;> rfl

variable {mark a : List Char}

theorem dropPrefix?_quote (unquoted : '"' ∉ mark) (free : '"' ∉ a) (rest : List Char) :
    (a ++ '"' :: rest).dropPrefix? (mark ++ ['"']) = if mark = a then some rest else none := by
  induction mark generalizing a with
  | nil =>
    cases a with
    | nil => simp [List.dropPrefix?]
    | cons c a =>
      rw [List.mem_cons, not_or] at free
      simp [List.dropPrefix?, Ne.symm free.1]
  | cons d mark ih =>
    rw [List.mem_cons, not_or] at unquoted
    cases a with
    | nil => simp [List.dropPrefix?, unquoted.1]
    | cons c a =>
      rw [List.mem_cons, not_or] at free
      have more := ih unquoted.2 free.2
      by_cases same : c = d
      · simp [List.dropPrefix?, same, more]
      · simp [List.dropPrefix?, same, Ne.symm same]

theorem following_quote (unquoted : '"' ∉ mark) (free : '"' ∉ a) (rest : List Char) :
    following (mark ++ ['"']) (a ++ '"' :: rest) =
      (if mark <:+ a then [rest] else []) ++ following (mark ++ ['"']) rest := by
  induction a with
  | nil =>
    have found := dropPrefix?_quote unquoted free rest
    rw [List.nil_append] at found
    rw [List.nil_append, following_cons, found]
    simp only [List.suffix_nil]
    split <;> rfl
  | cons c a ih =>
    have found := dropPrefix?_quote unquoted free rest
    rw [List.cons_append] at found
    rw [List.cons_append, following_cons, found,
      ih fun member => free (List.mem_cons_of_mem _ member)]
    by_cases whole : mark = c :: a
    · have ends : mark <:+ c :: a := whole ▸ List.suffix_rfl
      have longer : ¬mark <:+ a := fun shorter => by
        have := shorter.length_le
        rw [whole, List.length_cons] at this
        omega
      rw [if_pos whole, if_pos ends, if_neg longer]
      rfl
    · have same : mark <:+ c :: a ↔ mark <:+ a := List.suffix_cons_iff.trans (or_iff_right whole)
      simp only [same]
      rw [if_neg whole]
      rfl

theorem following_unquoted (free : '"' ∉ a) : following (mark ++ ['"']) a = [] := by
  rw [following, List.filterMap_eq_nil_iff]
  intro rest member
  rw [← Option.not_isSome_iff_eq_none, isSome_dropPrefix?]
  intro starts
  have quoted : '"' ∈ rest := starts.subset (List.mem_append_right _ List.mem_cons_self)
  exact free (((List.mem_tails _ _).mp member).subset quoted)

theorem upToQuote_quote {value : String} (free : '"' ∉ value.toList) (rest : String) :
    upToQuote (value ++ "\"" ++ rest).toList = value := by
  have plain : ∀ c ∈ value.toList, decide (c ≠ '"') = true := by
    intro c member
    rw [decide_eq_true_eq]
    rintro rfl
    exact free member
  have quote : "\"".toList = ['"'] := rfl
  rw [String.toList_append, String.toList_append, quote, List.append_assoc, List.singleton_append,
    upToQuote, List.takeWhile_append_of_pos plain, List.takeWhile_cons_of_neg (by decide),
    List.append_nil, String.ofList_toList]

theorem quotedAfter_quote (mark : String) {a : String} (unquoted : '"' ∉ mark.toList)
    (free : '"' ∉ a.toList) (rest : String) :
    quotedAfter (mark ++ "\"") (a ++ "\"" ++ rest) =
      (if mark.toList <:+ a.toList then [upToQuote rest.toList] else []) ++
        quotedAfter (mark ++ "\"") rest := by
  have piece : (mark ++ "\"").toList = mark.toList ++ ['"'] := String.toList_append
  have text : (a ++ "\"" ++ rest).toList = a.toList ++ '"' :: rest.toList := by
    rw [String.toList_append, String.toList_append, List.append_assoc]
    rfl
  rw [quotedAfter, piece, text, following_quote unquoted free, List.map_append, quotedAfter, piece]
  split <;> rfl

theorem quotedAfter_unquoted (mark : String) {a : String} (free : '"' ∉ a.toList) :
    quotedAfter (mark ++ "\"") a = [] := by
  have piece : (mark ++ "\"").toList = mark.toList ++ ['"'] := String.toList_append
  rw [quotedAfter, piece, following_unquoted free, List.map_nil]

theorem suffix_append_cons_iff {c : Char} {u v : List Char} (once : c ∉ u) (again : c ∉ v)
    (before : List Char) : c :: u <:+ before ++ c :: v ↔ u = v := by
  constructor
  · intro ends
    rcases List.suffix_or_suffix_of_suffix ends (List.suffix_append before (c :: v)) with one | one
    · rcases List.suffix_cons_iff.mp one with same | inner
      · exact (List.cons.inj same).2
      · exact absurd (inner.subset List.mem_cons_self) again
    · rcases List.suffix_cons_iff.mp one with same | inner
      · exact (List.cons.inj same).2.symm
      · exact absurd (inner.subset List.mem_cons_self) once
  · rintro rfl
    exact List.suffix_append _ _

end Quotes

section Escaped

theorem quote_not_mem_entity (c : Char) : '"' ∉ entity c := by
  by_cases special : entity c = [c]
  · rw [special, List.mem_singleton]
    rintro rfl
    exact absurd special (by decide)
  · rcases eq_of_entity special with rfl | rfl | rfl | rfl | rfl <;> decide

theorem quote_not_mem_escape (text : String) : '"' ∉ (escape text).toList := by
  rw [escape, String.toList_ofList, escapeChars, List.mem_flatMap]
  rintro ⟨c, -, member⟩
  exact quote_not_mem_entity c member

theorem bracket_not_mem_escape (text : String) : '<' ∉ (escape text).toList := by
  rw [escape, String.toList_ofList]
  exact (escapeChars_isPlain _).1

theorem entity_ends {c : Char} (special : entity c ≠ [c]) : ∃ start, entity c = start ++ [';'] := by
  rcases eq_of_entity special with rfl | rfl | rfl | rfl | rfl <;>
    exact ⟨_, (List.dropLast_append_getLast (by decide)).symm⟩

theorem concat_suffix_iff {mark text : List Char} {x c : Char} :
    mark ++ [x] <:+ text ++ [c] ↔ mark <:+ text ∧ x = c := by
  constructor
  · rintro ⟨start, same⟩
    rw [← List.append_assoc] at same
    obtain ⟨same, last⟩ := List.append_inj' same rfl
    exact ⟨⟨start, same⟩, List.singleton_inj.mp last⟩
  · rintro ⟨⟨start, rfl⟩, rfl⟩
    exact ⟨start, (List.append_assoc _ _ _).symm⟩

theorem suffix_escapeChars_iff {mark : List Char} (plain : ∀ c ∈ mark, entity c = [c] ∧ c ≠ ';')
    (text : List Char) : mark <:+ escapeChars text ↔ mark <:+ text := by
  induction mark using List.reverseRecOn generalizing text with
  | nil => simp
  | append_singleton mark x ih =>
    have own := plain x (List.mem_append_right _ List.mem_cons_self)
    have more := ih fun c member => plain c (List.mem_append_left _ member)
    rcases List.eq_nil_or_concat' text with rfl | ⟨text, c, rfl⟩
    · rfl
    have last : escapeChars [c] = entity c := List.flatMap_singleton ..
    rw [escapeChars_append, last, concat_suffix_iff]
    by_cases special : entity c = [c]
    · rw [special, concat_suffix_iff, more]
    · obtain ⟨start, ends⟩ := entity_ends special
      have other : x ≠ c := fun same => special (same ▸ own.1)
      rw [ends, ← List.append_assoc, concat_suffix_iff]
      exact iff_of_false (fun both => own.2 both.2) fun both => other both.2

end Escaped

end RelSchema.Text
