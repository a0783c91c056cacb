import RelSchema.Proofs.Framing.Readers

namespace RelSchema.Sql.Script

def glue : List (List Char) → List (List Char) → List (List Char)
  | [], others => others
  | [last], [] => [last]
  | [last], first :: others => (last ++ first) :: others
  | piece :: next :: more, others => piece :: glue (next :: more) others

theorem glue_concat (init : List (List Char)) (last first : List Char)
    (others : List (List Char)) :
    glue (init ++ [last]) (first :: others) = init ++ (last ++ first) :: others := by
  induction init with
  | nil => rfl
  | cons piece more ih =>
    cases more with
    | nil => rfl
    | cons next more => exact congrArg (piece :: ·) ih

theorem consPiece_ne_nil (c : Char) (list : List (List Char)) : consPiece c list ≠ [] := by
  cases list <;> exact List.cons_ne_nil _ _

theorem pieces_ne_nil (p : Place) (text : List Char) : pieces p text ≠ [] := by
  induction text generalizing p with
  | nil => exact List.cons_ne_nil _ _
  | cons c rest ih =>
    rw [pieces]
    split <;> repeat' split
    all_goals first | exact ih _ | exact consPiece_ne_nil _ _ | exact List.cons_ne_nil _ _

/-- What a character does: the place that it leads to, and the change to the pieces from there. -/
structure Step where
  place : Place
  put : List (List Char) → List (List Char)

def Place.step (p : Place) (c : Char) (rest : List Char) : Step :=
  let passed : Place := { p with before := some c }
  match p.mode with
  | .lineComment =>
    if c = '\n' then ⟨{ p with mode := .code }.take c, consPiece c⟩ else ⟨passed, id⟩
  | .blockOpening => ⟨{ passed with mode := .blockComment }, id⟩
  | .blockComment =>
    if c = '*' ∧ rest.head? = some '/' then ⟨{ passed with mode := .blockClosing }, id⟩
    else ⟨passed, id⟩
  | .blockClosing => ⟨{ passed with mode := .code }, id⟩
  | .code =>
    if p.scan.quote.isSome then ⟨p.take c, consPiece c⟩
    else if c = '-' ∧ rest.head? = some '-' then ⟨{ passed with mode := .lineComment }, id⟩
    else if c = '/' ∧ rest.head? = some '*' then
      ⟨{ passed with mode := .blockOpening }, consPiece ' '⟩
    else if c = ';' ∧ p.scan.isTop then ⟨{ before := some c }, ([] :: ·)⟩
    else if breaksBefore p (c :: rest) then
      ⟨{ before := p.before : Place }.take c, fun list => [] :: consPiece c list⟩
    else ⟨p.take c, consPiece c⟩

def Place.after (p : Place) : List Char → Place
  | [] => p
  | c :: rest => (p.step c rest).place.after rest

theorem pieces_step (p : Place) (c : Char) (rest : List Char) :
    pieces p (c :: rest) = (p.step c rest).put (pieces (p.step c rest).place rest) := by
  rw [pieces, Place.step]
  cases p.mode with
  | lineComment | blockComment => simp only; split <;> rfl
  | blockOpening | blockClosing => rfl
  | code =>
    simp only
    repeat' split
    all_goals rfl

/-- The change is one to the pieces before the place where two lists are glued. -/
def Glues (put : List (List Char) → List (List Char)) : Prop :=
  ∀ list others, list ≠ [] → put (glue list others) = glue (put list) others

theorem glues_id : Glues id := fun _ _ _ => rfl

theorem glues_apart : Glues ([] :: ·) := by
  intro list others some
  cases list with
  | nil => contradiction
  | cons => rfl

theorem glues_consPiece (c : Char) : Glues (consPiece c) := by
  intro list others some
  cases list with
  | nil => contradiction
  | cons piece more =>
    cases more with
    | nil => cases others <;> rfl
    | cons => rfl

theorem glues_apart_consPiece (c : Char) : Glues fun list => [] :: consPiece c list := by
  intro list others some
  change [] :: consPiece c (glue list others) = _
  rw [glues_consPiece c list others some]
  exact glues_apart _ others (consPiece_ne_nil c list)

theorem glues_step (p : Place) (c : Char) (rest : List Char) : Glues (p.step c rest).put := by
  rw [Place.step]
  split <;> repeat' split
  all_goals first
    | exact glues_id | exact glues_consPiece _ | exact glues_apart | exact glues_apart_consPiece _

theorem after_ne_closing {p : Place} {w : List Char}
    (closes : p.mode = .blockClosing → w ≠ []) : (p.after w).mode ≠ .blockClosing := by
  induction w generalizing p with
  | nil => exact fun closing => closes closing rfl
  | cons c w ih =>
    refine ih fun closing => ?_
    rintro rfl
    cases mode : p.mode with
    | lineComment => simp only [Place.step, mode] at closing; split at closing <;> cases closing
    | blockOpening | blockComment | blockClosing => simp [Place.step, mode] at closing
    | code =>
      simp only [Place.step, mode, Place.take] at closing
      repeat' split at closing
      all_goals cases closing

section Seam

variable {p : Place} {c : Char} {w rest : List Char}

theorem isWordChar_of_isUpper (upper : c.isUpper = true) : Text.isWordChar c = true := by
  have within : 'A'.val ≤ c.val ∧ c.val ≤ 'Z'.val := of_decide_eq_true upper
  have ascii : Text.isAscii c = true := by
    have small : c.toNat ≤ 90 := UInt32.le_iff_toNat_le.mp within.2
    rw [Text.isAscii, decide_eq_true_eq]
    omega
  have letter : c.isAlphanum = true := by
    have kinds : c.isAlphanum = (c.isUpper || c.isLower || c.isDigit) := rfl
    rw [kinds, upper, Bool.true_or, Bool.true_or]
  rw [Text.isWordChar, Text.isAlphanumeric, if_pos ascii, letter, Bool.or_true]

theorem isWordChar_of_create (member : c.toLower ∈ "create".toList) :
    Text.isWordChar c = true := by
  by_cases upper : c.isUpper = true
  · exact isWordChar_of_isUpper upper
  · have same : c.toLower = c := dif_neg fun within => upper (decide_eq_true within)
    have letters : "create".toList.all Text.isWordChar = true := by decide
    rw [same] at member
    exact List.all_eq_true.mp letters c member

theorem startsCreate_append (word : ∀ m, rest.head? = some m → Text.isWordChar m = false)
    (w : List Char) : startsCreate (w ++ rest) = startsCreate w := by
  cases rest with
  | nil => rw [List.append_nil]
  | cons m more =>
    have noWord : Text.isWordChar m = false := word m rfl
    rcases Nat.lt_trichotomy w.length 6 with shorter | whole | longer
    · have within : m ∈ (w ++ m :: more).take 6 := by
        obtain ⟨k, left⟩ : ∃ k, 6 - w.length = k + 1 := ⟨5 - w.length, by omega⟩
        simp [List.take_append, left]
      have other : ((w ++ m :: more).take 6).map Char.toLower ≠ "create".toList := by
        intro same
        have member := List.mem_map_of_mem (f := Char.toLower) within
        rw [same] at member
        rw [isWordChar_of_create member] at noWord
        cases noWord
      have short : (w.take 6).map Char.toLower ≠ "create".toList := by
        intro same
        have lengths := congrArg List.length same
        have six : "create".toList.length = 6 := by decide
        rw [six, List.length_map, List.length_take] at lengths
        omega
      rw [startsCreate, startsCreate, beq_eq_false_iff_ne.mpr other, beq_eq_false_iff_ne.mpr short,
        Bool.false_and, Bool.false_and]
    · simp [startsCreate, ← whole, noWord]
    · obtain ⟨c, tail, later⟩ : ∃ c tail, w.drop 6 = c :: tail :=
        List.exists_cons_of_ne_nil fun none => by
          rw [List.drop_eq_nil_iff] at none
          omega
      have first : (w ++ m :: more).take 6 = w.take 6 := List.take_append_of_le_length (by omega)
      have second : (w ++ m :: more).drop 6 = c :: (tail ++ m :: more) := by
        rw [List.drop_append_of_le_length (by omega), later, List.cons_append]
      rw [startsCreate, startsCreate, first, second, later]

/-- What follows a text neither goes on with a word nor completes a mark that the text begins. -/
structure Apart (p : Place) (w rest : List Char) : Prop where
  word : ∀ m, rest.head? = some m → Text.isWordChar m = false
  dash : w.getLast? = some '-' → rest.head? ≠ some '-'
  star : rest.head? ≠ some '*'
  slash : (p.after w).mode = .blockComment → rest.head? ≠ some '/'

theorem Apart.tail (apart : Apart p (c :: w) rest) : Apart (p.step c w).place w rest where
  word := apart.word
  dash := by
    intro last
    apply apart.dash
    rw [List.getLast?_cons, last]
    rfl
  star := apart.star
  slash := apart.slash

theorem Apart.step (apart : Apart p (c :: w) rest) : p.step c (w ++ rest) = p.step c w := by
  have create : breaksBefore p (c :: (w ++ rest)) = breaksBefore p (c :: w) := by
    rw [breaksBefore, breaksBefore, ← List.cons_append, startsCreate_append apart.word]
  cases w with
  | cons d w =>
    rw [List.cons_append] at create ⊢
    rw [Place.step, Place.step, create]
    rfl
  | nil =>
    rw [List.nil_append] at create ⊢
    have dash : ¬ (c = '-' ∧ rest.head? = some '-') := by
      rintro ⟨rfl, second⟩
      exact apart.dash rfl second
    have star : ¬ (c = '/' ∧ rest.head? = some '*') := fun mark => apart.star mark.2
    cases mode : p.mode with
    | blockComment =>
      have unclosed : (p.after [c]).mode = .blockComment := by
        simp [Place.after, Place.step, mode]
      have slash : ¬ (c = '*' ∧ rest.head? = some '/') := fun mark => apart.slash unclosed mark.2
      simp [Place.step, mode, slash]
    | code => simp [Place.step, mode, dash, star, create]
    | lineComment => simp [Place.step, mode]
    | blockOpening => simp [Place.step, mode]
    | blockClosing => simp [Place.step, mode]

theorem pieces_append (apart : Apart p w rest) :
    pieces p (w ++ rest) = glue (pieces p w) (pieces (p.after w) rest) := by
  induction w generalizing p with
  | nil =>
    obtain ⟨first, others, cut⟩ := List.exists_cons_of_ne_nil (pieces_ne_nil p rest)
    rw [List.nil_append, Place.after, cut]
    rfl
  | cons c w ih =>
    rw [List.cons_append, pieces_step, apart.step, ih apart.tail,
      glues_step p c w _ _ (pieces_ne_nil _ w), ← pieces_step]
    rfl

end Seam

theorem pieces_before_congr (p : Place) {before before' : Option Char}
    (same : endsWord before = endsWord before') (text : List Char) :
    pieces { p with before } text = pieces { p with before := before' } text := by
  cases text with
  | nil => rfl
  | cons c rest => simp [pieces, breaksBefore, Place.take, same]

end RelSchema.Sql.Script
