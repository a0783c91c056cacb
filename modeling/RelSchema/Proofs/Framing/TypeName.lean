import RelSchema.Proofs.Framing.Readers
import RelSchema.Proofs.Words
import RelSchema.Sql.TypeText

namespace RelSchema.Sql

open Text (isWordChar Spelled combiningDot)

theorem isPlain_of_isWordChar {c : Char} (h : isWordChar c = true) : isPlain c = true :=
  isPlain_of_kind (by decide +kernel) h

theorem notComma_of_isWordChar {c : Char} (h : isWordChar c = true) : notComma c = true := by
  simp only [notComma, bne_iff_ne]
  rintro rfl
  exact absurd h (by decide +kernel)

theorem level_spelled {before : Char} {w : List Char} (h : Spelled before w) :
    Level notComma w := by
  induction w generalizing before with
  | nil => exact Level.nil
  | cons c rest ih =>
    obtain ⟨word | ⟨-, rfl⟩, tail⟩ := h
    · exact Level.plain (isPlain_of_isWordChar word) (notComma_of_isWordChar word) (ih tail)
    · exact Level.plain (by decide) (by decide) (ih tail)

def typeNameChar (c : Char) : Char := if isWordChar c then c else '_'

theorem typeNameChar_isWordChar (c : Char) : isWordChar (typeNameChar c) = true := by
  unfold typeNameChar
  split
  · assumption
  · rfl

theorem enumTypeName_toList (table column : String) :
    (enumTypeName table column).toList = Text.lowerFrom []
      ((table.toList ++ '_' :: (column.toList ++ ['_', 'e', 'n', 'u'])).map typeNameChar ++
        ['m']) := by
  have ending : "_enum".toList.map typeNameChar = ['_', 'e', 'n', 'u', 'm'] := by decide
  have start : ['_', 'e', 'n', 'u'].map typeNameChar = ['_', 'e', 'n', 'u'] := by decide
  have underscore : "_".toList.map typeNameChar = ['_'] := by decide
  have mark : typeNameChar '_' = '_' := by decide
  change (Text.lower (String.ofList
    ((table ++ "_" ++ column ++ "_enum").toList.map typeNameChar))).toList = _
  simp only [Text.lower, String.toList_ofList, String.toList_append, List.map_append,
    List.map_cons, ending, start, underscore, mark, List.append_assoc, List.cons_append,
    List.nil_append]

theorem enumTypeName_spelled (table column : String) :
    ∃ front, (enumTypeName table column).toList = front ++ ['m'] ∧
      ∀ before, Spelled before (front ++ ['m']) := by
  have name := enumTypeName_toList table column
  generalize made : (table.toList ++ '_' :: (column.toList ++ ['_', 'e', 'n', 'u'])).map
    typeNameChar = w at name
  have word : ∀ c ∈ w, isWordChar c = true := by
    rw [← made, List.forall_mem_map]
    exact fun c _ => typeNameChar_isWordChar c
  obtain ⟨front, lowered⟩ := Text.lowerFrom_concat (c := 'm') (by decide) [] w
  refine ⟨front, by rw [name, lowered]; rfl, ?_⟩
  intro before
  have all : ∀ c ∈ w ++ ['m'], isWordChar c = true := by
    intro c member
    rcases List.mem_append.mp member with member | member
    · exact word c member
    · rw [List.mem_singleton.mp member]
      decide
  have spelled := Text.spelled_lowerFrom all before []
  rw [lowered] at spelled
  exact spelled

namespace Script

/-- After the six letters of CREATE no dot can follow, and before their end the name goes on. -/
theorem startsCreate_spelled {before : Char} {front : List Char}
    (h : Spelled before (front ++ ['m'])) (rest : List Char) :
    startsCreate (front ++ 'm' :: rest) = false := by
  match front, h with
  | [], _ => rfl
  | [_], _ => simp [startsCreate]
  | [_, _], _ => simp [startsCreate]
  | [_, _, _], _ => simp [startsCreate]
  | [_, _, _, _], _ => simp [startsCreate]
  | [_, _, _, _, _], _ => simp [startsCreate]
  | _ :: _ :: _ :: _ :: _ :: e :: more, h =>
    obtain ⟨-, -, -, -, -, -, tail⟩ := h
    have next : e.toLower = 'e' → ∃ c w, more ++ 'm' :: rest = c :: w ∧ isWordChar c = true := by
      intro lower
      have notI : e ≠ 'i' := by
        rintro rfl
        exact absurd lower (by decide)
      cases more with
      | nil => exact ⟨'m', rest, rfl, by decide⟩
      | cons c w =>
        obtain ⟨word | ⟨same, -⟩, -⟩ := tail
        · exact ⟨c, w ++ 'm' :: rest, rfl, word⟩
        · exact absurd same notI
    by_cases lower : e.toLower = 'e'
    · obtain ⟨c, w, shape, word⟩ := next lower
      simp [startsCreate, shape, word]
    · simp [startsCreate, lower]

theorem over_spelled {before : Char} {front : List Char} (h : Spelled before (front ++ ['m']))
    {p : Place} (ready : p.mode = .code) (scan : p.scan = {}) :
    pieceReader.Over p (front ++ ['m']) 0 := by
  induction front generalizing before p with
  | nil =>
    have letter : Level startsNoCreate ['m'] := Level.of_plain (by decide)
    exact Reader.over_level letter (fun _ _ here => here) ready scan
  | cons c more ih =>
    have plain : isPlain c = true := by
      obtain ⟨word | ⟨-, rfl⟩, -⟩ := h
      · exact isPlain_of_isWordChar word
      · decide
    obtain ⟨semicolon, slash, minus, -⟩ := isPlain_ne plain
    have next : (p.take c).scan = {} := by
      change p.scan.step c = {}
      rw [scan]
      exact step_plain plain 0
    refine Reader.Over.step (fun rest => pieces_cons ready (fun _ => semicolon)
      (fun _ => ⟨slash, fun same => absurd same minus⟩) fun _ => ?_) (ih h.2 (p := p.take c) ready next)
    have create := startsCreate_spelled h rest
    simp only [List.cons_append] at create
    simp [breaksBefore, create]

end Script

end RelSchema.Sql
