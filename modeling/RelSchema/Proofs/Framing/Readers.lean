import RelSchema.Proofs.Framing.Pieces

namespace RelSchema.Sql

def notComma (c : Char) : Bool := c != ','

def commaReader : Reader Scan (List (List Char)) where
  scan := id
  next := Scan.step
  read := splitFrom ','
  put := consPiece
  ready _ := True
  ok := notComma
  scan_next _ _ := rfl
  ready_next _ _ _ := trivial
  read_passing s c rest _ passes := by
    have passed : separates ',' s c = false := by
      unfold separates
      by_cases comma : c = ','
      · by_cases top : s.isTop = true
        · obtain rfl := isTop_iff.mp top
          have allowed := (passes.outer rfl rfl).2 (by rw [comma]; decide)
          simp [notComma, comma] at allowed
        · simp [top]
      · simp [comma]
    rw [splitFrom, passed]
    rfl

theorem splitTopLevel_level {w : List Char} (level : Level notComma w) :
    splitTopLevel w ',' = [w] := by
  have across := Reader.over_level (r := commaReader) (k := 0) level (fun _ _ here => here) trivial
    (s := {}) rfl
  have whole := across.read []
  simp only [commaReader, List.append_nil, splitFrom, foldr_consPiece] at whole
  exact whole

theorem Level.undivided {w : List Char} (level : Level notComma w) : IsUndivided ',' w := by
  have pieces : Decomposes ',' w (splitTopLevel w ',') := splitTopLevel_decomposes rfl w
  rw [splitTopLevel_level level] at pieces
  exact pieces.undivided w List.mem_cons_self

theorem splitTopLevel_intercalate {pieces : List (List Char)} (some : pieces ≠ [])
    (level : ∀ piece ∈ pieces, Level notComma piece) :
    splitTopLevel ([','].intercalate pieces) ',' = pieces := by
  have decomposes : Decomposes ',' ([','].intercalate pieces) pieces := by
    refine ⟨some, rfl, ?_, ?_⟩
    · intro piece member
      exact (level piece (List.dropLast_subset pieces member)).closes
    · intro piece member
      exact (level piece member).undivided
  exact (Decomposes.eq rfl decomposes).symm

def bodyReader : Reader Scan (List Char) where
  scan := id
  next := Scan.step
  read := bodyFrom
  put := List.cons
  ready _ := True
  ok _ := true
  scan_next _ _ := rfl
  ready_next _ _ _ := trivial
  read_passing s c rest _ passes := by
    have passed : (s.isTop && c == ')') = false := by
      by_cases top : s.isTop = true
      · obtain rfl := isTop_iff.mp top
        simp [(passes.outer rfl rfl).1]
      · simp [top]
    rw [bodyFrom, passed]
    rfl

theorem wrappedBody_level {ok : Char → Bool} {w : List Char} (level : Level ok w)
    (rest : List Char) : wrappedBody (w ++ ')' :: rest) = w := by
  have across := Reader.over_level (r := bodyReader) (k := 0) level (fun _ _ _ => rfl) trivial
    (s := {}) rfl
  have whole := across.read (')' :: rest)
  have back : w.foldl Scan.step {} = {} := across.scan
  have cut : bodyFrom {} (')' :: rest) = [] := rfl
  simp only [bodyReader, back, cut, List.foldr_cons_nil] at whole
  exact whole

namespace Script

def startsNoCreate (c : Char) : Bool := c.toLower != 'c'

theorem startsCreate_cons {c : Char} (h : startsNoCreate c = true) (rest : List Char) :
    startsCreate (c :: rest) = false := by
  simp only [startsNoCreate, bne_iff_ne] at h
  simp [startsCreate, h]

theorem startsNoCreate_of_not_plain {c : Char} (h : isPlain c = false) :
    startsNoCreate c = true := by
  cases starts : startsNoCreate c with
  | true => rfl
  | false =>
    have none : (scanMarks.all fun mark => !!startsNoCreate mark) = true := by decide
    rw [isPlain_of_kind none (by rw [starts]; rfl)] at h
    cases h

theorem pieces_cons {p : Place} {c : Char} {rest : List Char} (ready : p.mode = .code)
    (semicolon : p.scan.quote = none → c ≠ ';')
    (comment : p.scan.quote = none → c ≠ '/' ∧ (c = '-' → rest.head? ≠ some '-'))
    (create : p.scan.quote = none → breaksBefore p (c :: rest) = false) :
    pieces p (c :: rest) = consPiece c (pieces (p.take c) rest) := by
  rw [pieces]
  simp only [ready]
  cases quote : p.scan.quote with
  | some closing => simp
  | none =>
    obtain ⟨slash, minus⟩ := comment quote
    have lineComment : ¬(c = '-' ∧ rest.head? = some '-') := fun both => minus both.1 both.2
    simp [lineComment, slash, semicolon quote, create quote]

def pieceReader : Reader Place (List (List Char)) where
  scan := Place.scan
  next := Place.take
  read := pieces
  put := consPiece
  ready p := p.mode = .code
  ok := startsNoCreate
  scan_next _ _ := rfl
  ready_next _ _ ready := ready
  read_passing p c rest ready passes := by
    refine pieces_cons ready passes.semicolon passes.comment ?_
    intro quote
    unfold breaksBefore
    by_cases top : p.scan.isTop = true
    · have outer : p.scan.depth = 0 := by
        simpa [Scan.isTop, quote] using top
      have begins : startsNoCreate c = true := by
        cases plain : isPlain c with
        | true => exact (passes.outer quote outer).2 plain
        | false => exact startsNoCreate_of_not_plain plain
      simp [startsCreate_cons begins]
    · simp [top]

theorem over_first {p : Place} {c : Char} {w : List Char} {k : Nat} (ready : p.mode = .code)
    (started : p.started = false) (plain : isPlain c = true)
    (across : pieceReader.Over (p.take c) w k) : pieceReader.Over p (c :: w) k := by
  obtain ⟨semicolon, slash, minus, -⟩ := isPlain_ne plain
  refine across.step fun rest => pieces_cons ready (fun _ => semicolon)
    (fun _ => ⟨slash, fun same => absurd same minus⟩) fun _ => ?_
  simp [breaksBefore, started]

theorem pieces_over {p : Place} {w : List Char} (ready : p.mode = .code)
    (across : pieceReader.Over p w 0) (rest : List Char) :
    pieces p (w ++ ';' :: rest) = w :: pieces { before := some ';' } rest := by
  have whole := across.read (';' :: rest)
  have scan : (w.foldl Place.take p).scan = {} := across.scan
  have mode : (w.foldl Place.take p).mode = .code := Reader.ready_foldl (r := pieceReader) w ready
  have ends : pieces (w.foldl Place.take p) (';' :: rest) =
      [] :: pieces { before := some ';' } rest := by
    rw [pieces]
    simp [mode, scan, Scan.isTop]
  simp only [pieceReader, ends, foldr_consPiece, List.append_nil] at whole
  exact whole

end Script

end RelSchema.Sql
