import RelSchema.Sql.Quoting
import RelSchema.Sql.Script

namespace RelSchema.Sql

def closing? (c : Char) : Option Char :=
  if isQuoteMark c then some c else if c = '[' then some ']' else none

def isPlain (c : Char) : Bool :=
  !isBracketing c && c != ';' && c != '/' && c != '-'

def scanMarks : List Char := ['\'', '"', Char.ofNat 0x60, '[', '(', ')', ';', '/', '-']

theorem isPlain_eq (c : Char) : isPlain c = !scanMarks.contains c := by
  rw [Bool.eq_iff_iff]
  simp [isPlain, isBracketing, isQuoteMark, scanMarks, and_assoc]

theorem isPlain_of_kind {kind : Char → Bool} (apart : (scanMarks.all fun mark => !kind mark) = true)
    {c : Char} (h : kind c = true) : isPlain c = true := by
  rw [isPlain_eq, Bool.not_eq_true', List.contains_eq_mem, decide_eq_false_iff_not]
  intro member
  have other := List.all_eq_true.mp apart c member
  rw [h] at other
  cases other

/-- `ok` tells which plain characters may stand outside the text's own parentheses. -/
inductive Level : (Char → Bool) → List Char → Prop
  | nil {ok : Char → Bool} : Level ok []
  | plain {ok : Char → Bool} {c : Char} {w : List Char} (isPlain : isPlain c = true)
      (allowed : ok c = true) (rest : Level ok w) : Level ok (c :: w)
  | minus {ok : Char → Bool} {c : Char} {w : List Char} (single : c ≠ '-')
      (rest : Level ok (c :: w)) : Level ok ('-' :: c :: w)
  | quoted {ok : Char → Bool} {opening closing : Char} {inside w : List Char}
      (closes : closing? opening = some closing) (within : closing ∉ inside) (rest : Level ok w) :
      Level ok (opening :: (inside ++ closing :: w))
  | group {ok : Char → Bool} {inside w : List Char} (within : Level (fun _ => true) inside)
      (rest : Level ok w) : Level ok ('(' :: (inside ++ ')' :: w))

namespace Level

variable {ok : Char → Bool}

theorem append {a b : List Char} (ha : Level ok a) (hb : Level ok b) : Level ok (a ++ b) := by
  induction ha with
  | nil => exact hb
  | plain isPlain allowed _ ih => exact plain isPlain allowed (ih hb)
  | minus single _ ih => exact minus single (ih hb)
  | quoted closes within _ ih => simpa using quoted closes within (ih hb)
  | group within _ _ ih => simpa using group within (ih hb)

theorem mono {ok' : Char → Bool} {w : List Char} (h : Level ok w)
    (more : ∀ c, ok c = true → ok' c = true) : Level ok' w := by
  induction h with
  | nil => exact nil
  | plain isPlain allowed _ ih => exact plain isPlain (more _ allowed) (ih more)
  | minus single _ ih => exact minus single (ih more)
  | quoted closes within _ ih => exact quoted closes within (ih more)
  | group within _ _ ih => exact group within (ih more)

theorem of_plain {w : List Char} (h : (w.all fun c => isPlain c && ok c) = true) : Level ok w := by
  induction w with
  | nil => exact nil
  | cons c rest ih =>
    simp only [List.all_cons, Bool.and_eq_true] at h
    exact plain h.1.1 h.1.2 (ih h.2)

theorem quotation {opening closing : Char} {inside : List Char}
    (closes : closing? opening = some closing) (within : closing ∉ inside) :
    Level ok (opening :: (inside ++ [closing])) :=
  quoted closes within nil

theorem parentheses {inside : List Char} (within : Level (fun _ => true) inside) :
    Level ok ('(' :: (inside ++ [')'])) :=
  group within nil

theorem doubled {mark : Char} (closes : closing? mark = some mark) (name : List Char) :
    Level ok (mark :: (doubled mark name ++ [mark])) := by
  suffices ∀ before, mark ∉ before →
      Level ok (mark :: (before ++ (Sql.doubled mark name ++ [mark]))) from
    this [] (List.not_mem_nil)
  induction name with
  | nil => exact fun before within => quotation closes within
  | cons c rest ih =>
    intro before within
    by_cases same : c = mark
    · have tail := ih [] List.not_mem_nil
      simpa [Sql.doubled, same] using quoted closes within tail
    · have longer := ih (before ++ [c]) (by simp [within, Ne.symm same])
      simpa [Sql.doubled, same] using longer

end Level

abbrev atLevel (k : Nat) : Scan := { depth := k }

theorem isBracketing_of_isPlain {c : Char} (plain : isPlain c = true) :
    isBracketing c = false := by
  simp only [isPlain, Bool.and_eq_true, Bool.not_eq_true'] at plain
  exact plain.1.1.1

theorem step_unbracketing {c : Char} (plain : isBracketing c = false) (k : Nat) :
    (atLevel k).step c = atLevel k := by
  simp only [isBracketing, Bool.or_eq_false_iff, beq_eq_false_iff_ne] at plain
  simp [Scan.step, plain]

theorem step_plain {c : Char} (h : isPlain c = true) (k : Nat) :
    (atLevel k).step c = atLevel k :=
  step_unbracketing (isBracketing_of_isPlain h) k

theorem step_closing {opening closing : Char} (h : closing? opening = some closing) (k : Nat) :
    (atLevel k).step opening = { quote := some closing, depth := k } := by
  unfold closing? at h
  unfold Scan.step
  split at h
  · cases h
    simp_all
  · split at h
    · cases h
      simp_all
    · cases h

theorem isPlain_ne {c : Char} (h : isPlain c = true) : c ≠ ';' ∧ c ≠ '/' ∧ c ≠ '-' ∧ c ≠ ')' := by
  simp only [isPlain, isBracketing, Bool.and_eq_true, Bool.not_eq_true', Bool.or_eq_false_iff,
    beq_eq_false_iff_ne, bne_iff_ne] at h
  exact ⟨h.1.1.2, h.1.2, h.2, h.1.1.1.2⟩

theorem closing?_ne {opening closing : Char} (h : closing? opening = some closing) :
    opening ≠ ';' ∧ opening ≠ '/' ∧ opening ≠ '-' ∧ opening ≠ ')' ∧ isPlain opening = false := by
  refine ⟨?_, ?_, ?_, ?_, ?_⟩
  · rintro rfl
    cases h
  · rintro rfl
    cases h
  · rintro rfl
    cases h
  · rintro rfl
    cases h
  · unfold closing? at h
    split at h
    · simp_all [isPlain, isBracketing]
    · split at h
      · simp_all [isPlain, isBracketing]
      · cases h

structure Passes (ok : Char → Bool) (s : Scan) (c : Char) (rest : List Char) : Prop where
  semicolon : s.quote = none → c ≠ ';'
  comment : s.quote = none → c ≠ '/' ∧ (c = '-' → rest.head? ≠ some '-')
  outer : s.quote = none → s.depth = 0 → c ≠ ')' ∧ (isPlain c = true → ok c = true)

/-- A reader goes through a text with a state that holds a scan. What it makes of the rest does
not matter to it while characters pass. -/
structure Reader (σ β : Type) where
  scan : σ → Scan
  next : σ → Char → σ
  read : σ → List Char → β
  put : Char → β → β
  ready : σ → Prop
  ok : Char → Bool
  scan_next : ∀ s c, scan (next s c) = (scan s).step c
  ready_next : ∀ s c, ready s → ready (next s c)
  read_passing : ∀ s c rest, ready s → Passes ok (scan s) c rest →
    read s (c :: rest) = put c (read (next s c) rest)

namespace Reader

variable {σ β : Type} {r : Reader σ β}

theorem ready_foldl (w : List Char) {s : σ} (ready : r.ready s) : r.ready (w.foldl r.next s) := by
  induction w generalizing s with
  | nil => exact ready
  | cons c rest ih => exact ih (r.ready_next s c ready)

/-- The reader passes over a text and is then at a level. -/
structure Over (r : Reader σ β) (s : σ) (w : List Char) (k : Nat) : Prop where
  read : ∀ rest, r.read s (w ++ rest) = w.foldr r.put (r.read (w.foldl r.next s) rest)
  scan : r.scan (w.foldl r.next s) = atLevel k

theorem Over.step {s : σ} {c : Char} {w : List Char} {k : Nat}
    (moves : ∀ rest, r.read s (c :: (w ++ rest)) = r.put c (r.read (r.next s c) (w ++ rest)))
    (across : r.Over (r.next s c) w k) : r.Over s (c :: w) k := by
  refine ⟨?_, across.scan⟩
  intro rest
  rw [List.cons_append, moves, across.read rest]
  rfl

theorem Over.cons {s : σ} {c : Char} {w : List Char} {k : Nat} (ready : r.ready s)
    (passes : ∀ rest, Passes r.ok (r.scan s) c (w ++ rest)) (across : r.Over (r.next s c) w k) :
    r.Over s (c :: w) k :=
  across.step fun rest => r.read_passing s c (w ++ rest) ready (passes rest)

theorem Over.append {s : σ} {a b : List Char} {j k : Nat} (first : r.Over s a j)
    (second : r.Over (a.foldl r.next s) b k) : r.Over s (a ++ b) k := by
  refine ⟨?_, ?_⟩
  · intro rest
    rw [List.append_assoc, first.read, second.read, List.foldr_append, List.foldl_append]
  · rw [List.foldl_append, second.scan]

theorem over_quotation {inside : List Char} {closing : Char} (within : closing ∉ inside) {k : Nat}
    {s : σ} (ready : r.ready s) (scan : r.scan s = { quote := some closing, depth := k }) :
    r.Over s (inside ++ [closing]) k := by
  induction inside generalizing s with
  | nil =>
    refine Over.cons ready (fun rest => ?_) ⟨fun _ => rfl, ?_⟩
    · constructor <;> simp [scan]
    · rw [List.foldl_nil, r.scan_next, scan]
      simp [Scan.step]
  | cons c inside ih =>
    simp only [List.mem_cons, not_or] at within
    refine Over.cons ready (fun rest => ?_) (ih within.2 (r.ready_next s c ready) ?_)
    · constructor <;> simp [scan]
    · rw [r.scan_next, scan]
      simp [Scan.step, Ne.symm within.1]

theorem over_level {ok : Char → Bool} {w : List Char} (level : Level ok w) {k : Nat}
    (allowed : k = 0 → ∀ c, ok c = true → r.ok c = true) {s : σ} (ready : r.ready s)
    (scan : r.scan s = atLevel k) : r.Over s w k := by
  induction level generalizing k s with
  | nil => exact ⟨fun _ => rfl, scan⟩
  | @plain ok c w isPlain here _ ih =>
    obtain ⟨semicolon, slash, minus, close⟩ := isPlain_ne isPlain
    refine Over.cons ready (fun rest => ?_) (ih allowed (r.ready_next s c ready) ?_)
    · refine ⟨fun _ => semicolon, fun _ => ⟨slash, fun same => absurd same minus⟩, ?_⟩
      intro _ outer
      rw [scan] at outer
      exact ⟨close, fun _ => allowed outer c here⟩
    · rw [r.scan_next, scan, step_plain isPlain]
  | @minus ok c w single _ ih =>
    refine Over.cons ready (fun rest => ?_) (ih allowed (r.ready_next s '-' ready) ?_)
    · refine ⟨fun _ => by decide, fun _ => ⟨by decide, fun _ => by simpa using single⟩, ?_⟩
      exact fun _ _ => ⟨by decide, fun plain => absurd plain (by decide)⟩
    · rw [r.scan_next, scan]
      rfl
  | @quoted ok opening closing inside w closes within _ ih =>
    obtain ⟨semicolon, slash, minus, close, notPlain⟩ := closing?_ne closes
    have opened : r.ready (r.next s opening) := r.ready_next s opening ready
    have quotation : r.Over (r.next s opening) (inside ++ [closing]) k := by
      apply over_quotation within opened
      rw [r.scan_next, scan, step_closing closes]
    have whole := quotation.append (ih allowed (ready_foldl _ opened) quotation.scan)
    rw [List.append_assoc, List.singleton_append] at whole
    refine Over.cons ready (fun rest => ?_) whole
    refine ⟨fun _ => semicolon, fun _ => ⟨slash, fun same => absurd same minus⟩, ?_⟩
    exact fun _ _ => ⟨close, fun plain => by rw [notPlain] at plain; cases plain⟩
  | @group ok inside w _ _ within ih =>
    have opened : r.ready (r.next s '(') := r.ready_next s '(' ready
    have inner : r.Over (r.next s '(') inside (k + 1) := by
      refine within (fun outer => absurd outer (Nat.succ_ne_zero k)) opened ?_
      rw [r.scan_next, scan]
      rfl
    have closed := ready_foldl (r := r) inside opened
    have outer : r.Over (inside.foldl r.next (r.next s '(')) (')' :: w) k := by
      refine Over.cons closed (fun rest => ?_) (ih allowed (r.ready_next _ ')' closed) ?_)
      · refine ⟨fun _ => by decide, fun _ => ⟨by decide, fun same => absurd same (by decide)⟩, ?_⟩
        intro _ outer
        rw [inner.scan] at outer
        exact absurd outer (Nat.succ_ne_zero k)
      · rw [r.scan_next, inner.scan]
        rfl
    refine Over.cons ready (fun rest => ?_) (inner.append outer)
    refine ⟨fun _ => by decide, fun _ => ⟨by decide, fun same => absurd same (by decide)⟩, ?_⟩
    exact fun _ _ => ⟨by decide, fun plain => absurd plain (by decide)⟩

end Reader

end RelSchema.Sql
