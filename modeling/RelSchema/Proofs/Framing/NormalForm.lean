import RelSchema.Proofs.Framing.Comments
import RelSchema.Proofs.Framing.TypeName
import RelSchema.Proofs.Framing.Uncut

namespace RelSchema.Sql.Script

/-- In each piece nothing is cut, and all but the last are complete. -/
def Settled (p : Place) : List (List Char) → Prop
  | [] => True
  | piece :: more =>
    Keeps p piece ∧ (more ≠ [] → (p.scan.run piece).isTop = true) ∧ Settled {} more

theorem Settled.consPiece {p : Place} {c : Char} {list : List (List Char)} (nonempty : list ≠ [])
    (takes : p.scan.quote = none → ∀ first others, list = first :: others → p.Takes c first)
    (settled : Settled (p.take c) list) : Settled p (consPiece c list) := by
  cases list with
  | nil => contradiction
  | cons first others =>
    exact ⟨⟨fun unquoted => takes unquoted first others rfl, settled.1⟩, settled.2⟩

section Seen

variable {p : Place} {text first : List Char} {others : List (List Char)}

theorem head_consPiece {c : Char} {list : List (List Char)}
    (cut : consPiece c list = first :: others) : first.head? = some c := by
  cases list <;> cases cut <;> rfl

theorem head_lineComment (mode : p.mode = .lineComment)
    (cut : pieces p text = first :: others) : ∀ m ∈ first.head?, m = '\n' := by
  induction text generalizing p with
  | nil =>
    cases cut
    exact fun _ none => nomatch none
  | cons c rest ih =>
    rw [pieces] at cut
    simp only [mode] at cut
    split at cut
    · rename_i newline
      rw [head_consPiece cut]
      exact fun m same => (Option.some.inj same).symm.trans newline
    · exact ih (p := { mode := .lineComment, scan := p.scan, before := some c, started := _ }) rfl
        cut

theorem head_pieces (ready : p.mode = .code) (cut : pieces p text = first :: others) :
    ∀ m ∈ first.head?, m = ' ' ∨ m = '\n' ∨ text.head? = some m := by
  cases text with
  | nil =>
    cases cut
    exact fun _ none => nomatch none
  | cons c rest =>
    have own {list : List (List Char)} (cut : consPiece c list = first :: others) :
        ∀ m ∈ first.head?, m = ' ' ∨ m = '\n' ∨ (c :: rest).head? = some m := by
      rw [head_consPiece cut]
      exact fun m same => .inr (.inr same)
    rw [pieces] at cut
    simp only [ready] at cut
    repeat' split at cut
    · exact own cut
    · exact fun m head => .inr (.inl (head_lineComment rfl cut m head))
    · rw [head_consPiece cut]
      exact fun m same => .inl (Option.some.inj same).symm
    · cases cut
      exact fun _ none => nomatch none
    · cases cut
      exact fun _ none => nomatch none
    · exact own cut

theorem scan_take_word (unquoted : p.scan.quote = none) {c : Char}
    (word : Text.isWordChar c = true) : (p.take c).scan = p.scan := by
  have level : p.scan = atLevel p.scan.depth := by rw [atLevel, ← unquoted]
  change p.scan.step c = p.scan
  rw [level, step_plain (isPlain_of_isWordChar word)]

theorem takeWhile_pieces (ready : p.mode = .code) (unquoted : p.scan.quote = none)
    (within : endsWord p.before = false) (cut : pieces p text = first :: others) :
    first.takeWhile Text.isWordChar = text.takeWhile Text.isWordChar := by
  induction text generalizing p first others with
  | nil =>
    cases cut
    rfl
  | cons c rest ih =>
    cases word : Text.isWordChar c with
    | true =>
      have plain := isPlain_of_isWordChar word
      obtain ⟨semicolon, slash, dash, -⟩ := isPlain_ne plain
      have step : pieces p (c :: rest) = consPiece c (pieces (p.take c) rest) :=
        pieces_cons ready (fun _ => semicolon) (fun _ => ⟨slash, fun same => absurd same dash⟩)
          fun _ => by rw [breaksBefore, within, Bool.and_false, Bool.false_and]
      obtain ⟨tail, more, split⟩ := List.exists_cons_of_ne_nil (pieces_ne_nil (p.take c) rest)
      have tails := ih (p := p.take c) ready (by rw [scan_take_word unquoted word, unquoted])
        (by simp [Place.take, endsWord, word]) split
      rw [step, split] at cut
      cases cut
      rw [List.takeWhile_cons_of_pos word, List.takeWhile_cons_of_pos word, tails]
    | false =>
      have stop : ∀ m ∈ first.head?, Text.isWordChar m = false := by
        intro m head
        rcases head_pieces ready cut m head with rfl | rfl | same
        · decide
        · decide
        · rwa [← Option.some.inj same]
      rw [List.takeWhile_cons_of_neg (by simp [word])]
      cases first with
      | nil => rfl
      | cons m _ => rw [List.takeWhile_cons_of_neg (by simp [stop m rfl])]

theorem startsCreate_takeWhile (w : List Char) :
    startsCreate (w.takeWhile Text.isWordChar) = startsCreate w := by
  have stop : ∀ m, (w.dropWhile Text.isWordChar).head? = some m → Text.isWordChar m = false :=
    fun _ head => Text.head_dropWhile head
  have split := startsCreate_append stop (w.takeWhile Text.isWordChar)
  rw [List.takeWhile_append_dropWhile] at split
  exact split.symm

theorem isWordChar_of_starts {c : Char} (starts : startsNoCreate c = false) :
    Text.isWordChar c = true := by
  have letter : c.toLower = 'c' := by simpa [startsNoCreate] using starts
  exact isWordChar_of_create (by rw [letter]; decide)

theorem startsCreate_pieces {c : Char} {rest : List Char} (ready : p.mode = .code)
    (unquoted : p.scan.quote = none) (cut : pieces (p.take c) rest = first :: others) :
    startsCreate (c :: first) = startsCreate (c :: rest) := by
  cases start : startsNoCreate c with
  | true => rw [startsCreate_cons start, startsCreate_cons start]
  | false =>
    have word := isWordChar_of_starts start
    have words := takeWhile_pieces (p := p.take c) ready
      (by rw [scan_take_word unquoted word, unquoted]) (by simp [Place.take, endsWord, word]) cut
    rw [← startsCreate_takeWhile, List.takeWhile_cons_of_pos word, words,
      ← List.takeWhile_cons_of_pos word, startsCreate_takeWhile]

end Seen

/-- What a character may be preceded by when the script is read on without its comments. -/
def Resumes (p : Place) (text : List Char) (before : Option Char) : Prop :=
  match p.mode with
  | .code => endsWord before = endsWord p.before
  | .lineComment => True
  | .blockOpening | .blockComment => endsWord before = true
  | .blockClosing => endsWord before = endsWord text.head?

theorem takes_of_pieces {p : Place} {c : Char} {rest first : List Char}
    {others : List (List Char)} (ready : p.mode = .code) (unquoted : p.scan.quote = none)
    (takes : p.Takes c rest) (cut : pieces (p.take c) rest = first :: others)
    {before : Option Char} (same : endsWord before = endsWord p.before) :
    Place.Takes { p with before } c first := by
  have head {m : Char} (seen : m ≠ ' ' ∧ m ≠ '\n') (second : first.head? = some m) :
      rest.head? = some m := by
    rcases head_pieces (p := p.take c) ready cut m second with rfl | rfl | raw
    · exact absurd rfl seen.1
    · exact absurd rfl seen.2
    · exact raw
  refine ⟨?_, ?_, takes.semicolon, ?_⟩
  · exact fun mark => takes.lineComment ⟨mark.1, head (by decide) mark.2⟩
  · exact fun mark => takes.blockComment ⟨mark.1, head (by decide) mark.2⟩
  · have create := takes.create
    rw [breaksBefore] at create ⊢
    rwa [startsCreate_pieces ready unquoted cut, same]

theorem takes_first {c : Char} {rest : List Char} (create : startsCreate (c :: rest) = true)
    (first : List Char) : Place.Takes {} c first := by
  have starts : startsNoCreate c = false := by
    rw [Bool.eq_false_iff]
    intro other
    rw [startsCreate_cons other] at create
    cases create
  have plain := isPlain_of_isWordChar (isWordChar_of_starts starts)
  obtain ⟨semicolon, slash, dash, -⟩ := isPlain_ne plain
  exact ⟨fun mark => dash mark.1, fun mark => slash mark.1, fun mark => semicolon mark.1, rfl⟩

theorem takes_space {c : Char} (space : c = ' ' ∨ c = '\n') (p : Place) (first : List Char) :
    p.Takes c first := by
  have other : startsNoCreate c = true := by rcases space with rfl | rfl <;> decide
  have noMark : c ≠ '-' ∧ c ≠ '/' ∧ c ≠ ';' := by rcases space with rfl | rfl <;> decide
  refine ⟨fun mark => noMark.1 mark.1, fun mark => noMark.2.1 mark.1, fun mark => noMark.2.2 mark.1,
    ?_⟩
  rw [breaksBefore, startsCreate_cons other, Bool.and_false]

theorem settled_step {p : Place} (ready : p.mode = .code) {before : Option Char}
    (same : endsWord before = endsWord p.before) {c : Char} {rest : List Char}
    (later : ∀ (q : Place) (before : Option Char), Resumes q rest before →
      Settled { q with mode := .code, before } (pieces q rest)) :
    Settled { p with before } (pieces p (c :: rest)) := by
  obtain ⟨mode, scan, last, started⟩ := p
  obtain rfl : mode = .code := ready
  have nonempty (q : Place) := pieces_ne_nil q rest
  have kept := later (Place.take ⟨.code, scan, last, started⟩ c) (some c) rfl
  rw [pieces]
  simp only
  split
  · rename_i quoted
    refine Settled.consPiece (nonempty _) (fun unquoted => ?_) kept
    rw [show scan.quote = none from unquoted] at quoted
    cases quoted
  rename_i quoted
  have unquoted : scan.quote = none := by simpa using quoted
  split
  · exact later ⟨.lineComment, scan, some c, started⟩ before trivial
  rename_i lineComment
  split
  · have space := take_space (p := ⟨.code, scan, before, started⟩) ⟨rfl, unquoted⟩ (.inl rfl)
    have apart : endsWord (some ' ') = true := by decide
    have resumed := later ⟨.blockOpening, scan, some c, started⟩ (some ' ') apart
    exact Settled.consPiece (nonempty _) (fun _ first _ _ => takes_space (.inl rfl) _ first)
      (by rwa [space])
  rename_i blockComment
  split
  · rename_i semicolon
    obtain ⟨rfl, top⟩ := semicolon
    have apart : endsWord none = endsWord (some ';') := by decide
    exact ⟨trivial, fun _ => top, later { before := some ';' } none apart⟩
  rename_i semicolon
  split
  · -- The word CREATE is the first of the new statement, so it ends nothing there.
    rename_i create
    simp only [breaksBefore, Bool.and_eq_true] at create
    obtain ⟨⟨⟨top, -⟩, -⟩, create⟩ := create
    refine ⟨trivial, fun _ => top, ?_⟩
    exact Settled.consPiece (nonempty _) (fun _ first _ _ => takes_first create first)
      (later (({ before := last } : Place).take c) (some c) rfl)
  · rename_i create
    refine Settled.consPiece (nonempty _) (fun _ first others cut => ?_) kept
    exact takes_of_pieces rfl unquoted
      ⟨lineComment, blockComment, semicolon, by simpa using create⟩ cut same

theorem settled_pieces (p : Place) (text : List Char) (before : Option Char)
    (resumes : Resumes p text before) :
    Settled { p with mode := .code, before } (pieces p text) := by
  -- Within a comment nothing is kept, so what comes before the next piece is said by `Resumes`.
  induction text generalizing p before with
  | nil => exact ⟨trivial, fun more => absurd rfl more, trivial⟩
  | cons c rest ih =>
    obtain ⟨mode, scan, last, started⟩ := p
    cases mode with
    | code => exact settled_step rfl resumes ih
    | blockOpening => exact ih ⟨.blockComment, scan, some c, started⟩ before resumes
    | blockClosing => exact ih ⟨.code, scan, some c, started⟩ before resumes
    | blockComment =>
      rw [pieces]
      simp only
      split
      · rename_i closing
        have slash : endsWord before = endsWord rest.head? := by
          rw [closing.2]
          exact resumes
        exact ih ⟨.blockClosing, scan, some c, started⟩ before slash
      · exact ih ⟨.blockComment, scan, some c, started⟩ before resumes
    | lineComment =>
      rw [pieces]
      simp only
      split
      · rename_i newline
        subst newline
        exact Settled.consPiece (pieces_ne_nil _ _)
          (fun _ first _ _ => takes_space (.inr rfl) _ first)
          (ih (Place.take ⟨.code, scan, last, started⟩ '\n') (some '\n') rfl)
      · exact ih ⟨.lineComment, scan, some c, started⟩ before trivial

theorem kept_cons (piece : List Char) (more : List (List Char)) :
    kept (piece :: more) =
      if Text.trimChars piece = [] then kept more else Text.trimChars piece :: kept more := by
  cases trimmed : Text.trimChars piece <;> simp [kept, trimmed]

theorem Settled.kept {list : List (List Char)} (settled : Settled {} list) :
    Settled {} (kept list) ∧ ∀ w ∈ kept list, Text.IsTrimmed w ∧ Keeps {} w := by
  induction list with
  | nil => exact ⟨trivial, fun w none => nomatch none⟩
  | cons piece more ih =>
    obtain ⟨keeps, complete, later⟩ := settled
    obtain ⟨tail, each⟩ := ih later
    rw [kept_cons]
    split
    · exact ⟨tail, each⟩
    · rename_i visible
      have unopened : Scan.IsVisible {} := fun _ opened => nomatch opened
      refine ⟨⟨keeps.trimChars, fun some => ?_, tail⟩, ?_⟩
      · rw [unopened.run_trimChars]
        apply complete
        rintro rfl
        exact some rfl
      · exact List.forall_mem_cons.mpr ⟨⟨Text.isTrimmed_trimChars visible, keeps.trimChars⟩, each⟩

theorem kept_trimmed {list : List (List Char)} (trimmed : ∀ w ∈ list, Text.IsTrimmed w) :
    kept list = list := by
  induction list with
  | nil => rfl
  | cons w rest ih =>
    rw [List.forall_mem_cons] at trimmed
    rw [kept_cons, trimmed.1.trimChars_eq, if_neg trimmed.1.nonempty, ih trimmed.2]

theorem Settled.pieces_join {list : List (List Char)} (nonempty : list ≠ [])
    (settled : Settled {} list) : pieces {} ([';'].intercalate list) = list := by
  induction list with
  | nil => contradiction
  | cons w rest ih =>
    obtain ⟨keeps, complete, later⟩ := settled
    cases rest with
    | nil => rw [List.intercalate_singleton, keeps.pieces rfl]
    | cons next more =>
      rw [List.intercalate_cons_cons, List.append_assoc, List.singleton_append,
        keeps.pieces_semicolon rfl (complete (List.cons_ne_nil _ _)),
        ih (List.cons_ne_nil _ _) later]

theorem Settled.statementChars_join {list : List (List Char)} (settled : Settled {} list)
    (trimmed : ∀ w ∈ list, Text.IsTrimmed w) :
    statementChars ([';'].intercalate list) = list := by
  change Script.kept (pieces {} _) = list
  by_cases none : list = []
  · subst none
    decide
  · rw [settled.pieces_join none, kept_trimmed trimmed]

theorem statementChars_settled (text : List Char) : Settled {} (statementChars text) ∧
    ∀ w ∈ statementChars text, Text.IsTrimmed w ∧ Keeps {} w :=
  (settled_pieces {} text none rfl).kept

theorem statementChars_eq_singleton_iff {w : List Char} :
    statementChars w = [w] ↔ Text.IsTrimmed w ∧ Keeps {} w := by
  constructor
  · intro single
    apply (statementChars_settled w).2
    rw [single]
    exact List.mem_singleton_self w
  · rintro ⟨trimmed, keeps⟩
    change kept (pieces {} w) = [w]
    rw [keeps.pieces rfl, kept_trimmed (by simpa using trimmed)]

theorem statements_eq_singleton_iff {s : String} :
    statements s = [s] ↔ Text.IsTrimmed s.toList ∧ Keeps {} s.toList := by
  have texts : statements s = [s] ↔ statementChars s.toList = [s.toList] := by
    have single : [s] = [s.toList].map String.ofList := by simp
    rw [statements, single, List.map_inj_right fun _ _ same => String.ofList_injective same]
  rw [texts, statementChars_eq_singleton_iff]

/-- The statements of a script are trimmed, each is the one statement of its own text, and joined
they are the statements again. A script is a statement as it stands only if nothing in it is a
comment or ends a statement. -/
theorem statements_normal (sql : String) :
    (∀ s ∈ statements sql, Text.IsTrimmed s.toList ∧ statements s = [s]) ∧
      statements (";".intercalate (statements sql)) = statements sql ∧
      (statements sql = [sql] ↔ Text.IsTrimmed sql.toList ∧ Keeps {} sql.toList) := by
  obtain ⟨settled, each⟩ := statementChars_settled sql.toList
  refine ⟨?_, ?_, statements_eq_singleton_iff⟩
  · intro s member
    obtain ⟨w, inside, rfl⟩ := List.mem_map.mp member
    have own : Text.IsTrimmed (String.ofList w).toList ∧ Keeps {} (String.ofList w).toList := by
      rw [String.toList_ofList]
      exact each w inside
    exact ⟨own.1, statements_eq_singleton_iff.mpr own⟩
  · have texts : (statements sql).map String.toList = statementChars sql.toList := by
      simp [statements, Function.comp_def]
    rw [statements, String.toList_intercalate, texts]
    change (statementChars ([';'].intercalate _)).map String.ofList = _
    rw [settled.statementChars_join fun w inside => (each w inside).1]
    rfl

example : statements "a /* ; */;; -- CREATE\n b CREATE 'c;" = ["a", "b", "CREATE 'c;"] := by
  decide +kernel

end RelSchema.Sql.Script
