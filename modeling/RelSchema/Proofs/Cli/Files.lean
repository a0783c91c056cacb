import RelSchema.Cli.Outcome
import RelSchema.Proofs.Cli.Writes

namespace RelSchema.Cli

open Console

namespace Surroundings

/-- Streams and open files take whatever text they are given: there is none that has no encoding. -/
structure Steady (w : Surroundings) : Prop where
  speaks : ∀ past line, w.muted? past line = none
  whole : ∀ past file, w.remnant? past file = none

theorem ordinary_steady : ordinary.Steady := ⟨fun _ _ => rfl, fun _ _ => rfl⟩

variable {w : Surroundings} {folder : Folder}

theorem attempt_done {past : List Event} {event : Event}
    (done : (w.attempt folder past event).obstacle? = none) :
    w.attempt folder past event = ⟨[event], none⟩ := by
  cases event with
  | said line =>
    cases muted : w.muted? past line with
    | none => simp only [attempt, muted]
    | some cause => simp [attempt, muted] at done
  | saved file =>
    cases refused : w.refusal? folder file.path with
    | some cause => simp [attempt, refused] at done
    | none =>
      cases left : w.remnant? past file with
      | none => simp only [attempt, refused, left]
      | some rest => simp [attempt, refused, left] at done

theorem attempt_paths (w : Surroundings) (folder : Folder) (past : List Event) (event : Event) :
    (filesOf (w.attempt folder past event).events).map (·.path) <+:
      (filesOf [event]).map (·.path) := by
  cases event with
  | said line =>
    rw [attempt]
    split <;> exact List.nil_prefix
  | saved file =>
    rw [attempt]
    split
    · exact List.nil_prefix
    · exact List.prefix_rfl
    · exact List.prefix_rfl

theorem course_paths (w : Surroundings) (folder : Folder) (past events : List Event) :
    (filesOf (w.course folder past events).events).map (·.path) <+:
      (filesOf events).map (·.path) := by
  induction events generalizing past with
  | nil => exact List.nil_prefix
  | cons event rest ih =>
    have parts : filesOf (event :: rest) = filesOf [event] ++ filesOf rest :=
      filesOf_append [event] rest
    rw [parts, List.map_append, course]
    cases obstacle : (w.attempt folder past event).obstacle? with
    | some cause => exact (w.attempt_paths folder past event).trans (List.prefix_append ..)
    | none =>
      simp only [attempt_done obstacle, filesOf_append, List.map_append]
      exact (List.prefix_append_right_inj _).mpr (ih _)

namespace Steady

theorem course_said (steady : w.Steady) (folder : Folder) (past : List Event) {events : List Event}
    (speech : filesOf events = []) : w.course folder past events = ⟨events, none⟩ := by
  induction events generalizing past with
  | nil => rfl
  | cons event rest ih =>
    cases event with
    | saved file => cases speech
    | said line =>
      have first : w.attempt folder past (.said line) = ⟨[.said line], none⟩ := by
        simp only [attempt, steady.speaks]
      rw [course, first]
      simp only [ih (.said line :: past) speech]
      rfl

theorem course_single (steady : w.Steady) (folder : Folder) (past : List Event) {events : List Event}
    (single : (filesOf events).length ≤ 1) :
    w.course folder past events = ⟨events, none⟩ ∨
      (w.course folder past events).obstacle? ≠ none ∧
        filesOf (w.course folder past events).events = [] := by
  induction events generalizing past with
  | nil => exact .inl rfl
  | cons event rest ih =>
    cases event with
    | said line =>
      have first : w.attempt folder past (.said line) = ⟨[.said line], none⟩ := by
        simp only [attempt, steady.speaks]
      rw [course, first]
      rcases ih (.said line :: past) single with whole | ⟨stopped, none⟩
      · simp only [whole]
        exact .inl rfl
      · exact .inr ⟨stopped, none⟩
    | saved file =>
      have speech : filesOf rest = [] := by
        have count : (filesOf rest).length + 1 ≤ 1 := single
        exact List.length_eq_zero_iff.mp (by omega)
      rw [course]
      cases refused : w.refusal? folder file.path with
      | some cause =>
        have first : w.attempt folder past (.saved file) = ⟨[], some cause⟩ := by
          simp only [attempt, refused]
        rw [first]
        exact .inr ⟨nofun, rfl⟩
      | none =>
        have first : w.attempt folder past (.saved file) = ⟨[.saved file], none⟩ := by
          simp only [attempt, refused, steady.whole]
        rw [first]
        simp only [steady.course_said folder (.saved file :: past) speech]
        exact .inl rfl

end Steady

end Surroundings

namespace Outcome

variable {ε : Type} {message : ε → String} {w : Surroundings} {folder : Folder} {verbose : Bool}
  {c : Console ε Unit}

theorem ofConsole_exitCode :
    (ofConsole message w folder verbose c).exitCode = 0 ↔
      (w.course folder [] c.events).obstacle? = none ∧ c.result = .ok () := by
  rw [ofConsole]
  cases (w.course folder [] c.events).obstacle? <;> cases c.result <;> simp

theorem ofConsole_writes :
    (ofConsole message w folder verbose c).writes = filesOf (w.course folder [] c.events).events :=
  rfl

theorem ofConsole_paths {paths : List Path} (h : c.Writes paths) :
    ∀ file ∈ (ofConsole message w folder verbose c).writes, file.path ∈ paths := by
  intro file member
  rw [ofConsole_writes] at member
  have among := (w.course_paths folder [] c.events).subset (List.mem_map_of_mem member)
  rw [h] at among
  split at among
  · exact among
  · cases among

theorem ofConsole_failed {paths : List Path} (steady : w.Steady) (h : c.Writes paths)
    (single : paths.length ≤ 1)
    (failed : (ofConsole message w folder verbose c).exitCode ≠ 0) :
    (ofConsole message w folder verbose c).writes = [] := by
  rw [ofConsole_writes]
  rw [Ne, ofConsole_exitCode] at failed
  have count : (filesOf c.events).length ≤ 1 := by
    rw [← List.length_map (f := Written.path), h]
    split
    · exact single
    · exact Nat.zero_le 1
  rcases steady.course_single folder [] count with whole | ⟨-, none⟩
  · rw [whole] at failed ⊢
    have wrong : c.result ≠ .ok () := fun right => failed ⟨rfl, right⟩
    rw [Writes] at h
    cases result : c.result with
    | ok a => exact absurd result wrong
    | error e =>
      rw [result] at h
      exact List.map_eq_nil_iff.mp h
  · exact none

end Outcome

namespace Folder

/-- Two folders hold the same but for the file at one path, if any. -/
structure AgreeBut (f g : Folder) (place : Option Path) : Prop where
  directories : g.directories = f.directories
  text : ∀ p : Path, (∀ q ∈ place, q.resolved ≠ p.resolved) → g.text? p = f.text? p

theorem AgreeBut.refl (f : Folder) (place : Option Path) : AgreeBut f f place :=
  ⟨rfl, fun _ _ => rfl⟩

theorem AgreeBut.trans {f g h : Folder} {place : Option Path} (first : AgreeBut f g place)
    (second : AgreeBut g h place) : AgreeBut f h place :=
  ⟨second.directories.trans first.directories,
    fun p other => (second.text p other).trans (first.text p other)⟩

theorem text?_put {f : Folder} {w : Written} {p : Path} (other : w.path.resolved ≠ p.resolved) :
    (f.put w).text? p = f.text? p := by
  have others : (f.files.filter (·.1 != w.path.resolved)).lookup p.resolved =
      f.files.lookup p.resolved := by
    induction f.files with
    | nil => rfl
    | cons entry rest ih =>
      by_cases replaced : entry.1 = w.path.resolved
      · have passed : (p.resolved == entry.1) = false := by
          simpa [replaced] using other.symm
        rw [List.filter_cons_of_neg (by simp [replaced]), ih, List.lookup_cons, passed]
      · rw [List.filter_cons_of_pos (by simp [replaced]), List.lookup_cons, List.lookup_cons, ih]
  have passed : (p.resolved == w.path.resolved) = false := by simpa using other.symm
  simp only [text?, put, List.lookup_cons, passed, others]

theorem agreeBut_put (f : Folder) (w : Written) : AgreeBut f (f.put w) (some w.path) :=
  ⟨rfl, fun _ other => text?_put (other _ rfl)⟩

theorem agreeBut_after {o : Outcome} {place : Option Path}
    (within : ∀ file ∈ o.writes, file.path ∈ place) (f : Folder) :
    AgreeBut f (f.after o) place := by
  rw [after]
  generalize o.writes = files at within
  induction files generalizing f with
  | nil => exact AgreeBut.refl f place
  | cons file rest ih =>
    rw [List.forall_mem_cons] at within
    have here : place = some file.path := within.1
    have first := agreeBut_put f file
    rw [← here] at first
    exact first.trans (ih (f.put file) within.2)

end Folder

section

variable {σ ε : Type} (p : Program σ ε) (environment : Option String)

/-- The file that a run is asked to write, if it is asked for one. -/
def Turn.place? (t : Turn) : Option Path :=
  (p.request? t.before environment t.line.words).bind Request.outputPath?

theorem CommandLine.turn_understood {folder : Folder} {line : CommandLine} {request : Request}
    (understood : p.request? folder environment line.words = some request) :
    (line.turn p environment folder).outcome =
      .ofRequest p line.surroundings folder line.modified request := by
  simp only [turn, Outcome.ofWordsIn, understood]

theorem CommandLine.turn_paths (folder : Folder) (line : CommandLine) :
    ∀ file ∈ (line.turn p environment folder).outcome.writes,
      file.path ∈ (line.turn p environment folder).place? p environment := by
  intro file member
  change file.path ∈ (p.request? folder environment line.words).bind Request.outputPath?
  cases understood : p.request? folder environment line.words with
  | none =>
    simp only [turn, Outcome.ofWordsIn, understood] at member
    cases member
  | some request =>
    rw [line.turn_understood p environment understood] at member
    cases request with
    | help command => cases command <;> cases member
    | version => cases member
    | run verbose input d command =>
      have path := Outcome.ofConsole_paths (p.perform_writes ..) file member
      exact Option.mem_toList.mp path

theorem CommandLine.turn_failed {folder : Folder} {line : CommandLine}
    (steady : line.surroundings.Steady)
    (failed : (line.turn p environment folder).outcome.exitCode ≠ 0) :
    (line.turn p environment folder).outcome.writes = [] := by
  cases understood : p.request? folder environment line.words with
  | none => simp only [turn, Outcome.ofWordsIn, understood]
  | some request =>
    rw [line.turn_understood p environment understood] at failed ⊢
    cases request with
    | help command => cases command <;> rfl
    | version => rfl
    | run verbose input d command =>
      have single : (command.outputPath? input).toList.length ≤ 1 := by
        cases command.outputPath? input <;> simp
      exact Outcome.ofConsole_failed steady (p.perform_writes ..) single failed

end

structure Engine.Reads {σ ε : Type} (e : Engine σ ε) (d : Dialect) (path : Path) (text : String)
    (s : σ) : Prop where
  model : Text.lower path.suffix = ".json" → e.ofModel text = .ok s
  script : Text.lower path.suffix ≠ ".json" → (e.ofScript d text).result = .ok s

structure Engine.Loads {σ ε : Type} (e : Engine σ ε) (folder : Folder) (d : Dialect) (path : Path)
    (s : σ) : Prop where
  found : ∃ text, folder.read path = .ok text ∧ e.Reads d path text s
  nonempty : e.tables s ≠ []

theorem mapError_eq_ok {ε ε' α : Type} {cause : ε' → ε} {r : Except ε' α} {a : α} :
    r.mapError cause = .ok a ↔ r = .ok a := by
  cases r with
  | error e => exact iff_of_false nofun nofun
  | ok b => constructor <;> rintro ⟨⟩ <;> rfl

theorem result_bind_eq_ok {ε α β : Type} {c : Run ε α} {f : α → Run ε β} {b : β} :
    (c >>= f).result = .ok b ↔ ∃ a, c.result = .ok a ∧ (f a).result = .ok b := by
  rw [result_bind]
  cases c.result <;> simp [bind, Except.bind]

namespace Engine

variable {σ ε : Type} (e : Engine σ ε)

theorem readSchema_ok_iff {d : Dialect} {path : Path} {text : String} {s : σ} :
    (e.readSchema d path text).result = .ok s ↔ e.Reads d path text s := by
  unfold readSchema
  by_cases model : Text.lower path.suffix = ".json"
  · rw [if_pos model]
    refine mapError_eq_ok.trans ?_
    exact ⟨fun reads => ⟨fun _ => reads, (absurd model ·)⟩, fun reads => reads.model model⟩
  · rw [if_neg model]
    refine mapError_eq_ok.trans ?_
    exact ⟨fun reads => ⟨(absurd · model), fun _ => reads⟩, fun reads => reads.script model⟩

theorem load_ok_iff {folder : Folder} {d : Dialect} {path : Path} {s : σ} :
    (e.load folder d path).result = .ok s ↔ e.Loads folder d path s := by
  have kept (t : σ) :
      (if (e.tables t).isEmpty then fail (.noTables path) else pure t : Run ε σ).result = .ok s ↔
        t = s ∧ e.tables s ≠ [] := by
    by_cases empty : (e.tables t).isEmpty = true
    · rw [if_pos empty]
      refine iff_of_false (fun passed => by cases passed) ?_
      rintro ⟨rfl, nonempty⟩
      exact nonempty (List.isEmpty_iff.mp empty)
    · rw [if_neg empty, result_pure, Except.ok.injEq]
      refine (and_iff_left_of_imp ?_).symm
      rintro rfl none
      exact empty (List.isEmpty_iff.mpr none)
  have text (r : Except FileError String) (text : String) :
      (ofExcept Failure.file r : Run ε String).result = .ok text ↔ r = .ok text := mapError_eq_ok
  simp only [load, result_bind_eq_ok, text, readSchema_ok_iff, kept]
  constructor
  · rintro ⟨text, there, t, reads, rfl, nonempty⟩
    exact ⟨⟨text, there, reads⟩, nonempty⟩
  · rintro ⟨⟨text, there, reads⟩, nonempty⟩
    exact ⟨text, there, s, reads, rfl, nonempty⟩

theorem validate_ok_iff {s : σ} {rules : List String} {common : Bool} :
    (e.validate s rules common).result = .ok () ↔
      (e.problems (selectedRules rules common) s).result = .ok [] := by
  have verdict (found : List String) :
      ((do
        printAll (found.map fun problem => s!"  - {problem}")
        if found.isEmpty then print s!"Schema is valid ({(e.tables s).length} tables)"
        else fail (.problems found.length)) : Run ε Unit).result = .ok () ↔ found = [] := by
    cases found with
    | nil => exact iff_of_true rfl rfl
    | cons p rest =>
      refine iff_of_false ?_ (List.cons_ne_nil p rest)
      intro passed
      cases passed
  have told (r : Remarked ε (List String)) (found : List String) :
      (ofRemarked Failure.engine r : Run ε (List String)).result = .ok found ↔
        r.result = .ok found := mapError_eq_ok
  unfold validate
  rw [result_bind_eq_ok]
  simp only [verdict, told, exists_eq_right]

end Engine

section

variable {σ ε : Type} (p : Program σ ε) (environment : Option String)

structure Turn.IsCareful (t : Turn) : Prop where
  /-- A run that fails leaves the files alone. -/
  failed : t.outcome.exitCode ≠ 0 → t.after = t.before
  /-- No run changes another file than the one that it is asked to write. -/
  confined : t.before.AgreeBut t.after (t.place? p environment)
  /-- A validation succeeds when there is a schema, and nothing is wrong with it. -/
  validated : ∀ verbose input d rules common,
    p.request? t.before environment t.line.words =
      some (.run verbose input d (.validate rules common)) →
    (t.outcome.exitCode = 0 ↔ ∃ s, p.Loads t.before d input s ∧
      (p.problems (Engine.selectedRules rules common) s).result = .ok [])

theorem CommandLine.turn_validated {folder : Folder} {line : CommandLine} {verbose : Bool}
    {input : Path} {d : Dialect} {rules : List String} {common : Bool}
    (steady : line.surroundings.Steady)
    (asked : p.request? folder environment line.words =
      some (.run verbose input d (.validate rules common))) :
    (line.turn p environment folder).outcome.exitCode = 0 ↔
      ∃ s, p.Loads folder d input s ∧
        (p.problems (Engine.selectedRules rules common) s).result = .ok [] := by
  rw [line.turn_understood p environment asked, Outcome.ofRequest, Outcome.ofConsole_exitCode]
  have speech := Console.Writes.nil_iff.mp
    (p.perform_writes folder line.modified input d (.validate rules common))
  rw [steady.course_said folder [] speech, Engine.perform, result_bind_eq_ok]
  simp only [true_and, p.load_ok_iff, p.validate_ok_iff]

theorem forall_turns {P : Turn → Prop} {lines : List CommandLine}
    (step : ∀ line ∈ lines, ∀ folder, P (line.turn p environment folder)) (folder : Folder) :
    ∀ t ∈ turns p environment folder lines, P t := by
  induction lines generalizing folder with
  | nil => exact nofun
  | cons line rest ih =>
    rw [List.forall_mem_cons] at step
    rw [turns, List.forall_mem_cons]
    exact ⟨step.1 folder, ih step.2 _⟩

theorem CommandLine.turn_confined (folder : Folder) (line : CommandLine) :
    let t := line.turn p environment folder
    t.before.AgreeBut t.after (t.place? p environment) :=
  Folder.agreeBut_after (line.turn_paths p environment folder) folder

theorem CommandLine.turn_careful {line : CommandLine} (steady : line.surroundings.Steady)
    (folder : Folder) : (line.turn p environment folder).IsCareful p environment := by
  refine ⟨fun failed => ?_, line.turn_confined p environment folder,
    fun _ _ _ _ _ => turn_validated p environment steady⟩
  rw [Turn.after, Folder.after, turn_failed p environment steady failed]
  rfl

theorem turns_confined (folder : Folder) (lines : List CommandLine) :
    ∀ t ∈ turns p environment folder lines, t.before.AgreeBut t.after (t.place? p environment) :=
  forall_turns p environment (fun line _ folder => line.turn_confined p environment folder) folder

theorem text?_afterAll {folder : Folder} {lines : List CommandLine} {path : Path}
    (spared : ∀ t ∈ turns p environment folder lines,
      ∀ q ∈ t.place? p environment, q.resolved ≠ path.resolved) :
    (folder.afterAll p environment lines).text? path = folder.text? path := by
  induction lines generalizing folder with
  | nil => rfl
  | cons line rest ih =>
    rw [turns, List.forall_mem_cons] at spared
    exact (ih spared.2).trans ((line.turn_confined p environment folder).text path spared.1)

end

def itemText : String :=
  "\x7b\"tables\": [\x7b\"name\": \"item\", \"columns\": " ++
    "[\x7b\"name\": \"id\", \"type\": \"INT\", \"primary_key\": true\x7d]\x7d]\x7d"

def itemFolder : Folder := { files := [(.ofString "item.json", itemText)] }

def itemLines : List CommandLine :=
  [["parse", "item.json", "-o", "copy.json"], ["layout", "item.json"],
    ["orm", "item.json", "-t", "prisma", "-o", "models/item.prisma"],
    ["validate", "item.json", "-r", "has_primary_key"],
    ["validate", "item.json", "-r", "has_column('name')"]].map (⟨·, "noon", .ordinary⟩)

end RelSchema.Cli
