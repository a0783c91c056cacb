import RelSchema.Cli.Run

namespace RelSchema.Cli

namespace Console

variable {ε ε' α β : Type}

theorem filesOf_append (first second : List Event) :
    filesOf (first ++ second) = filesOf first ++ filesOf second := List.filterMap_append

theorem filesOf_said (lines : List Line) : filesOf (lines.map .said) = [] := by
  induction lines with
  | nil => rfl
  | cons line rest ih => exact ih

theorem filesOf_bind (c : Console ε α) (f : α → Console ε β) :
    filesOf (c >>= f).events = filesOf c.events ++
      match c.result with
      | .ok a => filesOf (f a).events
      | .error _ => [] := by
  change filesOf (andThen c f).events = _
  unfold andThen
  cases c.result with
  | ok a => exact filesOf_append ..
  | error e => exact (List.append_nil _).symm

/-- On success the files at these paths are written, one after the other, and on failure none. -/
def Writes (paths : List Path) (c : Console ε α) : Prop :=
  (filesOf c.events).map (·.path) =
    match c.result with
    | .ok _ => paths
    | .error _ => []

structure OnlySpeaks (c : Console ε α) : Prop where
  files : filesOf c.events = []
  succeeds : ∃ a, c.result = .ok a

theorem OnlySpeaks.writes {c : Console ε α} (h : c.OnlySpeaks) : c.Writes [] := by
  obtain ⟨a, result⟩ := h.succeeds
  rw [Writes, h.files, result]
  rfl

theorem Writes.nil_iff {c : Console ε α} : c.Writes [] ↔ filesOf c.events = [] := by
  rw [Writes]
  cases c.result <;> exact List.map_eq_nil_iff

theorem Writes.bind {c : Console ε α} {f : α → Console ε β} {paths : List Path}
    (before : c.Writes []) (next : ∀ a, (f a).Writes paths) : (c >>= f).Writes paths := by
  rw [Writes, filesOf_bind, result_bind, Writes.nil_iff.mp before, List.nil_append]
  cases c.result with
  | ok a => exact next a
  | error e => rfl

/-- What is said after a file is written does not fail, or the file would stay. -/
theorem Writes.bind_speaks {c : Console ε α} {f : α → Console ε β} {paths : List Path}
    (written : c.Writes paths) (after : ∀ a, (f a).OnlySpeaks) : (c >>= f).Writes paths := by
  rw [Writes] at written ⊢
  rw [filesOf_bind, result_bind]
  cases result : c.result with
  | error e =>
    rw [result] at written
    rw [List.append_nil]
    exact written
  | ok a =>
    obtain ⟨b, last⟩ := (after a).succeeds
    rw [result] at written
    change (filesOf c.events ++ filesOf (f a).events).map (·.path) = match (f a).result with
      | .ok _ => paths
      | .error _ => []
    rw [(after a).files, last, List.append_nil]
    exact written

theorem OnlySpeaks.bind {c : Console ε α} {f : α → Console ε β} (first : c.OnlySpeaks)
    (next : ∀ a, (f a).OnlySpeaks) : (c >>= f).OnlySpeaks := by
  obtain ⟨a, result⟩ := first.succeeds
  obtain ⟨b, last⟩ := (next a).succeeds
  refine ⟨?_, b, ?_⟩
  · rw [filesOf_bind, first.files, result]
    exact (next a).files
  · rw [result_bind, result]
    exact last

theorem fail_writes (e : ε) (paths : List Path) : (fail e : Console ε α).Writes paths := rfl

theorem pure_onlySpeaks (a : α) : (pure a : Console ε α).OnlySpeaks := ⟨rfl, a, rfl⟩

theorem say_onlySpeaks (lines : List Line) : (say lines : Console ε Unit).OnlySpeaks :=
  ⟨filesOf_said lines, (), rfl⟩

theorem put_writes (path : Path) (text : String) :
    (put path text : Console ε Unit).Writes [path] := rfl

theorem ofExcept_writes (cause : ε' → ε) (r : Except ε' α) : (ofExcept cause r).Writes [] :=
  Writes.nil_iff.mpr rfl

theorem ofRemarked_writes (cause : ε' → ε) (r : Remarked ε' α) :
    (ofRemarked cause r).Writes [] := by
  have same : (ofRemarked cause r).events = (r.notices.map Line.remark).map .said :=
    List.map_map.symm
  rw [Writes.nil_iff, same]
  exact filesOf_said _

end Console

open Console

def Command.outputPath? (input : Path) : Command → Option Path
  | .parse output => output
  | .layout output .. => some (output.getD (input.withSuffix ".drawio"))
  | .orm _ output => output
  | .generate .. | .suggest _ | .diff _ | .validate .. | .analyze _ => none

def Request.outputPath? : Request → Option Path
  | .run _ input _ command => command.outputPath? input
  | .help _ | .version => none

namespace Engine

variable {σ ε : Type} (e : Engine σ ε)

theorem readSchema_writes (d : Dialect) (path : Path) (text : String) :
    (e.readSchema d path text).Writes [] := by
  unfold readSchema
  split
  · exact ofExcept_writes ..
  · exact ofRemarked_writes ..

theorem load_writes (folder : Folder) (d : Dialect) (path : Path) :
    (e.load folder d path).Writes [] := by
  refine (ofExcept_writes ..).bind fun text => ?_
  refine (e.readSchema_writes d path text).bind fun s => ?_
  split
  · exact fail_writes ..
  · exact (pure_onlySpeaks s).writes

theorem parse_writes (s : σ) (output : Option Path) : (e.parse s output).Writes output.toList := by
  refine (say_onlySpeaks _).writes.bind fun _ => ?_
  refine (ofExcept_writes ..).bind fun document => ?_
  cases output with
  | some path => exact (put_writes path document).bind_speaks fun _ => say_onlySpeaks _
  | none => exact (say_onlySpeaks _).writes

theorem generate_writes (d : Dialect) (s : σ) (annotated : Bool) :
    (e.generate d s annotated).Writes [] := by
  refine (ofRemarked_writes ..).bind fun sql => ?_
  split
  · exact (ofRemarked_writes ..).bind fun _ => (say_onlySpeaks _).writes
  · exact (say_onlySpeaks _).writes

theorem suggest_writes (s : σ) (minConfidence : Float) : (e.suggest s minConfidence).Writes [] := by
  refine (ofRemarked_writes ..).bind fun suggestions => ?_
  split <;> exact (say_onlySpeaks _).writes

theorem layout_writes (modified : String) (input : Path) (s : σ) (output : Option Path)
    (a : Layout.Algorithm) (o : Layout.Options) :
    (e.layout modified input s output a o).Writes [output.getD (input.withSuffix ".drawio")] := by
  refine (say_onlySpeaks _).writes.bind fun _ => ?_
  refine (ofRemarked_writes ..).bind fun diagram => ?_
  refine (put_writes _ diagram).bind_speaks fun _ => ?_
  refine (say_onlySpeaks _).bind fun _ => ?_
  exact (say_onlySpeaks _).bind fun _ => say_onlySpeaks _

theorem diff_writes (old new : σ) : (e.diff old new).Writes [] :=
  (ofExcept_writes ..).bind fun _ => (say_onlySpeaks _).writes

theorem validate_writes (s : σ) (rules : List String) (common : Bool) :
    (e.validate s rules common).Writes [] := by
  refine (ofRemarked_writes ..).bind fun found => ?_
  refine (say_onlySpeaks _).writes.bind fun _ => ?_
  split
  · exact (say_onlySpeaks _).writes
  · exact fail_writes ..

theorem analyze_writes (s : σ) (priority : Option Review.Priority) :
    (e.analyze s priority).Writes [] := by
  refine (ofRemarked_writes ..).bind fun found => ?_
  split <;> exact (say_onlySpeaks _).writes

theorem orm_writes (s : σ) (target : Orm.Target) (output : Option Path) :
    (e.orm s target output).Writes output.toList := by
  refine (ofRemarked_writes ..).bind fun models => ?_
  cases output with
  | some path => exact (put_writes path models).bind_speaks fun _ => say_onlySpeaks _
  | none => exact (say_onlySpeaks _).writes

theorem perform_writes (folder : Folder) (modified : String) (input : Path) (d : Dialect)
    (command : Command) :
    (e.perform folder modified input d command).Writes (command.outputPath? input).toList := by
  refine (e.load_writes folder d input).bind fun s => ?_
  cases command with
  | parse output => exact e.parse_writes s output
  | generate target annotated => exact e.generate_writes _ s annotated
  | suggest minConfidence => exact e.suggest_writes s minConfidence
  | layout output a direction spacing => exact e.layout_writes ..
  | diff new => exact (e.load_writes folder d new).bind fun other => e.diff_writes s other
  | validate rules common => exact e.validate_writes s rules common
  | analyze priority => exact e.analyze_writes s priority
  | orm target output => exact e.orm_writes s target output

end Engine

end RelSchema.Cli
