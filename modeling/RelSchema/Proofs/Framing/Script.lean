import RelSchema.Proofs.Framing.Lines

namespace RelSchema.Sql

open Script (pieces pieceReader Place statementChars over_first over_spelled pieces_over)

def Statement.Quotable (d : Dialect) : Statement → Prop
  | .createEnum name _ => ∃ table column, name = enumTypeName table column
  | .createTable name body => Sql.Quotable d name ∧ ∀ line ∈ body, line.Quotable d

def bodyText (d : Dialect) (name : String) (body : List BodyLine) : List Char :=
  [','].intercalate (bodyPieces (body.map fun line => (line.text d name).toList))

theorem createTable_toList (d : Dialect) (name : String) (body : List BodyLine) :
    ((Statement.createTable name body).text d).toList =
      "CREATE TABLE ".toList ++ ((quoteIdentifier d name).toList ++
        ' ' :: '(' :: (bodyText d name body ++ [')'])) := by
  change ("CREATE TABLE " ++ quoteIdentifier d name ++ " (\n" ++
    ",\n".intercalate (body.map fun line => "  " ++ line.text d name) ++ "\n)").toList = _
  simp [bodyText, intercalate_bodyPieces, Function.comp_def]

theorem level_bodyText {d : Dialect} {name : String} {body : List BodyLine}
    (h : ∀ line ∈ body, line.Quotable d) : Level (fun _ => true) (bodyText d name body) := by
  apply level_intercalate (Level.of_plain (by decide))
  intro piece member
  refine (level_bodyPieces ?_ piece member).mono fun _ _ => rfl
  simp only [List.mem_map, forall_exists_index, and_imp, forall_apply_eq_imp_iff₂]
  exact fun line inside => level_line (h line inside)

/-- A text that is a statement of its own wherever no other has begun. -/
structure Framed (w : List Char) : Prop where
  across : ∀ p : Place, p.mode = .code → p.scan = {} → p.started = false → pieceReader.Over p w 0
  trimmed : Text.trimChars w = w
  nonempty : w ≠ []

theorem trimChars_of_ends (first last : Char) (hfirst : Text.isBlank first = false)
    (hlast : Text.isBlank last = false) (w : List Char) :
    Text.trimChars (first :: (w ++ [last])) = first :: (w ++ [last]) := by
  simp [Text.trimChars, Text.trimLeft, Text.trimRight, hfirst, hlast]

theorem scan_letter {p : Place} (scan : p.scan = {}) : (p.take 'C').scan = {} := by
  change p.scan.step 'C' = {}
  rw [scan]
  rfl

theorem framed_createTable {d : Dialect} {name : String} {body : List BodyLine}
    (quotable : Quotable d name) (lines : ∀ line ∈ body, line.Quotable d) :
    Framed ((Statement.createTable name body).text d).toList := by
  have level : Level Script.startsNoCreate ("REATE TABLE ".toList ++
      ((quoteIdentifier d name).toList ++ ([' '] ++ '(' :: (bodyText d name body ++ [')'])))) := by
    have word : Level Script.startsNoCreate "REATE TABLE ".toList := Level.of_plain (by decide)
    have blank : Level Script.startsNoCreate [' '] := Level.of_plain (by decide)
    exact word.append ((level_quoteIdentifier quotable).append
      (blank.append (Level.parentheses (level_bodyText lines))))
  rw [createTable_toList]
  refine ⟨fun p ready scan started => ?_, ?_, ?_⟩
  · refine over_first ready started (by decide) ?_
    exact Reader.over_level level (fun _ _ here => here) ready (scan_letter scan)
  · have ends := trimChars_of_ends 'C' ')' (by decide) (by decide)
      ("REATE TABLE ".toList ++
        ((quoteIdentifier d name).toList ++ ' ' :: '(' :: bodyText d name body))
    simpa using ends
  · simp

theorem createEnum_toList (d : Dialect) (name : String) (values : List String) :
    ((Statement.createEnum name values).text d).toList =
      'C' :: ("REATE TYPE ".toList ++ (name.toList ++
        (" AS ENUM ".toList ++ '(' :: ((valueList values).toList ++ [')'])))) := by
  change ("CREATE TYPE " ++ name ++ " AS ENUM (" ++ valueList values ++ ")").toList = _
  simp

theorem framed_createEnum (d : Dialect) (table column : String) (values : List String) :
    Framed ((Statement.createEnum (enumTypeName table column) values).text d).toList := by
  obtain ⟨front, name, spelled⟩ := enumTypeName_spelled table column
  rw [createEnum_toList]
  refine ⟨fun p ready scan started => ?_, ?_, by simp⟩
  · have word : Level Script.startsNoCreate "REATE TYPE ".toList := Level.of_plain (by decide)
    have rest : Level Script.startsNoCreate
        (" AS ENUM ".toList ++ '(' :: ((valueList values).toList ++ [')'])) := by
      have keywords : Level Script.startsNoCreate " AS ENUM ".toList := Level.of_plain (by decide)
      exact keywords.append (Level.parentheses (level_valueList values))
    have first := Reader.over_level (r := pieceReader) word (k := 0) (fun _ _ here => here)
      (s := p.take 'C') ready (scan_letter scan)
    have second := over_spelled (spelled ' ') (Reader.ready_foldl (r := pieceReader)
      "REATE TYPE ".toList (s := p.take 'C') ready) first.scan
    have third := Reader.over_level (r := pieceReader) rest (k := 0) (fun _ _ here => here)
      (Reader.ready_foldl (r := pieceReader) _ (Reader.ready_foldl (r := pieceReader)
        "REATE TYPE ".toList (s := p.take 'C') ready)) second.scan
    rw [name]
    exact over_first ready started (by decide) (first.append (second.append third))
  · have ends := trimChars_of_ends 'C' ')' (by decide) (by decide)
      ("REATE TYPE ".toList ++ ((enumTypeName table column).toList ++
        (" AS ENUM ".toList ++ '(' :: (valueList values).toList)))
    simpa using ends

theorem Statement.Quotable.framed {d : Dialect} {statement : Statement}
    (h : statement.Quotable d) : Framed (statement.text d).toList := by
  cases statement with
  | createEnum name values =>
    obtain ⟨table, column, rfl⟩ := h
    exact framed_createEnum d table column values
  | createTable name body => exact framed_createTable h.1 h.2

/-- Statements that follow another, each after an empty line. -/
def following (statements : List (List Char)) : List Char :=
  statements.flatMap (fun w => '\n' :: '\n' :: (w ++ [';'])) ++ ['\n']

theorem pieces_lineBreak (before : Option Char) (rest : List Char) :
    pieces { before } ('\n' :: rest) = consPiece '\n' (pieces { before := some '\n' } rest) :=
  Script.pieces_cons rfl (fun _ => by decide) (fun _ => ⟨by decide, fun same => by cases same⟩)
    fun _ => rfl

theorem following_cons (w : List Char) (rest : List (List Char)) :
    following (w :: rest) = '\n' :: '\n' :: (w ++ ';' :: following rest) := by
  simp [following]

theorem pieces_following {statements : List (List Char)} (framed : ∀ w ∈ statements, Framed w)
    (before : Option Char) :
    pieces { before } (following statements) =
      statements.map (fun w => '\n' :: '\n' :: w) ++ [['\n']] := by
  induction statements generalizing before with
  | nil => rfl
  | cons w rest ih =>
    rw [List.forall_mem_cons] at framed
    have across := framed.1.across { before := some '\n' } rfl rfl rfl
    rw [following_cons, pieces_lineBreak, pieces_lineBreak, pieces_over rfl across, ih framed.2]
    rfl

theorem trimChars_lineBreak (w : List Char) : Text.trimChars ('\n' :: w) = Text.trimChars w := by
  have blank : Text.isBlank '\n' = true := by decide
  simp [Text.trimChars, Text.trimLeft, blank]

theorem render_toList (d : Dialect) (first : Statement) (rest : List Statement) :
    (render d (first :: rest)).toList = (first.text d).toList ++
      ';' :: following (rest.map fun statement => (statement.text d).toList) := by
  simp only [render, String.toList_append, String.toList_intercalate, List.map_map]
  induction rest generalizing first with
  | nil => simp [following]
  | cons next more ih =>
    have tail := ih next
    simp only [List.map_cons, List.intercalate_cons_cons, following_cons] at tail ⊢
    rw [← tail]
    simp

theorem Framed.kept {statements : List (List Char)} (framed : ∀ w ∈ statements, Framed w) :
    (statements.map Text.trimChars).filter (!·.isEmpty) = statements := by
  have same : statements.map Text.trimChars = statements :=
    (List.map_congr_left fun w member => (framed w member).trimmed).trans (List.map_id statements)
  rw [same, List.filter_eq_self]
  intro w member
  simpa using (framed w member).nonempty

theorem statementChars_render {d : Dialect} {list : List Statement}
    (framed : ∀ statement ∈ list, Framed (statement.text d).toList) :
    statementChars (render d list).toList =
      list.map fun statement => (statement.text d).toList := by
  cases list with
  | nil => rfl
  | cons first rest =>
    rw [List.forall_mem_cons] at framed
    have tail : ∀ w ∈ rest.map fun statement => (statement.text d).toList, Framed w := by
      rw [List.forall_mem_map]
      exact framed.2
    have across := framed.1.across {} rfl rfl rfl
    have lineBreak : Text.trimChars ['\n'] = [] := by decide
    have kept := Framed.kept (List.forall_mem_cons.mpr ⟨framed.1, tail⟩)
    rw [List.map_cons] at kept
    rw [render_toList, statementChars, pieces_over rfl across, pieces_following tail]
    simp only [List.map_cons, List.map_append, List.map_map, Function.comp_def,
      trimChars_lineBreak, List.map_nil, lineBreak]
    rw [← List.cons_append, List.filter_append]
    simpa [Function.comp_def] using kept

structure Table.Quotable (d : Dialect) (t : Table) : Prop where
  name : Sql.Quotable d t.name
  columns : ∀ c ∈ t.columns, Sql.Quotable d c.name
  references : ∀ c ∈ t.columns, ∀ r, c.references = some r →
    Sql.Quotable d r.table ∧ Sql.Quotable d r.column

theorem Table.quotable_of_ne {d : Dialect} (other : d ≠ .sqlserver) (t : Table) :
    Table.Quotable d t := by
  have free : ∀ name, Sql.Quotable d name := fun _ same => (other same).elim
  exact ⟨free t.name, fun c _ => free c.name, fun _ _ r _ => ⟨free r.table, free r.column⟩⟩

theorem bodyLines_quotable {d : Dialect} {t : Table} (quotable : Table.Quotable d t)
    (plain : ∀ c ∈ t.columns, c.OnlyUnique) : ∀ line ∈ bodyLines t, line.Quotable d := by
  intro line member
  simp only [bodyLines, List.mem_append] at member
  rcases member with ((column | key) | reference) | check
  · obtain ⟨c, inside, rfl⟩ := List.mem_map.mp column
    exact ⟨quotable.columns c inside, plain c inside⟩
  · split at key
    · cases key
    · rw [List.mem_singleton.mp key]
      intro name member
      obtain ⟨c, inside, rfl⟩ := List.mem_map.mp member
      exact quotable.columns c (List.mem_filter.mp inside).1
  · obtain ⟨c, inside, made⟩ := List.mem_filterMap.mp reference
    obtain ⟨r, references, rfl⟩ := Option.map_eq_some_iff.mp made
    exact ⟨quotable.columns c inside, quotable.references c inside r references⟩
  · obtain ⟨c, inside, made⟩ := List.mem_flatMap.mp check
    rw [(plain c inside).checks] at made
    cases made

theorem statements_quotable {d : Dialect} {tables : List Table}
    (quotable : ∀ t ∈ tables, Table.Quotable d t)
    (plain : ∀ t ∈ tables, ∀ c ∈ t.columns, c.OnlyUnique) :
    ∀ statement ∈ statements d tables, statement.Quotable d := by
  intro statement member
  obtain ⟨t, inside, made⟩ := List.mem_flatMap.mp member
  rcases List.mem_append.mp made with made | made
  · unfold enumStatements at made
    split at made
    · obtain ⟨c, -, rfl⟩ := List.mem_map.mp made
      exact ⟨t.name, c.name, rfl⟩
    · cases made
  · rw [List.mem_singleton.mp made]
    exact ⟨(quotable t inside).name, bodyLines_quotable (quotable t inside) (plain t inside)⟩

theorem statementChars_generate {d : Dialect} {s : Schema}
    (quotable : ∀ t ∈ s.tables, Table.Quotable d t)
    (plain : ∀ t ∈ s.tables, ∀ c ∈ t.columns, c.OnlyUnique) :
    statementChars (generate d s).toList =
      (statements d s.tables).map fun statement => (statement.text d).toList :=
  statementChars_render fun statement member =>
    (statements_quotable quotable plain statement member).framed

theorem splitTopLevel_bodyText {d : Dialect} (name : String) {body : List BodyLine}
    (h : ∀ line ∈ body, line.Quotable d) (rest : List Char) :
    splitTopLevel (wrappedBody (bodyText d name body ++ ')' :: rest)) ',' =
      bodyPieces (body.map fun line => (line.text d name).toList) := by
  rw [wrappedBody_level (level_bodyText h)]
  apply splitTopLevel_intercalate (bodyPieces_ne_nil _)
  apply level_bodyPieces
  rw [List.forall_mem_map]
  exact fun line inside => level_line (h line inside)

theorem trimChars_concat_lineBreak (w : List Char) :
    Text.trimChars (w ++ ['\n']) = Text.trimChars w := by
  have blank : Text.isBlank '\n' = true := by decide
  simp only [Text.trimChars, Text.trimLeft, List.dropWhile_append]
  split
  · rename_i none
    simp only [List.isEmpty_iff] at none
    simp [none, blank]
  · simp [Text.trimRight, Text.trimLeft, blank]

theorem trimChars_indented (w : List Char) :
    Text.trimChars ('\n' :: ' ' :: ' ' :: w) = Text.trimChars w := by
  have blank : Text.isBlank ' ' = true := by decide
  rw [trimChars_lineBreak]
  simp [Text.trimChars, Text.trimLeft, blank]

theorem trimChars_bodyPieces {lines : List (List Char)} (some : lines ≠ []) :
    (bodyPieces lines).map Text.trimChars = lines.map Text.trimChars := by
  induction lines with
  | nil => contradiction
  | cons line rest ih =>
    cases rest with
    | nil =>
      have same := trimChars_concat_lineBreak ('\n' :: ' ' :: ' ' :: line)
      rw [trimChars_indented] at same
      simpa [bodyPieces] using same
    | cons next more =>
      have tail := ih (List.cons_ne_nil _ _)
      rw [bodyPieces, List.map_cons, tail, trimChars_indented]
      · rfl
      · exact List.cons_ne_nil _ _

theorem generate_framing {d : Dialect} {s : Schema}
    (quotable : ∀ t ∈ s.tables, Table.Quotable d t)
    (plain : ∀ t ∈ s.tables, ∀ c ∈ t.columns, c.OnlyUnique) :
    Script.statements (generate d s) = (statements d s.tables).map (·.text d) ∧
      ∀ t ∈ s.tables, ∃ rest,
        (Statement.createTable t.name (bodyLines t)).text d =
            s!"CREATE TABLE {quoteIdentifier d t.name} (" ++ rest ∧
          (splitTopLevel (wrappedBody rest.toList) ',').map Text.trimChars =
            if bodyLines t = [] then [[]]
            else (bodyLines t).map fun line => Text.trimChars (line.text d t.name).toList := by
  have framed := fun statement member =>
    (statements_quotable quotable plain statement member).framed
  constructor
  · rw [Script.statements, generate, statementChars_render framed, List.map_map]
    simp
  · intro t member
    have lines := bodyLines_quotable (quotable t member) (plain t member)
    refine ⟨String.ofList (bodyText d t.name (bodyLines t) ++ [')']), ?_, ?_⟩
    · rw [← String.toList_inj, createTable_toList]
      change _ = ("CREATE TABLE " ++ quoteIdentifier d t.name ++ " (" ++
        String.ofList (bodyText d t.name (bodyLines t) ++ [')'])).toList
      simp
    · rw [String.toList_ofList, splitTopLevel_bodyText t.name lines]
      split
      · rename_i empty
        rw [empty]
        rfl
      · rename_i some
        rw [trimChars_bodyPieces (by simpa using some), List.map_map]
        rfl

/-- The numbers that the types in a schema are written with are short enough to have a text. -/
def ShowsSizes (s : Schema) : Prop :=
  ∀ t ∈ s.tables, ∀ c ∈ t.columns, ∀ n ∈ shownSizes c, n.natAbs.repr.length ≤ Json.maxDigits

instance (s : Schema) : Decidable (ShowsSizes s) := by
  unfold ShowsSizes
  infer_instance

theorem showsSizes_iff (s : Schema) :
    (s.tables.all fun t => t.columns.all fun c =>
      (shownSizes c).all fun n => (Json.int n).isWritable) = true ↔ ShowsSizes s := by
  simp [ShowsSizes, Json.isWritable]

theorem write_eq {s : Schema} (sizes : ShowsSizes s) (d : Dialect) :
    write d s = .ok (generate d s) := if_pos ((showsSizes_iff s).mpr sizes)

theorem write_tooManyDigits {s : Schema} (sizes : ¬ ShowsSizes s) (d : Dialect) :
    write d s = .error .tooManyDigits := if_neg fun short => sizes ((showsSizes_iff s).mp short)

/-- A schema whose sizes have a text is written, and what is written is cut as it was made. -/
theorem write_framing {d : Dialect} {s : Schema} (sizes : ShowsSizes s)
    (quotable : ∀ t ∈ s.tables, Table.Quotable d t)
    (plain : ∀ t ∈ s.tables, ∀ c ∈ t.columns, c.OnlyUnique) :
    ∃ text, write d s = .ok text ∧
      Script.statements text = (statements d s.tables).map (·.text d) ∧
      ∀ t ∈ s.tables, ∃ rest,
        (Statement.createTable t.name (bodyLines t)).text d =
            s!"CREATE TABLE {quoteIdentifier d t.name} (" ++ rest ∧
          (splitTopLevel (wrappedBody rest.toList) ',').map Text.trimChars =
            if bodyLines t = [] then [[]]
            else (bodyLines t).map fun line => Text.trimChars (line.text d t.name).toList :=
  ⟨generate d s, write_eq sizes d, generate_framing quotable plain⟩

def crowdedSchema : Schema :=
  { tables :=
      [{ name := "a\";) -- create"
         columns :=
           [{ name := "b,(\"\"", type := .enum, values := ["it's;", "/*", "]"] },
            { name := "c`", type := .decimal, length := some 5, scale := some (-2),
              references := some ⟨"[(", "\";"⟩ }] },
       { name := "create" }] }

theorem crowdedSchema_framing :
    ∃ text, write .postgresql crowdedSchema = .ok text ∧
      Script.statements text =
        (statements .postgresql crowdedSchema.tables).map (·.text .postgresql) ∧
      ∀ t ∈ crowdedSchema.tables, ∃ rest,
        (Statement.createTable t.name (bodyLines t)).text .postgresql =
            s!"CREATE TABLE {quoteIdentifier .postgresql t.name} (" ++ rest ∧
          (splitTopLevel (wrappedBody rest.toList) ',').map Text.trimChars =
            if bodyLines t = [] then [[]]
            else (bodyLines t).map fun line =>
              Text.trimChars (line.text .postgresql t.name).toList := by
  have quotable : ∀ name, Quotable .postgresql name := fun _ other => by cases other
  exact write_framing (by decide)
    (fun t _ => ⟨quotable t.name, fun c _ => quotable c.name, fun _ _ r _ =>
      ⟨quotable r.table, quotable r.column⟩⟩)
    (by decide)

/-- A closing bracket in a name ends the brackets around it, and the rest of the name stands outside
them; a table without columns has no line, but the text between its parentheses is a piece. -/
def bracketSchema : Schema :=
  { tables := [{ name := "a];b", columns := [{ name := "id", type := .int }] }, { name := "c" }] }

theorem bracketSchema_unframed :
    (∀ t ∈ bracketSchema.tables, ∀ c ∈ t.columns, c.OnlyUnique) ∧
      Script.statements (generate .sqlserver bracketSchema) ≠
        (statements .sqlserver bracketSchema.tables).map (·.text .sqlserver) ∧
      ∃ t ∈ bracketSchema.tables, ∃ rest,
        (Statement.createTable t.name (bodyLines t)).text .sqlserver =
            s!"CREATE TABLE {quoteIdentifier .sqlserver t.name} (" ++ rest ∧
          (splitTopLevel (wrappedBody rest.toList) ',').map Text.trimChars ≠
            (bodyLines t).map fun line => Text.trimChars (line.text .sqlserver t.name).toList := by
  refine ⟨by decide, by decide +kernel, { name := "c" }, by decide, "\n\n)", ?_, ?_⟩
  · decide +kernel
  · decide +kernel

end RelSchema.Sql
