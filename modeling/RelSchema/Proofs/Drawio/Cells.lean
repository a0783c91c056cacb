import Mathlib.Data.List.Basic
import RelSchema.Drawio.Printer

namespace RelSchema

inductive Drawio.Subject where
  | table (box : TableBox)
  | column (box : TableBox) (column : Column)
  | edge (edge : Edge)

def TableBox.subjects (box : TableBox) : List Drawio.Subject :=
  .table box :: box.table.columns.map (.column box)

namespace Diagram

def hasTable (d : Diagram) (id : String) : Bool := d.boxes.any (·.table.id == id)

def drawn (d : Diagram) : List Edge :=
  d.edges.filter fun e => d.hasTable e.source && d.hasTable e.target

def subjects (d : Diagram) : List Drawio.Subject :=
  d.boxes.flatMap TableBox.subjects ++ d.drawn.map .edge

theorem length_subjects (d : Diagram) :
    d.subjects.length =
      d.boxes.length + (d.boxes.flatMap (·.table.columns)).length + d.drawn.length := by
  have boxes (list : List TableBox) : (list.flatMap TableBox.subjects).length =
      list.length + (list.flatMap (·.table.columns)).length := by
    induction list with
    | nil => rfl
    | cons box rest ih =>
      simp only [List.flatMap_cons, List.length_append, ih, TableBox.subjects, List.length_cons,
        List.length_map]
      omega
  rw [subjects, List.length_append, boxes, List.length_map]

end Diagram

namespace Drawio

/-- What a cell says, given what the types of columns are called by the numbers of their rows. -/
def Subject.label (typeName : Nat → Column → String) (number : Nat) : Subject → String
  | table box => box.table.name
  | column _ c => c.labelAs (typeName number c)
  | edge e => e.targetColumn.getD ""

structure Cell where
  subject : Subject
  number : Nat
  text : String

section Drawing

variable (typeName : Nat → Column → String) (o : Options)

def Block.cells (b : Block) : List Cell :=
  ⟨.table b.box, b.number, b.containerText o⟩ ::
    b.rows.map fun r => ⟨.column b.box r.column, r.number, r.text typeName o b⟩

def Connector.cell (c : Connector) : Cell := ⟨.edge c.edge, c.number, c.text⟩

def drawing (d : Diagram) : List Cell :=
  (blocks o 1 d.boxes).flatMap (Block.cells typeName o) ++
    (connectors (blocks o 1 d.boxes) d.edges).map Connector.cell

theorem map_text_drawing (d : Diagram) :
    (drawing typeName o d).map Cell.text = cells typeName o d := by
  rw [drawing, cells, List.map_append, List.map_flatMap, List.map_map]
  congr 2
  funext b
  rw [Block.cells, Block.texts, List.map_cons, List.map_map]
  rfl

def Cell.numbered (c : Cell) : Subject × Nat := (c.subject, c.number)

theorem numbered_rows (box : TableBox) (first : Nat) (columns : List Column) :
    ((rows o first columns).map fun r => (Subject.column box r.column, r.number)) =
      (columns.map (.column box)).zipIdx first := by
  refine List.ext_getElem? fun i => ?_
  rw [rows, List.getElem?_map, List.getElem?_mapIdx, List.getElem?_zipIdx, List.getElem?_map,
    Option.map_map, Option.map_map]
  rfl

theorem numbered_blocks (first : Nat) (boxes : List TableBox) :
    ((blocks o first boxes).flatMap (Block.cells typeName o)).map Cell.numbered =
      (boxes.flatMap TableBox.subjects).zipIdx first := by
  induction boxes generalizing first with
  | nil => rfl
  | cons box rest ih =>
    have length : first + box.subjects.length = first + 1 + box.table.columns.length := by
      rw [TableBox.subjects, List.length_cons, List.length_map]
      omega
    rw [blocks, List.flatMap_cons, List.map_append, ih, List.flatMap_cons, List.zipIdx_append,
      length, Block.cells, List.map_cons, List.map_map, TableBox.subjects, List.zipIdx_cons,
      ← numbered_rows o]
    rfl

theorem length_numbers (first : Nat) (boxes : List TableBox) :
    ((blocks o first boxes).flatMap Block.numbers).length =
      (boxes.flatMap TableBox.subjects).length := by
  have cells : ((blocks o first boxes).flatMap Block.numbers).length =
      (((blocks o first boxes).flatMap (Block.cells ownTypeName o)).map Cell.numbered).length := by
    rw [List.length_map, List.length_flatMap, List.length_flatMap]
    simp [Block.numbers, Block.cells]
  rw [cells, numbered_blocks, List.length_zipIdx]

theorem map_box_blocks (first : Nat) (boxes : List TableBox) :
    (blocks o first boxes).map Block.box = boxes := by
  induction boxes generalizing first with
  | nil => rfl
  | cons box rest ih => rw [blocks, List.map_cons, ih]

theorem blockOf?_isSome (d : Diagram) (id : String) :
    (blockOf? (blocks o 1 d.boxes) id).isSome = d.hasTable id := by
  have boxes := map_box_blocks o 1 d.boxes
  rw [blockOf?, List.isSome_find?, List.any_reverse, Diagram.hasTable]
  conv_rhs => rw [← boxes, List.any_map]
  rfl

theorem joined?_edge (d : Diagram) (e : Edge) :
    (joined? (blocks o 1 d.boxes) e).map (·.2.2) =
      Option.guard (fun e => d.hasTable e.source && d.hasTable e.target) e := by
  rw [Option.guard, ← blockOf?_isSome o, ← blockOf?_isSome o, joined?]
  cases blockOf? (blocks o 1 d.boxes) e.source with
  | none => rfl
  | some source => cases blockOf? (blocks o 1 d.boxes) e.target <;> rfl

theorem edges_joined (d : Diagram) :
    (d.edges.filterMap (joined? (blocks o 1 d.boxes))).map (·.2.2) = d.drawn := by
  rw [List.map_filterMap, Diagram.drawn, ← List.filterMap_eq_filter]
  exact List.filterMap_congr fun e _ => joined?_edge o d e

theorem numbered_connectors (d : Diagram) :
    ((connectors (blocks o 1 d.boxes) d.edges).map Connector.cell).map Cell.numbered =
      (d.drawn.map .edge).zipIdx (1 + (d.boxes.flatMap TableBox.subjects).length) := by
  refine List.ext_getElem? fun i => ?_
  rw [connectors, length_numbers, ← edges_joined o, List.getElem?_map, List.getElem?_map,
    List.getElem?_mapIdx, List.getElem?_zipIdx, List.getElem?_map, List.getElem?_map]
  simp only [Option.map_map]
  rfl

theorem numbered_drawing (d : Diagram) :
    (drawing typeName o d).map Cell.numbered = d.subjects.zipIdx 1 := by
  rw [drawing, List.map_append, numbered_blocks, numbered_connectors, Diagram.subjects,
    List.zipIdx_append]

theorem drawing_getElem? (d : Diagram) (place : Nat) :
    (drawing typeName o d)[place]?.map Cell.numbered =
      d.subjects[place]?.map fun subject => (subject, place + 1) := by
  rw [← List.getElem?_map, numbered_drawing, List.getElem?_zipIdx, Nat.add_comm]

theorem cell_at {d : Diagram} {place : Nat} {subject : Subject}
    (there : d.subjects[place]? = some subject) :
    ∃ c, (drawing typeName o d)[place]? = some c ∧ c.subject = subject ∧ c.number = place + 1 := by
  have numbered := drawing_getElem? typeName o d place
  rw [there, Option.map_some, Option.map_eq_some_iff] at numbered
  obtain ⟨c, here, same⟩ := numbered
  exact ⟨c, here, (Prod.mk.inj same).1, (Prod.mk.inj same).2⟩

variable {typeName o}

theorem place_of_mem {d : Diagram} {c : Cell} (member : c ∈ drawing typeName o d) :
    ∃ place, c.number = place + 1 ∧ d.subjects[place]? = some c.subject := by
  obtain ⟨place, here⟩ := List.getElem?_of_mem member
  have numbered := drawing_getElem? typeName o d place
  rw [here, Option.map_some, eq_comm, Option.map_eq_some_iff] at numbered
  obtain ⟨subject, found, same⟩ := numbered
  obtain ⟨rfl, number⟩ := Prod.mk.inj same
  exact ⟨place, number.symm, found⟩

end Drawing

section Ends

/-- An end on a table, which names a column or none, belongs at the cell in that place: the row of
the column if the table has it, and otherwise the container. -/
def Belongs (d : Diagram) (box : TableBox) (column : Option String) (place : Nat) : Prop :=
  (∃ c ∈ box.table.columns, column = some c.name ∧ d.subjects[place]? = some (.column box c)) ∨
    (∀ c ∈ box.table.columns, column ≠ some c.name) ∧ d.subjects[place]? = some (.table box)

/-- The container is hidden from an end that belongs there: a column has the name by which it is
found, or the end names no column and a column has the empty name. -/
def Hides (t : Table) (column : Option String) : Prop :=
  (∀ c ∈ t.columns, column ≠ some c.name) ∧
    ∃ c ∈ t.columns, c.name = Block.containerName ∨ column = none ∧ c.name = ""

theorem Block.cellNamed?_cases (b : Block) (name : String) :
    (∃ r ∈ b.rows, r.column.name = name ∧ b.cellNamed? name = some r.number) ∨
      (∀ r ∈ b.rows, r.column.name ≠ name) ∧
        b.cellNamed? name = if name = containerName then some b.number else none := by
  unfold cellNamed?
  cases found : b.rows.reverse.find? (·.column.name == name) with
  | some r =>
    have member := List.mem_reverse.mp (List.mem_of_find?_eq_some found)
    have named := List.find?_some found
    exact .inl ⟨r, member, beq_iff_eq.mp named, rfl⟩
  | none =>
    refine .inr ⟨fun r member same => ?_, rfl⟩
    exact List.find?_eq_none.mp found r (List.mem_reverse.mpr member) (beq_iff_eq.mpr same)

theorem Block.anchor_cases (b : Block) (column : Option String) :
    (∃ r ∈ b.rows, r.column.name = column.getD "" ∧ b.anchor column = r.number) ∨
      (∀ r ∈ b.rows, r.column.name ≠ column.getD "") ∧
        ((∃ r ∈ b.rows, r.column.name = containerName ∧ b.anchor column = r.number) ∨
          (∀ r ∈ b.rows, r.column.name ≠ containerName) ∧ b.anchor column = b.number) := by
  rcases b.cellNamed?_cases (column.getD "") with ⟨r, member, name, found⟩ | ⟨unnamed, found⟩
  · exact .inl ⟨r, member, name, by rw [anchor, found, Option.some_or, Option.getD_some]⟩
  refine .inr ⟨unnamed, ?_⟩
  rcases b.cellNamed?_cases containerName with ⟨r, member, name, container⟩ | ⟨free, container⟩
  · have other : column.getD "" ≠ containerName := fun same =>
      unnamed r member (name.trans same.symm)
    rw [if_neg other] at found
    refine .inl ⟨r, member, name, ?_⟩
    rw [anchor, found, container, Option.none_or, Option.getD_some]
  · refine .inr ⟨free, ?_⟩
    rw [if_pos rfl] at container
    rw [anchor, found, container]
    split <;> rfl

variable {typeName : Nat → Column → String} {o : Options} {d : Diagram} {b : Block}

theorem rows_of_mem_blocks {first : Nat} {boxes : List TableBox}
    (member : b ∈ blocks o first boxes) : b.rows = rows o (b.number + 1) b.box.table.columns := by
  induction boxes generalizing first with
  | nil => cases member
  | cons box rest ih =>
    rcases List.mem_cons.mp member with rfl | later
    · rfl
    · exact ih later

theorem map_column_rows (first : Nat) (columns : List Column) :
    (rows o first columns).map Row.column = columns := by
  refine List.ext_getElem? fun i => ?_
  rw [rows, List.getElem?_map, List.getElem?_mapIdx, Option.map_map]
  exact Option.map_id'

theorem mem_columns_iff (member : b ∈ blocks o 1 d.boxes) {c : Column} :
    c ∈ b.box.table.columns ↔ ∃ r ∈ b.rows, r.column = c := by
  have columns := map_column_rows (o := o) (b.number + 1) b.box.table.columns
  rw [← rows_of_mem_blocks member] at columns
  rw [← List.mem_map, columns]

theorem column_mem {r : Row} (member : b ∈ blocks o 1 d.boxes) (own : r ∈ b.rows) :
    r.column ∈ b.box.table.columns :=
  (mem_columns_iff member).mpr ⟨r, own, rfl⟩

theorem row_place {r : Row} (member : b ∈ blocks o 1 d.boxes) (own : r ∈ b.rows) :
    ∃ place, r.number = place + 1 ∧ d.subjects[place]? = some (.column b.box r.column) := by
  have inside : (⟨.column b.box r.column, r.number, r.text ownTypeName o b⟩ : Cell) ∈
      drawing ownTypeName o d := by
    refine List.mem_append_left _ (List.mem_flatMap_of_mem member (List.mem_cons_of_mem _ ?_))
    exact List.mem_map_of_mem own
  exact place_of_mem inside

theorem container_place (member : b ∈ blocks o 1 d.boxes) :
    ∃ place, b.number = place + 1 ∧ d.subjects[place]? = some (.table b.box) := by
  have inside : (⟨.table b.box, b.number, b.containerText o⟩ : Cell) ∈ drawing ownTypeName o d :=
    List.mem_append_left _ (List.mem_flatMap_of_mem member List.mem_cons_self)
  exact place_of_mem inside

theorem not_belongs_row {place : Nat} {column : Option String} {box : TableBox} {c : Column}
    (there : d.subjects[place]? = some (.column box c))
    (unnamed : ∀ c ∈ box.table.columns, column ≠ some c.name) : ¬Belongs d box column place := by
  rintro (⟨c, own, named, -⟩ | ⟨-, here⟩)
  · exact unnamed c own named
  · rw [there] at here
    cases here

theorem anchor_belongs_iff (member : b ∈ blocks o 1 d.boxes) (column : Option String) :
    ∃ place, b.anchor column = place + 1 ∧
      (Belongs d b.box column place ↔ ¬Hides b.box.table column) := by
  rcases b.anchor_cases column with ⟨r, own, name, goes⟩ | ⟨unnamed, rest⟩
  · obtain ⟨place, number, there⟩ := row_place member own
    refine ⟨place, goes.trans number, ?_⟩
    cases column with
    | some column =>
      have named : some column = some r.column.name := congrArg some name.symm
      have belongs : Belongs d b.box (some column) place :=
        .inl ⟨r.column, column_mem member own, named, there⟩
      exact iff_of_true belongs fun hides => hides.1 _ (column_mem member own) named
    | none =>
      have unnamed : ∀ c ∈ b.box.table.columns, none ≠ some c.name := fun _ _ => nofun
      have hides : Hides b.box.table none :=
        ⟨unnamed, r.column, column_mem member own, .inr ⟨rfl, name⟩⟩
      exact iff_of_false (not_belongs_row there unnamed) (not_not_intro hides)
  · have absent : ∀ c ∈ b.box.table.columns, column ≠ some c.name := by
      rintro c inside rfl
      obtain ⟨r, own, rfl⟩ := (mem_columns_iff member).mp inside
      exact unnamed r own rfl
    rcases rest with ⟨r, own, name, goes⟩ | ⟨free, goes⟩
    · obtain ⟨place, number, there⟩ := row_place member own
      have hides : Hides b.box.table column := ⟨absent, _, column_mem member own, .inl name⟩
      exact ⟨place, goes.trans number,
        iff_of_false (not_belongs_row there absent) (not_not_intro hides)⟩
    · obtain ⟨place, number, there⟩ := container_place member
      refine ⟨place, goes.trans number, iff_of_true (.inr ⟨absent, there⟩) ?_⟩
      rintro ⟨-, c, inside, hidden⟩
      obtain ⟨r, own, rfl⟩ := (mem_columns_iff member).mp inside
      rcases hidden with name | ⟨rfl, name⟩
      · exact free r own name
      · exact unnamed r own name

end Ends

def cellStart (number : Nat) (label : String) : String :=
  "\n    <mxCell" ++ field "id" (cellId number) ++ field "value" (Text.escape label)

theorem fields_cons (name text : String) (rest : List (String × String)) :
    fields ((name, text) :: rest) = field name text ++ fields rest := by
  rw [fields, List.map_cons, String.join_cons, fields]

theorem cell_start (number : Nat) (label : String) (attributes geometry : List (String × String))
    (spaces : String) :
    ∃ rest, cell (("id", cellId number) :: ("value", Text.escape label) :: attributes) geometry
      spaces = cellStart number label ++ rest := by
  refine ⟨fields attributes ++ ">\n      <mxGeometry" ++ fields geometry ++ "/>\n    </mxCell>\n" ++
    spaces, ?_⟩
  change "\n    <mxCell" ++ fields _ ++ ">\n      <mxGeometry" ++ fields geometry ++
    "/>\n    </mxCell>\n" ++ spaces =
      "\n    <mxCell" ++ field _ _ ++ field _ _ ++ (fields attributes ++ _ ++ _ ++ _ ++ _)
  rw [fields_cons, fields_cons]
  simp only [String.append_assoc]

variable {typeName : Nat → Column → String} {o : Options} {d : Diagram}

theorem text_start {c : Cell} (member : c ∈ drawing typeName o d) :
    ∃ rest, c.text = cellStart c.number (c.subject.label typeName c.number) ++ rest := by
  rcases List.mem_append.mp member with own | own
  · obtain ⟨b, -, own⟩ := List.mem_flatMap.mp own
    rcases List.mem_cons.mp own with rfl | own
    · exact cell_start _ _ _ _ _
    · obtain ⟨r, -, rfl⟩ := List.mem_map.mp own
      exact cell_start _ _ _ _ _
  · obtain ⟨c, -, rfl⟩ := List.mem_map.mp own
    exact cell_start _ _ _ _ _

theorem exists_connector {c : Cell} {e : Edge} (member : c ∈ drawing typeName o d)
    (edge : c.subject = .edge e) :
    ∃ connector ∈ connectors (blocks o 1 d.boxes) d.edges,
      connector.cell = c ∧ connector.edge = e := by
  rcases List.mem_append.mp member with own | own
  · obtain ⟨b, -, own⟩ := List.mem_flatMap.mp own
    rcases List.mem_cons.mp own with rfl | own
    · cases edge
    · obtain ⟨r, -, rfl⟩ := List.mem_map.mp own
      cases edge
  · obtain ⟨connector, inside, rfl⟩ := List.mem_map.mp own
    exact ⟨connector, inside, rfl, Subject.edge.inj edge⟩

theorem blockOf?_spec {list : List Block} {id : String} {b : Block}
    (found : blockOf? list id = some b) : b ∈ list ∧ b.box.table.id = id := by
  have same := List.find?_some found
  exact ⟨List.mem_reverse.mp (List.mem_of_find?_eq_some found), beq_iff_eq.mp same⟩

theorem exists_anchors {c : Connector} (member : c ∈ connectors (blocks o 1 d.boxes) d.edges) :
    ∃ source ∈ blocks o 1 d.boxes, ∃ target ∈ blocks o 1 d.boxes,
      source.box.table.id = c.edge.source ∧ target.box.table.id = c.edge.target ∧
        c.source = source.anchor c.edge.sourceColumn ∧
        c.target = target.anchor c.edge.targetColumn := by
  obtain ⟨i, inside, rfl⟩ := List.mem_mapIdx.mp member
  obtain ⟨e, -, found⟩ := List.mem_filterMap.mp (List.getElem_mem inside)
  obtain ⟨source, start, found⟩ := Option.bind_eq_some_iff.mp found
  obtain ⟨target, finish, found⟩ := Option.bind_eq_some_iff.mp found
  rw [← Option.some.inj found]
  obtain ⟨sourceMember, sourceId⟩ := blockOf?_spec start
  obtain ⟨targetMember, targetId⟩ := blockOf?_spec finish
  exact ⟨source, sourceMember, target, targetMember, sourceId, targetId, rfl, rfl⟩

theorem box_mem {b : Block} (member : b ∈ blocks o 1 d.boxes) : b.box ∈ d.boxes := by
  have boxes := map_box_blocks o 1 d.boxes
  rw [← boxes]
  exact List.mem_map_of_mem member

/-- How an edge is drawn by the text at a place: it has two tables, those of its ends, and each end
goes to the cell where it belongs unless the container is hidden from it. -/
def Joins (d : Diagram) (texts : List String) (place : Nat) (e : Edge) : Prop :=
  ∃ source ∈ d.boxes, ∃ target ∈ d.boxes, ∃ start finish,
    source.table.id = e.source ∧ target.table.id = e.target ∧
      texts[place]? = some (Connector.text ⟨place + 1, start + 1, finish + 1, e⟩) ∧
      (Belongs d source e.sourceColumn start ↔ ¬Hides source.table e.sourceColumn) ∧
      (Belongs d target e.targetColumn finish ↔ ¬Hides target.table e.targetColumn)

theorem cells_joins {place : Nat} {e : Edge} (there : d.subjects[place]? = some (.edge e)) :
    Joins d (cells typeName o d) place e := by
  obtain ⟨cell, here, subject, number⟩ := cell_at typeName o there
  have text : (cells typeName o d)[place]? = some cell.text := by
    rw [← map_text_drawing, List.getElem?_map, here, Option.map_some]
  obtain ⟨c, member, rfl, rfl⟩ := exists_connector (List.mem_of_getElem? here) subject
  obtain ⟨source, sourceMember, target, targetMember, sourceId, targetId, start, finish⟩ :=
    exists_anchors member
  obtain ⟨startPlace, starts, startBelongs⟩ := anchor_belongs_iff sourceMember c.edge.sourceColumn
  obtain ⟨finishPlace, finishes, finishBelongs⟩ :=
    anchor_belongs_iff targetMember c.edge.targetColumn
  refine ⟨source.box, box_mem sourceMember, target.box, box_mem targetMember, startPlace,
    finishPlace, sourceId, targetId, ?_, startBelongs, finishBelongs⟩
  have numbers : c = ⟨place + 1, startPlace + 1, finishPlace + 1, c.edge⟩ := by
    rw [← starts, ← finishes, ← start, ← finish, ← number]
    rfl
  rw [text]
  exact congrArg (fun c => some (Connector.text c)) numbers

/-- The cells of a diagram: they are numbered in the order of what they are drawn for, which the
label of each shows, and the ends of edges go where they belong if no container is hidden. -/
theorem generate_joins (o : Options) (modified : String) (d : Diagram) :
    ∃ texts, generate o modified d = opening modified ++ "\n".intercalate texts ++ closing ∧
      texts.length = d.boxes.length + (d.boxes.flatMap (·.table.columns)).length + d.drawn.length ∧
      (∀ place subject, d.subjects[place]? = some subject → ∃ rest, texts[place]? =
        some (cellStart (place + 1) (subject.label ownTypeName (place + 1)) ++ rest)) ∧
      ∀ place e, d.subjects[place]? = some (.edge e) → Joins d texts place e := by
  refine ⟨cells ownTypeName o d, rfl, ?_, fun place subject there => ?_, fun _ _ => cells_joins⟩
  · have subjects := congrArg List.length (numbered_drawing ownTypeName o d)
    rw [List.length_map, List.length_zipIdx, Diagram.length_subjects] at subjects
    rw [← map_text_drawing, List.length_map, subjects]
  · obtain ⟨cell, here, rfl, number⟩ := cell_at ownTypeName o there
    obtain ⟨rest, start⟩ := text_start (List.mem_of_getElem? here)
    refine ⟨rest, ?_⟩
    rw [← map_text_drawing, List.getElem?_map, here, Option.map_some, start, number]

def shadedBox : TableBox :=
  { table := { id := "a", name := "a", columns := [{ name := "__table__", type := .int }] } }

def namelessBox : TableBox :=
  { table := { id := "b", name := "b", columns := [{ name := "", type := .int }] } }

/-- An edge to two tables that both hide their containers from it: its source is an unknown column,
and its target none. -/
def hiddenEdge : Edge := { id := "e", source := "a", target := "b", sourceColumn := some "x" }

def hiddenDiagram : Diagram :=
  { boxes := [shadedBox, namelessBox], edges := [hiddenEdge], dialect := "mysql" }

theorem hiddenDiagram_misjoined :
    (cells ownTypeName {} hiddenDiagram)[4]? = some (Connector.text ⟨5, 2, 4, hiddenEdge⟩) ∧
      (Belongs hiddenDiagram shadedBox hiddenEdge.sourceColumn 0 ∧
        ¬Belongs hiddenDiagram shadedBox hiddenEdge.sourceColumn 1) ∧
      Belongs hiddenDiagram namelessBox hiddenEdge.targetColumn 2 ∧
        ¬Belongs hiddenDiagram namelessBox hiddenEdge.targetColumn 3 := by
  have unknown : ∀ c ∈ shadedBox.table.columns, hiddenEdge.sourceColumn ≠ some c.name := by decide
  have absent : ∀ c ∈ namelessBox.table.columns, hiddenEdge.targetColumn ≠ some c.name := by decide
  exact ⟨rfl, ⟨.inr ⟨unknown, rfl⟩, not_belongs_row rfl unknown⟩, .inr ⟨absent, rfl⟩,
    not_belongs_row rfl absent⟩

end Drawio

end RelSchema
