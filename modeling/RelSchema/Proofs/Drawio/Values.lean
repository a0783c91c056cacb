import RelSchema.Proofs.Drawio.Cells
import RelSchema.Proofs.Figures
import RelSchema.Proofs.Occurrences

namespace RelSchema.Drawio

open Text

def StartsValue (text : String) : Prop := " value=".toList <:+ text.toList

instance (text : String) : Decidable (StartsValue text) :=
  inferInstanceAs (Decidable (" value=".toList <:+ text.toList))

theorem values_quote {a : String} (free : '"' ∉ a.toList) (rest : String) :
    quotedAfter " value=\"" (a ++ "\"" ++ rest) =
      (if StartsValue a then [upToQuote rest.toList] else []) ++ quotedAfter " value=\"" rest :=
  quotedAfter_quote " value=" (by decide) free rest

/-- What a part of a document adds to the cells that are counted and to the values that are read,
whatever stands around it. -/
structure Adds (text : String) (count : Nat) (values : List String) : Prop where
  cells : ∀ after,
    occurrences "<mxCell" (text ++ after) = count + occurrences "<mxCell" after
  values : ∀ before, '"' ∉ before.toList → ∃ left, '"' ∉ left.toList ∧ ∀ after,
    quotedAfter " value=\"" (before ++ text ++ after) =
      values ++ quotedAfter " value=\"" (left ++ after)

namespace Adds

theorem append {a b : String} {m n : Nat} {v u : List String} (first : Adds a m v)
    (second : Adds b n u) : Adds (a ++ b) (m + n) (v ++ u) := by
  constructor
  · intro after
    rw [String.append_assoc, first.cells, second.cells, Nat.add_assoc]
  · intro before free
    obtain ⟨between, free, one⟩ := first.values before free
    obtain ⟨left, free, two⟩ := second.values between free
    refine ⟨left, free, fun after => ?_⟩
    have parts : before ++ (a ++ b) ++ after = before ++ a ++ (b ++ after) := by
      simp only [String.append_assoc]
    rw [parts, one, ← String.append_assoc, two, List.append_assoc]

theorem markup {text : String} {count : Nat}
    (plain : '"' ∉ text.toList ∧ EndsClear "<mxCell" text ∧ occurrences "<mxCell" text = count) :
    Adds text count [] := by
  obtain ⟨unquoted, clear, counted⟩ := plain
  refine ⟨fun after => ?_, fun before free => ⟨before ++ text, ?_, fun after => rfl⟩⟩
  · rw [occurrences_append (by decide) clear, counted]
  · rw [String.toList_append, List.mem_append]
    exact not_or.mpr ⟨free, unquoted⟩

theorem total {text : String} {count : Nat} {values : List String} (adds : Adds text count values) :
    occurrences "<mxCell" text = count ∧ quotedAfter " value=\"" text = values := by
  obtain ⟨left, free, read⟩ := adds.values "" (by decide)
  have none : quotedAfter " value=\"" left = [] := quotedAfter_unquoted " value=" free
  have counted := adds.cells ""
  have found := read ""
  rw [String.append_empty] at counted
  rw [String.append_empty, String.append_empty, String.empty_append, none, List.append_nil] at found
  exact ⟨counted, found⟩

end Adds

def IsPlain (text : List Char) : Prop := ∀ c ∈ [' ', '"', '<'], c ∉ text

-- The instance for a quantifier over characters would try them all.
instance (text : List Char) : Decidable (IsPlain text) :=
  List.decidableBAll (fun c => c ∉ text) [' ', '"', '<']

def IsName (name : String) : Prop := name ≠ "value" ∧ IsPlain name.toList

instance (name : String) : Decidable (IsName name) :=
  inferInstanceAs (Decidable (_ ∧ _))

structure IsInert (text : String) : Prop where
  quote : '"' ∉ text.toList
  bracket : '<' ∉ text.toList
  ends : ¬StartsValue text

instance (text : String) : Decidable (IsInert text) :=
  decidable_of_iff ('"' ∉ text.toList ∧ '<' ∉ text.toList ∧ ¬StartsValue text)
    ⟨fun ⟨quote, bracket, ends⟩ => ⟨quote, bracket, ends⟩,
      fun ⟨quote, bracket, ends⟩ => ⟨quote, bracket, ends⟩⟩

theorem IsPlain.isInert {text : String} (plain : IsPlain text.toList) : IsInert text where
  quote := plain '"' (by decide)
  bracket := plain '<' (by decide)
  ends suffix := plain ' ' (by decide) (suffix.subset List.mem_cons_self)

theorem IsPlain.append {a b : List Char} (left : IsPlain a) (right : IsPlain b) :
    IsPlain (a ++ b) := fun c special member =>
  (List.mem_append.mp member).elim (left c special) (right c special)

theorem isPlain_of_isFigures {text : List Char} (figures : IsFigures text) : IsPlain text := by
  have others : [' ', '"', '<'].all (fun c => !isFigure c) = true := by decide
  intro c special member
  have none := List.all_eq_true.mp others c special
  rw [figures c member] at none
  cases none

theorem isInert_of_isFigures {text : String} (figures : IsFigures text.toList) : IsInert text :=
  (isPlain_of_isFigures figures).isInert

theorem isInert_cellId (number : Nat) : IsInert (cellId number) := by
  refine IsPlain.isInert ?_
  rw [cellId, String.toList_append]
  exact IsPlain.append (by decide) (isPlain_of_isFigures (IsFigures.repr number))

theorem startsValue_name_iff {name : String} (spaces : ' ' ∉ name.toList) (before : String) :
    StartsValue (before ++ (" " ++ name ++ "=")) ↔ name = "value" := by
  have mark : " value=".toList = ' ' :: ("value".toList ++ ['=']) := rfl
  have text : (before ++ (" " ++ name ++ "=")).toList =
      before.toList ++ ' ' :: (name.toList ++ ['=']) := by
    simp only [String.toList_append]
    rfl
  have once : ' ' ∉ name.toList ++ ['='] := by
    rw [List.mem_append]
    exact not_or.mpr ⟨spaces, by decide⟩
  rw [StartsValue, mark, text, suffix_append_cons_iff (by decide) once, List.append_left_inj,
    String.toList_inj, eq_comm]

theorem field_eq (name text : String) :
    field name text = " " ++ name ++ "=" ++ "\"" ++ text ++ "\"" := by
  have sign : "=\"" = "=" ++ "\"" := rfl
  change " " ++ name ++ "=\"" ++ text ++ "\"" = _
  rw [sign]
  simp only [String.append_assoc]

theorem values_field (name : String) {text before : String}
    (named : ' ' ∉ name.toList ∧ '"' ∉ name.toList) (unquoted : '"' ∉ text.toList)
    (free : '"' ∉ before.toList) (after : String) :
    quotedAfter " value=\"" (before ++ field name text ++ after) =
      (if name = "value" then [text] else []) ++
        ((if StartsValue text then [upToQuote after.toList] else []) ++
          quotedAfter " value=\"" after) := by
  have start : '"' ∉ (before ++ (" " ++ name ++ "=")).toList := by
    simp [free, named.2]
  have parts : before ++ field name text ++ after =
      before ++ (" " ++ name ++ "=") ++ "\"" ++ (text ++ "\"" ++ after) := by
    simp only [field_eq, String.append_assoc]
  rw [parts, values_quote start, values_quote unquoted, upToQuote_quote unquoted]
  simp only [startsValue_name_iff named.1]

theorem bracket_not_mem_field (name : String) {text : String} (named : '<' ∉ name.toList)
    (inert : '<' ∉ text.toList) : '<' ∉ (field name text).toList := by
  simp [field_eq, named, inert]

namespace Adds

theorem ofBrackets {text : String} (unopened : '<' ∉ text.toList) (after : String) :
    occurrences "<mxCell" (text ++ after) = 0 + occurrences "<mxCell" after := by
  have start : "<mxCell".toList = '<' :: "mxCell".toList := rfl
  rw [occurrences_append (by decide) (endsClear_of_not_mem start unopened),
    occurrences_of_not_mem start unopened]

theorem field (name : String) {text : String} (named : IsName name) (inert : IsInert text) :
    Adds (field name text) 0 [] := by
  obtain ⟨other, characters⟩ := named
  refine ⟨ofBrackets (bracket_not_mem_field name (characters '<' (by decide)) inert.bracket), ?_⟩
  refine fun before free => ⟨"", by decide, fun after => ?_⟩
  have read := values_field name ⟨characters ' ' (by decide), characters '"' (by decide)⟩
    inert.quote free after
  rw [read, if_neg other, if_neg inert.ends, String.empty_append]
  rfl

theorem fields {list : List (String × String)} (plain : ∀ f ∈ list, IsName f.1 ∧ IsInert f.2) :
    Adds (fields list) 0 [] := by
  induction list with
  | nil => exact markup (by decide)
  | cons f rest ih =>
    rw [List.forall_mem_cons] at plain
    rw [fields_cons]
    exact (field f.1 plain.1.1 plain.1.2).append (ih plain.2)

end Adds

/-- What is read at the quotes of a label: the label, and what comes after it if it ends as a value
starts. -/
def readings (label : String) : List String :=
  label :: if StartsValue label then [" style="] else []

theorem startsValue_escape_iff (text : String) : StartsValue (escape text) ↔ StartsValue text := by
  have plain : ∀ c ∈ " value=".toList, entity c = [c] ∧ c ≠ ';' :=
    @of_decide_eq_true _ (List.decidableBAll _ _) rfl
  have escaped : (escape text).toList = escapeChars text.toList := String.toList_ofList
  rw [StartsValue, escaped]
  exact suffix_escapeChars_iff plain text.toList

theorem map_escape_readings (label : String) : (readings label).map escape =
    escape label :: if StartsValue label then [" style="] else [] := by
  have style : escape " style=" = " style=" := by decide
  rw [readings, List.map_cons, apply_ite (List.map escape), List.map_singleton, style, List.map_nil]

namespace Adds

theorem label (label : String) {style : String} (inert : IsInert style) :
    Adds (Drawio.field "value" (escape label) ++ Drawio.field "style" style) 0
      ((readings label).map escape) := by
  have styled := field "style" (by decide) inert
  refine ⟨?_, fun before free => ⟨"", by decide, fun after => ?_⟩⟩
  · have value := bracket_not_mem_field "value" (by decide) (bracket_not_mem_escape label)
    intro after
    rw [String.append_assoc, ofBrackets value, styled.cells]
    omega
  · have value := values_field "value" (by decide) (quote_not_mem_escape label) free
      (Drawio.field "style" style ++ after)
    have none : '"' ∉ "".toList := by decide
    have next := values_field "style" (by decide) inert.quote none after
    have read : upToQuote (Drawio.field "style" style ++ after).toList = " style=" := by
      have name : " " ++ "style" ++ "=" = " style=" := by decide
      have written : Drawio.field "style" style ++ after =
          " style=" ++ "\"" ++ (style ++ "\"" ++ after) := by
        rw [field_eq, name]
        simp only [String.append_assoc]
      have free : '"' ∉ " style=".toList := by decide
      rw [written]
      exact upToQuote_quote free (style ++ "\"" ++ after)
    rw [String.empty_append, if_neg (by decide), if_neg inert.ends] at next
    have parts : before ++ (Drawio.field "value" (escape label) ++ Drawio.field "style" style) ++
        after = before ++ Drawio.field "value" (escape label) ++
          (Drawio.field "style" style ++ after) := by
      simp only [String.append_assoc]
    rw [parts, value, next, read, map_escape_readings, if_pos rfl, String.empty_append]
    simp only [startsValue_escape_iff]
    rfl

theorem cell (number : Nat) (title : String) {style spaces : String} (inert : IsInert style)
    {more geometry : List (String × String)} (others : ∀ f ∈ more, IsName f.1 ∧ IsInert f.2)
    (places : ∀ f ∈ geometry, IsName f.1 ∧ IsInert f.2)
    (blank : '"' ∉ spaces.toList ∧ EndsClear "<mxCell" spaces ∧ occurrences "<mxCell" spaces = 0) :
    Adds (Drawio.cell (("id", cellId number) :: ("value", escape title) :: ("style", style) :: more)
      geometry spaces) 1 ((readings title).map escape) := by
  have start : Adds "\n    <mxCell" 1 [] := markup (by decide)
  have middle : Adds ">\n      <mxGeometry" 0 [] := markup (by decide)
  have finish : Adds "/>\n    </mxCell>\n" 0 [] := markup (by decide)
  have attributes : Adds
      (Drawio.fields (("id", cellId number) :: ("value", escape title) :: ("style", style) :: more))
      0 ((readings title).map escape) := by
    have id := field "id" (by decide) (isInert_cellId number)
    have all := id.append ((label title inert).append (fields others))
    rw [String.append_assoc, ← fields_cons, ← fields_cons, ← fields_cons] at all
    simpa only [List.nil_append, List.append_nil] using all
  have all := ((((start.append attributes).append middle).append (fields places)).append
    finish).append (markup blank)
  simp only [List.nil_append, List.append_nil] at all
  exact all

end Adds

section Cells

theorem isInert_style {settings : List String} (plain : ∀ s ∈ settings, IsPlain s.toList) :
    IsInert (style settings) := by
  refine IsPlain.isInert fun c special member => ?_
  rw [style, String.toList_join, List.mem_flatMap] at member
  obtain ⟨ended, inside, member⟩ := member
  obtain ⟨s, setting, rfl⟩ := List.mem_map.mp inside
  rw [String.toList_append] at member
  have semicolon : IsPlain ";".toList := by decide
  exact (plain s setting).append semicolon c special member

theorem isInert_containerStyle : IsInert (containerStyle {}) := isInert_style (by decide)

theorem isInert_rowStyle (c : Column) : IsInert (rowStyle {} c) := by
  have colors : color {} c = "#fef3c7" ∨ color {} c = "#dbeafe" ∨ color {} c = "#ffffff" := by
    unfold color
    split
    · exact .inl rfl
    · split
      · exact .inr (.inl rfl)
      · exact .inr (.inr rfl)
  unfold rowStyle
  rcases colors with same | same | same <;> rw [same] <;> exact isInert_style (by decide)

theorem isInert_connectorStyle (c : Cardinality) : IsInert (connectorStyle c) := by
  cases c <;> exact isInert_style (by decide)

theorem isInert_text (m : Measure) : IsInert m.text := isInert_of_isFigures m.text_isFigures

theorem isInert_hundredths (m : Measure) : IsInert m.hundredths :=
  isInert_of_isFigures m.hundredths_isFigures

variable {typeName : Nat → Column → String}

theorem Block.adds_containerText (b : Block) :
    Adds (b.containerText {}) 1 ((readings b.box.table.name).map escape) := by
  refine Adds.cell _ _ isInert_containerStyle (by decide) ?_ (by decide)
  simp only [List.forall_mem_cons, and_true, isInert_text, isInert_hundredths]
  decide

theorem Row.adds_text (b : Block) (r : Row) :
    Adds (r.text typeName {} b) 1
      ((readings (r.column.labelAs (typeName r.number r.column))).map escape) := by
  refine Adds.cell _ _ (isInert_rowStyle _) ?_ ?_ (by decide)
  · simp only [List.forall_mem_cons, and_true, isInert_cellId]
    decide
  · simp only [List.forall_mem_cons, and_true, isInert_text]
    decide

theorem Connector.adds_text (c : Connector) :
    Adds c.text 1 ((readings (c.edge.targetColumn.getD "")).map escape) := by
  refine Adds.cell _ _ (isInert_connectorStyle _) ?_ (by decide) (by decide)
  simp only [List.forall_mem_cons, and_true, isInert_cellId]
  decide

theorem adds_cell {d : Diagram} {c : Cell} (member : c ∈ drawing typeName {} d) :
    Adds c.text 1 ((readings (c.subject.label typeName c.number)).map escape) := by
  rcases List.mem_append.mp member with own | own
  · obtain ⟨b, -, own⟩ := List.mem_flatMap.mp own
    rcases List.mem_cons.mp own with rfl | own
    · exact b.adds_containerText
    · obtain ⟨r, -, rfl⟩ := List.mem_map.mp own
      exact r.adds_text b
  · obtain ⟨c, -, rfl⟩ := List.mem_map.mp own
    exact c.adds_text

theorem Adds.intercalate (values : Cell → List String) {list : List Cell}
    (each : ∀ c ∈ list, Adds c.text 1 (values c)) :
    Adds ("\n".intercalate (list.map Cell.text)) list.length (list.flatMap values) := by
  have line : Adds "\n" 0 [] := markup (by decide)
  induction list with
  | nil => exact markup (by decide)
  | cons c rest ih =>
    rw [List.forall_mem_cons] at each
    have later := ih each.2
    cases rest with
    | nil => simpa using each.1
    | cons next rest =>
      have all := (each.1.append line).append later
      rw [List.append_nil] at all
      rw [List.map_cons, List.map_cons, String.intercalate_cons_cons, ← List.map_cons,
        List.length_cons, Nat.add_comm, List.flatMap_cons]
      exact all

theorem Adds.opening {modified : String} (inert : IsInert modified) :
    Adds (opening modified) 2 [] := by
  have start : Adds "<?xml" 0 [] := markup (by decide)
  have file : Adds "?>\n<mxfile" 0 [] := markup (by decide)
  have diagram : Adds ">\n  <diagram" 0 [] := markup (by decide)
  have model : Adds ">\n    <mxGraphModel" 0 [] := markup (by decide)
  have root : Adds ">\n      <root>\n        <mxCell" 1 [] := markup (by decide)
  have layer : Adds "/>\n        <mxCell" 1 [] := markup (by decide)
  have finish : Adds "/>\n" 0 [] := markup (by decide)
  have made : ∀ f ∈ [("host", "app.diagrams.net"), ("modified", modified), ("agent", "erd-engine"),
      ("version", "1.0")], IsName f.1 ∧ IsInert f.2 := by
    simp only [List.forall_mem_cons, inert, and_true]
    decide
  exact (((((((((((start.append (fields (by decide))).append file).append
    (fields made)).append diagram).append (fields (by decide))).append model).append
    (fields (by decide))).append root).append (fields (by decide))).append
    layer).append (fields (by decide))).append finish

theorem adds_closing : Adds closing 0 [] := Adds.markup (by decide)

def labels (typeName : Nat → Column → String) (d : Diagram) : List String :=
  (d.subjects.zipIdx 1).map fun (subject, number) => subject.label typeName number

theorem length_labels (d : Diagram) : (labels typeName d).length =
    d.boxes.length + (d.boxes.flatMap (·.table.columns)).length + d.drawn.length := by
  rw [labels, List.length_map, List.length_zipIdx, Diagram.length_subjects]

theorem labels_eq (o : Options) (d : Diagram) :
    labels typeName d = (drawing typeName o d).map fun c => c.subject.label typeName c.number := by
  rw [labels, ← numbered_drawing typeName o, List.map_map]
  rfl

theorem adds_generateWith {modified : String} (inert : IsInert modified) (d : Diagram) :
    Adds (generateWith typeName {} modified d) (2 + (labels typeName d).length)
      (((labels typeName d).flatMap readings).map escape) := by
  have cells := Adds.intercalate _ fun c (member : c ∈ drawing typeName {} d) => adds_cell member
  have all := ((Adds.opening inert).append cells).append adds_closing
  rw [List.nil_append, List.append_nil, map_text_drawing] at all
  rw [labels_eq {}, List.length_map, List.flatMap_map, List.map_flatMap]
  exact all

theorem length_flatMap_readings (list : List String) :
    (list.flatMap readings).length = list.length + list.countP (StartsValue ·) := by
  induction list with
  | nil => rfl
  | cons label rest ih =>
    rw [List.flatMap_cons, List.length_append, ih, readings, List.length_cons, List.length_cons,
      List.countP_cons]
    by_cases ends : StartsValue label <;> simp [ends] <;> omega

end Cells

theorem unescape_escape (R : References) (text : String) : R.unescape (escape text) = text := by
  rw [References.unescape, escape, String.toList_ofList, References.unescapeFrom_escapeChars,
    String.ofList_toList]

/-- The cells of a document are two more than its labels, and its values read as the labels in their
order, except for what is read at the end of a label that ends as a value starts. -/
theorem values_generateWith (typeName : Nat → Column → String) (t : Timestamp) (d : Diagram)
    (R : References) :
    (labels typeName d).length =
        d.boxes.length + (d.boxes.flatMap (·.table.columns)).length + d.drawn.length ∧
      occurrences "<mxCell" (generateWith typeName {} t.text d) = 2 + (labels typeName d).length ∧
      occurrences " value=\"" (generateWith typeName {} t.text d) =
        (labels typeName d).length + (labels typeName d).countP (StartsValue ·) ∧
      (quotedAfter " value=\"" (generateWith typeName {} t.text d)).map R.unescape =
        (labels typeName d).flatMap readings := by
  have made : IsInert t.text := isInert_of_isFigures t.text_isFigures
  obtain ⟨counted, read⟩ := (adds_generateWith made d).total
  refine ⟨length_labels d, counted, ?_, ?_⟩
  · rw [← length_quotedAfter, read, List.length_map, length_flatMap_readings]
  · rw [read, List.map_map]
    have same : R.unescape ∘ escape = id := funext (unescape_escape R)
    rw [same, List.map_id]

def echoDiagram : Diagram :=
  { boxes := [{ table := { id := "a", name := "x value=" } }], edges := [], dialect := "mysql" }

theorem echoDiagram_reads :
    echoDiagram.boxes.length + (echoDiagram.boxes.flatMap (·.table.columns)).length +
        echoDiagram.drawn.length = 1 ∧
      occurrences " value=\"" (generate {} (Timestamp.text ⟨0, 0⟩) echoDiagram) = 2 ∧
      quotedAfter " value=\"" (generate {} (Timestamp.text ⟨0, 0⟩) echoDiagram) =
        ["x value=", " style="] := by
  have made : IsInert (Timestamp.text ⟨0, 0⟩) :=
    isInert_of_isFigures (Timestamp.text_isFigures ⟨0, 0⟩)
  have read : quotedAfter " value=\"" (generate {} (Timestamp.text ⟨0, 0⟩) echoDiagram) =
      ["x value=", " style="] := by
    refine (adds_generateWith made echoDiagram).total.2.trans ?_
    decide
  refine ⟨rfl, ?_, read⟩
  rw [← length_quotedAfter, read]
  rfl

end RelSchema.Drawio
