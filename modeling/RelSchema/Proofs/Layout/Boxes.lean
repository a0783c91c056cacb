import RelSchema.Drawio.Cell

namespace RelSchema

/-- The characters of a label that the line of the column is without: the size of the type, the
marks between and around the tags, and the last of the tags. -/
def Column.excess (c : Column) : Nat :=
  (c.typeLabel "").length +
    if c.tags.isEmpty then 0 else c.tags.length + 1 + if c.unique then 3 else 0

theorem Column.length_typeLabel (type : String) (c : Column) :
    (c.typeLabel type).length = type.length + (c.typeLabel "").length := by
  have own : (toString type).length = type.length := rfl
  have none : (toString "").length = 0 := rfl
  unfold typeLabel
  split
  · rfl
  · simp only [String.length_append]
    omega
  · simp only [String.length_append]
    omega

theorem Column.length_tags (c : Column) :
    (if c.tags.isEmpty then "" else " [" ++ ", ".intercalate c.tags ++ "]").length =
      ((if c.primaryKey then " PK" else "") ++ (if c.isForeignKey then " FK" else "") ++
        (if c.isRequired then " NN" else "")).length +
      if c.tags.isEmpty then 0 else c.tags.length + 1 + if c.unique then 3 else 0 := by
  unfold tags
  cases c.primaryKey <;> cases c.isForeignKey <;> cases c.isRequired <;> cases c.unique <;> rfl

namespace Layout

theorem length_labelAs (type : String) (c : Column) :
    (c.labelAs type).length = (columnLine type c).length + c.excess := by
  have typed := c.length_typeLabel type
  have tagged := c.length_tags
  have shown : c.labelAs type = c.name ++ ": " ++ c.typeLabel type ++
    if c.tags.isEmpty then "" else " [" ++ ", ".intercalate c.tags ++ "]" := rfl
  have measured : columnLine type c = c.name ++ ": " ++ type ++
    (if c.primaryKey then " PK" else "") ++ (if c.isForeignKey then " FK" else "") ++
      (if c.isRequired then " NN" else "") := rfl
  rw [shown, measured, Column.excess, String.length_append, tagged]
  simp only [String.length_append, typed]
  omega

def longest (title : String) (lines : List String) : Nat :=
  lines.foldl (fun n line => max n line.length) title.length

theorem longest_le_iff {title : String} {lines : List String} {bound : Nat} :
    longest title lines ≤ bound ↔
      title.length ≤ bound ∧ ∀ line ∈ lines, line.length ≤ bound := by
  unfold longest
  generalize title.length = start
  induction lines generalizing start with
  | nil => simp
  | cons line rest ih =>
    rw [List.foldl_cons, ih, Nat.max_le, List.forall_mem_cons, and_assoc]

theorem le_longest (title : String) {lines : List String} {line : String}
    (member : line ∈ lines) : line.length ≤ longest title lines :=
  (longest_le_iff.mp (Nat.le_refl _)).2 line member

section Sizes

variable (charWidth rowHeight padding minWidth : Nat)

def wholeStyle : BoxStyle := { charWidth, rowHeight, padding, minWidth }

theorem boxSize_whole (title : String) (lines : List String) :
    boxSize (wholeStyle charWidth rowHeight padding minWidth) title lines =
      { width := (max minWidth (longest title lines * charWidth + padding * 2) : Nat)
        height := (rowHeight + 4 + lines.length * rowHeight + padding : Nat) } := by
  have wider : max (minWidth : Int) (longest title lines * charWidth + padding * 2) =
      (max minWidth (longest title lines * charWidth + padding * 2) : Nat) := by omega
  change Size.mk (Measure.greater (.whole _) (.whole _)) (.whole _) = _
  rw [Measure.greater_whole]
  exact congrArg (fun width => Size.mk (.whole width) (.whole _)) wider

theorem offset_rows {o : Drawio.Options} {first : Nat} {columns : List Column} {row : Drawio.Row}
    (member : row ∈ Drawio.rows { o with rowHeight := rowHeight } first columns) :
    ∃ i < columns.length, row.offset = (rowHeight + 4 + i * rowHeight : Nat) := by
  obtain ⟨i, inside, rfl⟩ := List.mem_mapIdx.mp member
  refine ⟨i, inside, ?_⟩
  change Measure.whole _ = Measure.whole _
  simp

/-- Under whole sizes every row is within the height of the box. The width holds the line of every
column with the padding on both sides. It holds the label as well where the padding makes up for
what the line leaves out, and only there if the line is the longest. -/
theorem tableSize_fits (t : Table) :
    ∃ width height : Nat,
      tableSize (wholeStyle charWidth rowHeight padding minWidth) t = ⟨width, height⟩ ∧
      (∀ (o : Drawio.Options) first,
        ∀ row ∈ Drawio.rows { o with rowHeight := rowHeight } first t.columns,
          ∃ offset : Nat, row.offset = offset ∧ offset + rowHeight ≤ height) ∧
      ∀ c ∈ t.columns,
        c.label.length = (columnLine c.type.name c).length + c.excess ∧
        charWidth * (columnLine c.type.name c).length + 2 * padding ≤ width ∧
        (charWidth * c.excess ≤ 2 * padding → charWidth * c.label.length ≤ width) ∧
        (width = charWidth * (columnLine c.type.name c).length + 2 * padding →
          (charWidth * c.label.length ≤ width ↔ charWidth * c.excess ≤ 2 * padding)) := by
  have size := boxSize_whole charWidth rowHeight padding minWidth t.name
    (t.columns.map fun c => columnLine c.type.name c)
  refine ⟨_, _, size, ?_, ?_⟩
  · intro o first row member
    obtain ⟨i, inside, offset⟩ := offset_rows rowHeight member
    refine ⟨_, offset, ?_⟩
    have below : (i + 1) * rowHeight ≤ t.columns.length * rowHeight :=
      Nat.mul_le_mul_right _ inside
    rw [Nat.succ_mul] at below
    rw [List.length_map]
    omega
  · intro c member
    have own : columnLine c.type.name c ∈ t.columns.map fun c => columnLine c.type.name c :=
      List.mem_map_of_mem member
    generalize t.columns.map _ = lines at own ⊢
    have wide := Nat.mul_le_mul_right charWidth (le_longest t.name own)
    have holds := Nat.le_max_right minWidth (longest t.name lines * charWidth + padding * 2)
    rw [Column.label, length_labelAs, Nat.mul_add, Nat.mul_comm charWidth (columnLine c.type.name c).length]
    refine ⟨rfl, ?_, ?_, ?_⟩ <;> omega

end Sizes

def balanceColumn : Column :=
  { name := "outstanding_balance", type := .decimal, length := some 10, scale := some 2,
    nullable := false, unique := true }

def accountTable : Table := { name := "customer_accounts", columns := [balanceColumn] }

theorem accountTable_fits :
    balanceColumn ∈ accountTable.columns ∧ 8 * balanceColumn.excess ≤ 2 * 48 ∧
      ∃ width height : Nat, tableSize (wholeStyle 8 26 48 150) accountTable = ⟨width, height⟩ ∧
        8 * balanceColumn.label.length ≤ width ∧
        ∃ row ∈ Drawio.rows { rowHeight := (26 : Nat) } 1 accountTable.columns,
          ∃ offset : Nat, row.offset = offset ∧ offset + 26 ≤ height := by
  have own : balanceColumn ∈ accountTable.columns := List.mem_singleton_self _
  have small : 8 * balanceColumn.excess ≤ 2 * 48 := by decide +kernel
  obtain ⟨width, height, size, rows, columns⟩ := tableSize_fits 8 26 48 150 accountTable
  have row : _ ∈ Drawio.rows { rowHeight := (26 : Nat) } 1 accountTable.columns :=
    List.mem_cons_self
  exact ⟨own, small, width, height, size, (columns _ own).2.2.1 small, _, row, rows {} 1 _ row⟩

theorem accountTable_overflows :
    tableSize {} accountTable = { width := 288, height := 76 } ∧
      288 < 8 * balanceColumn.label.length := by
  have line : longest accountTable.name
      (accountTable.columns.map fun c => columnLine c.type.name c) = 31 := by
    decide +kernel
  refine ⟨(boxSize_whole 8 26 20 150 _ _).trans ?_, by decide +kernel⟩
  rw [line]
  rfl

end Layout

end RelSchema
