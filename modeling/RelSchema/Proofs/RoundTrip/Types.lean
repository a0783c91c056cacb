import RelSchema.Proofs.Framing.Lines
import RelSchema.Proofs.Numerals
import RelSchema.Proofs.RoundTrip.Header
import RelSchema.Sql.Body

namespace RelSchema

/-- The number has no more digits than are read. -/
def Writable (n : Nat) : Prop := n.repr.length ≤ Text.maxNumberDigits

instance (n : Nat) : Decidable (Writable n) :=
  inferInstanceAs (Decidable (n.repr.length ≤ Text.maxNumberDigits))

/-- The types that come through text unchanged. Some have a length, and some of these a scale. -/
inductive Expressible (d : Dialect) : ColumnType → Option Int → Option Int → Prop
  | bare {type : ColumnType}
      (member : type ∈ [.int, .text, .boolean, .date, .timestamp, .float, .double]) :
      Expressible d type none none
  | uuid (supported : d.supports .uuid = true) : Expressible d .uuid none none
  | varchar {n : Nat} (positive : 1 ≤ n) (writable : Writable n) :
      Expressible d .varchar (some n) none
  | decimal : Expressible d .decimal none none
  | precise {n : Nat} (positive : 1 ≤ n) (writable : Writable n) :
      Expressible d .decimal (some n) none
  | scaled {n scale : Nat} (positive : 1 ≤ n) (writable : Writable n)
      (scaleWritable : Writable scale) : Expressible d .decimal (some n) (some scale)

namespace Expressible

variable {d : Dialect} {type : ColumnType} {length scale : Option Int}

theorem natural (h : Expressible d type length scale) :
    (∀ n, length = some n → 0 ≤ n) ∧ ∀ n, scale = some n → 0 ≤ n := by
  cases h <;> simp

theorem bare_of_boolean (h : Expressible d type length scale) (boolean : type = .boolean) :
    length = none ∧ scale = none := by
  cases h <;> simp at boolean ⊢

theorem ne_enum (h : Expressible d type length scale) : type ≠ .enum := by
  rintro rfl
  cases h with
  | bare member => simp at member

end Expressible

namespace Sql

def itemTypeName (d : Dialect) : ColumnType → String
  | .int => "INT"
  | .text => if d = .sqlserver then "NVARCHAR" else "TEXT"
  | .boolean =>
    match d with
    | .sqlserver => "BIT"
    | .oracle => "DECIMAL"
    | _ => "BOOLEAN"
  | .timestamp =>
    match d with
    | .mysql => "TIMESTAMPTZ"
    | .sqlserver => "DATETIME2"
    | _ => "TIMESTAMP"
  | .varchar => if d = .sqlserver then "NVARCHAR" else "VARCHAR"
  | type => type.name

def itemArguments (d : Dialect) (c : Column) : List String :=
  match c.type with
  | .text => if d = .sqlserver then ["MAX"] else []
  | .boolean => if d = .oracle then ["1"] else []
  | .varchar => c.length.toList.map toString
  | .decimal => c.length.toList.map toString ++ c.scale.toList.map toString
  | _ => []

def itemType (d : Dialect) (c : Column) : TypeSpec :=
  .scalar (itemTypeName d c.type) (itemArguments d c) []

def foundType (d : Dialect) (c : Column) : TypeSpec.Sized :=
  if d = .oracle ∧ c.type = .boolean then { type := .decimal, length := some 1 }
  else { type := c.type, length := c.length, scale := c.scale }

namespace TypeSpec

theorem numbers_nil : numbers [] = .ok [] := rfl

theorem numbers_cons {n : Nat} (writable : Writable n) {rest : List String} {found : List Int}
    (more : numbers rest = .ok found) : numbers (toString (n : Int) :: rest) = .ok (n :: found) := by
  have digits : toString (n : Int) = n.repr := rfl
  unfold numbers at more ⊢
  rw [digits, List.filter_cons_of_pos (Text.isDigits_repr n), List.mapM_cons, more,
    Text.number_repr writable]
  rfl

theorem isUnbounded_digits (type : ColumnType) (n : Nat) (rest : List String) :
    isUnbounded type (toString (n : Int) :: rest) = false := by
  have letters : ∀ code < 58, (Char.ofNat code).toUpper ≠ 'M' := by decide
  have other : Text.upper n.repr ≠ "MAX" := by
    intro same
    have chars := congrArg String.toList same
    rw [Text.upper, String.toList_ofList] at chars
    cases shape : n.repr.toList with
    | nil => exact Text.repr_ne_nil n shape
    | cons c more =>
      have isDigit := Text.repr_isDigit n c (by rw [shape]; exact List.mem_cons_self)
      have range := Char.isDigit_iff_toNat.mp isDigit
      have nine : '9'.toNat = 57 := rfl
      have ascii : Text.isAscii c = true := by
        simp only [Text.isAscii, decide_eq_true_eq]
        omega
      rw [shape] at chars
      simp only [List.flatMap_cons, Text.upperChar, ascii, ↓reduceIte] at chars
      have first : c.toUpper = 'M' := by
        simpa using congrArg List.head? chars
      have notM := letters c.toNat (by omega)
      rw [Char.ofNat_toNat] at notM
      exact notM first
  have digits : toString (n : Int) = n.repr := rfl
  simp [isUnbounded, digits, other]

theorem sizedAs_digits (type : ColumnType) {n : Nat} {rest : List String} {found : List Int}
    (h : numbers (toString (n : Int) :: rest) = .ok found) :
    sizedAs type (toString (n : Int) :: rest) =
      .ok { type, length := found[0]?, scale := found[1]? } := by
  rw [sizedAs, isUnbounded_digits, h]
  rfl

theorem applyTo_scalar {typeName : String} {arguments : List String} {type : ColumnType}
    {found : Sized} (known : columnType? typeName = some type)
    (sizes : sizedAs type arguments = .ok found) (name : String) :
    (applyTo { name } (.scalar typeName arguments [])).result =
      .ok { name, type := found.type, length := found.length, scale := found.scale } := by
  have read : (sized typeName arguments).result = .ok found := by
    rw [sized, known]
    exact sizes
  simp only [applyTo, meaning, Remarked.result_bind, read, ite_self]
  rfl

theorem applyTo_itemType {d : Dialect} {c : Column}
    (h : Expressible d c.type c.length c.scale) (name : String) :
    (applyTo { name } (itemType d c)).result =
      .ok { name, type := (foundType d c).type, length := (foundType d c).length,
            scale := (foundType d c).scale } := by
  obtain ⟨_, type, _, length, scale, _, _, _, _, _, _, _⟩ := c
  simp only at h
  cases h with
  | bare member =>
    simp only [List.mem_cons, List.not_mem_nil, or_false] at member
    rcases member with rfl | rfl | rfl | rfl | rfl | rfl | rfl <;> cases d <;> rfl
  | uuid supported => cases d <;> rfl
  | varchar positive writable =>
    have sizes := sizedAs_digits .varchar (numbers_cons writable numbers_nil)
    cases d <;> exact applyTo_scalar rfl sizes name
  | decimal => cases d <;> rfl
  | precise positive writable =>
    have sizes := sizedAs_digits .decimal (numbers_cons writable numbers_nil)
    cases d <;> exact applyTo_scalar rfl sizes name
  | scaled positive writable scaleWritable =>
    have found := numbers_cons writable (numbers_cons scaleWritable numbers_nil)
    have sizes := sizedAs_digits .decimal found
    cases d <;> exact applyTo_scalar rfl sizes name

end TypeSpec

end Sql

end RelSchema
