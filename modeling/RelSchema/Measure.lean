import RelSchema.Decimal

namespace RelSchema

inductive Measure where
  | whole (n : Int)
  | real (x : Float)
  deriving Repr

namespace Measure

def toFloat : Measure → Float
  | whole n => Decimal.Scaled.toFloat ⟨n, 0⟩
  | real x => x

def add : Measure → Measure → Measure
  | whole m, whole n => whole (m + n)
  | a, b => real (a.toFloat + b.toFloat)

def sub : Measure → Measure → Measure
  | whole m, whole n => whole (m - n)
  | a, b => real (a.toFloat - b.toFloat)

def mul : Measure → Measure → Measure
  | whole m, whole n => whole (m * n)
  | a, b => real (a.toFloat * b.toFloat)

instance : Add Measure := ⟨add⟩
instance : Sub Measure := ⟨sub⟩
instance : Mul Measure := ⟨mul⟩
instance {n : Nat} : OfNat Measure n := ⟨whole (Int.ofNat n)⟩
instance : Coe Nat Measure := ⟨fun n => whole (Int.ofNat n)⟩

def less : Measure → Measure → Bool
  | whole m, whole n => decide (m < n)
  | a, b => a.toFloat < b.toFloat

def greater (a b : Measure) : Measure := if a.less b then b else a

@[simp] theorem whole_add_whole (m n : Int) : whole m + whole n = whole (m + n) := rfl

@[simp] theorem whole_sub_whole (m n : Int) : whole m - whole n = whole (m - n) := rfl

@[simp] theorem whole_mul_whole (m n : Int) : whole m * whole n = whole (m * n) := rfl

theorem greater_whole (m n : Int) : greater (whole m) (whole n) = whole (max m n) := by
  unfold greater less
  by_cases h : m < n
  · simp [h, Int.max_eq_right (Int.le_of_lt h)]
  · simp [h, Int.max_eq_left (Int.not_lt.mp h)]

/-- Whole measures are printed without a point, others in the fewest digits that tell them. -/
def text : Measure → String
  | whole n => toString n
  | real x => Decimal.shortest x

def hundredths (m : Measure) : String := Decimal.fixed 2 true m.toFloat

end Measure

structure Point where
  x : Measure
  y : Measure
  deriving Repr

def Point.origin : Point := ⟨.real 0.0, .real 0.0⟩

end RelSchema
