import RelSchema.Text.Character

namespace RelSchema.Decimal

structure Scaled where
  mantissa : Int
  exponent : Int
  deriving DecidableEq, Repr

/-- The nearest floating point number. Far outside its range the answer is known from the count of
digits alone. -/
def Scaled.toFloat (d : Scaled) : Float :=
  let size := d.mantissa.natAbs
  let magnitude : Int := (Nat.toDigits 10 size).length + d.exponent
  let x : Float :=
    if size = 0 ∨ magnitude < -400 then 0.0
    else if 400 < magnitude then 1.0 / 0.0
    else OfScientific.ofScientific size (decide (d.exponent < 0)) d.exponent.natAbs
  if d.mantissa < 0 then -x else x

structure Binary where
  mantissa : Nat
  exponent : Int
  deriving DecidableEq, Repr

inductive Shape where
  | nan
  | infinite (negative : Bool)
  | zero (negative : Bool)
  | finite (negative : Bool) (value : Binary)
  deriving DecidableEq, Repr

def Shape.ofBits (bits : Nat) : Shape :=
  let negative := bits / Nat.pow 2 63 % 2 == 1
  let field : Nat := bits / Nat.pow 2 52 % Nat.pow 2 11
  let fraction : Nat := bits % Nat.pow 2 52
  if field = 2047 then
    if fraction = 0 then .infinite negative else .nan
  else if field = 0 then
    if fraction = 0 then .zero negative else .finite negative ⟨fraction, -1074⟩
  else .finite negative ⟨Nat.pow 2 52 + fraction, Int.ofNat field - 1075⟩

def Shape.ofFloat (x : Float) : Shape := Shape.ofBits x.toBits.toNat

structure Ratio where
  num : Nat
  den : Nat

def Ratio.ofBinary (m : Nat) (e : Int) : Ratio :=
  if e < 0 then ⟨m, Nat.pow 2 e.natAbs⟩ else ⟨m * Nat.pow 2 e.natAbs, 1⟩

def Ratio.scale (r : Ratio) (e : Int) : Ratio :=
  if e < 0 then ⟨r.num, r.den * Nat.pow 10 e.natAbs⟩ else ⟨r.num * Nat.pow 10 e.natAbs, r.den⟩

def Ratio.lt (a b : Ratio) : Bool := decide (a.num * b.den < b.num * a.den)

def Ratio.le (a b : Ratio) : Bool := decide (a.num * b.den ≤ b.num * a.den)

/-- The reals that round to a number, its ends included when the mantissa is even. -/
structure Interval where
  low : Ratio
  high : Ratio
  closed : Bool

def Binary.interval (b : Binary) : Interval :=
  let quarter := b.exponent - 2
  -- Below a power of two the next number is half as far away.
  let atPower := b.mantissa == Nat.pow 2 52 && decide (b.exponent > -1074)
  { low := Ratio.ofBinary (4 * b.mantissa - if atPower then 1 else 2) quarter
    high := Ratio.ofBinary (4 * b.mantissa + 2) quarter
    closed := b.mantissa % 2 == 0 }

def Interval.contains (i : Interval) (r : Ratio) : Bool :=
  if i.closed then i.low.le r && r.le i.high else i.low.lt r && r.lt i.high

structure Scientific where
  digits : Nat
  exponent : Int
  deriving DecidableEq, Repr

def Scientific.ratio (s : Scientific) : Ratio := Ratio.scale ⟨s.digits, 1⟩ s.exponent

def Ratio.magnitude (r : Ratio) : Int :=
  let guess : Int := (Nat.toDigits 10 r.num).length - (Nat.toDigits 10 r.den).length
  if (Ratio.scale ⟨1, 1⟩ guess).le r then guess + 1 else guess

/-- Of the two neighbours of the value among the multiples of `10 ^ exponent`, the one that reads
back as it, or the nearer one when both do. -/
def hit? (value : Ratio) (interval : Interval) (exponent : Int) : Option Scientific :=
  let scaled := value.scale (-exponent)
  let below := scaled.num / scaled.den
  let down : Scientific := ⟨below, exponent⟩
  let up : Scientific := ⟨below + 1, exponent⟩
  match below != 0 && interval.contains down.ratio, interval.contains up.ratio with
  | true, false => some down
  | false, true => some up
  | false, false => none
  | true, true =>
    let rest := 2 * (scaled.num % scaled.den)
    if rest < scaled.den then some down
    else if scaled.den < rest then some up
    else if below % 2 = 0 then some down else some up

def Binary.shortestDigits (b : Binary) : Scientific :=
  let value := Ratio.ofBinary b.mantissa b.exponent
  let top := value.magnitude
  let grids := (List.range 17).map fun n => top - (n + 1 : Nat)
  (grids.findSome? (hit? value b.interval)).getD ⟨0, 0⟩

def Scientific.reduced (s : Scientific) : List Char × Int :=
  let digits := Nat.toDigits 10 s.digits
  let kept := (digits.reverse.dropWhile (· == '0')).reverse
  (kept, s.exponent + (digits.length - kept.length : Nat))

def zeros (n : Nat) : List Char := List.replicate n '0'

/-- Positional from a ten-thousandth up to below `10 ^ 16`, with at least one place after the
point; with an exponent of at least two digits elsewhere. -/
def layOut (digits : List Char) (exponent : Int) : List Char :=
  let point : Int := digits.length + exponent
  if -3 ≤ point ∧ point ≤ 16 then
    if point ≤ 0 then '0' :: '.' :: zeros point.natAbs ++ digits
    else if (digits.length : Int) ≤ point then
      digits ++ zeros (point - digits.length).toNat ++ ".0".toList
    else digits.take point.toNat ++ '.' :: digits.drop point.toNat
  else
    let power := point - 1
    let size := Nat.toDigits 10 power.natAbs
    let fraction := match digits.tail with
      | [] => []
      | more => '.' :: more
    digits.take 1 ++ fraction ++ 'e' :: (if power < 0 then '-' else '+') ::
      (if size.length < 2 then '0' :: size else size)

def signed (negative : Bool) (s : List Char) : List Char :=
  if negative then '-' :: s else s

def shortest (x : Float) : String :=
  String.ofList <| match Shape.ofFloat x with
    | .nan => "nan".toList
    | .infinite negative => signed negative "inf".toList
    | .zero negative => signed negative "0.0".toList
    | .finite negative value =>
      let (digits, exponent) := value.shortestDigits.reduced
      signed negative (layOut digits exponent)

def roundHalfEven (num den : Nat) : Nat :=
  let below := num / den
  let rest := 2 * (num % den)
  if rest < den then below
  else if den < rest then below + 1
  else if below % 2 = 0 then below else below + 1

def placed (places units : Nat) : List Char :=
  let digits := Nat.toDigits 10 units
  let padded := List.replicate (places + 1 - digits.length) '0' ++ digits
  padded.take (padded.length - places) ++
    (if places = 0 then [] else '.' :: padded.drop (padded.length - places))

/-- Text with so many places. A value below zero that rounds to zero keeps its sign only when
`signedZero` is set. -/
def fixed (places : Nat) (signedZero : Bool) (x : Float) : String :=
  String.ofList <| match Shape.ofFloat x with
    | .nan => "nan".toList
    | .infinite negative => if negative then "-inf".toList else "inf".toList
    | .zero negative => if negative && signedZero then '-' :: placed places 0 else placed places 0
    | .finite negative value =>
      let scaled := (Ratio.ofBinary value.mantissa value.exponent).scale places
      let units := roundHalfEven scaled.num scaled.den
      if negative && (units != 0 || signedZero) then '-' :: placed places units
      else placed places units

def isDigitOrMark (c : Char) : Bool := c == '_' || Text.isDecimal c

def marksStandBetween : List Char → Bool
  | [] => true
  | ['_'] => false
  | '_' :: '_' :: _ => false
  | _ :: rest => marksStandBetween rest

def readDigits? (s : List Char) : Option (List Nat × List Char) :=
  let run := s.takeWhile isDigitOrMark
  if run.head? != some '_' && marksStandBetween run then
    some (run.filterMap Text.decimalValue?, s.dropWhile isDigitOrMark)
  else none

def ofDigits (digits : List Nat) : Nat := digits.foldl (fun n d => n * 10 + d) 0

def readSign : List Char → Bool × List Char
  | '-' :: rest => (true, rest)
  | '+' :: rest => (false, rest)
  | rest => (false, rest)

def exponent? : List Char → Option Int
  | [] => some 0
  | 'e' :: rest =>
    let (negative, rest) := readSign rest
    match readDigits? rest with
    | some (digits, []) =>
      if digits.isEmpty then none
      else some (if negative then -(ofDigits digits : Int) else ofDigits digits)
    | _ => none
  | _ => none

def readFraction? : List Char → Option (List Nat × List Char)
  | '.' :: rest => readDigits? rest
  | rest => some ([], rest)

def magnitude? (s : List Char) : Option Float :=
  if s = "inf".toList ∨ s = "infinity".toList then some (1.0 / 0.0)
  else if s = "nan".toList then some (0.0 / 0.0)
  else do
    let (whole, rest) ← readDigits? s
    let (fraction, rest) ← readFraction? rest
    let exponent ← exponent? rest
    if whole.isEmpty && fraction.isEmpty then none
    else Scaled.toFloat ⟨ofDigits (whole ++ fraction), exponent - (fraction.length : Int)⟩

def read? (s : String) : Option Float :=
  let (negative, rest) := readSign (Text.trimChars s.toList)
  (magnitude? (rest.map Char.toLower)).map fun x => if negative then -x else x

end RelSchema.Decimal
