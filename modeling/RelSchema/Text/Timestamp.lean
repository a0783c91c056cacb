namespace RelSchema.Text

structure Timestamp where
  seconds : Nat
  microseconds : Nat := 0
  deriving DecidableEq, Repr

structure Date where
  year : Nat
  month : Nat
  day : Nat
  deriving DecidableEq, Repr

def isLeapYear (year : Nat) : Bool := year % 4 = 0 && (year % 100 != 0 || year % 400 = 0)

def daysInMonths (year : Nat) : List Nat :=
  [31, if isLeapYear year then 29 else 28, 31, 30, 31, 30, 31, 31, 30, 31, 30, 31]

def dayOfMonths (month days : Nat) : List Nat → Nat × Nat
  | [] => (month, days + 1)
  | length :: rest =>
    if days < length then (month, days + 1) else dayOfMonths (month + 1) (days - length) rest

def yearLength (year : Nat) : Nat := if isLeapYear year then 366 else 365

theorem yearLength_pos (year : Nat) : 0 < yearLength year := by
  unfold yearLength
  split <;> omega

def dateFrom (year days : Nat) : Date :=
  if days < yearLength year then
    let (month, day) := dayOfMonths 1 days (daysInMonths year)
    { year, month, day }
  else dateFrom (year + 1) (days - yearLength year)
termination_by days
decreasing_by
  have := yearLength_pos year
  omega

def twoDigits (n : Nat) : String := if n < 10 then s!"0{n}" else toString n

def zeroPadded (width n : Nat) : String :=
  let digits := Nat.toDigits 10 n
  String.ofList (List.replicate (width - digits.length) '0' ++ digits)

def Timestamp.text (t : Timestamp) : String :=
  let date := dateFrom 1970 (t.seconds / 86400)
  let rest := t.seconds % 86400
  let clock := ":".intercalate ([rest / 3600, rest / 60 % 60, rest % 60].map twoDigits)
  let fraction := if t.microseconds = 0 then "" else "." ++ zeroPadded 6 t.microseconds
  s!"{date.year}-{twoDigits date.month}-{twoDigits date.day}T{clock}{fraction}+00:00"

end RelSchema.Text
