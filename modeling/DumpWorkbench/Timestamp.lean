namespace DumpWorkbench

/-- A second and the nanoseconds since it began. Within a leap second, which has no number of its
own, they go on counting above those of the second before it. -/
structure Timestamp where
  seconds : Int
  nanoseconds : Nat
deriving DecidableEq, Repr

namespace Timestamp

def epoch : Timestamp := ⟨0, 0⟩

structure Date where
  year : Int
  month : Nat
  day : Nat
deriving DecidableEq, Repr

def days (t : Timestamp) : Int := t.seconds / 86400

def secondOfDay (t : Timestamp) : Nat := (t.seconds % 86400).toNat

/-- The date a number of days after 1970-01-01. Eras of 400 years begin on the first of March of
year 0, so that a leap day is the last day of its year. -/
def dateOf (days : Int) : Date :=
  let z := days + 719468
  let era := z / 146097
  let dayOfEra := (z % 146097).toNat
  let yearOfEra := (dayOfEra - dayOfEra / 1460 + dayOfEra / 36524 - dayOfEra / 146096) / 365
  let dayOfYear := dayOfEra - (365 * yearOfEra + yearOfEra / 4 - yearOfEra / 100)
  let shifted := (5 * dayOfYear + 2) / 153
  let day := dayOfYear - (153 * shifted + 2) / 5 + 1
  let month := if shifted < 10 then shifted + 3 else shifted - 9
  let year : Int := yearOfEra + era * 400
  ⟨if month ≤ 2 then year + 1 else year, month, day⟩

def date (t : Timestamp) : Date := dateOf t.days

def padded (width n : Nat) : String :=
  let ds := Nat.toDigits 10 n
  String.ofList (List.replicate (width - ds.length) '0' ++ ds)

/-- Years outside of 0 to 9999 carry a sign. -/
def yearText (y : Int) : String :=
  if y < 0 then "-" ++ padded 4 y.natAbs
  else if 9999 < y then "+" ++ padded 4 y.natAbs
  else padded 4 y.natAbs

def Date.text (d : Date) : String :=
  yearText d.year ++ "-" ++ padded 2 d.month ++ "-" ++ padded 2 d.day

def hourMinute (t : Timestamp) : String :=
  padded 2 (t.secondOfDay / 3600) ++ ":" ++ padded 2 (t.secondOfDay / 60 % 60)

/-- The fraction of the second with three, six or nine digits, as few as show it in full. -/
def fractionText (n : Nat) : String :=
  if n = 0 then ""
  else if n % 1000000 = 0 then "." ++ padded 3 (n / 1000000)
  else if n % 1000 = 0 then "." ++ padded 6 (n / 1000)
  else "." ++ padded 9 n

def perSecond : Nat := 1000000000

/-- The second of the minute; a leap second is the 60th. -/
def secondText (t : Timestamp) : String :=
  padded 2 (t.secondOfDay % 60 + t.nanoseconds / perSecond)

def dateTime (t : Timestamp) : String :=
  t.date.text ++ "T" ++ t.hourMinute ++ ":" ++ t.secondText ++
    fractionText (t.nanoseconds % perSecond)

def text (t : Timestamp) : String := t.dateTime ++ "Z"

def offsetText (t : Timestamp) : String := t.dateTime ++ "+00:00"

def minuteText (t : Timestamp) : String := t.date.text ++ " " ++ t.hourMinute ++ " UTC"

def logText (t : Timestamp) : String :=
  t.date.text ++ "T" ++ t.hourMinute ++ ":" ++ t.secondText ++ "." ++
    padded 6 (t.nanoseconds % perSecond / 1000) ++ "Z"

end Timestamp
end DumpWorkbench
