namespace AsmNotebook
namespace Calendar

/-!
Points in time as documents have them: the date of the Gregorian calendar and
the time of the day, both at the zero meridian.
-/

structure Date where
  year : Int
  month : Nat
  day : Nat
deriving DecidableEq, Repr

/-- The date of a day counted from the first of January 1970.  Years are counted from March, so that
the odd day of a leap year is the last one, in rounds of 146097 days. -/
def dateOf (days : Int) : Date :=
  let shifted := days + 719468
  let round := shifted / 146097
  let dayOfRound := (shifted % 146097).toNat
  let yearOfRound :=
    (dayOfRound - dayOfRound / 1460 + dayOfRound / 36524 - dayOfRound / 146096) / 365
  let dayOfYear := dayOfRound - (365 * yearOfRound + yearOfRound / 4 - yearOfRound / 100)
  let monthFromMarch := (5 * dayOfYear + 2) / 153
  let month := if monthFromMarch < 10 then monthFromMarch + 3 else monthFromMarch - 9
  { year := round * 400 + yearOfRound + (if month ≤ 2 then 1 else 0)
    month := month
    day := dayOfYear - (153 * monthFromMarch + 2) / 5 + 1 }

/-- A number with zeros in front up to a width. -/
def padded (width n : Nat) : String :=
  let digits := toString n
  String.ofList (List.replicate (width - digits.length) '0') ++ digits

def Date.write (date : Date) : String :=
  padded 4 date.year.toNat ++ "-" ++ padded 2 date.month ++ "-" ++ padded 2 date.day

/-- A fraction of a second in three, six or nine digits, as few as it takes; nothing for none. -/
def fraction (nanos : Nat) : String :=
  if nanos = 0 then ""
  else if nanos % 1000000 = 0 then "." ++ padded 3 (nanos / 1000000)
  else if nanos % 1000 = 0 then "." ++ padded 6 (nanos / 1000)
  else "." ++ padded 9 nanos

/-- A second counted from the beginning of 1970, with the fraction behind it. -/
def writeTime (seconds : Int) (nanos : Nat) : String :=
  let second := (seconds % 86400).toNat
  (dateOf (seconds / 86400)).write ++ "T" ++ padded 2 (second / 3600) ++ ":" ++
    padded 2 (second / 60 % 60) ++ ":" ++ padded 2 (second % 60) ++ fraction nanos ++ "+00:00"

end Calendar
end AsmNotebook
