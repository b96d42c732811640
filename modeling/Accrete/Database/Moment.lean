import Accrete.Database.CallFault
import Accrete.Database.Cell.Arithmetic

/-!
# Moments

Points in time, counted in milliseconds from the noon at which Julian day 0 began.

* `Moment`            -- a point in time, as far as it was worked out
* `Moment.settled?`   -- works out the count of milliseconds
* `Moment.dated?`, `Moment.timed?` -- works out the date and the time of day
* `Moment.isValid`    -- whether a count lies between the years -4713 and 9999

A date that was read keeps its day as it was written, also one that its month does not have, until
it is worked out anew.
-/

namespace Accrete

/-- A day of the proleptic Gregorian calendar. -/
structure CalendarDay where
  year : Int
  month : Int
  day : Int
deriving DecidableEq, Repr, Inhabited

/-- A time of day. -/
structure ClockTime where
  hour : Int
  minute : Int
  second : Number
deriving DecidableEq, Repr, Inhabited

/-- A point in time, as far as it was worked out. -/
structure Moment where
  ticks : Option Int
  date : Option CalendarDay
  time : Option ClockTime
  /-- How many minutes a clock is ahead. -/
  ahead : Int
  /-- A number of which it is open what it counts. -/
  number : Option Number
deriving Repr, Inhabited

namespace Moment

/-! ## Numbers -/

def product (a b : Number) : Number := (a.times? b).getD (.binary ⟨false, 0⟩)

def sum (a b : Number) : Number := (a.plus? b).getD (.binary ⟨false, 0⟩)

def realOf (n : Int) : Number := Cell.asReal (.int n)

def half (negative : Bool) : Number := .ofSteps negative (twoPow 1073)

def atMost (a b : Number) : Bool := !b.lt a

/-! ## Counting -/

def dayTicks : Int := 86400000

/-- Milliseconds from the start of the count to the start of 1970. -/
def epochTicks : Int := 210866760000000

/-- The greatest count of the year 9999. -/
def lastTick : Int := 464269060799999

/-- Whether a count lies between the years -4713 and 9999. -/
def isValid (ticks : Int) : Bool := 0 ≤ ticks && ticks ≤ lastTick

/-- The moment that a count tells. -/
def ofTicks (ticks : Int) : Moment := ⟨some ticks, none, none, 0, none⟩

/-- The moment that a number tells, a count of days unless something else is said about it. -/
def ofNumber (r : Number) : Moment :=
  let inRange := atMost (realOf 0) r && r.lt (.ofSteps false (10746969 * twoPow 1073))
  let ticks := Cell.wholePart (sum (product r (realOf dayTicks)) (half false))
  ⟨if inRange then some ticks else none, none, none, 0, some r⟩

/-- The count at the start of a day. -/
def ticksOfDay (d : CalendarDay) : Int :=
  let (year, month) := if d.month ≤ 2 then (d.year - 1, d.month + 12) else (d.year, d.month)
  let century := year.tdiv 100
  let leap := 2 - century + century.tdiv 4
  let days := (36525 * (year + 4716)).tdiv 100 + (306001 * (month + 1)).tdiv 10000 + d.day + leap
  (2 * days - 3049) * 43200000

/-- Milliseconds of a time of day. -/
def ticksOfTime (t : ClockTime) : Int :=
  t.hour * 3600000 + t.minute * 60000 + Cell.wholePart (product t.second (realOf 1000))

/-- The day that stands for one that is not stated. -/
def openDay : CalendarDay := ⟨2000, 1, 1⟩

/-- A moment with its count, unless its year is out of range or it is but a number. -/
def settled? (t : Moment) : Option Moment :=
  if t.ticks.isSome then some t
  else
    let day := t.date.getD openDay
    if day.year < -4713 || 9999 < day.year || t.number.isSome then none
    else
      let start := ticksOfDay day
      match t.time with
      | none => some { t with ticks := some start }
      | some time =>
        let ticks := start + ticksOfTime time
        if t.ahead = 0 then some { t with ticks := some ticks }
        else some ⟨some (ticks - t.ahead * 60000), none, none, 0, t.number⟩

def dayOf (ticks : Int) : CalendarDay :=
  let z := (ticks + 43200000).tdiv dayTicks
  let century := (100 * z - 186721625).tdiv 3652425
  let a := z + 1 + century - century.tdiv 4
  let b := a + 1524
  let c := (20 * b - 2442).tdiv 7305
  let d := (36525 * c).tdiv 100
  let e := (10000 * (b - d)).tdiv 306001
  let month := if e < 14 then e - 1 else e - 13
  ⟨if 2 < month then c - 4716 else c - 4715, month, b - d - (306001 * e).tdiv 10000⟩

def timeOf (ticks : Int) : ClockTime :=
  let ms := (ticks + 43200000) % dayTicks
  let seconds := ms / 1000
  let part := ((realOf ms).over? (realOf 1000)).getD (realOf 0)
  let part := sum part (realOf (-seconds))
  ⟨seconds / 3600, seconds % 3600 / 60, sum part (realOf (seconds % 60))⟩

def dated? (t : Moment) : Option Moment :=
  if t.date.isSome then some t
  else match t.ticks with
    | none => some { t with date := some openDay }
    | some ticks => if isValid ticks then some { t with date := some (dayOf ticks) } else none

/-- A moment with its time of day. -/
def timed? (t : Moment) : Option Moment :=
  if t.time.isSome then some t
  else t.settled?.map fun t => { t with time := t.ticks.map timeOf, number := none }

/-- A moment with its date and its time of day. -/
def full? (t : Moment) : Option Moment := t.dated?.bind timed?

/-- A moment of which only the count is known, if that is. -/
def bare (t : Moment) : Moment := { t with date := none, time := none, ahead := 0 }

def later? (t : Moment) (ticks : Int) : Option Moment :=
  t.settled?.map fun t => { t.bare with ticks := t.ticks.map (· + ticks) }

end Moment

end Accrete
