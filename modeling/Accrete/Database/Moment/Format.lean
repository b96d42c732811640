import Accrete.Database.Format
import Accrete.Database.Moment

/-!
# Writing moments

* `Moment.dateText`, `Moment.timeText` -- the date and the time of day in their usual form
* `Moment.julianDay`, `Moment.epochSeconds` -- a moment as a number
* `Moment.format?`  -- a moment in a form that a text describes
-/

namespace Accrete

namespace Moment

/-- A number that is not negative, with zeros in front. -/
def padded (count : Nat) (n : Int) : String :=
  let digits := toString n.natAbs
  String.ofList (List.replicate (count - digits.length) '0') ++ digits

def day (t : Moment) : CalendarDay := t.date.getD openDay

def clock (t : Moment) : ClockTime := t.time.getD ⟨0, 0, realOf 0⟩

def dateText (t : Moment) : String :=
  let d := t.day
  (if d.year < 0 then "-" else "") ++ padded 4 d.year ++ "-" ++ padded 2 d.month ++ "-" ++
    padded 2 d.day

def wholeSecond (t : Moment) : Int := Cell.wholePart t.clock.second

def timeText (t : Moment) : String :=
  padded 2 t.clock.hour ++ ":" ++ padded 2 t.clock.minute ++ ":" ++ padded 2 t.wholeSecond

def julianDay (t : Moment) : Number :=
  ((realOf (t.ticks.getD 0)).over? (realOf dayTicks)).getD (realOf 0)

def epochSeconds (t : Moment) : Int := (t.ticks.getD 0).tdiv 1000 - epochTicks / 1000

def dayOfYear (t : Moment) : Int :=
  let start := { t with ticks := none, date := some ⟨t.day.year, 1, 1⟩ }
  match start.settled? with
  | some start => (t.ticks.getD 0 - start.ticks.getD 0 + 43200000).tdiv dayTicks
  | none => 0

def dayOfWeek (t : Moment) : Int := ((t.ticks.getD 0 + 43200000).tdiv dayTicks).tmod 7

/-- How many weeks of its year have started at a moment, with Mondays. -/
def weekOfYear (t : Moment) : Int := (t.dayOfYear + 7 - t.dayOfWeek).tdiv 7

/-- The seconds of a moment with three places after the point. -/
def secondText (t : Moment) : String :=
  let limit := (realOf 59999).over? (realOf 1000) |>.getD (realOf 0)
  let s := if limit.lt t.clock.second then limit else t.clock.second
  let text := NumberText.writeReal ⟨.fixed, 3, false, false, 'e', false⟩ s
  String.ofList (List.replicate (6 - text.length) '0') ++ text

def part? (t : Moment) (letter : UInt8) : Option String :=
  match Char.ofNat letter.toNat with
  | 'd' => some (padded 2 t.day.day)
  | 'f' => some t.secondText
  | 'H' => some (padded 2 t.clock.hour)
  | 'j' => some (padded 3 (t.dayOfYear + 1))
  | 'J' => some (NumberText.writeReal ⟨.general, 16, false, false, 'e', false⟩ t.julianDay)
  | 'm' => some (padded 2 t.day.month)
  | 'M' => some (padded 2 t.clock.minute)
  | 's' => some (toString t.epochSeconds)
  | 'S' => some (padded 2 t.wholeSecond)
  | 'w' => some (toString ((t.dayOfWeek + 1).tmod 7))
  | 'W' => some (padded 2 t.weekOfYear)
  | 'Y' =>
    let y := t.day.year
    some (if y < 0 then "-" ++ padded 3 y else padded 4 y)
  | '%' => some "%"
  | _ => none

/-- A moment in a form that a text describes, unless that is not understood. -/
def format? (t : Moment) : Bytes → Option Bytes
  | [] => some []
  | 37 :: letter :: rest => do
    let part ← t.part? letter
    return Bytes.ofString part ++ (← t.format? rest)
  | b :: rest => if b == 37 then none else (t.format? rest).map (b :: ·)

end Moment

end Accrete
