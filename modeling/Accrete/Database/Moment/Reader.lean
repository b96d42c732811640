import Accrete.Database.Moment

/-!
# Reading moments

* `Moment.ofText?`   -- the moment that a text writes
* `Moment.modify?`   -- a moment as a text changes it
* `Moment.read?`     -- the moment that values tell, the first of them and its changes

A moment is a date, a time of day, both, a number of days, or the word for the present.  The
present may not be asked for where a value has to stay the same.
-/

namespace Accrete

/-- The circumstances in which a function is called: its name, and where that has to yield the same
    value at all times. -/
structure Calling where
  function : String
  place : Option Place

/-- Refuses a value that is not the same at all times where there must be none. -/
def Calling.mayVary (c : Calling) : Except CallFault Unit :=
  match c.place with
  | some place => .error (.unsteady c.function place)
  | none => .ok ()

namespace Moment

/-! ## Dates and times -/

/-- A number of some digits in a range, and what follows it. -/
def digits? (count least most : Nat) (bs : Bytes) : Option (Int × Bytes) :=
  let digits := bs.take count
  let n := Bytes.digitsFrom 0 digits
  if digits.length = count && digits.all Bytes.isDigit && least ≤ n && n ≤ most then
    some ((n : Int), bs.drop count)
  else none

/-- What follows a byte. -/
def after? (b : UInt8) : Bytes → Option Bytes
  | c :: rest => if c == b then some rest else none
  | [] => none

def skipSpaces (bs : Bytes) : Bytes := bs.dropWhile Bytes.isSpace

/-- How many minutes the clock of a zone is ahead.  Nothing else may follow. -/
def zone? (bs : Bytes) : Option Int :=
  let ofOffset (sign : Int) (rest : Bytes) : Option Int := do
    let (hours, rest) ← digits? 2 0 14 rest
    let (minutes, rest) ← digits? 2 0 59 (← after? 58 rest)
    if (skipSpaces rest).isEmpty then some (sign * (60 * hours + minutes)) else none
  match skipSpaces bs with
  | [] => some 0
  | 45 :: rest => ofOffset (-1) rest
  | 43 :: rest => ofOffset 1 rest
  | 90 :: rest | 122 :: rest => if (skipSpaces rest).isEmpty then some 0 else none
  | _ => none

/-- The fraction that digits write after a point. -/
def fraction (digits : Bytes) : Number :=
  let ten := realOf 10
  let (value, scale) := digits.foldl (fun (v, s) b =>
    (sum (sum (product v ten) (realOf b.toNat)) (realOf (-48)), product s ten))
    (realOf 0, realOf 1)
  (value.over? scale).getD (realOf 0)

/-- The seconds at the start of a text, and what follows them. -/
def seconds? (bs : Bytes) : Option (Number × Bytes) := do
  let (s, rest) ← digits? 2 0 59 bs
  match rest with
  | 46 :: d :: rest =>
    if Bytes.isDigit d then
      let digits := d :: rest.takeWhile Bytes.isDigit
      some (sum (realOf s) (fraction digits), rest.dropWhile Bytes.isDigit)
    else some (realOf s, 46 :: d :: rest)
  | rest => some (realOf s, rest)

/-- The time of day that all of a text writes, with how many minutes its clock is ahead. -/
def time? (bs : Bytes) : Option (ClockTime × Int) := do
  let (hour, rest) ← digits? 2 0 24 bs
  let (minute, rest) ← digits? 2 0 59 (← after? 58 rest)
  let (second, rest) ← match rest with
    | 58 :: rest => seconds? rest
    | rest => some (realOf 0, rest)
  return (⟨hour, minute, second⟩, ← zone? rest)

def ofTime (t : ClockTime × Int) : Moment := ⟨none, none, some t.1, t.2, none⟩

/-- The moment that a date with or without a time of day writes. -/
def ofDate? (bs : Bytes) : Option Moment := do
  -- 45 is the minus sign, and 84 the letter between a date and a time of day.
  let (sign, rest) : Int × Bytes := match bs with
    | 45 :: rest => (-1, rest)
    | bs => (1, bs)
  let (year, rest) ← digits? 4 0 9999 rest
  let (month, rest) ← digits? 2 1 12 (← after? 45 rest)
  let (day, rest) ← digits? 2 1 31 (← after? 45 rest)
  let rest := rest.dropWhile fun b => Bytes.isSpace b || b == 84
  let date : CalendarDay := ⟨sign * year, month, day⟩
  match time? rest with
  | some t =>
    let t := { ofTime t with date := some date }
    if t.ahead = 0 then some t else t.settled?
  | none => if rest.isEmpty then some ⟨none, some date, none, 0, none⟩ else none

def present : Moment := ofTicks (epochTicks + 1767225600000)

/-- Whether a text is a word, whatever the case of its letters. -/
def isWord (word : String) (bs : Bytes) : Bool := bs.map Bytes.lower == Bytes.ofString word

/-- The number that all of a text writes. -/
def numberOf? (bs : Bytes) : Option Number :=
  match NumberText.read bs with
  | (r, .integer) | (r, .real) => some r
  | _ => none

def ofText? (c : Calling) (bs : Bytes) : Except CallFault (Option Moment) :=
  match ofDate? bs with
  | some t => .ok (some t)
  | none =>
    match time? bs with
    | some t => .ok (some (ofTime t))
    | none => do
      if isWord "now" bs then
        c.mayVary
        return some present
      return (numberOf? bs).map ofNumber

/-! ## Changes -/

/-- The moment that a count of seconds since 1970 tells. -/
def ofSeconds? (least most : Number) (r : Number) : Option Moment :=
  let ticks := sum (product r (realOf 1000)) (realOf epochTicks)
  if atMost least ticks && atMost ticks most then
    some (ofTicks (Cell.wholePart (sum ticks (half false))))
  else none

/-- A moment of which a number may tell days or seconds, by its size. -/
def guessed (t : Moment) : Moment :=
  match t.number, t.ticks with
  | some r, none =>
    if atMost (realOf (-210866760000)) r && atMost r (realOf 253402300799) then
      let ticks := sum (product r (realOf 1000)) (realOf epochTicks)
      ofTicks (Cell.wholePart (sum ticks (half false)))
    else t
  | _, _ => { t with number := none }

def startOf? (unit : Bytes) (t : Moment) : Option Moment :=
  if t.ticks.isNone && t.date.isNone && t.time.isNone then none
  else do
    let t ← t.dated?
    let day := t.date.getD openDay
    let start (day : CalendarDay) : Moment := ⟨none, some day, some ⟨0, 0, realOf 0⟩, 0, none⟩
    if isWord "month" unit then some (start { day with day := 1 })
    else if isWord "year" unit then some (start { day with month := 1, day := 1 })
    else if isWord "day" unit then some (start day)
    else none

/-- The first moment from another one on that is on a day of the week, Sunday being 0. -/
def weekday? (n : Int) (t : Moment) : Option Moment := do
  let t ← t.full?
  let t ← { t with ahead := 0, ticks := none }.settled?
  let ticks := t.ticks.getD 0
  -- The count starts on a Monday at noon, a day and a half after a Sunday began.
  let today := ((ticks + 129600000).tdiv dayTicks).tmod 7
  let today := if n < today then today - 7 else today
  return { t.bare with ticks := some (ticks + (n - today) * dayTicks) }

/-- The day of the week that a text writes, Sunday being 0. -/
def weekdayNumber? (bs : Bytes) : Option Int :=
  (numberOf? bs).bind fun r =>
    let n := Cell.wholePart r
    if r.same (.int n) && 0 ≤ n && n < 7 then some n else none

/-- A unit of time with the number of its seconds, and the number of units from which on they are
    too many. -/
structure Unit where
  name : String
  seconds : Int
  limit : Int

/-- The units of time by which a moment is moved. -/
def units : List Unit :=
  [⟨"second", 1, 464269992787968⟩, ⟨"minute", 60, 7737900007424⟩, ⟨"hour", 3600, 128969998336⟩,
   ⟨"day", 86400, 5373485⟩, ⟨"month", 2592000, 176546⟩, ⟨"year", 31536000, 14713⟩]

/-- The unit that a text names in the singular or in the plural. -/
def unit? (bs : Bytes) : Option Unit :=
  if bs.length < 3 || 10 < bs.length then none
  else
    let bs := bs.map Bytes.lower
    let bs := if bs.getLast? == some 115 then bs.dropLast else bs
    units.find? fun u => Bytes.ofString u.name == bs

/-- A date with its month among the twelve of a year. -/
def carried (d : CalendarDay) : CalendarDay :=
  let years := if 0 < d.month then (d.month - 1).tdiv 12 else (d.month - 12).tdiv 12
  { d with year := d.year + years, month := d.month - 12 * years }

/-- A moment moved by whole months or years. -/
def moveDate? (f : CalendarDay → CalendarDay) (t : Moment) : Option Moment :=
  t.full?.map fun t => { t with date := t.date.map f, ticks := none }

def moveBy? (r : Number) (u : Unit) (t : Moment) : Option Moment := do
  let t ← t.settled?
  if !((realOf (-u.limit)).lt r && r.lt (realOf u.limit)) then none
  let whole := Cell.wholePart r
  let rest := sum r (realOf (-whole))
  -- Whole months and years go by the calendar, what is left of them by their length.
  let (t, rest) ← match u.name with
    | "month" => do
      let t ← moveDate? (fun d => carried { d with month := d.month + whole }) t
      some (t, rest)
    | "year" => do
      let t ← moveDate? (fun d => { d with year := d.year + whole }) t
      some (t, rest)
    | _ => some (t, r)
  let ticks := product (product rest (realOf 1000)) (realOf u.seconds)
  t.later? (Cell.wholePart (sum ticks (half (r.lt (realOf 0)))))

/-- A moment moved by a number of hours and minutes, or by a number of units. -/
def move? (bs : Bytes) (t : Moment) : Option Moment := do
  let (first, more) := (bs.take 1, bs.drop 1)
  let isPart (b : UInt8) : Bool := b != 58 && !Bytes.isSpace b
  let amount := first ++ more.takeWhile isPart
  let rest := more.dropWhile isPart
  let r ← numberOf? amount
  if rest.head? == some 58 then
    let time ← time? (if first.any Bytes.isDigit then bs else more)
    let span ← (ofTime time).settled?
    let ticks := (span.ticks.getD 0 - 43200000).tmod dayTicks
    t.later? (if first == [45] then -ticks else ticks)
  else
    let u ← unit? (skipSpaces rest)
    t.moveBy? r u

/-- What follows a word at the start of a text, whatever the case of its letters. -/
def afterWord? (word : String) (bs : Bytes) : Option Bytes :=
  let w := Bytes.ofString word
  if w.isPrefixOf (bs.map Bytes.lower) then some (bs.drop w.length) else none

/-- A moment as a text changes it.  `first` tells that it is the first change. -/
def modify? (c : Calling) (first : Bool) (bs : Bytes) (t : Moment) :
    Except CallFault (Option Moment) :=
  if isWord "auto" bs then .ok (if first then some t.guessed else none)
  else if isWord "julianday" bs then
    .ok (if first && t.ticks.isSome && t.number.isSome then some { t with number := none } else none)
  else if isWord "localtime" bs || isWord "utc" bs then do
    c.mayVary
    return t.settled?.map bare
  else if isWord "unixepoch" bs then
    .ok (match t.number with
      | some r =>
        if first then ofSeconds? (realOf 0) (realOf lastTick) r else none
      | none => none)
  else match afterWord? "weekday " bs with
    | some rest => .ok ((weekdayNumber? rest).bind fun n => t.weekday? n)
    | none => match afterWord? "start of " bs with
      | some rest => .ok (t.startOf? rest)
      | none =>
        if bs.head?.any fun b => Bytes.isDigit b || b == 43 || b == 45 then .ok (t.move? bs)
        else .ok none

def modifyAll? (c : Calling) (first : Bool) : List Cell → Moment → Except CallFault (Option Moment)
  | [], t => .ok (some t)
  | cell :: rest, t =>
    match cell.bytes? with
    | none => .ok none
    | some bs => do
      match ← modify? c first bs.visible t with
      | none => return none
      | some t => modifyAll? c false rest t

/-- The moment that a value tells. -/
def ofCell? (c : Calling) : Cell → Except CallFault (Option Moment)
  | .null => .ok none
  | .number n => .ok (some (ofNumber (Cell.asReal n)))
  | .text bs | .blob bs => ofText? c bs.visible

/-- The moment that values tell, the first of them and its changes. -/
def read? (c : Calling) : List Cell → Except CallFault (Option Moment)
  | [] => do
    c.mayVary
    return some present
  | cell :: rest => do
    match ← ofCell? c cell with
    | none => return none
    | some t =>
      return (← modifyAll? c true rest t).bind fun t =>
        t.settled?.filter fun t => t.ticks.any isValid

end Moment

end Accrete
