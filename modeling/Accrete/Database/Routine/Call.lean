import Accrete.Database.Activity
import Accrete.Database.Moment.Format
import Accrete.Database.Moment.Reader
import Accrete.Database.Routine.Edition
import Accrete.Database.Routine.Json
import Accrete.Database.Routine.Math
import Accrete.Database.Routine.Text
import Accrete.Regex.Reader
import Accrete.Regex.Search

/-!
# Calls of routines

The values of functions for given arguments.

* `Circumstances`      -- what a value may depend on besides the arguments
* `Evaluating`         -- a task that may draw random numbers and may fail
* `Routine.call`       -- the value of a function

Functions that belong to tables of another kind are known, but have no value.  A drawn number
differs from all numbers drawn before.
-/

namespace Accrete

/-- What a value may depend on besides the arguments of its function. -/
structure Circumstances where
  /-- Where a value has to be the same at all times. -/
  place : Option Place
  activity : Activity

/-- A task that may draw random numbers, which are counted, and may fail. -/
abbrev Evaluating := StateT Nat (Except CallFault)

namespace Evaluating

/-- A number that was not drawn before. -/
def draw : Evaluating Nat := modifyGet fun n => (n + 1, n + 1)

end Evaluating

namespace Routine

/-! ## Values of cells -/

/-- The function of one value that has a name. -/
def ofOne? (name : String) : Option (Cell → Cell) :=
  match name with
  | "acos" => some (Cell.onReal Float.acos)
  | "acosh" => some (Cell.onReal Float.acosh)
  | "asin" => some (Cell.onReal Float.asin)
  | "asinh" => some (Cell.onReal Float.asinh)
  | "atan" => some (Cell.onReal Float.atan)
  | "atanh" => some (Cell.onReal Float.atanh)
  | "ceil" | "ceiling" => some (Cell.wholeBy .up)
  | "cos" => some (Cell.onReal Float.cos)
  | "cosh" => some (Cell.onReal Float.cosh)
  | "degrees" => some (Cell.onReal fun x => x * (180.0 / Cell.pi))
  | "exp" => some (Cell.onReal Float.exp)
  | "floor" => some (Cell.wholeBy .down)
  | "hex" => some Cell.hex
  | "length" => some Cell.length
  | "ln" => some (Cell.logarithm none)
  | "log" | "log10" => some (Cell.logarithm (some Cell.lnTen))
  | "log2" => some (Cell.logarithm (some Cell.lnTwo))
  | "lower" => some (Cell.mapBytes Bytes.lower)
  | "ltrim" => some fun c => Cell.trimmed true false c (.ofString " ")
  | "quote" => some Cell.literal
  | "radians" => some (Cell.onReal fun x => x * (Cell.pi / 180.0))
  | "round" => some fun c => Cell.rounded c none
  | "rtrim" => some fun c => Cell.trimmed false true c (.ofString " ")
  | "sign" => some Cell.sign
  | "sin" => some (Cell.onReal Float.sin)
  | "sinh" => some (Cell.onReal Float.sinh)
  | "soundex" => some Cell.soundex
  | "sqrt" => some (Cell.onReal Float.sqrt)
  | "tan" => some (Cell.onReal Float.tan)
  | "tanh" => some (Cell.onReal Float.tanh)
  | "trim" => some fun c => Cell.trimmed true true c (.ofString " ")
  | "trunc" => some (Cell.wholeBy .towardZero)
  | "typeof" => some fun c => .ofString c.kindName
  | "unicode" => some Cell.firstCode
  | "upper" => some (Cell.mapBytes Bytes.upper)
  | "sqlite_compileoption_get" => some fun c =>
    let n := (BitVec.ofInt 32 c.integer).toInt
    if n < 0 then .null else ((Edition.options[n.toNat]?).map Cell.ofString).getD .null
  | "sqlite_compileoption_used" => some (Cell.onBytes fun bs =>
    .ofTruth (some (Edition.has bs.visible)))
  | _ => none

def ofTwo? (name : String) : Option (Cell → Cell → Cell) :=
  match name with
  | "atan2" => some (Cell.onReals Float.atan2)
  | "instr" => some Cell.find
  | "log" => some Cell.logarithmTo
  | "ltrim" => some (Cell.trimmed true false)
  | "mod" => some Cell.modulo
  | "pow" | "power" => some (Cell.onReals Float.pow)
  | "round" => some fun c places => Cell.rounded c (some places)
  | "rtrim" => some (Cell.trimmed false true)
  | "substr" | "substring" => some fun c start => Cell.part c start none
  | "trim" => some (Cell.trimmed true true)
  | _ => none

def ofThree? (name : String) : Option (Cell → Cell → Cell → Cell) :=
  match name with
  | "replace" => some Cell.replaced
  | "substr" | "substring" => some fun c start count => Cell.part c start (some count)
  | _ => none

/-- The value of a function that is computed from values without fail. -/
def sure? (name : String) : List Cell → Option Cell
  | [] => if name == "pi" then some (Cell.ofFloat Cell.pi) else none
  | [a] => (ofOne? name).map (· a)
  | [a, b] => (ofTwo? name).map fun f => f a b
  | [a, b, c] => (ofThree? name).map fun f => f a b c
  | _ => none

/-! ## Comparing arguments -/

/-- The least or the greatest of several values.  Of equal ones the last is the least and the first
    the greatest. -/
def extreme (least : Bool) (c : Collation) : List Argument → Argument
  | [] => .null
  | a :: rest =>
    if (a :: rest).any (·.cell.isNull) then .null
    else rest.foldl (fun best x =>
      let o := best.cell.compare c x.cell
      if (if least then o != .lt else o == .lt) then x else best) a

/-- A value, or null if it is the same as another one. -/
def unlessSame (c : Collation) (a b : Argument) : Argument :=
  if a.cell.compare c b.cell == .eq then .null else a

/-! ## Regular expressions -/

/-- The numbers of the characters in a text in UTF-8, unless it is none. -/
def textCodes? (bs : Bytes) : Option (List Nat) :=
  let codes := bs.decoded.toList.map Char.toNat
  if codes.flatMap Bytes.ofCode == bs then some codes else none

/-- Whether a regular expression occurs in a text, or one of bytes in bytes. -/
def occurs (pattern c : Cell) : Except CallFault Cell :=
  let search (isText : Bool) (p s : Option (List Nat)) : Except CallFault Cell :=
    match p.bind (Regex.read? isText), s with
    | some (p, flags), some s => .ok (.ofTruth (some (p.occursIn flags s.toArray)))
    | _, _ => .error .stopped
  match pattern, c with
  | _, .null => .ok .null
  | .text p, .text s => search true (textCodes? p) (textCodes? s)
  | .blob p, .blob s => search false (some (p.map UInt8.toNat)) (some (s.map UInt8.toNat))
  | _, _ => .error .stopped

/-! ## Times -/

/-- The value of a function of a moment. -/
def ofMoment (c : Circumstances) (name : String) (args : List Cell) (f : Moment → Cell) :
    Except CallFault Cell := do
  return ((← Moment.read? ⟨name, c.place⟩ args).bind Moment.full?).elim .null f

def formatMoment (c : Circumstances) : List Cell → Except CallFault Cell
  | [] => .ok .null
  | form :: args =>
    match form.bytes? with
    | none => .ok .null
    | some bs => ofMoment c "strftime" args fun t => ((t.format? bs.visible).map Cell.text).getD .null

def ofTimes? (c : Circumstances) (name : String) (args : List Cell) :
    Option (Except CallFault Cell) :=
  let date (t : Moment) : Cell := .ofString t.dateText
  let time (t : Moment) : Cell := .ofString t.timeText
  let both (t : Moment) : Cell := .ofString (t.dateText ++ " " ++ t.timeText)
  match name with
  | "date" | "current_date" => some (ofMoment c name args date)
  | "time" | "current_time" => some (ofMoment c name args time)
  | "datetime" | "current_timestamp" => some (ofMoment c name args both)
  | "julianday" => some (ofMoment c name args fun t => .number t.julianDay)
  | "unixepoch" => some (ofMoment c name args fun t => .int t.epochSeconds)
  | "strftime" => some (formatMoment c args)
  | _ => none

/-! ## Values that may fail -/

def zeros (c : Cell) : Except CallFault Cell :=
  let n := c.integer
  if Cell.sizeLimit < n.toNat then .error .tooBig else .ok (.blob (List.replicate n.toNat 0))

/-- The value of a function of values that may fail. -/
def failing? (c : Circumstances) (name : String) (args : List Cell) :
    Option (Except CallFault Cell) :=
  match name, args with
  | "abs", [a] => some a.absolute
  | "char", _ => some (.ok (Cell.ofCodes args))
  | "format", _ | "printf", _ => some (Cell.formatted args)
  | "glob", [p, a] => some (p.glob a)
  | "like", [p, a] => some (p.like a none)
  | "like", [p, a, e] => some (p.like a (some e))
  | "load_extension", _ => some (.error .notAuthorized)
  | "regexp", [p, a] => some (occurs p a)
  | "zeroblob", [a] => some (zeros a)
  | "match", _ => some (.error (.outOfContext "MATCH"))
  | _, _ =>
    if ["bm25", "highlight", "matchinfo", "offsets", "optimize", "snippet"].contains name then
      some (.error (.outOfContext name))
    else ofTimes? c name args

/-- The value of a function of JSON. -/
def ofJson? (name : String) (args : List Argument) : Option (Except CallFault Argument) :=
  match name, args with
  | "->", [a, p] => some (JsonRoutine.arrow true a p)
  | "->>", [a, p] => some (JsonRoutine.arrow false a p)
  | "json", [a] => some (JsonRoutine.onJson a JsonValue.asJson)
  | "json_array", _ => some (JsonRoutine.array args)
  | "json_array_length", [a] => some (JsonRoutine.lengthAt a none)
  | "json_array_length", [a, p] => some (JsonRoutine.lengthAt a (some p))
  | "json_extract", _ => some (JsonRoutine.extract args)
  | "json_insert", _ => some (JsonRoutine.edit .insert args)
  | "json_object", _ => some (JsonRoutine.object args)
  | "json_patch", [a, b] => some (JsonRoutine.patch a b)
  | "json_quote", [a] => some (JsonRoutine.quote a)
  | "json_remove", _ => some (JsonRoutine.remove args)
  | "json_replace", _ => some (JsonRoutine.edit .replace args)
  | "json_set", _ => some (JsonRoutine.edit .set args)
  | "json_type", [a] => some (JsonRoutine.typeAt a none)
  | "json_type", [a, p] => some (JsonRoutine.typeAt a (some p))
  | "json_valid", [a] => some (.ok (JsonRoutine.isValid a))
  | _, _ => none

/-! ## Values that depend on more -/

/-- Random bytes, which tell the number that was drawn for them. -/
def randomBytes (c : Cell) : Evaluating Cell := do
  let n ← Evaluating.draw
  let count := max 1 c.integer
  if Cell.sizeLimit < count.toNat then throw .tooBig
  return .blob ((List.range count.toNat).map fun i => UInt8.ofNat ((n >>> (8 * (i % 8))) + 37 * i))

/-- The value of a function that depends on more than its arguments, null for those that have no
    value. -/
def varying (c : Circumstances) (name : String) (args : List Cell) : Evaluating Cell := do
  match name, args with
  | "changes", _ => return .int c.activity.changes
  | "last_insert_rowid", _ => return .int c.activity.lastKey
  | "random", _ => return .int (Cell.bits ((← Evaluating.draw) * 7046029254386353131)).toInt
  | "randomblob", [a] => randomBytes a
  | "sqlite_source_id", _ => return .ofString Edition.sourceName
  | "sqlite_version", _ => return .ofString Edition.version
  | "total_changes", _ => return .int c.activity.totalChanges
  | _, _ => return .null

/-- The value of a function of a name in lower case, under a collation where it compares. -/
def call (c : Circumstances) (collation : Collation) (name : String) (args : List Argument) :
    Evaluating Argument :=
  let cells := args.map (·.cell)
  match name, args with
  | "max", _ => return extreme false collation args
  | "min", _ => return extreme true collation args
  | "nullif", [a, b] => return unlessSame collation a b
  | _, _ =>
    match sure? name cells, failing? c name cells, ofJson? name args with
    | some cell, _, _ => return .plain cell
    | none, some result, _ => return .plain (← result)
    | none, none, some result => result
    | none, none, none => return .plain (← varying c name cells)

end Routine

end Accrete
