import Accrete.Database.CallFault
import Accrete.Database.Cell.Arithmetic
import Accrete.Database.Format
import Accrete.Database.Pattern

/-!
# Routines on texts and bytes

* `Cell.length`, `Cell.find`, `Cell.part`  -- measuring, finding and cutting
* `Cell.trimmed`, `Cell.replaced`, `Cell.mapBytes` -- changing
* `Cell.literal`, `Cell.hex`, `Cell.soundex` -- writing in other forms
* `Cell.like`, `Cell.glob`  -- patterns

Characters are counted up to the first zero of a text.  Null has null as its result.
-/

namespace Accrete

namespace Cell

def kindName : Cell → String
  | .null => "null"
  | .number (.int _) => "integer"
  | .number _ => "real"
  | .text _ => "text"
  | .blob _ => "blob"

/-- A function of the bytes of a value's text, null for null. -/
def onBytes (f : Bytes → Cell) (c : Cell) : Cell :=
  match c.bytes? with
  | some bs => f bs
  | none => .null

/-- How many characters a text has, or how many bytes another value. -/
def length : Cell → Cell
  | .null => .null
  | .text bs => int (Bytes.characters bs.visible).length
  | c => c.onBytes fun bs => int bs.length

def mapBytes (f : UInt8 → UInt8) (c : Cell) : Cell := c.onBytes fun bs => .text (bs.map f)

/-! ## Finding -/

/-- Where bytes occur in others, counted from a place in steps of single bytes or of characters, or
    zero.  `bound` limits the steps. -/
def placeFrom (byCharacter : Bool) (needle : Bytes) (place : Nat) : Nat → Bytes → Nat
  | 0, _ => 0
  | bound + 1, bs =>
    if bs.length < needle.length then 0
    else if needle.isPrefixOf bs then place
    else
      let rest := bs.drop 1
      placeFrom byCharacter needle (place + 1) bound
        (if byCharacter then rest.dropWhile Bytes.isLater else rest)

/-- Where a value occurs in another, counted from one, or zero. -/
def find (haystack needle : Cell) : Cell :=
  let byCharacter := match haystack, needle with
    | .blob _, .blob _ => false
    | _, _ => true
  haystack.onBytes fun bs => needle.onBytes fun part =>
    if part.isEmpty then int 1
    else int (placeFrom byCharacter part 1 (bs.length + 1) bs)

/-! ## Cutting -/

def short (c : Cell) : Int := (BitVec.ofInt 32 c.integer).toInt

/-- From where on and how much of a value is cut, given its length, the place of the first item to
    be cut, counted from one or from the end, and a number of items, negative for those before. -/
def cutRange (length start : Int) (count : Option Int) : Nat × Nat :=
  let backward := count.any (· < 0)
  let n : Int := match count with
    | some n => n.natAbs
    | none => sizeLimit
  let (first, n) : Int × Int :=
    if start < 0 then
      let first := start + length
      if first < 0 then (0, max 0 (n + first)) else (first, n)
    else if 0 < start then (start - 1, n)
    else (0, if 0 < n then n - 1 else n)
  if !backward then (first.toNat, n.toNat)
  else if first < n then (0, first.toNat)
  else ((first - n).toNat, n.toNat)

def part (c start : Cell) (count : Option Cell) : Cell :=
  if start.isNull || count.any isNull then .null
  else match c with
    | .null => .null
    | .blob [] => .null
    | .blob bs =>
      let (first, n) := cutRange bs.length start.short (count.map short)
      .blob ((bs.drop first).take n)
    | c => c.onBytes fun bs =>
      let cs := Bytes.characters bs.visible
      let (first, n) := cutRange cs.length start.short (count.map short)
      .text ((cs.drop first).take n).flatten

/-- Bytes without some at the start, for as long as there are any.  `bound` limits the steps. -/
def trimStart (cut : List Bytes) : Nat → Bytes → Bytes
  | 0, bs => bs
  | bound + 1, bs =>
    match if bs.isEmpty then none else cut.find? fun part => part.isPrefixOf bs with
    | some part => trimStart cut bound (bs.drop part.length)
    | none => bs

/-- A text without some characters at one end or both. -/
def trimmed (left right : Bool) (c cut : Cell) : Cell :=
  c.onBytes fun bs => cut.onBytes fun cut =>
    let cut := Bytes.characters cut.visible
    let bs := if left then trimStart cut bs.length bs else bs
    let reversed := cut.map List.reverse
    .text (if right then (trimStart reversed bs.length bs.reverse).reverse else bs)

/-! ## Changing -/

/-- A text with another one in the place of each occurrence of a third.  If there is nothing to be
    replaced, a number stays one. -/
def replaced (c old new : Cell) : Cell :=
  c.onBytes fun bs => old.onBytes fun old =>
    if old.visible.isEmpty then
      match c with
      | .number n => .number n
      | _ => .text bs
    else new.onBytes fun new => .text (Bytes.replaceAll old new bs.length bs)

/-! ## Other forms -/

def hexText (bs : Bytes) : Bytes := Bytes.ofString (String.ofList (bs.flatMap Bytes.hexDigits))

/-- The bytes of a value as hexadecimal digits.  Null has none. -/
def hex (c : Cell) : Cell := .text (hexText (c.bytes?.getD []))

/-- A text in single quotes, up to its first zero. -/
def quotedText (bs : Bytes) : Bytes :=
  39 :: (bs.visible.flatMap fun b => if b == 39 then [39, 39] else [b]) ++ [39]

/-- A real number with so many digits that it can be told from others. -/
def exactText (n : Number) : String :=
  let short := NumberText.write n
  if n.same (NumberText.read (Bytes.ofString short)).1 then short
  else NumberText.writeReal ⟨.scientific, 20, false, true, 'e', false⟩ n

def literal : Cell → Cell
  | .null => ofString "NULL"
  | .number (.int n) => ofString (toString n)
  | .number n => ofString (exactText n)
  | .text bs => .text (quotedText bs)
  | .blob bs => .text (88 :: 39 :: hexText bs ++ [39])

def firstCode (c : Cell) : Cell :=
  c.onBytes fun bs => match Bytes.codes bs.visible with
    | n :: _ => int n
    | [] => .null

/-- The text of characters with given numbers. -/
def ofCodes (cs : List Cell) : Cell :=
  .text (cs.flatMap fun c =>
    let n := c.integer
    Bytes.ofCode (if n < 0 || 0x10ffff < n then 0xfffd else n.toNat))

/-- The class of sound of a letter, zero for those that are not counted. -/
def soundClass (b : UInt8) : Nat :=
  match Char.ofNat (Bytes.lower (b &&& 0x7f)).toNat with
  | 'b' | 'f' | 'p' | 'v' => 1
  | 'c' | 'g' | 'j' | 'k' | 'q' | 's' | 'x' | 'z' => 2
  | 'd' | 't' => 3
  | 'l' => 4
  | 'm' | 'n' => 5
  | 'r' => 6
  | _ => 0

/-- The classes of sound in a text, each one once where it repeats, given the one before. -/
def soundClasses (before : Nat) : Bytes → List Nat
  | [] => []
  | b :: rest =>
    let n := soundClass b
    if n = 0 then soundClasses 0 rest
    else if n = before then soundClasses n rest
    else n :: soundClasses n rest

/-- The first letter of a text and the next three classes of sound. -/
def soundex (c : Cell) : Cell :=
  match (c.bytes?.getD []).visible.dropWhile fun b => !Bytes.isAlpha b with
  | [] => ofString "?000"
  | b :: rest =>
    let digits := ((soundClasses (soundClass b) rest).take 3).map fun n => UInt8.ofNat (48 + n)
    .text (Bytes.upper b :: digits ++ List.replicate (3 - digits.length) 48)

/-- A text in which values are filled in. -/
def formatted : List Cell → Except CallFault Cell
  | [] => .ok .null
  | format :: args =>
    match format.bytes? with
    | none => .ok .null
    | some bs => match Format.fill? bs args with
      | some bs => .ok (.text bs)
      | none => .error .tooBig

/-! ## Patterns -/

/-- The greatest number of bytes that a pattern has. -/
def patternLimit : Nat := 50000

def fitsBy (test : Bytes → Bytes → Bool) (pattern c : Cell) : Except CallFault Cell :=
  let isBlob : Cell → Bool
    | .blob _ => true
    | _ => false
  if isBlob pattern || isBlob c then .ok (int 0)
  else match pattern.bytes?, c.bytes? with
    | some p, bs =>
      if patternLimit < p.length then .error .patternTooLong
      else .ok (match bs with
        | some bs => ofTruth (some (test p bs))
        | none => .null)
    | none, _ => .ok .null

/-- Whether a text fits a pattern with wild cards, of which an escape character takes the
    meaning. -/
def like (pattern c : Cell) : Option Cell → Except CallFault Cell
  | none => fitsBy (Pattern.like none) pattern c
  | some escape => do
    let plain ← fitsBy (Pattern.like none) pattern c
    match escape.bytes?, pattern, c with
    | none, .blob _, _ | none, _, .blob _ => return plain
    | none, _, _ => return .null
    | some _, .blob _, _ | some _, _, .blob _ => return plain
    | some bs, _, _ =>
      match Bytes.characters bs.visible with
      | [character] => fitsBy (Pattern.like (some (Bytes.code character))) pattern c
      | _ => throw .escapeNotSingle

def glob (pattern c : Cell) : Except CallFault Cell := fitsBy Pattern.glob pattern c

end Cell

end Accrete
