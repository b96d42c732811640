import Accrete.Database.Bytes
import Accrete.Number
import Accrete.Number.Extended

/-!
# Numbers as texts

How a database reads numbers from texts and writes them.

* `NumberText.read`     -- the number that a text starts with, and how much of the text it takes up
* `NumberText.integer`  -- the integer that a text starts with, and whether it has 64 bits
* `RealFormat`          -- how a real number is to be written
* `RealFormat.write`    -- a real number as it is written
* `NumberText.write`    -- a number as it becomes a text by itself

Digits beyond the nineteenth or so are left out when a real number is read, and its digits are
computed with 64 significant bits, so that neither is always the nearest one.
-/

namespace Accrete

/-- The floating-point value of a magnitude in steps. -/
def Number.ofSteps (negative : Bool) (steps : Nat) : Number :=
  if steps < Binary64.overflowSteps then .binary ⟨negative, steps⟩ else .infinite negative

namespace NumberText

/-! ## Reading -/

/-- How much of a text a number takes up. -/
inductive Extent where
  /-- All of it but blanks, without a point or an exponent. -/
  | integer
  /-- All of it but blanks, with a point or an exponent. -/
  | real
  /-- A part at the start, with a point or an exponent. -/
  | start
  /-- None, or a part at the start without a point or an exponent. -/
  | other
deriving DecidableEq, Repr

def sign : Bytes → Bool × Bytes
  | 45 :: rest => (true, rest)
  | 43 :: rest => (false, rest)
  | bs => (false, bs)

def digitLimit : Nat := (twoPow 63 - 10) / 10

/-- Digits that count, and the decimal exponent that goes with them. -/
structure Digits where
  value : Nat
  shift : Int

/-- Takes a digit before the point. -/
def Digits.whole (d : Digits) (b : UInt8) : Digits :=
  if d.value < digitLimit then { d with value := 10 * d.value + (b.toNat - 48) }
  else { d with shift := d.shift + 1 }

/-- Takes a digit after the point. -/
def Digits.part (d : Digits) (b : UInt8) : Digits :=
  if d.value < digitLimit then ⟨10 * d.value + (b.toNat - 48), d.shift - 1⟩ else d

/-- Moves a decimal exponent into digits as far as they stay whole and small. -/
def settle (grow : Bool) : Nat → Nat → Nat × Nat
  | 0, digits => (digits, 0)
  | e + 1, digits =>
    if grow then
      if (twoPow 63 - 1) / 10 ≤ digits then (digits, e + 1) else settle grow e (10 * digits)
    else if digits % 10 ≠ 0 then (digits, e + 1)
    else settle grow e (digits / 10)

/-- The floating-point value of `digits * 10 ^ shift`. -/
def real (negative : Bool) (digits : Nat) (shift : Int) : Number :=
  if digits = 0 then .binary ⟨negative, 0⟩
  else
    let grow := decide (0 < shift)
    let (digits, e) := settle grow shift.natAbs digits
    let x := Extended.ofNat digits
    let scaled (x : Extended) (e : Nat) : Extended :=
      let scale := Extended.squaredTenPow e
      if grow then x.mul scale else x.div scale
    if e ≤ 307 then Number.ofSteps negative (scaled x e).steps
    -- A scale this large need not be finite, so the power of ten is split at 308.
    else if e < 342 then
      let (a, b) := (scaled x (e - 308)).narrow.quotient
      let (c, d) := (Extended.ofTenPow 308).quotient
      let (num, den) := if grow then (a * c, b * d) else (a * d, b * c)
      Number.ofSteps negative (Binary64.nearestSteps (num * twoPow 1074) den)
    else if grow then .infinite negative
    else .binary ⟨negative, 0⟩

/-- The exponent after its mark, whether it has digits, and what follows it. -/
def exponent (bs : Bytes) : Int × Bool × Bytes :=
  let (negative, rest) := sign bs
  let digits := rest.takeWhile Bytes.isDigit
  let e : Int := digits.foldl (fun e b => if e < 10000 then 10 * e + (b.toNat - 48) else 10000) 0
  (if negative then -e else e, !digits.isEmpty, rest.dropWhile Bytes.isDigit)

/-- The number that a text starts with, and how much of the text it takes up. -/
def read (bs : Bytes) : Number × Extent :=
  let (negative, rest) := sign (bs.dropWhile Bytes.isSpace)
  -- 46 is the point; 101 and 69 are the letters that mark an exponent.
  let before := rest.takeWhile Bytes.isDigit
  let rest := rest.dropWhile Bytes.isDigit
  let (after, rest, pointed) := match rest with
    | 46 :: rest => (rest.takeWhile Bytes.isDigit, rest.dropWhile Bytes.isDigit, true)
    | _ => ([], rest, false)
  let digits := after.foldl Digits.part (before.foldl Digits.whole ⟨0, 0⟩)
  let (e, valid, rest, marked) := match rest with
    | 101 :: rest | 69 :: rest =>
      let (e, valid, rest) := exponent rest
      (e, valid, rest, true)
    | _ => (0, true, rest, false)
  let some := !before.isEmpty || !after.isEmpty
  let extent :=
    if (rest.dropWhile Bytes.isSpace).isEmpty && some && valid then
      if pointed || marked then Extent.real else .integer
    else if (pointed || marked) && ((pointed && marked) || valid) && some then .start
    else .other
  (real negative digits.value (e + digits.shift), extent)

/-- The integer that a text starts with, or the nearest one of 64 bits, and whether it has
    64 bits. -/
def integer (bs : Bytes) : Int × Bool :=
  let (negative, rest) := sign (bs.dropWhile Bytes.isSpace)
  let n : Int := Bytes.digitsFrom 0 (rest.takeWhile Bytes.isDigit)
  let least : Int := -(twoPow 63 : Int)
  if negative then (if n ≤ -least then (-n, true) else (least, false))
  else if n < -least then (n, true)
  else (-least - 1, false)

end NumberText

/-! ## Writing -/

/-- How the digits of a real number are laid out. -/
inductive Layout where
  | fixed | scientific
  /-- One of the others, by the size of the number. -/
  | general
deriving DecidableEq, Repr

/-- How a real number is written. -/
structure RealFormat where
  layout : Layout
  precision : Nat
  /-- Whether a point is written in any case. -/
  pointed : Bool
  /-- Whether more significant digits are written than the sixteen that are sure, and zeros after
      the point are left out but for one. -/
  full : Bool
  /-- The letter before an exponent. -/
  mark : Char
  /-- Whether commas stand between thousands. -/
  grouped : Bool

namespace RealFormat

def halfUnit (place : Nat) : Extended :=
  let step (x : Extended) : Extended := (x.mul (.ofTenPow (-10))).narrow
  (List.replicate (place / 10) ()).foldl (fun x _ => step x)
    (Extended.nearest 53 5 (tenPow (place % 10 + 1)))

/-- Raises a scale by a factor for as long as a magnitude reaches it. -/
def raise (x factor : Extended) (by' : Nat) : Nat → Extended × Nat → Extended × Nat
  | 0, s => s
  | bound + 1, (scale, e) =>
    let next := factor.mul scale
    if next.le x && e ≤ 350 then raise x factor by' bound (scale.mul factor, e + by') else (scale, e)

/-- Multiplies a magnitude by a factor for as long as it is below a limit. -/
def lift (limit factor : Extended) (by' : Nat) : Nat → Extended × Int → Extended × Int
  | 0, s => s
  | bound + 1, (x, e) =>
    if limit.le x then (x, e) else lift limit factor by' bound (x.mul factor, e - by')

/-- A positive magnitude as one below ten and a decimal exponent. -/
def normalized (x : Extended) : Extended × Int :=
  let s := raise x (.ofTenPow 100) 100 5 (.ofNat 1, 0)
  let s := raise x (.ofTenPow 10) 10 11 s
  let (scale, e) := raise x (.ofNat 10) 1 11 s
  let s := lift (.ofTenPow (-8)) (.ofTenPow 8) 8 50 (x.div scale, e)
  lift (.ofNat 1) (.ofNat 10) 1 10 s

/-- What is left to write of a magnitude: how many digits are sure, and the rest below ten. -/
abbrev Remainder := Nat × Extended

/-- The next digits of a magnitude.  Those that are not sure are zeros. -/
def digits : Nat → Remainder → List Char × Remainder
  | 0, r => ([], r)
  | n + 1, (0, x) => ('0' :: (digits n (0, x)).1, (0, x))
  | n + 1, (sure + 1, x) =>
    let d := x.floor
    let (rest, r) := digits n (sure, (x.sub (.ofNat d)).mul (.ofNat 10))
    (Char.ofNat (48 + d) :: rest, r)

/-- Digits with a comma between thousands, all but the last. -/
def withCommas (cs : List Char) : List Char :=
  let n := cs.length
  (List.range n).zip cs |>.flatMap fun (i, c) =>
    let left := n - 1 - i
    if left % 3 = 0 && 1 < left then [c, ','] else [c]

/-- Digits after a point without the zeros at their end. -/
def trimZeros (full : Bool) (cs : List Char) : List Char :=
  match cs.reverse.dropWhile (· == '0') with
  | [] => if full then ['.', '0'] else []
  | rest => '.' :: rest.reverse

def exponentText (mark : Char) (e : Int) : List Char :=
  let n := e.natAbs
  let digit (k : Nat) : Char := Char.ofNat (48 + k)
  mark :: (if e < 0 then '-' else '+') ::
    ((if 100 ≤ n then [digit (n / 100)] else []) ++ [digit (n % 100 / 10), digit (n % 10)])

/-- A magnitude below ten with its decimal exponent as it is written in a layout that is not the
    general one, with some places after the point. -/
def spell (f : RealFormat) (places : Nat) (trims : Bool) (x : Extended) (e : Int) : List Char :=
  let fixed := f.layout == .fixed
  let lead : Int := if fixed then e else 0
  let sure := if f.full then 26 else 16
  let (before, r) := if lead < 0 then (['0'], (sure, x)) else digits (lead.toNat + 1) (sure, x)
  let zeros := if lead < 0 then (-lead).toNat - 1 else 0
  let (after, _) := digits (places - zeros) r
  let after := List.replicate zeros '0' ++ after
  let pointed := 0 < places || f.pointed || f.full
  let before := if f.grouped then withCommas before else before
  let part := if !pointed then [] else if trims then trimZeros f.full after else '.' :: after
  before ++ part ++ (if fixed then [] else exponentText f.mark e)

def writeMagnitude (f : RealFormat) (x : Extended) : List Char :=
  let places := if f.layout == .general then f.precision - 1 else f.precision
  let half := halfUnit (places % 4096)
  match f.layout with
  | .fixed =>
    let binary : Int := if x.significand = 0 then -1023 else
      max (-1023) ((Nat.log2 x.significand : Int) + x.exponent)
    let half :=
      if places + binary.tdiv 3 < 15 then
        (half.add (x.mul (Extended.nearest 53 3 (tenPow 16)))).narrow
      else half
    let (x, e) := normalized (x.add half)
    f.spell places f.full x e
  | _ =>
    let (x, e) := if x.significand = 0 then (x, 0) else normalized x
    let x := x.add half
    let (x, e) :=
      if (Extended.ofNat 10).le x then (x.mul (Extended.nearest 53 1 10), e + 1) else (x, e)
    if f.layout == .scientific then f.spell places f.full x e
    else if e < -4 || places < e then
      { f with layout := .scientific }.spell places (!f.pointed) x e
    else { f with layout := .fixed }.spell (places - e).toNat (!f.pointed) x e

/-- A number without its sign as it is written, unless it is infinite. -/
def write? (f : RealFormat) : Number → Option (List Char)
  | .binary x => some (f.writeMagnitude (.ofSteps x.steps))
  | .int n => some (f.writeMagnitude (Extended.ofNat n.natAbs).narrow)
  | .infinite _ => none

end RealFormat

namespace NumberText

def plain : RealFormat where
  layout := .general
  precision := 15
  pointed := false
  full := true
  mark := 'e'
  grouped := false

def isNegative : Number → Bool
  | .int n => n < 0
  | .binary x => x.negative && 0 < x.steps
  | .infinite negative => negative

def writeReal (f : RealFormat) (n : Number) : String :=
  (if isNegative n then "-" else "") ++ String.ofList ((f.write? n).getD "Inf".toList)

def write : Number → String
  | .int n => toString n
  | n => writeReal plain n

end NumberText

end Accrete
