import Accrete.Database.Cell.Arithmetic

/-!
# Formats

Texts in which values are filled in where a percent sign asks for them.

* `Directive`          -- what follows a percent sign
* `Directive.read?`    -- takes a directive from a format
* `Directive.write?`   -- a value as a directive asks for it
* `Format.fill?`       -- a format with its values

A format ends where it is no longer understood, and values that are missing are zero or empty.
-/

namespace Accrete

/-- What follows a percent sign. -/
structure Directive where
  /-- Whether blanks come after the value. -/
  left : Bool
  /-- What stands before a number that is not negative. -/
  lead : Option Char
  /-- Whether numbers are written in full form. -/
  alternate : Bool
  /-- Whether widths are counted in characters, and real numbers have more digits. -/
  full : Bool
  /-- Whether zeros take the place of blanks. -/
  zeros : Bool
  grouped : Bool
  width : Nat
  precision : Option Nat
deriving Inhabited

/-- The values that are still to be filled in. -/
abbrev Arguments := List Cell

namespace Arguments

/-- The next value as an integer, or zero. -/
def integer (args : Arguments) : Int × Arguments :=
  ((args.head?.map Cell.integer).getD 0, args.drop 1)

/-- The next value as a real number, or zero. -/
def real (args : Arguments) : Number × Arguments :=
  ((args.head?.map Cell.real).getD (.binary ⟨false, 0⟩), args.drop 1)

/-- The next value as a text, unless it is null or missing. -/
def text (args : Arguments) : Option Bytes × Arguments :=
  ((args.head?.bind Cell.bytes?).map Bytes.visible, args.drop 1)

/-- The next value as an integer of 32 bits. -/
def short (args : Arguments) : Int × Arguments :=
  ((BitVec.ofInt 32 args.integer.1).toInt, args.integer.2)

end Arguments

namespace Directive

/-! ## Reading -/

/-- The number that digits write, in 31 bits. -/
def count (bs : Bytes) : Nat :=
  bs.foldl (fun n b => (10 * n + (b.toNat - 48)) % 0x100000000) 0 % 0x80000000

/-- A directive with a width that a value gives.  A negative one puts the blanks after the value. -/
def withWidth (d : Directive) (n : Int) : Directive :=
  if 0 ≤ n then { d with width := n.toNat }
  else { d with left := true, width := if n = -0x80000000 then 0 else n.natAbs }

/-- The precision that a value gives. -/
def precisionOf (n : Int) : Option Nat := if n = -0x80000000 then none else some n.natAbs

/-- A directive with its letter and what follows that, after its length marks. -/
def finished (d : Directive) (args : Arguments) : Bytes → Option (Directive × UInt8 × Bytes × Arguments)
  | b :: rest => some (d, b, rest, args)
  | [] => none

/-- Takes a directive, given what was read of it.  `bound` limits the steps. -/
def readFrom : Nat → Directive → Arguments → Bytes →
    Option (Directive × UInt8 × Bytes × Arguments)
  | 0, _, _, _ => none
  | _ + 1, _, _, [] => none
  | bound + 1, d, args, b :: rest =>
    -- In what follows 42 is the asterisk, 46 the point and 108 the length mark `l`.
    match Char.ofNat b.toNat with
    | '-' => readFrom bound { d with left := true } args rest
    | '+' => readFrom bound { d with lead := some '+' } args rest
    | ' ' => readFrom bound { d with lead := some ' ' } args rest
    | '#' => readFrom bound { d with alternate := true } args rest
    | '!' => readFrom bound { d with full := true } args rest
    | '0' => readFrom bound { d with zeros := true } args rest
    | ',' => readFrom bound { d with grouped := true } args rest
    | 'l' => finished d args (if rest.head? == some 108 then rest.drop 1 else rest)
    | '*' =>
      let (n, args) := args.short
      let d := d.withWidth n
      if rest.head? == some 46 || rest.head? == some 108 then readFrom bound d args rest
      else finished d args rest
    | '.' =>
      let (precision, args, rest) := match rest with
        | 42 :: rest => (precisionOf args.short.1, args.short.2, rest)
        | rest =>
          (some (count (rest.takeWhile Bytes.isDigit)), args, rest.dropWhile Bytes.isDigit)
      let d := { d with precision }
      if rest.head? == some 108 then readFrom bound d args rest else finished d args rest
    | _ =>
      if Bytes.isDigit b then
        let d := { d with width := count ((b :: rest).takeWhile Bytes.isDigit) }
        let rest := rest.dropWhile Bytes.isDigit
        if rest.head? == some 46 || rest.head? == some 108 then readFrom bound d args rest
        else finished d args rest
      else finished d args (b :: rest)

/-- Takes a directive after its percent sign, with its letter. -/
def read? (args : Arguments) (bs : Bytes) : Option (Directive × UInt8 × Bytes × Arguments) :=
  readFrom (bs.length + 1) ⟨false, none, false, false, false, false, 0, none⟩ args bs

/-! ## Writing -/

/-- A written value with the blanks that fill up its width, unless that is too wide. -/
def padded? (d : Directive) (body : Bytes) : Option Bytes :=
  if Cell.sizeLimit < d.width then none
  else
    let blanks := List.replicate (d.width - body.length) 32
    some (if d.left then body ++ blanks else blanks ++ body)

/-- A directive whose width counts the further bytes of characters in a text. -/
def widened (d : Directive) (body : Bytes) : Directive :=
  if d.full && 0 < d.width then { d with width := d.width + body.countP Bytes.isLater } else d

/-- A text of digits with zeros before it. -/
def zeroFilled (n : Nat) (cs : List Char) : List Char := List.replicate (n - cs.length) '0' ++ cs

/-- A text of digits with commas between thousands. -/
def withCommas (cs : List Char) : List Char :=
  let n := cs.length
  (List.range n).zip cs |>.flatMap fun (i, c) =>
    let left := n - 1 - i
    if left % 3 = 0 && 0 < left then [c, ','] else [c]

/-- The letters that make an ordinal of a number. -/
def ordinalEnd (n : Nat) : List Char :=
  if n / 10 % 10 = 1 then ['t', 'h']
  else match n % 10 with
    | 1 => ['s', 't']
    | 2 => ['n', 'd']
    | 3 => ['r', 'd']
    | _ => ['t', 'h']

/-- An integer as it is written in a base.  `before` stands before the digits in the full form. -/
def integer? (d : Directive) (negative : Bool) (lead : Option Char) (magnitude base : Nat)
    (upper : Bool) (before ending : String) : Option Bytes :=
  let lead := if negative then some '-' else lead
  let room := d.width - (if lead.isSome then 1 else 0)
  let least := max (d.precision.getD 0) (if d.zeros then room else 0)
  if Cell.sizeLimit < least then none
  else
    let digits := Nat.toDigits base magnitude
    let digits := (if upper then digits.map Char.toUpper else digits) ++ ending.toList
    let digits := zeroFilled least digits
    let digits := if d.grouped then withCommas digits else digits
    let before := if d.alternate && 0 < magnitude then before.toList else []
    d.padded? (Bytes.ofString (String.ofList (before ++ lead.toList ++ digits)))

def real? (d : Directive) (layout : Layout) (mark : Char) (n : Number) : Option Bytes :=
  let negative := NumberText.isNegative n
  let lead := (if negative then some '-' else d.lead).toList
  let f : RealFormat := ⟨layout, d.precision.getD 6, d.alternate, d.full, mark, d.grouped⟩
  if Cell.sizeLimit < f.precision || Cell.sizeLimit < d.width then none
  else match f.write? n with
    | none => d.padded? (Bytes.ofString (String.ofList lead ++ "Inf"))
    | some cs =>
      let cs := if d.zeros && !d.left then zeroFilled (d.width - lead.length) cs else cs
      d.padded? (Bytes.ofString (String.ofList (lead ++ cs)))

/-- The start of a text, counted in bytes or in characters. -/
def cut (d : Directive) (bs : Bytes) : Bytes :=
  match d.precision with
  | none => bs
  | some n => if d.full then ((Bytes.characters bs).take n).flatten else bs.take n

def text? (d : Directive) (bs : Option Bytes) : Option Bytes :=
  let body := d.cut (bs.getD [])
  (d.widened body).padded? body

/-- The start of a text, with a mark doubled in it. -/
def quoted? (d : Directive) (mark : UInt8) (enclosed : Bool) (bs : Option Bytes) : Option Bytes :=
  let body := d.cut (bs.getD (Bytes.ofString (if enclosed then "NULL" else "(NULL)")))
  let body := body.flatMap fun b => if b == mark then [b, b] else [b]
  let body := if enclosed && bs.isSome then mark :: body ++ [mark] else body
  (d.widened body).padded? body

/-- The first character of a text, as often as the precision tells. -/
def character? (d : Directive) (bs : Option Bytes) : Option Bytes :=
  let one : Bytes := match bs with
    | some (b :: rest) =>
      if 0xc0 ≤ b then b :: (rest.takeWhile Bytes.isLater).take 3 else [b]
    | _ => [0]
  let times := max 1 (d.precision.getD 1)
  if Cell.sizeLimit < times || Cell.sizeLimit < d.width then none
  else
    let d := { d with width := d.width - (times - 1), full := true }
    let copies := (List.replicate (times - 1) one).flatten
    if 1 < times && 1 < d.width && !d.left then
      some (List.replicate (d.width - 1) 32 ++ copies ++ one)
    else ((d.widened one).padded? one).map (copies ++ ·)

/-- What a directive writes, and the values that are left.  `none` tells that its letter is not
    understood, and an inner `none` that there is too much to write. -/
def write? (d : Directive) (letter : UInt8) (args : Arguments) :
    Option (Option Bytes × Arguments) :=
  let signed (base : Nat) (ending : Nat → String) : Option Bytes × Arguments :=
    let (n, rest) := args.integer
    (d.integer? (decide (n < 0)) d.lead n.natAbs base false "" (ending n.natAbs), rest)
  let unsigned (d : Directive) (base : Nat) (upper : Bool) (before : String) :
      Option Bytes × Arguments :=
    let (n, rest) := args.integer
    (d.integer? false none (BitVec.ofInt 64 n).toNat base upper before "", rest)
  let real (layout : Layout) (mark : Char) : Option Bytes × Arguments :=
    (d.real? layout mark args.real.1, args.real.2)
  let plain := { d with grouped := false }
  match Char.ofNat letter.toNat with
  | 'd' | 'i' => some (signed 10 fun _ => "")
  | 'u' => some (unsigned d 10 false "")
  | 'o' => some (unsigned plain 8 false "0")
  | 'x' => some (unsigned plain 16 false "0x")
  | 'p' => some (unsigned plain 16 true "0x")
  | 'X' => some (unsigned plain 16 true "0X")
  | 'r' =>
    let (n, rest) := args.integer
    some (plain.integer? (decide (n < 0)) d.lead n.natAbs 10 false ""
      (String.ofList (ordinalEnd n.natAbs)), rest)
  | 'f' => some (real .fixed 'e')
  | 'e' => some (real .scientific 'e')
  | 'E' => some (real .scientific 'E')
  | 'g' => some (real .general 'e')
  | 'G' => some (real .general 'E')
  | 's' | 'z' => some (d.text? args.text.1, args.text.2)
  | 'q' => some (d.quoted? 39 false args.text.1, args.text.2)
  | 'Q' => some (d.quoted? 39 true args.text.1, args.text.2)
  | 'w' => some (d.quoted? 34 false args.text.1, args.text.2)
  | 'c' => some (d.character? args.text.1, args.text.2)
  | 'n' => some (some [], args)
  | '%' => some (d.padded? [37], args)
  | _ => none

end Directive

namespace Format

/-- A format with its values, after what is written already, unless it is too long.  `bound`
    limits the steps. -/
def fillFrom : Nat → List Bytes → Arguments → Bytes → Option (List Bytes)
  | 0, done, _, _ => some done
  | bound + 1, done, args, bs =>
    let done := bs.takeWhile (· != 37) :: done
    match bs.dropWhile (· != 37) with
    | [] => some done
    -- A percent sign that ends the format stands for itself.
    | [_] => some ([37] :: done)
    | _ :: rest =>
      match Directive.read? args rest with
      -- What cannot be read ends the text without a fault.
      | none => some done
      | some (d, letter, rest, args) =>
        match d.write? letter args with
        | none => some done
        | some (none, _) => none
        | some (some written, args) => fillFrom bound (written :: done) args rest

/-- A format with its values, unless it is too long. -/
def fill? (format : Bytes) (args : Arguments) : Option Bytes :=
  (fillFrom (format.length + 1) [] args (Bytes.visible format)).bind fun parts =>
    let bs := parts.reverse.flatten
    if Cell.sizeLimit < bs.length then none else some bs

/-- A single value in a format, with a sign for a real number below zero. -/
def real (f : RealFormat) (n : Number) : Bytes := Bytes.ofString (NumberText.writeReal f n)

end Format

end Accrete
