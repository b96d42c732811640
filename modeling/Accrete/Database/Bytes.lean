/-!
# Texts as bytes

A database keeps texts as bytes, in UTF-8 if they come from texts, and in any form if they come
from elsewhere.

* `Bytes.ofString`    -- the bytes of a text
* `Bytes.visible`     -- the bytes before the first zero, where many functions stop
* `Bytes.characters`  -- the bytes cut into characters
* `Bytes.code`        -- the number of a character

A byte from `0xc0` on takes along the bytes from `0x80` to `0xbf` that follow it; every other byte
is a character by itself.
-/

namespace Accrete

abbrev Bytes := List UInt8

namespace Bytes

def ofString (s : String) : Bytes := s.toList.flatMap String.utf8EncodeChar

/-- The bytes before the first zero. -/
def visible (bs : Bytes) : Bytes := bs.takeWhile (· != 0)

def isDigit (b : UInt8) : Bool := 48 ≤ b && b ≤ 57

def isSpace (b : UInt8) : Bool := b == 32 || (9 ≤ b && b ≤ 13)

def isAlpha (b : UInt8) : Bool := (65 ≤ b && b ≤ 90) || (97 ≤ b && b ≤ 122)

def lower (b : UInt8) : UInt8 := if 65 ≤ b && b ≤ 90 then b + 32 else b

def upper (b : UInt8) : UInt8 := if 97 ≤ b && b ≤ 122 then b - 32 else b

def hexValue? (b : UInt8) : Option Nat :=
  if isDigit b then some (b.toNat - 48)
  else if 97 ≤ b && b ≤ 102 then some (b.toNat - 87)
  else if 65 ≤ b && b ≤ 70 then some (b.toNat - 55)
  else none

def hexDigits (b : UInt8) : List Char :=
  [b.toNat / 16, b.toNat % 16].map fun n => (Nat.digitChar n).toUpper

/-- The number that decimal digits write after those of another number. -/
def digitsFrom (n : Nat) (bs : Bytes) : Nat := bs.foldl (fun n b => 10 * n + (b.toNat - 48)) n

def toAscii (bs : Bytes) : String := String.ofList (bs.map fun b => Char.ofNat b.toNat)

/-! ## Characters -/

/-- Whether a byte goes along with one before it. -/
def isLater (b : UInt8) : Bool := b &&& 0xc0 == 0x80

def characters : Bytes → List Bytes
  | [] => []
  | b :: rest =>
    if 0xc0 ≤ b then (b :: rest.takeWhile isLater) :: characters (rest.dropWhile isLater)
    else [b] :: characters rest
termination_by bs => bs.length
decreasing_by
  · have := (List.dropWhile_sublist (l := rest) isLater).length_le
    simp only [List.length_cons]
    omega
  · simp

/-- What the first byte of a character tells of its number. -/
def leadValue (b : UInt8) : Nat :=
  let n := b.toNat
  if n < 0xe0 then n - 0xc0
  else if n < 0xf0 then n - 0xe0
  else if n < 0xf8 then n - 0xf0
  else if n < 0xfc then n - 0xf8
  else if n < 0xfe then n - 0xfc
  else 0

/-- The number of a character.  What is no character has that of `U+FFFD`. -/
def code : Bytes → Nat
  | [] => 0
  | b :: later =>
    if b < 0xc0 then b.toNat
    else
      let n := later.foldl (fun n b => (64 * n + b.toNat % 64) % 0x100000000) (leadValue b)
      if n < 0x80 || n / 0x800 == 0x1b || n / 2 == 0x7fff then 0xfffd else n

/-- The numbers of the characters of a text. -/
def codes (bs : Bytes) : List Nat := (characters bs).map code

/-- The bytes of a character of a given number below `0x110000`. -/
def ofCode (n : Nat) : Bytes :=
  let later (k : Nat) : UInt8 := UInt8.ofNat (0x80 + (n >>> (6 * k)) % 64)
  if n < 0x80 then [UInt8.ofNat n]
  else if n < 0x800 then [UInt8.ofNat (0xc0 + n / 64), later 0]
  else if n < 0x10000 then [UInt8.ofNat (0xe0 + n / 4096), later 1, later 0]
  else [UInt8.ofNat (0xf0 + n / 262144), later 2, later 1, later 0]

/-! ## Searching -/

/-- Whether bytes come before other ones, by the first that differ, or by their number. -/
def less : Bytes → Bytes → Bool
  | [], bs => !bs.isEmpty
  | _ :: _, [] => false
  | a :: as, b :: bs => a < b || (a == b && less as bs)

/-- Bytes with every occurrence of some replaced, from the left. -/
def replaceAll (old new : Bytes) : Nat → Bytes → Bytes
  | 0, bs => bs
  | _ + 1, [] => []
  | bound + 1, b :: rest =>
    if old.isPrefixOf (b :: rest) then
      new ++ replaceAll old new bound ((b :: rest).drop old.length)
    else b :: replaceAll old new bound rest

end Bytes

end Accrete
