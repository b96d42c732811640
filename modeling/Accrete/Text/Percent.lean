import Accrete.Text.Utf8

/-!
# Percent signs

Texts in which bytes are written as a percent sign and two digits.

* `Percent.decode` -- the text that is meant; a percent sign without digits means itself
* `Percent.encode` -- a text with all bytes written so that are not safe
-/

namespace Accrete.Text.Percent

/-- The value of a digit of base sixteen. -/
def hexValue? (c : Char) : Option Nat :=
  if '0' ≤ c && c ≤ '9' then some (c.toNat - '0'.toNat)
  else if 'a' ≤ c && c ≤ 'f' then some (c.toNat - 'a'.toNat + 10)
  else if 'A' ≤ c && c ≤ 'F' then some (c.toNat - 'A'.toNat + 10)
  else none

/-- The byte that two digits write. -/
def byte? (high low : Char) : Option Nat := do return 16 * (← hexValue? high) + (← hexValue? low)

/-- What a character means that no percent sign precedes. -/
def plain (c : Char) : Utf8.Piece := if c.toNat < 0x80 then .byte c.toNat else .char c

/-- The bytes and characters that are meant. -/
def pieces : List Char → List Utf8.Piece
  | [] => []
  | '%' :: high :: low :: rest =>
    match byte? high low with
    | some b => .byte b :: pieces rest
    | none => plain '%' :: pieces (high :: low :: rest)
  | c :: rest => plain c :: pieces rest

def decodeChars (cs : List Char) : List Char := Utf8.decode (pieces cs)

/-- The text that is meant. -/
def decode (s : String) : String := String.ofList (decodeChars s.toList)

/-- Whether a character stands for itself wherever it is. -/
def isSafe (c : Char) : Bool := c.isAlphanum || "_.-~".toList.contains c

/-- A digit of base sixteen. -/
def digit (n : Nat) : Char := Char.ofNat (if n < 10 then '0'.toNat + n else 'A'.toNat + n - 10)

def encodeByte (b : UInt8) : List Char := ['%', digit (b.toNat / 16), digit (b.toNat % 16)]

/-- A text with the bytes written out of all characters that are neither safe nor listed. -/
def encode (listed : String) (s : String) : String :=
  String.ofList (s.toList.flatMap fun c =>
    if isSafe c || listed.toList.contains c then [c]
    else (String.utf8EncodeChar c).flatMap encodeByte)

end Accrete.Text.Percent
