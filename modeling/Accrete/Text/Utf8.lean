/-!
# UTF-8

Characters read from bytes.  What is no character is read as `U+FFFD`, one for as many bytes as
could have been the start of a character.

* `Piece`  -- a byte, or a character that stands for itself
* `decode` -- the characters that pieces stand for
-/

namespace Accrete.Text.Utf8

/-- A byte, or a character that stands for itself. -/
inductive Piece where
  | byte (value : Nat)
  | char (c : Char)
deriving DecidableEq, Repr

/-- What stands for bytes that are no character. -/
def replacement : Char := '\ufffd'

/-- A character of which the first bytes are read: what they give, and the least and the largest
    value of each byte that is to follow. -/
structure Pending where
  value : Nat
  due : List (Nat × Nat)

/-- The range of a byte that is not the first of its character. -/
def later : Nat × Nat := (0x80, 0xbf)

/-- The range of the second of three bytes, and that of the second of four.  They leave out what
    fewer bytes can write, and what is no code point. -/
def second (first : Nat) : Nat × Nat :=
  if first == 0xe0 then (0xa0, 0xbf)
  else if first == 0xed then (0x80, 0x9f)
  else if first == 0xf0 then (0x90, 0xbf)
  else if first == 0xf4 then (0x80, 0x8f)
  else later

/-- What a byte gives as the first of a character. -/
def opening? (b : Nat) : Option Pending :=
  if b < 0x80 then some ⟨b, []⟩
  else if b < 0xc2 then none
  else if b < 0xe0 then some ⟨b - 0xc0, [later]⟩
  else if b < 0xf0 then some ⟨b - 0xe0, [second b, later]⟩
  else if b < 0xf5 then some ⟨b - 0xf0, [second b, later, later]⟩
  else none

/-- The characters that are complete with a byte, and the one that is not. -/
abbrev Progress := List Char × Option Pending

/-- A character that is complete if no byte is due. -/
def progress (p : Pending) : Progress :=
  if p.due.isEmpty then ([Char.ofNat p.value], none) else ([], some p)

/-- Reads the first byte of a character. -/
def start (b : Nat) : Progress :=
  match opening? b with
  | some p => progress p
  | none => ([replacement], none)

/-- Reads a byte after others.  One that does not fit starts the next character. -/
def continued (p : Pending) (b : Nat) : Progress :=
  match p.due with
  | (least, largest) :: rest =>
    if least ≤ b && b ≤ largest then progress ⟨p.value * 64 + (b - 0x80), rest⟩
    else (replacement :: (start b).1, (start b).2)
  | [] => start b

def step : Option Pending → Piece → Progress
  | none, .byte b => start b
  | some p, .byte b => continued p b
  | none, .char c => ([c], none)
  | some _, .char c => ([replacement, c], none)

/-- The characters that pieces stand for, after the first bytes of one. -/
def decodeFrom (p : Option Pending) : List Piece → List Char
  | [] => if p.isSome then [replacement] else []
  | piece :: rest => (step p piece).1 ++ decodeFrom (step p piece).2 rest

def decode (pieces : List Piece) : List Char := decodeFrom none pieces

end Accrete.Text.Utf8
