import Accrete.Database.JsonValue

/-!
# Reading JSON

* `JsonValue.read?`   -- the value that all of a text writes

A text ends at its first zero.  Values are nested at most two thousand deep, and blanks are the
space, the tab and the two line ends.
-/

namespace Accrete

namespace JsonValue

/-- A value with what follows it. -/
abbrev Taken (α : Type) := Option (α × Bytes)

def isBlank (b : UInt8) : Bool := b == 32 || b == 9 || b == 10 || b == 13

def skipBlanks (bs : Bytes) : Bytes := bs.dropWhile isBlank

def isAlphanum (b : UInt8) : Bool := Bytes.isDigit b || Bytes.isAlpha b

/-- Takes a word that no letter or digit follows. -/
def word? (word : String) (v : JsonValue) (bs : Bytes) : Taken JsonValue :=
  let w := Bytes.ofString word
  let rest := bs.drop w.length
  if w.isPrefixOf bs && !(rest.head?.any isAlphanum) then some (v, rest) else none

/-- How many bytes a text between quotes has, given what follows its first quote.  `bound` limits
    the steps. -/
def textLength? : Nat → Bytes → Option Nat
  | 0, _ | _, [] => none
  | bound + 1, 92 :: 117 :: rest =>
    if 4 ≤ rest.length && (rest.take 4).all fun b => (Bytes.hexValue? b).isSome then
      (textLength? bound (rest.drop 4)).map (· + 6)
    else none
  | bound + 1, 92 :: b :: rest =>
    if (Bytes.ofString "\"\\/bfnrt").contains b then (textLength? bound rest).map (· + 2) else none
  | bound + 1, b :: rest =>
    if b < 32 then none
    else if b == 34 then some 0
    else (textLength? bound rest).map (· + 1)

/-- Takes a text between quotes, given what follows its first quote. -/
def text? (bs : Bytes) : Taken Bytes :=
  (textLength? bs.length bs).map fun n => (bs.take n, bs.drop (n + 1))

/-- The digits after a mark at the start of a text, and what follows them, if there are any. -/
def digitsAfter? (mark : UInt8 → Bool) : Bytes → Option (Bytes × Bytes)
  | [] => none
  | b :: rest =>
    let digits := rest.takeWhile Bytes.isDigit
    if mark b && !digits.isEmpty then some (b :: digits, rest.dropWhile Bytes.isDigit) else none

/-- The exponent at the start of a text, and what follows it, if there is one. -/
def exponent? : Bytes → Option (Bytes × Bytes)
  | [] => none
  | b :: rest =>
    if b != 101 && b != 69 then none
    else match digitsAfter? (fun s => s == 43 || s == 45) rest with
      | some (digits, rest) => some (b :: digits, rest)
      | none => digitsAfter? (fun _ => true) (b :: rest)

def number? (bs : Bytes) : Taken JsonValue :=
  let sign := bs.takeWhile (· == 45)
  let rest := bs.drop sign.length
  let whole := if rest.head? == some 48 then [48] else rest.takeWhile Bytes.isDigit
  if 1 < sign.length || whole.isEmpty then none
  else
    let rest := rest.drop whole.length
    let (fraction, rest) := (digitsAfter? (· == 46) rest).getD ([], rest)
    let (exponent, rest) := (exponent? rest).getD ([], rest)
    let source := sign ++ whole ++ fraction ++ exponent
    let isReal := !fraction.isEmpty || !exponent.isEmpty
    some (if isReal then JsonValue.real source else .integer source, rest)

mutual

/-- Takes a value.  `depth` tells how many more levels may be nested. -/
def value? : Nat → Nat → Bytes → Taken JsonValue
  | 0, _, _ => none
  | bound + 1, depth, bs =>
    -- 123 and 125 are braces, 91 and 93 brackets, and 34 is the quotation mark.
    match skipBlanks bs with
    | 123 :: rest =>
      if (skipBlanks rest).head? == some 125 then
        -- An object without members counts as a level all the same.
        if depth = 0 then none else some (.object [], (skipBlanks rest).drop 1)
      else (members? bound depth rest).map fun (ms, rest) => (.object ms, rest)
    | 91 :: rest =>
      if (skipBlanks rest).head? == some 93 then
        if depth = 0 then none else some (.array [] false, (skipBlanks rest).drop 1)
      else (items? bound depth rest).map fun (vs, rest) => (.array vs false, rest)
    | 34 :: rest => (text? rest).map fun (source, rest) => (.text source, rest)
    | b :: rest =>
      if b == 110 then word? "null" .null (b :: rest)
      else if b == 116 then word? "true" (.bool true) (b :: rest)
      else if b == 102 then word? "false" (.bool false) (b :: rest)
      else if b == 45 || Bytes.isDigit b then number? (b :: rest)
      else none
    | [] => none

/-- Takes the items of an array with the bracket that closes it. -/
def items? : Nat → Nat → Bytes → Taken (List JsonValue)
  | 0, _, _ => none
  | _, 0, _ => none
  | bound + 1, depth + 1, bs =>
    match value? bound depth bs with
    | none => none
    | some (v, rest) =>
      match skipBlanks rest with
      | 44 :: rest => (items? bound (depth + 1) rest).map fun (vs, rest) => (v :: vs, rest)
      | 93 :: rest => some ([v], rest)
      | _ => none

/-- Takes the members of an object with the brace that closes it. -/
def members? : Nat → Nat → Bytes → Taken (List (JsonLabel × JsonValue))
  | 0, _, _ => none
  | _, 0, _ => none
  | bound + 1, depth + 1, bs =>
    match skipBlanks bs with
    | 34 :: rest =>
      match text? rest with
      | none => none
      | some (label, rest) =>
        match skipBlanks rest with
        | 58 :: rest =>
          match value? bound depth rest with
          | none => none
          | some (v, rest) =>
            match skipBlanks rest with
            | 44 :: rest =>
              (members? bound (depth + 1) rest).map fun (ms, rest) =>
                ((.written label, v) :: ms, rest)
            | 125 :: rest => some ([(.written label, v)], rest)
            | _ => none
        | _ => none
    | _ => none

end

/-- How deep values may be nested. -/
def depthLimit : Nat := 2000

/-- The value that all of a text writes. -/
def read? (bs : Bytes) : Option JsonValue :=
  let bs := bs.visible
  match value? (bs.length + 1) depthLimit bs with
  | some (v, rest) => if (skipBlanks rest).isEmpty then some v else none
  | none => none

end JsonValue

end Accrete
