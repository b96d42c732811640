import Accrete.Text.Case.Table
import Accrete.Text.Ranges

/-!
# Letter case

Full upper- and lower-casing of text.  A character may map to several, and a capital sigma at
the end of a word is lowered to the final form.

* `upper`, `lower`       -- the mappings on texts
* `asciiLower`           -- lowering of `A` to `Z` alone, as databases compare names
-/

namespace Accrete.Text

namespace Case

/-- The image of a code point under the one-to-one part of a mapping. -/
def shifted? (runs : List Run) (code : Nat) : Option Nat :=
  (runs.find? fun (first, last, stride, _) =>
      first ≤ code && code ≤ last && (code - first) % stride == 0).map
    fun (_, _, _, shift) => ((code : Int) + shift).toNat

/-- The image of a character under a mapping given by runs and expansions. -/
def mapChar (runs : List Run) (expansions : List (Nat × List Nat)) (c : Char) : List Char :=
  match expansions.lookup c.toNat with
  | some codes => codes.map Char.ofNat
  | none => [(shifted? runs c.toNat).elim c Char.ofNat]

def upperChar (c : Char) : List Char :=
  if c.toNat < 0x80 then [c.toUpper] else mapChar upperRuns upperExpansions c

def lowerChar (c : Char) : List Char :=
  if c.toNat < 0x80 then [c.toLower] else mapChar lowerRuns lowerExpansions c

/-- Whether the nearest character that is not skipped is a cased letter. -/
def meetsCased : List Char → Bool
  | [] => false
  | c :: rest =>
    if inRanges caseIgnorableRanges c.toNat then meetsCased rest
    else inRanges casedRanges c.toNat

/-- Lowers a text, given the characters already passed, nearest first.  A capital sigma takes
    its final form after a cased letter when no cased letter follows. -/
def lowerFrom (before : List Char) : List Char → List Char
  | [] => []
  | c :: rest =>
    let image :=
      if c == 'Σ' then
        (if meetsCased before && !meetsCased rest then ['ς'] else ['σ'])
      else lowerChar c
    image ++ lowerFrom (c :: before) rest

end Case

def upper (s : String) : String := String.ofList (s.toList.flatMap Case.upperChar)

def lower (s : String) : String := String.ofList (Case.lowerFrom [] s.toList)

/-- A text with `A` to `Z` lowered and all else kept. -/
def asciiLower (s : String) : String := String.ofList (s.toList.map Char.toLower)

/-- A text with the letters `a` to `z` in upper case. -/
def asciiUpper (s : String) : String := String.ofList (s.toList.map Char.toUpper)

end Accrete.Text
