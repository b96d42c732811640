import Accrete.Text.Blank
import Accrete.Text.Case
import Accrete.Text.Digit
import Accrete.Text.Word

/-!
# Regular expressions

Patterns that describe texts, as backtracking matchers know them.

* `Regex`            -- a pattern
* `Regex.Category`   -- digits, blanks and word characters
* `Regex.ClassItem.holds` -- whether an item of a class stands for a character
* `Regex.width`      -- how long the texts are that a pattern describes

Characters are given by their numbers.
-/

namespace Accrete

namespace Regex

/-- What is stated about matching beside a pattern. -/
inductive Flag where
  | ignoreCase | multiline | dotAll | verbose | ascii | unicode | locale | template
deriving DecidableEq, Repr

/-- A class of characters with a name of its own. -/
inductive Category where
  | digit | space | word
deriving DecidableEq, Repr

/-- An item of a class of characters. -/
inductive ClassItem where
  | char (c : Nat)
  | range (least greatest : Nat)
  | category (k : Category) (negated : Bool)
deriving DecidableEq, Repr

/-- A place between characters. -/
inductive Position where
  | textStart | textEnd | lineStart | lineEnd | boundary | inside
deriving DecidableEq, Repr

/-- What is tried first where a pattern may repeat. -/
inductive Greed where
  | greedy
  | lazy
  /-- As often as it goes, and never less. -/
  | possessive
deriving DecidableEq, Repr

end Regex

/-- A pattern. -/
inductive Regex where
  | empty
  | never
  | char (c : Nat)
  | any
  | oneOf (negated : Bool) (items : List Regex.ClassItem)
  | place (p : Regex.Position)
  | seq (first second : Regex)
  | either (first second : Regex)
  | group (index : Nat) (body : Regex)
  /-- A pattern with some flags put on and others taken off. -/
  | flagged (on off : List Regex.Flag) (body : Regex)
  | times (greed : Regex.Greed) (least : Nat) (most : Option Nat) (body : Regex)
  /-- A pattern that follows, or does not. -/
  | ahead (negated : Bool) (body : Regex)
  /-- A pattern of some width that comes before, or does not. -/
  | behind (negated : Bool) (width : Nat) (body : Regex)
  | backReference (group : Nat)
  /-- One of two patterns, by whether a group was matched. -/
  | conditional (group : Nat) (yes no : Regex)
  /-- A pattern that is not tried again. -/
  | atomic (body : Regex)
deriving Repr, Inhabited

namespace Regex

/-! ## Characters -/

def Category.holdsAscii (k : Category) (c : Nat) : Bool :=
  let isDigit := 48 ≤ c && c ≤ 57
  match k with
  | .digit => isDigit
  | .space => c == 32 || (9 ≤ c && c ≤ 13)
  | .word => isDigit || (65 ≤ c && c ≤ 90) || (97 ≤ c && c ≤ 122) || c == 95

def Category.holds (k : Category) (ascii : Bool) (c : Nat) : Bool :=
  if ascii then k.holdsAscii c
  else match k with
    | .digit => Text.isDigit (Char.ofNat c)
    | .space => Text.isBlank (Char.ofNat c)
    | .word => Text.isWord (Char.ofNat c)

def lowered (ascii : Bool) (c : Nat) : Nat :=
  if c < 128 then (if 65 ≤ c && c ≤ 90 then c + 32 else c)
  else if ascii then c
  else if c == 0x130 then 0x69
  else (Text.Case.shifted? Text.Case.lowerRuns c).getD c

/-- Letters in lower case that are the same letter. -/
def twins : List (List Nat) :=
  [[0x69, 0x131], [0x73, 0x17f], [0xb5, 0x3bc], [0x345, 0x3b9, 0x1fbe], [0x390, 0x1fd3],
   [0x3b0, 0x1fe3], [0x3b2, 0x3d0], [0x3b5, 0x3f5], [0x3b8, 0x3d1], [0x3ba, 0x3f0],
   [0x3c0, 0x3d6], [0x3c1, 0x3f1], [0x3c2, 0x3c3], [0x3c6, 0x3d5], [0x432, 0x1c80],
   [0x434, 0x1c81], [0x43e, 0x1c82], [0x441, 0x1c83], [0x442, 0x1c84, 0x1c85], [0x44a, 0x1c86],
   [0x463, 0x1c87], [0x1c88, 0xa64b], [0x1e61, 0x1e9b], [0xfb05, 0xfb06]]

/-- The letters that are the same as a letter in lower case, itself among them. -/
def twinsOf (ascii : Bool) (c : Nat) : List Nat :=
  if ascii then [c] else (twins.find? (·.contains c)).getD [c]

/-- The characters that are lowered to one. -/
def raised (ascii : Bool) (c : Nat) : List Nat :=
  let runs := if ascii then [] else Text.Case.lowerRuns
  let fromRuns := runs.filterMap fun (first, last, stride, shift) =>
    let d := ((c : Int) - shift).toNat
    if first ≤ d && d ≤ last && (d - first) % stride == 0 && (d : Int) + shift == c then some d
    else none
  let fromAscii := if 97 ≤ c && c ≤ 122 then [c - 32] else []
  let dotted := if c == 0x69 && !ascii then [0x130] else []
  (if lowered ascii c == c then [c] else []) ++ fromAscii ++ fromRuns ++ dotted

def ClassItem.holds (ignoreCase ascii : Bool) (c : Nat) (i : ClassItem) : Bool :=
  let l := lowered ascii c
  match i with
  | .char d => if ignoreCase then (twinsOf ascii l).contains (lowered ascii d) else d == c
  | .range least greatest =>
    let inside (d : Nat) : Bool := least ≤ d && d ≤ greatest
    if ignoreCase then (twinsOf ascii l).any fun d => (raised ascii d).any inside else inside c
  | .category k negated => k.holds ascii (if ignoreCase then l else c) != negated

/-! ## Width -/

/-- The least and the greatest number of characters. -/
structure Width where
  least : Nat
  greatest : Nat
deriving DecidableEq, Repr

def countLimit : Nat := 4294967295

def Width.capped (w : Width) : Width := ⟨min w.least (countLimit - 1), min w.greatest countLimit⟩

def Width.either (v w : Width) : Width := ⟨min v.least w.least, max v.greatest w.greatest⟩

/-- How long the texts are that a pattern describes, given that of groups. -/
def width (groups : List (Nat × Width)) : Regex → Width
  | .empty | .never | .place _ | .ahead .. | .behind .. => ⟨0, 0⟩
  | .char _ | .any | .oneOf .. => ⟨1, 1⟩
  | .seq p q =>
    let (v, w) := (p.width groups, q.width groups)
    Width.capped ⟨v.least + w.least, v.greatest + w.greatest⟩
  | .either p q => (p.width groups).either (q.width groups)
  | .group _ p | .flagged _ _ p | .atomic p => p.width groups
  | .times _ least most p =>
    let w := p.width groups
    Width.capped ⟨w.least * least, w.greatest * most.getD countLimit⟩
  | .backReference n => (groups.lookup n).getD ⟨0, 0⟩
  | .conditional _ yes no => (yes.width groups).either (no.width groups)

end Regex

end Accrete
