import Accrete.Database.Bytes

/-!
# Patterns

Whether a text fits a pattern with wild cards.

* `Pattern.Style`   -- which characters are wild cards, and what stands for itself
* `Pattern.like`    -- `%` stands for any characters and `_` for one, whatever the case of letters
* `Pattern.glob`    -- `*` stands for any characters, `?` for one, and brackets hold a set

Texts are compared up to their first zero, as the numbers of their characters.
-/

namespace Accrete

namespace Pattern

/-- The numbers of characters that a pattern gives a meaning. -/
structure Style where
  /-- Stands for any characters, if there is such a character. -/
  many : Option Nat
  /-- Stands for one character, if there is such a character. -/
  one : Option Nat
  /-- Takes the meaning of the character after it. -/
  escape : Option Nat
  /-- Starts a set of characters. -/
  set : Option Nat
  /-- Whether the case of ASCII letters counts. -/
  exact : Bool

/-- What a comparison comes to: the text fits, it does not, or it cannot even if more of it is
    skipped. -/
inductive Outcome where
  | fits | fails | stuck
deriving DecidableEq, Repr

/-- A character with its ASCII letter in lower case. -/
def lowered (c : Nat) : Nat := if 65 ≤ c && c ≤ 90 then c + 32 else c

/-- Whether two characters are the same. -/
def Style.same (s : Style) (c d : Nat) : Bool := c == d || (!s.exact && lowered c == lowered d)

/-- Whether a set contains a character, given the one that may start a range, and what follows the
    set if it is closed. -/
def scanSet (c : Nat) (seen : Bool) (prior : Option Nat) : List Nat → Bool × Option (List Nat)
  | [] => (seen, none)
  | 93 :: rest => (seen, some rest)
  | 45 :: d :: rest =>
    match prior with
    | some low =>
      if d == 93 then scanSet c (seen || c == 45) (some 45) (d :: rest)
      else scanSet c (seen || (low ≤ c && c ≤ d)) none rest
    | none => scanSet c (seen || c == 45) (some 45) (d :: rest)
  | d :: rest => scanSet c (seen || c == d) (some d) rest

/-- Whether the set at the start of a pattern, after its opening bracket, contains a character, and
    what follows it if it does. -/
def inSet? (c : Nat) (pattern : List Nat) : Option (List Nat) :=
  -- 94 turns the set around; a bracket right after it belongs to the set.
  let (inverted, pattern) := match pattern with
    | 94 :: rest => (true, rest)
    | pattern => (false, pattern)
  let (seen, rest) := match pattern with
    | 93 :: rest => scanSet c (c == 93) none rest
    | pattern => scanSet c false none pattern
  if seen != inverted then rest else none

/-- What remains of a pattern after wild cards for any characters, and of a text after the single
    characters among them.  The text is too short if there is none. -/
def skipWild (s : Style) : List Nat → List Nat → List Nat × Option (List Nat)
  | [], cs => ([], some cs)
  | p :: ps, cs =>
    if some p == s.many then skipWild s ps cs
    else if some p == s.one then
      match cs with
      | [] => (ps, none)
      | _ :: cs => skipWild s ps cs
    else (p :: ps, some cs)

/-- Tries the ends of a text one after the other until one does not fail. -/
def searchFrom (test : List Nat → Outcome) : List Nat → Outcome
  | [] => .stuck
  | c :: cs => match test (c :: cs) with
    | .fails => searchFrom test cs
    | o => o

/-- What comes of comparing a text with a pattern.  `bound` limits the steps. -/
def compare (s : Style) : Nat → List Nat → List Nat → Outcome
  | 0, _, _ => .fails
  | _ + 1, [], cs => if cs.isEmpty then .fits else .fails
  | bound + 1, p :: ps, cs =>
    if some p == s.many then
      match skipWild s ps cs with
      | (_, none) => .stuck
      | ([], some _) => .fits
      | (q :: qs, some cs) =>
        if some q == s.set then searchFrom (compare s bound (q :: qs)) cs
        else
          let (q, qs) := if some q == s.escape then (qs.head?, qs.drop 1) else (some q, qs)
          match q with
          | none => .stuck
          | some q =>
            -- A plain character is compared at once, so the rest is tried only where it stands.
            searchFrom (fun cs => match cs with
              | c :: cs => if s.same q c then compare s bound qs cs else .fails
              | [] => .fails) cs
    else if some p == s.set then
      match cs with
      | [] => .fails
      | c :: cs => match inSet? c ps with
        | some ps => compare s bound ps cs
        | none => .fails
    else
      let escaped := some p == s.escape
      let (p, ps) := if escaped then (ps.head?, ps.drop 1) else (some p, ps)
      match p, cs with
      | some p, c :: cs =>
        if s.same p c || (!escaped && some p == s.one) then compare s bound ps cs else .fails
      | _, _ => .fails

def fits (s : Style) (pattern text : Bytes) : Bool :=
  let ps := Bytes.codes pattern.visible
  compare s (ps.length + 1) ps (Bytes.codes text.visible) == .fits

/-- Whether a text fits a pattern in which `%` stands for any characters and `_` for one, unless
    they are the escape character. -/
def like (escape : Option Nat) (pattern text : Bytes) : Bool :=
  let wild (c : Nat) : Option Nat := if escape == some c then none else some c
  fits ⟨wild 37, wild 95, escape, none, false⟩ pattern text

/-- Whether a text fits a pattern in which `*` stands for any characters, `?` for one, and brackets
    hold a set. -/
def glob (pattern text : Bytes) : Bool :=
  fits ⟨some 42, some 63, none, some 91, true⟩ pattern text

end Pattern

end Accrete
