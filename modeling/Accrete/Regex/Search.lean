import Accrete.Regex

/-!
# Searching

Whether a text has a part that a pattern describes.

* `Regex.Progress`  -- how far a text was matched, and what its groups matched
* `Regex.run`       -- matches a pattern and goes on with what follows it
* `Regex.occursIn`  -- whether a pattern occurs in a text

What may be matched in several ways is tried in the order in which it is written, and the first
way from which all else can be matched is taken.
-/

namespace Accrete

namespace Regex

/-- How far a text was matched, and the starts and the ends of its groups. -/
structure Progress where
  position : Nat
  groups : List (Nat × Nat × Nat)

/-- What is matched after something else. -/
abbrev Further := Progress → Option Progress

abbrev Matcher := Progress → Further → Option Progress

/-- Matches again and again.  `last` is the place where the last repetition started that need not
    have been.  `bound` limits their number. -/
def repeatMatch (body : Matcher) (isLazy : Bool) (least : Nat) (most : Option Nat)
    (further : Further) : Nat → Nat → Option Nat → Progress → Option Progress
  | 0, _, _, s => further s
  | bound + 1, count, last, s =>
    let again (last : Option Nat) : Unit → Option Progress := fun _ =>
      body s (repeatMatch body isLazy least most further bound (count + 1) last)
    let may := most.all (count < ·) && last != some s.position
    if count < least then again last ()
    else if !may then further s
    else if isLazy then further s <|> again (some s.position) ()
    else again (some s.position) () <|> further s

/-- Matches as often as it goes, each time in the first way. -/
def exhaust (body : Matcher) (least : Nat) (most : Option Nat) :
    Nat → Nat → Option Nat → Further
  | 0, _, _, s => some s
  | bound + 1, count, last, s =>
    if count < least then (body s some).bind (exhaust body least most bound (count + 1) last)
    else if most.all (count < ·) && last != some s.position then
      match body s some with
      | some t => exhaust body least most bound (count + 1) (some s.position) t
      | none => some s
    else some s

/-- A text in which a pattern is searched. -/
abbrev Subject := Array Nat

/-- Whether a place of a text lies beside a line end or an end of the text. -/
def Position.holds (p : Position) (multiline ascii : Bool) (text : Subject) (i : Nat) : Bool :=
  let isWord (i : Nat) : Bool := text[i]?.any (Category.word.holds ascii)
  let beside := (decide (0 < i) && isWord (i - 1)) != isWord i
  match p with
  | .textStart => i == 0
  | .textEnd => i == text.size
  | .lineStart => i == 0 || (multiline && text[i - 1]? == some 10)
  | .lineEnd =>
    i == text.size || (text[i]? == some 10 && (multiline || i + 1 == text.size))
  | .boundary => 0 < text.size && beside
  | .inside => 0 < text.size && !beside

/-- Whether the same characters stand at two places. -/
def sameParts (same : Nat → Nat → Bool) (text : Subject) (i j n : Nat) : Bool :=
  (List.range n).all fun k => match text[i + k]?, text[j + k]? with
    | some c, some d => same c d
    | _, _ => false

/-- Flags with some put on and others taken off.  Those that name a kind of characters exclude each
    other. -/
def combined (flags on off : List Flag) : List Flag :=
  let kinds : List Flag := [.ascii, .unicode, .locale]
  let flags := if on.any kinds.contains then flags.filter fun f => !kinds.contains f else flags
  (flags ++ on).filter fun f => !off.contains f

/-- Matches a pattern and goes on with what follows it. -/
def run (text : Subject) (flags : List Flag) : Regex → Matcher
  | .empty, s, k => k s
  | .never, _, _ => none
  | .char c, s, k => step (ClassItem.char c).holds s k
  | .any, s, k => step (fun _ _ c => c != 10 || flags.contains .dotAll) s k
  | .oneOf negated items, s, k =>
    step (fun i a c => (items.any fun item => item.holds i a c) != negated) s k
  | .place p, s, k =>
    if p.holds (flags.contains .multiline) (flags.contains .ascii) text s.position then k s
    else none
  | .seq p q, s, k => run text flags p s fun s => run text flags q s k
  | .either p q, s, k => run text flags p s k <|> run text flags q s k
  | .group n p, s, k =>
    run text flags p s fun t =>
      k { t with groups := (n, s.position, t.position) :: t.groups.filter (·.1 != n) }
  | .flagged on off p, s, k => run text (combined flags on off) p s k
  | .times greed least most p, s, k =>
    let bound := least + text.size + 2
    match greed with
    | .possessive => (exhaust (run text flags p) least most bound 0 none s).bind k
    | greed => repeatMatch (run text flags p) (greed == .lazy) least most k bound 0 none s
  | .ahead negated p, s, k =>
    match run text flags p s some, negated with
    | some t, false => k { t with position := s.position }
    | none, true => k s
    | _, _ => none
  | .behind negated n p, s, k =>
    let found := if n ≤ s.position then run text flags p { s with position := s.position - n } some
      else none
    match found, negated with
    | some t, false => k { t with position := s.position }
    | none, true => k s
    | _, _ => none
  | .backReference n, s, k =>
    match s.groups.lookup n with
    | none => none
    | some (start, stop) =>
      let ascii := flags.contains .ascii
      let same (c d : Nat) : Bool :=
        if flags.contains .ignoreCase then lowered ascii c == lowered ascii d else c == d
      if sameParts same text start s.position (stop - start) then
        k { s with position := s.position + (stop - start) }
      else none
  | .conditional n yes no, s, k =>
    if (s.groups.lookup n).isSome then run text flags yes s k else run text flags no s k
  | .atomic p, s, k => (run text flags p s some).bind k
where
  /-- Matches one character that passes a test. -/
  step (test : Bool → Bool → Nat → Bool) (s : Progress) (k : Further) : Option Progress :=
    match text[s.position]? with
    | some c =>
      if test (flags.contains .ignoreCase) (flags.contains .ascii) c then
        k { s with position := s.position + 1 }
      else none
    | none => none

def occursIn (p : Regex) (flags : List Flag) (text : Subject) : Bool :=
  (List.range (text.size + 1)).any fun i => (run text flags p ⟨i, []⟩ some).isSome

end Regex

end Accrete
