/-!
# Parts of texts

* `occursIn` -- whether a list occurs in another
* `pieces`   -- what is between marks
* `lines`         -- the lines of a text, each with the line feed that ends it
* `withLineFeeds` -- a text whose lines all end with a line feed
* `firstLine?`    -- what is before the first line feed

A line ends with a line feed, a carriage return, or both in this order; every end is read as a
single line feed.
-/

namespace Accrete.Text

def occursIn (part : List Char) : List Char → Bool
  | [] => part.isEmpty
  | c :: rest => part.isPrefixOf (c :: rest) || occursIn part rest

def pieces (mark : Char) : List Char → List (List Char)
  | [] => [[]]
  | c :: rest =>
    if c == mark then [] :: pieces mark rest
    else match pieces mark rest with
      | [] => [[c]]
      | piece :: more => (c :: piece) :: more

/-- Puts a character in front of the first line. -/
def consLine (c : Char) : List (List Char) → List (List Char)
  | [] => [[c]]
  | line :: rest => (c :: line) :: rest

def charLines : List Char → List (List Char)
  | [] => []
  | '\r' :: '\n' :: rest => ['\n'] :: charLines rest
  | c :: rest =>
    if c == '\n' || c == '\r' then ['\n'] :: charLines rest
    else consLine c (charLines rest)

/-- The lines of a text, each with the line feed that ends it. -/
def lines (s : String) : List String := (charLines s.toList).map String.ofList

/-- A text in which every end of a line is a single line feed. -/
def withLineFeeds (s : String) : String := String.ofList (charLines s.toList).flatten

/-- What is before the first line feed, unless the text is empty. -/
def firstLine? (s : String) : Option String :=
  if s.isEmpty then none else some (String.ofList (s.toList.takeWhile (· != '\n')))

end Accrete.Text
