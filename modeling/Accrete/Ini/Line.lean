import Accrete.Text.Blank
import Accrete.Text.Case

/-!
# Lines of settings files

What a line of a settings file says, apart from the lines around it.

* `Line`          -- a blank line, a comment, or text with its indentation
* `header?`       -- the section that a text opens
* `option?`       -- the option that a text sets
-/

namespace Accrete.Ini

/-- A line of a settings file. -/
inductive Line where
  | blank
  | comment
  /-- Text without blanks at either end, and how many blanks stood before it. -/
  | text (indent : Nat) (content : String)
deriving DecidableEq, Repr

namespace Line

/-- Reads a line.  A comment fills its line: it starts with a number sign or a semicolon. -/
def ofString (s : String) : Line :=
  match Text.trimChars s.toList with
  | [] => .blank
  | c :: rest =>
    if c == '#' || c == ';' then .comment
    else .text (s.toList.takeWhile Text.isBlank).length (String.ofList (c :: rest))

end Line

/-- The section that a text opens: what stands between an opening bracket and the last closing
    one, if that is anything. -/
def header? (content : String) : Option String :=
  match content.toList with
  | '[' :: rest =>
    match (rest.reverse.dropWhile (· != ']')).drop 1 with
    | [] => none
    | name => some (String.ofList name.reverse)
  | _ => none

/-- Whether a character ends the name of an option. -/
def isDelimiter (c : Char) : Bool := c == '=' || c == ':'

/-- The option that a text sets: its name in lower case, which ends at the first delimiter, and
    its value.  Either may be empty. -/
def option? (content : String) : Option (String × String) :=
  match content.toList.dropWhile (!isDelimiter ·) with
  | [] => none
  | _ :: value =>
    let name := Text.trimRight (content.toList.takeWhile (!isDelimiter ·))
    some (Text.lower (String.ofList name), String.ofList (Text.trimChars value))

end Accrete.Ini
