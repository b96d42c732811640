import Accrete.Ini.Error
import Accrete.Ini.Line
import Accrete.Text.Part

/-!
# Settings files

A settings file has sections of options.

* `File`          -- the sections of a file, each with its options in the order of the file
* `File.parse`    -- reads a text
* `File.options`  -- the options that a section shows, those of the `DEFAULT` section included

A line that is indented deeper than the option before it continues its value, and so does a blank
line; blank lines at the end of a value are dropped.  Comments are passed over.  A line that is
neither a header nor an option does not stop the reading: all such lines are refused together at
the end, unless something else stops it first.
-/

namespace Accrete.Ini

/-- Options with their values, in the order of the file. -/
abbrev Options := List (String × String)

/-- The section whose options every other section shows as well. -/
def defaultSection : String := "DEFAULT"

/-- The sections of a file.  No two have the same name. -/
structure File where
  sections : List (String × Options)
deriving DecidableEq, Repr, Inhabited

/-- An option as it is read: its name and the lines of its value so far, the last first. -/
structure DraftOption where
  name : String
  lines : List String
deriving DecidableEq, Repr

/-- A section as it is read, the last option first. -/
structure DraftSection where
  name : String
  options : List DraftOption
deriving DecidableEq, Repr

namespace DraftOption

/-- The finished value: its lines without blanks at the end. -/
def finish (o : DraftOption) : String × String :=
  (o.name, String.ofList (Text.trimRight ("\n".intercalate o.lines.reverse).toList))

def addLine (o : DraftOption) (line : String) : DraftOption := { o with lines := line :: o.lines }

end DraftOption

namespace DraftSection

def finish (s : DraftSection) : String × Options :=
  (s.name, s.options.reverse.map DraftOption.finish)

def has (s : DraftSection) (option : String) : Bool := s.options.any (·.name == option)

end DraftSection

/-- What has been read of a file.  The section that is being read is the first one; `option` is the
    option whose value may go on, and `indent` is how far it is indented. -/
structure Draft where
  sections : List DraftSection
  option : Option String
  indent : Nat
  bad : List (Nat × String)
deriving DecidableEq, Repr

namespace Draft

def empty : Draft := ⟨[], none, 0, []⟩

/-- Moves the section of a name to the front; a new one starts without options. -/
def enter (d : Draft) (name : String) : Draft :=
  let section? := d.sections.find? (·.name == name)
  { d with
    sections := section?.getD ⟨name, []⟩ :: d.sections.filter (·.name != name)
    option := none }

/-- Opens a section.  Only the section of defaults may be opened again. -/
def openSection (d : Draft) (path : String) (number : Nat) (name : String) : Except Error Draft :=
  if name != defaultSection && d.sections.any (·.name == name) then
    .error (.sectionRepeated path number name)
  else .ok (d.enter name)

/-- Notes a line that cannot be read. -/
def refuse (d : Draft) (number : Nat) (line : String) : Draft :=
  { d with bad := d.bad ++ [(number, line)] }

/-- Sets an option in the section that is being read.  An option without a name is refused, and
    no value goes on after it. -/
def setOption (d : Draft) (path : String) (number : Nat) (line : String) (s : DraftSection)
    (others : List DraftSection) (name value : String) : Except Error Draft :=
  if s.has name then .error (.optionRepeated path number s.name name)
  else
    let d := { d with sections := { s with options := ⟨name, [value]⟩ :: s.options } :: others }
    if name.isEmpty then .ok ({ d with option := none }.refuse number line)
    else .ok { d with option := some name }

def continueValue (d : Draft) (line : String) : Draft :=
  let grow (o : DraftOption) : DraftOption := if some o.name == d.option then o.addLine line else o
  match d.sections with
  | [] => d
  | s :: others => { d with sections := { s with options := s.options.map grow } :: others }

/-- Reads one line, given its number and its text as it stands in the file. -/
def readLine (path : String) (d : Draft) (number : Nat) (line : String) : Except Error Draft :=
  match Line.ofString line with
  | .comment => .ok d
  | .blank => .ok (d.continueValue "")
  | .text indent content =>
    -- A line that is deeper than its option goes on with the value.
    if d.option.isSome && d.indent < indent then .ok (d.continueValue content)
    else
      let d := { d with indent }
      match header? content, d.sections, option? content with
      | some name, _, _ => d.openSection path number name
      | none, [], _ => .error (.headerMissing path number line)
      | none, _, none => .ok (d.refuse number line)
      | none, s :: others, some (name, value) =>
        d.setOption path number line s others name value

def readLines (path : String) : Draft → Nat → List String → Except Error Draft
  | d, _, [] => .ok d
  | d, number, line :: rest => do
    readLines path (← d.readLine path number line) (number + 1) rest

def finish (d : Draft) : File := ⟨d.sections.reverse.map DraftSection.finish⟩

end Draft

namespace File

def parse (path text : String) : Except Error File := do
  let d ← Draft.readLines path Draft.empty 1 (Text.lines text)
  if d.bad.isEmpty then return d.finish else throw (.unreadable path d.bad)

def own? (f : File) (sectionName : String) : Option Options := f.sections.lookup sectionName

def hasSection (f : File) (sectionName : String) : Bool := (f.own? sectionName).isSome

/-- The options that a section shows: its own in the order of the file, then the defaults that it
    does not set. -/
def options (f : File) (sectionName : String) : Options :=
  let own := (f.own? sectionName).getD []
  let defaults := (f.own? defaultSection).getD []
  own ++ defaults.filter fun o => !own.any (·.1 == o.1)

end File

end Accrete.Ini
