import Accrete.Text.Quoted

/-!
# Errors in settings files

Why a settings file cannot be read, and why one of its values cannot be filled in.
-/

namespace Accrete.Ini

/-- What is wrong with a settings file. -/
inductive Error where
  /-- A line stands before the first section header. -/
  | headerMissing (path : String) (line : Nat) (text : String)
  /-- Lines that are neither headers nor options, each with its text. -/
  | unreadable (path : String) (lines : List (Nat × String))
  | sectionRepeated (path : String) (line : Nat) (sectionName : String)
  | optionRepeated (path : String) (line : Nat) (sectionName option : String)
  /-- A value refers to an option that does not exist. -/
  | referenceUnknown (sectionName option key raw : String)
  /-- A percent sign is followed by neither a percent sign nor a reference. -/
  | strayPercent (rest : String)
  | referenceMalformed (rest : String)
  /-- References refer to each other without end. -/
  | tooDeep (sectionName option raw : String)
deriving DecidableEq, Repr

namespace Error

def shownPath (path : String) : String := "PosixPath(" ++ Text.quote path ++ ")"

/-- A line number, padded to two places. -/
def shownLine (line : Nat) : String :=
  let digits := toString line
  "[line " ++ (if digits.length < 2 then " " ++ digits else digits) ++ "]"

def message : Error → String
  | .headerMissing path line text =>
    "File contains no section headers.\nfile: " ++ shownPath path ++ ", line: " ++
      toString line ++ "\n" ++ Text.quote text
  | .unreadable path lines =>
    "Source contains parsing errors: " ++ shownPath path ++
      String.join (lines.map fun (n, text) => "\n\t" ++ shownLine n ++ ": " ++ Text.quote text)
  | .sectionRepeated path line sectionName =>
    "While reading from " ++ shownPath path ++ " " ++ shownLine line ++ ": section " ++
      Text.quote sectionName ++ " already exists"
  | .optionRepeated path line sectionName option =>
    "While reading from " ++ shownPath path ++ " " ++ shownLine line ++ ": option " ++
      Text.quote option ++ " in section " ++ Text.quote sectionName ++ " already exists"
  | .referenceUnknown sectionName option key raw =>
    "Bad value substitution: option " ++ Text.quote option ++ " in section " ++
      Text.quote sectionName ++ " contains an interpolation key " ++ Text.quote key ++
      " which is not a valid option name. Raw value: " ++ Text.quote raw
  | .strayPercent rest => "'%' must be followed by '%' or '(', found: " ++ Text.quote rest
  | .referenceMalformed rest => "bad interpolation variable reference " ++ Text.quote rest
  | .tooDeep sectionName option raw =>
    "Recursion limit exceeded in value substitution: option " ++ Text.quote option ++
      " in section " ++ Text.quote sectionName ++
      " contains an interpolation key which cannot be substituted in 10 steps. Raw value: " ++
      Text.quote raw

end Error

end Accrete.Ini
