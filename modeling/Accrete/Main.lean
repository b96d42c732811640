import Accrete.Command

/-!
# The program

Reads the files that a request may need, carries it out, and writes what has changed.  Databases
last as long as the program runs: what a migration does to one is shown, and its SQL can be
written to a file.
-/

namespace Accrete

/-- The paths that a request may read or write. -/
def Invocation.paths (i : Invocation) (here : Path) : List Path :=
  let named (s : Option String) : List Path :=
    (s.map fun name => here.join (Path.ofString name)).toList
  let planning (s : Sources) : List Path :=
    named s.config ++ here.withParents.map (·.child Settings.fileName)
  match i.request with
  | .nothing | .unspecified => []
  | .init directory _ =>
    [(Path.ofParts (Path.simplify (here.join (Path.ofString directory)).parts)).child
      Settings.fileName]
  | .plan s | .up s _ => planning s
  | .sql s output => planning s ++ named output

/-- Reads what stands at a path and at the places on the way to it. -/
def readAlong (t : FileTree) (p : Path) : IO FileTree := do
  let mut t := t
  let root ← IO.currentDir
  for q in p.withParents.reverse do
    let file := root / q.text
    if ← file.isDir then t := t.put q.parts .directory
    else if ← file.pathExists then t := t.put q.parts (.text (← IO.FS.readFile file))
  return t

/-- Writes the directories and texts that are not as they were. -/
def writeChanges (before after : FileTree) : IO Unit := do
  let root ← IO.currentDir
  for (place, node) in after.entries do
    let file := root / (Path.ofParts place).text
    match node, before.node? place with
    | .directory, none => IO.FS.createDirAll file
    | .text content, some (.text known) =>
      if content != known then IO.FS.writeFile file content
    | .text content, _ => IO.FS.writeFile file content
    | _, _ => pure ()

def showEvents (events : List Event) : String :=
  CommandLine.paragraph (events.map fun e =>
    e.level.name ++ " " ++ e.source.name ++ ": " ++ e.message)

/-- What a user types, if the request asks for it. -/
def readAnswer (args : List String) : IO String := do
  match Invocation.ofArgs args with
  | .ok ⟨_, .up _ false⟩ => (← IO.getStdin).getLine
  | _ => return ""

/-- Carries out arguments and yields the exit code. -/
def runProgram (args : List String) : IO UInt32 := do
  let here := Path.ofString (← IO.currentDir).toString
  let paths := match Invocation.ofArgs args with
    | .ok i => i.paths here
    | .error _ => []
  let files ← (here :: paths).foldlM readAlong ⟨here.parts, []⟩
  let world : World := ⟨files, ← IO.getEnv "SCHEMAKIT_DATABASE_URL", SchemaModule.standing⟩
  let outcome := world.run args (← readAnswer args)
  writeChanges files outcome.files
  IO.eprint (showEvents outcome.events)
  IO.print outcome.printed
  match outcome.exit with
  | .ok code => return code.toUInt32
  | .error e =>
    IO.eprintln e.message
    return 1

end Accrete

def main (args : List String) : IO UInt32 := Accrete.runProgram args
