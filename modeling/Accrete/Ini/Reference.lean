import Accrete.Ini.File

/-!
# References in settings

A value may refer to other options: `%(name)s` stands for the value of `name`, and `%%` for a
percent sign.

* `Piece`        -- a part of a value as it is written
* `pieces`       -- the parts of a value
* `fill`         -- a value with its references filled in
* `File.get?`    -- the filled-in value of an option

References are followed through at most ten values, so that options that refer to each other in
a circle are refused.
-/

namespace Accrete.Ini

/-- A part of a value as it is written. -/
inductive Piece where
  | char (c : Char)
  | reference (name : String)
  /-- A percent sign that starts nothing, with all that follows. -/
  | stray (rest : String)
  /-- A reference that does not end, with all that follows. -/
  | unclosed (rest : String)
deriving DecidableEq, Repr

/-- The reference at the start of a text after its opening parenthesis: a name and what follows.
    It ends with a closing parenthesis and an `s`. -/
def reference? (cs : List Char) : Option (List Char × List Char) :=
  match cs.takeWhile (· != ')'), cs.dropWhile (· != ')') with
  | [], _ => none
  | name, ')' :: 's' :: rest => some (name, rest)
  | _, _ => none

/-- What follows a reference is shorter than the text it stands in. -/
theorem length_lt_of_reference? {cs name rest : List Char}
    (h : reference? cs = some (name, rest)) : rest.length < cs.length := by
  have le := (List.dropWhile_suffix (l := cs) (· != ')')).length_le
  unfold reference? at h
  split at h
  · contradiction
  · rename_i tail _
    simp only [Option.some.injEq, Prod.mk.injEq] at h
    rw [tail, h.2] at le
    simp only [List.length_cons] at le
    omega
  · contradiction

/-- The parts of a value.  What cannot be read ends them. -/
def pieces : List Char → List Piece
  | [] => []
  | '%' :: '%' :: rest => .char '%' :: pieces rest
  | '%' :: '(' :: rest =>
    match h : reference? rest with
    | some (name, after) =>
      have := length_lt_of_reference? h
      .reference (String.ofList name) :: pieces after
    | none => [.unclosed (String.ofList ('%' :: '(' :: rest))]
  | '%' :: rest => [.stray (String.ofList ('%' :: rest))]
  | c :: rest => .char c :: pieces rest
termination_by cs => cs.length
decreasing_by all_goals simp_wf <;> omega

/-- Where a value stands, for messages: its section, its option, and the value as written. -/
structure Place where
  sectionName : String
  option : String
  raw : String

/-- A value with its references filled in, following them through at most `depth` values. -/
def fill (options : Options) (p : Place) : (depth : Nat) → String → Except Error String
  | 0, _ => .error (.tooDeep p.sectionName p.option p.raw)
  | depth + 1, value => do
    let parts ← (pieces value.toList).mapM fun
      | .char c => .ok (String.singleton c)
      | .stray rest => .error (.strayPercent rest)
      | .unclosed rest => .error (.referenceMalformed rest)
      | .reference name =>
        match options.lookup (Text.lower name) with
        | none => .error (.referenceUnknown p.sectionName p.option (Text.lower name) p.raw)
        -- Only a value that can refer to others takes up a step of the depth.
        | some other => if other.contains '%' then fill options p depth other else .ok other
    return String.join parts

/-- Through how many values references are followed. -/
def maxDepth : Nat := 10

namespace File

/-- The filled-in form of a value that an option of a section has. -/
def filled (f : File) (sectionName option raw : String) : Except Error String :=
  fill (f.options sectionName) ⟨sectionName, option, raw⟩ maxDepth raw

def get? (f : File) (sectionName option : String) : Except Error (Option String) :=
  match (f.options sectionName).lookup option with
  | none => .ok none
  | some raw => some <$> f.filled sectionName option raw

/-- All options that a section shows, filled in, up to the first that cannot be. -/
def filledOptions (f : File) (sectionName : String) : Except Error Options :=
  (f.options sectionName).mapM fun (option, raw) =>
    return (option, ← f.filled sectionName option raw)

end File

end Accrete.Ini
