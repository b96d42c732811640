import Accrete.Database.Bytes
import Accrete.Database.Place
import Accrete.Text.Utf8

/-!
# Faults of functions

Why a function has no value for its arguments.

* `CallFault`          -- the reasons
* `CallFault.message`  -- the wording
-/

namespace Accrete

/-- The characters of bytes, with `U+FFFD` for what is none. -/
def Bytes.decoded (bs : Bytes) : String :=
  String.ofList (Text.Utf8.decode (bs.map fun b => .byte b.toNat))

/-- Why a function has no value for its arguments. -/
inductive CallFault where
  /-- An integer would have more than 64 bits. -/
  | integerOverflow
  /-- A text or a blob would have too many bytes. -/
  | tooBig
  | notJson
  /-- A path into JSON is not understood from here on. -/
  | badPath (rest : Bytes)
  | bytesInJson
  /-- A member of an object lacks a value. -/
  | memberIncomplete
  | labelNotText
  /-- A function that edits JSON lacks a value for its last path. -/
  | editIncomplete (verb : String)
  | escapeNotSingle
  | patternTooLong
  /-- A function is to tell what is not the same at all times. -/
  | unsteady (function : String) (place : Place)
  /-- A function that the database does not bring along stopped. -/
  | stopped
  | notAuthorized
  /-- A function belongs to tables of another kind. -/
  | outOfContext (function : String)
deriving DecidableEq, Repr

namespace CallFault

def message : CallFault → String
  | .integerOverflow => "integer overflow"
  | .tooBig => "string or blob too big"
  | .notJson => "malformed JSON"
  | .badPath rest =>
    let doubled := rest.flatMap fun b => if b == 39 then [39, 39] else [b]
    "JSON path error near '" ++ Bytes.decoded doubled ++ "'"
  | .bytesInJson => "JSON cannot hold BLOB values"
  | .memberIncomplete => "json_object() requires an even number of arguments"
  | .labelNotText => "json_object() labels must be TEXT"
  | .editIncomplete verb => "json_" ++ verb ++ "() needs an odd number of arguments"
  | .escapeNotSingle => "ESCAPE expression must be a single character"
  | .patternTooLong => "LIKE or GLOB pattern too complex"
  | .unsteady function place =>
    "non-deterministic use of " ++ function ++ "() in " ++ place.singular
  | .stopped => "user-defined function raised exception"
  | .notAuthorized => "not authorized"
  | .outOfContext function => "unable to use function " ++ function ++ " in the requested context"

end CallFault

end Accrete
