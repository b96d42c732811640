import Accrete.Consent
import Accrete.Error

/-!
# Schema modules

Modules that hold table fragments, and how they are found by name.

* `SchemaModule`            -- a module with its attributes
* `SchemaModule.fragments`  -- the fragments it holds, each one once
* `SchemaModule.locate`     -- the module of a dotted name, or why there is none
* `SchemaModule.standing`   -- the modules that are always there
-/

namespace Accrete

/-- A fragment as an object: two attributes hold the same one if its identities agree. -/
structure FragmentObject where
  identity : Nat
  fragment : Fragment

/-- What an attribute of a module holds. -/
inductive Attribute where
  | fragment (object : FragmentObject)
  /-- Several objects at once, by the fragments among them. -/
  | group (objects : List FragmentObject)
  | other

namespace Attribute

def objects : Attribute → List FragmentObject
  | fragment object => [object]
  | group objects => objects
  | other => []

end Attribute

/-- A module with its attributes in order of definition.  A package may hold other modules. -/
structure SchemaModule where
  name : String
  isPackage : Bool
  attributes : List (String × Attribute)

/-- Why there is no module of a name. -/
structure ImportFault where
  /-- The module that is missing, which is the one asked for or one on the way to it. -/
  name : String
  /-- What should hold it but is no package. -/
  parent : Option String
deriving DecidableEq, Repr

namespace ImportFault

def message (f : ImportFault) : String :=
  "No module named " ++ Text.quote f.name ++ match f.parent with
    | some parent => "; " ++ Text.quote parent ++ " is not a package"
    | none => ""

end ImportFault

/-- Keeps the first of all objects that are the same. -/
def distinctObjects (objects : List FragmentObject) : List FragmentObject :=
  objects.foldl (fun seen o =>
    if seen.any (·.identity == o.identity) then seen else seen ++ [o]) []

namespace SchemaModule

/-- The fragments of the attributes that are not private, in order of definition, each one
    once. -/
def fragments (m : SchemaModule) : List Fragment :=
  let shown := m.attributes.filter fun a => a.1.toList.head? != some '_'
  (distinctObjects (shown.flatMap (·.2.objects))).map (·.fragment)

def find? (modules : List SchemaModule) (name : String) : Option SchemaModule :=
  modules.find? fun m => m.name = name

/-- A dotted name, given its parts from the last to the first. -/
def dotted (parts : List String) : String := ".".intercalate parts.reverse

/-- The module of a dotted name, given its parts from the last to the first.  One that is not
    there itself is looked for in the one that should hold it. -/
def locateParts (modules : List SchemaModule) : List String → Except ImportFault SchemaModule
  | [] => .error ⟨"", none⟩
  | part :: above =>
    let name := dotted (part :: above)
    match find? modules name, above with
    | some m, _ => .ok m
    | none, [] => .error ⟨name, none⟩
    | none, _ :: _ => do
      let parent ← locateParts modules above
      throw ⟨name, if parent.isPackage then none else some parent.name⟩

def locate (modules : List SchemaModule) (name : String) : Except ImportFault SchemaModule :=
  locateParts modules (name.splitOn ".").reverse

/-- A package without fragments. -/
def package (name : String) : SchemaModule := ⟨name, true, []⟩

def consentObjects : List FragmentObject :=
  Consent.core.zipIdx.map fun (fragment, identity) => ⟨identity, fragment⟩

/-- The module of the consent tables.  Its core tables are held one by one and together. -/
def consent : SchemaModule :=
  let names := ["SUBJECT", "CONSENT_PURPOSE", "DOMAIN", "CONSENT_POLICY", "CONSENT", "AUDIT_LOG"]
  ⟨"schemakit.contrib.consent", false,
    names.zip (consentObjects.map .fragment) ++ [("CORE_FRAGMENTS", .group consentObjects)]⟩

def standing : List SchemaModule :=
  [package "schemakit", package "schemakit.contrib", consent]

end SchemaModule

end Accrete
