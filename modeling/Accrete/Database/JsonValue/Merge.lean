import Accrete.Database.JsonValue

/-!
# Merging JSON

* `JsonValue.merge`   -- a value with the members of another one put over its own

A member that is null takes its namesake out.  A member that was replaced or taken out is left
alone by further members of the same label.
-/

namespace Accrete

namespace JsonValue

mutual

/-- A value without the members that are null, in it and in the objects among its members. -/
def withoutNulls : JsonValue → JsonValue
  | .object members => .object (presentMembers members)
  | v => v

/-- Members without those that are null. -/
def presentMembers : List (JsonLabel × JsonValue) → List (JsonLabel × JsonValue)
  | [] => []
  | (_, .null) :: rest => presentMembers rest
  | (label, v) :: rest => (label, v.withoutNulls) :: presentMembers rest

end

/-- A member while others are put over it, and whether that has been settled. -/
structure MergedMember where
  label : JsonLabel
  value : JsonValue
  settled : Bool

def changeMember? (label : JsonLabel) (f : MergedMember → MergedMember) :
    List MergedMember → Option (List MergedMember)
  | [] => none
  | m :: rest =>
    if m.label == label then some (f m :: rest) else (changeMember? label f rest).map (m :: ·)

/-- Members in the order in which they stand, first those that were there. -/
structure Merging where
  own : List MergedMember
  added : List (JsonLabel × JsonValue)

def Merging.object (m : Merging) : JsonValue :=
  .object ((m.own.map fun m => (m.label, m.value)) ++ m.added)

mutual

/-- A value with the members of another one put over its own. -/
def merge (target : JsonValue) : JsonValue → JsonValue
  | .object patch =>
    match target with
    | .object members =>
      (mergeMembers ⟨members.map fun (label, v) => ⟨label, v, false⟩, []⟩ patch).object
    | _ => .object (presentMembers patch)
  | v => v

/-- Members with others put over them one by one. -/
def mergeMembers (m : Merging) : List (JsonLabel × JsonValue) → Merging
  | [] => m
  | (label, v) :: rest =>
    let merged (member : MergedMember) : MergedMember :=
      if member.settled then member
      else match v, member.value with
        | .null, old => { member with value := .removed old, settled := true }
        | .object _, .object _ => { member with value := merge member.value v }
        | _, _ => { member with value := merge member.value v, settled := true }
    let m := match changeMember? label merged m.own with
      | some own => { m with own }
      | none =>
        match v with
        | .null => m
        | v => { m with added := m.added ++ [(label, v.withoutNulls)] }
    mergeMembers m rest

end

end JsonValue

end Accrete
