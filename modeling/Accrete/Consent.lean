import Accrete.Field.Defined
import Accrete.Schema

/-!
# Consent tables

A complete example schema: subjects give consent for purposes on domains under a policy, and
every change lands in an audit log.

* `Consent.core`      -- the six core fragments
* `Consent.fragments` -- the core fragments followed by those of plug-ins
-/

namespace Accrete.Consent

def required (type : LogicalType) : Field := Field.plain type

def optional (type : LogicalType) : Field := { Field.plain type with required := .bool false }

/-- A field that is set to the time of writing. -/
def stamped : Field := { Field.plain .date with default := .computed .now }

def initiallyFalse : Field := { Field.plain .boolean with default := .computed .no }

def initiallyTrue : Field := { Field.plain .boolean with default := .static (.bool true) }

/-- A field that references the key of another table. -/
def keyOf (model : String) (f : Field) : Field :=
  { f with references := .reference ⟨.text model, .text Reference.defaultColumn, none⟩ }

def fragment (key : String) (order : Int) (fields : List (String × Field)) : Fragment :=
  ⟨key, Bag.toValue (fields.map fun e => (.text e.1, e.2)), some (.int order), none, [], []⟩

def subject : Fragment := fragment "subject" 1
  [("isIdentified", initiallyFalse),
   ("externalId", optional .string),
   ("identityProvider", optional .string),
   ("lastIpAddress", optional .string),
   ("createdAt", stamped),
   ("updatedAt", stamped),
   ("subjectTimezone", { optional .timezone with default := .static (.text "UTC") })]

def purpose : Fragment := fragment "consentPurpose" 1
  [("code", { required .string with unique := .bool true }),
   ("name", required .string),
   ("description", required .string),
   ("isEssential", initiallyFalse),
   ("dataCategory", optional .string),
   ("legalBasis", optional .string),
   ("isActive", initiallyTrue),
   ("createdAt", stamped),
   ("updatedAt", stamped)]

def domain : Fragment := fragment "domain" 1
  [("name", { required .string with unique := .bool true }),
   ("description", optional .string),
   ("allowedOrigins", optional .stringArray),
   ("isVerified", initiallyTrue),
   ("isActive", initiallyTrue),
   ("createdAt", stamped),
   ("updatedAt", optional .date)]

/-- The policy that consent is given under; a version and a name identify one. -/
def policy : Fragment :=
  { fragment "consentPolicy" 2
      [("version", required .string),
       ("name", required .string),
       ("effectiveDate", required .date),
       ("expirationDate", optional .date),
       ("content", required .string),
       ("contentHash", required .string),
       ("isActive", initiallyTrue),
       ("createdAt", stamped)] with
    uniqueConstraints := [[.text "version", .text "name"]] }

def consent : Fragment := fragment "consent" 3
  [("subjectId", { keyOf "subject" (required .string) with indexed := .bool true }),
   ("domainId", keyOf "domain" (required .string)),
   ("purposeIds", optional .stringArray),
   ("metadata", optional .json),
   ("policyId", keyOf "consentPolicy" (optional .string)),
   ("ipAddress", optional .string),
   ("userAgent", optional .string),
   ("status", { required .string with default := .static (.text "active") }),
   ("withdrawalReason", optional .string),
   ("givenAt", stamped),
   ("validUntil", optional .date),
   ("isActive", initiallyTrue)]

/-- The log of every change. -/
def auditLog : Fragment := fragment "auditLog" 5
  [("entityType", required .string),
   ("entityId", { required .string with indexed := .bool true }),
   ("actionType", required .string),
   ("subjectId", keyOf "subject" (optional .string)),
   ("ipAddress", optional .string),
   ("userAgent", optional .string),
   ("changes", optional .json),
   ("metadata", optional .json),
   ("createdAt", stamped),
   ("eventTimezone", { required .timezone with default := .static (.text "UTC") })]

def core : List Fragment := [subject, purpose, domain, policy, consent, auditLog]

/-- The core fragments followed by those of plug-ins.  A plug-in fragment that shares a key with
    a core table extends it. -/
def fragments (plugins : List Fragment) : List Fragment := core ++ plugins

end Accrete.Consent
