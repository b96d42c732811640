import Accrete.Proofs.Assembly.Accumulation
import Accrete.Proofs.Planning.Indexing
import Accrete.Proofs.Planning.Remainder
import Mathlib

/-!
# Types of columns that reference others

A text that references a column has the type of a generated key, whatever it references.  So it has
the type of the column that it references just where that is a key, where it is itself a text that
references another, or where all texts have one type.

* `Schema.areKeyed_assemble`    -- the columns of an assembled schema can be told apart
* `Plan.column?`                -- the column that a plan makes in a table
* `Schema.ReferencesText`       -- a text references a key, or a text that another table declares
* `referenceType_eq_iff`        -- when the two have the same type
-/

namespace Accrete

variable {d : Dialect}

theorem Schema.areKeyed_assemble {fragments : List Fragment} {s : Schema}
    (h : (assemble fragments).outcome = .ok s) : AreKeyed s.entries := by
  have hs := isAssembled_assemble h
  constructor
  case names => exact entries_nodup (assemble_nodup h)
  case distinct => exact fun t ht => assemble_distinct h t (mem_entries.1 ht)
  case keys =>
    intro t ht e he
    have hname : e.1 ∈ t.fields.names := List.mem_map_of_mem he
    rw [(hs.tables t (mem_entries.1 ht)).columns] at hname
    -- the name is one that a fragment declares
    obtain ⟨declared, hdeclared, hsame⟩ := List.mem_map.1 (Value.mem_of_mem_distinct hname)
    obtain ⟨f, hf, hmem⟩ := List.mem_flatMap.1 hdeclared
    rw [← hsame]
    exact (Fragment.columnName_of_declares (hs.declares f (List.mem_of_mem_filter hf)) _ hmem).2

namespace Field

variable {f : Field} {covered : Bool}

theorem columnType_of_hasReference (text : f.type = .string) (h : f.hasReference = true) :
    f.columnType d covered = d.idType := by
  simp [columnType, text, h]

/-- A text has the type of a key if it references something, or if all texts have that type. -/
theorem columnType_eq_idType_iff (text : f.type = .string) :
    f.columnType d covered = d.idType ↔
      d = .postgresql ∨ d = .sqlite ∨ f.hasReference = true := by
  simp only [columnType, text]
  by_cases href : f.hasReference = true
  · simp [href]
  · rw [if_neg href]
    cases d <;> split <;> simp [Dialect.idType, Dialect.indexedTextType, href]

theorem hasReference_of_reference? {r : Reference} (h : f.reference? = some r) :
    f.hasReference = true := by
  rw [reference?] at h
  cases hreferences : f.references with
  | reference r => simp [hasReference, hreferences, Value.isNull]
  | _ => simp [hreferences] at h

end Field

/-! ## Columns of a plan -/

namespace Plan

/-- The column of a name in the operation on a table. -/
def column? (p : Plan) (table : String) (name : Value) : Option Column :=
  (p.operations.find? fun op => op.table = table).bind (·.column? name)

variable {plan : Plan} {s : Schema} {t : Table}

theorem column?_congr {v w : Value} (h : v.sameKey w = true) (name : String) :
    plan.column? name v = plan.column? name w := by
  simp only [column?, Operation.column?, Value.sameKey_comm _ v, Value.sameKey_comm _ w,
    Value.sameKey_congr h]

theorem column?_of_mem (nodup : (plan.operations.map Operation.table).Nodup) {op : Operation}
    (hop : op ∈ plan.operations) (name : Value) :
    plan.column? op.table name = op.column? name := by
  obtain ⟨op', hfound⟩ := Option.isSome_iff_exists.1
    (List.find?_isSome.2 ⟨op, hop, decide_eq_true rfl⟩ :
      (plan.operations.find? fun o => o.table = op.table).isSome)
  obtain rfl : op' = op := List.inj_on_of_nodup_map nodup (List.mem_of_find?_eq_some hfound) hop
    (by simpa using List.find?_some hfound)
  rw [column?, hfound, Option.bind_some]

variable (h : plan.MakesUpFor s.entries [] d) (ht : t ∈ s)
include h ht

theorem MakesUpFor.column?_field (keyed : AreKeyed s.entries) {e : Value × Field}
    (he : e ∈ t.fields) :
    plan.column? t.name e.1 = some (e.2.column e.1 d t.complete.groups.flatten) := by
  have hmem := Schema.mem_entries.2 ht
  obtain ⟨c, hc, hname, hcolumn⟩ :=
    h.exists_creation hmem rfl (keyed.distinct t hmem) he (keyed.keys t hmem e he)
  rw [← hname, ← hcolumn]
  exact column?_of_mem h.nodup hc e.1

theorem MakesUpFor.column?_key {name : Value} (hkey : name.text? = some primaryKeyName) :
    plan.column? t.name name = some (Table.keyColumn d) := by
  have hop := (h.mem_operations_iff _).2 (.inl ⟨t, Schema.mem_entries.2 ht, rfl, rfl⟩)
  refine (column?_of_mem h.nodup hop name).trans ?_
  have hsame : (Table.keyColumn d).name.sameKey name = true := by
    rw [Table.keyColumn, Value.sameKey_of_text? rfl hkey]
    exact beq_self_eq_true _
  exact List.find?_cons_of_pos hsame

end Plan

/-! ## References -/

/-- A text of a table references the generated key of a table, or a text that this one declares. -/
structure Schema.ReferencesText (s : Schema) (t : Table) (e : Value × Field) (r : Reference)
    (u : Table) : Prop where
  source : t ∈ s
  field : e ∈ t.fields
  text : e.2.type = .string
  reference : e.2.reference? = some r
  target : u ∈ s
  model : r.model.text? = some u.name
  column : r.column.text? = some primaryKeyName ∨
    ∃ f ∈ u.fields, f.2.type = .string ∧ f.1.sameKey r.column = true

/-- In the plan of a new database a text that references a column has the type of a key.  It has the
    type of the column that it references just where that is the generated key or itself references
    another, unless keys and texts have one type. -/
theorem referenceType_eq_iff {fragments : List Fragment} {schema : Schema} {found : Difference}
    {plan : Plan} (hassemble : (Schema.assemble fragments).outcome = .ok schema)
    (hfound : (difference schema.entries [] d).outcome = .ok found)
    (hplan : (Plan.build found.toCreate found.toAdd d).outcome = .ok plan)
    {t u : Table} {e : Value × Field} {r : Reference} (h : schema.ReferencesText t e r u) :
    ∃ c c', plan.column? t.name e.1 = some c ∧ plan.column? u.name r.column = some c' ∧
      c.type = d.idType ∧
      (c.type = c'.type ↔ d = .postgresql ∨ d = .sqlite ∨
        r.column.text? = some primaryKeyName ∨
        ∃ f ∈ u.fields, f.1.sameKey r.column = true ∧ f.2.hasReference = true) := by
  have keyed := Schema.areKeyed_assemble hassemble
  have hmakes := Plan.build_difference_makesUpFor keyed.names hfound hplan
  have hc := hmakes.column?_field h.source keyed h.field
  have htype : (e.2.column e.1 d t.complete.groups.flatten).type = d.idType :=
    Field.columnType_of_hasReference h.text (Field.hasReference_of_reference? h.reference)
  by_cases hkey : r.column.text? = some primaryKeyName
  · exact ⟨_, _, hc, hmakes.column?_key h.target hkey, htype, by simp [htype, hkey, Table.keyColumn]⟩
  · obtain ⟨f, hf, htext, hsame⟩ := h.column.resolve_left hkey
    have hc' := hmakes.column?_field h.target keyed hf
    rw [Plan.column?_congr hsame] at hc'
    have href : (∃ f' ∈ u.fields, f'.1.sameKey r.column = true ∧ f'.2.hasReference = true) ↔
        f.2.hasReference = true := by
      refine ⟨?_, fun href => ⟨f, hf, hsame, href⟩⟩
      rintro ⟨f', hf', hsame', href⟩
      -- both go by the name that the reference states
      rw [Value.sameKey_comm] at hsame
      obtain rfl := Bag.eq_of_sameKey (keyed.distinct u (Schema.mem_entries.2 h.target)) hf' hf
        (Value.sameKey_trans hsame' hsame)
      exact href
    refine ⟨_, _, hc, hc', htype, ?_⟩
    rw [htype, eq_comm, href, Field.column, Field.columnType_eq_idType_iff htext]
    simp [hkey]

/-- Posts, the author of which is a user, by a column that a target may state. -/
def authoredPosts (target : String) : List Fragment :=
  [⟨"user", .mapping [(.text "email", .mapping
      [(.text "type", .text "string"), (.text "unique", .bool true)])], none, none, [], []⟩,
    ⟨"post", .mapping [(.text "author", .mapping
      [(.text "type", .text "string"), (.text "references", .text target)])], none, none, [], []⟩]

def emailedUser : Table :=
  ⟨"user", [(.text "email", { Field.plain .string with unique := .bool true })],
    Number.infinity, [], []⟩

def authorOf (column : String) : Reference := ⟨.text "user", .text column, none⟩

def authorField (column : String) : Value × Field :=
  (.text "author", { Field.plain .string with references := .reference (authorOf column) })

def authoredPost (column : String) : Table :=
  ⟨"post", [authorField column], Number.infinity, [], []⟩

theorem authoredPost_referencesText (column : String)
    (h : column = primaryKeyName ∨ column = "email") :
    Schema.ReferencesText [emailedUser, authoredPost column] (authoredPost column)
      (authorField column) (authorOf column) emailedUser := by
  refine ⟨.tail _ (.head _), .head _, rfl, rfl, .head _, rfl, ?_⟩
  rcases h with rfl | rfl
  · exact .inl rfl
  · exact .inr ⟨_, .head _, rfl, by rw [authorOf, Value.sameKey_text]; rfl⟩

theorem exists_plan_authoredPost (column : String) (h : column = primaryKeyName ∨ column = "email") :
    ∃ found plan,
      (difference (Schema.entries [emailedUser, authoredPost column]) [] .mysql).outcome =
        .ok found ∧
      (Plan.build found.toCreate found.toAdd .mysql).outcome = .ok plan := by
  have hfound : (difference (Schema.entries [emailedUser, authoredPost column]) [] .mysql).outcome =
      .ok ⟨[emailedUser, authoredPost column], []⟩ := by cbv
  have hordered : (creationOrder [emailedUser, authoredPost column]).outcome =
      .ok [emailedUser, authoredPost column] := by cbv
  have hruns : (Plan.ofOrdered [emailedUser, authoredPost column]
      ((extensionsByOrder []).mapM (·.plan .mysql)) .mysql).outcome.isOk = true := by
    rcases h with rfl | rfl <;> decide +kernel
  obtain ⟨plan, hplan⟩ := Except.eq_ok_of_isOk hruns
  exact ⟨_, plan, hfound, by rw [Plan.build, Logged.outcome_bind hordered, hplan]⟩

/-- The author of a post has the type of the key of users. -/
theorem author_type_eq_key :
    ∃ schema found plan c c', (Schema.assemble (authoredPosts "user")).outcome = .ok schema ∧
      (difference schema.entries [] .mysql).outcome = .ok found ∧
      (Plan.build found.toCreate found.toAdd .mysql).outcome = .ok plan ∧
      schema.ReferencesText (authoredPost "id") (authorField "id") (authorOf "id") emailedUser ∧
      plan.column? "post" (.text "author") = some c ∧ plan.column? "user" (.text "id") = some c' ∧
      c.type = c'.type := by
  have hassemble : (Schema.assemble (authoredPosts "user")).outcome =
      .ok [emailedUser, authoredPost "id"] := by cbv
  obtain ⟨found, plan, hfound, hplan⟩ := exists_plan_authoredPost "id" (.inl rfl)
  have href := authoredPost_referencesText "id" (.inl rfl)
  obtain ⟨c, c', hc, hc', -, hsame⟩ := referenceType_eq_iff hassemble hfound hplan href
  exact ⟨_, found, plan, c, c', hassemble, hfound, hplan, href, hc, hc',
    hsame.2 (.inr (.inr (.inl rfl)))⟩

/-- The author of a post is too short for the email address of a user. -/
theorem author_type_ne_email :
    ∃ schema found plan c c', (Schema.assemble (authoredPosts "user.email")).outcome = .ok schema ∧
      (difference schema.entries [] .mysql).outcome = .ok found ∧
      (Plan.build found.toCreate found.toAdd .mysql).outcome = .ok plan ∧
      schema.ReferencesText (authoredPost "email") (authorField "email") (authorOf "email")
        emailedUser ∧
      plan.column? "post" (.text "author") = some c ∧
      plan.column? "user" (.text "email") = some c' ∧
      c.type = "varchar(36)" ∧ c'.type = "varchar(255)" := by
  have hassemble : (Schema.assemble (authoredPosts "user.email")).outcome =
      .ok [emailedUser, authoredPost "email"] := by cbv
  obtain ⟨found, plan, hfound, hplan⟩ := exists_plan_authoredPost "email" (.inr rfl)
  have keyed := Schema.areKeyed_assemble hassemble
  have hmakes := Plan.build_difference_makesUpFor keyed.names hfound hplan
  have href := authoredPost_referencesText "email" (.inr rfl)
  exact ⟨_, found, plan, _, _, hassemble, hfound, hplan, href,
    hmakes.column?_field href.source keyed href.field,
    hmakes.column?_field href.target keyed (.head _), rfl, rfl⟩

end Accrete
