import Accrete.Field.Defined
import Accrete.Proofs.Assembly.Resolution
import Mathlib

/-!
# Malformed fragments

A fragment whose fields are refused contributes no table, field, order, constraint or index.  What
it does leave is the name that it gives to its logical key, by which references are resolved.

* `Fragment.fault?`                  -- why the fields of a fragment are refused
* `Schema.outcome_gather_wellFormed` -- gathering passes over malformed fragments
* `Schema.events_gather`             -- and reports each of them
* `Schema.assemble_wellFormed`       -- what malformed fragments change in an assembled schema
-/

namespace Accrete

namespace Fragment

/-- Why the fields of a fragment are refused, if they are. -/
def fault? (f : Fragment) : Option Fault :=
  match Bag.ofValue (some f.tableName) f.fields with
  | .error (.refused fault) => some fault
  | _ => none

/-- Whether the fields of a fragment are refused. -/
def isMalformed (f : Fragment) : Bool := f.fault?.isSome

/-- The warning that a malformed fragment is left out. -/
def skipped? (f : Fragment) : Option Event := f.fault?.map (.fragmentSkipped f.tableName)

theorem fault?_eq_some {f : Fragment} {fault : Fault} :
    f.fault? = some fault ↔
      Bag.ofValue (some f.tableName) f.fields = .error (.refused fault) := by
  unfold fault?
  split <;> simp_all

/-- The fragments whose fields are not refused. -/
def wellFormed (fragments : List Fragment) : List Fragment :=
  fragments.filter (!·.isMalformed)

theorem wellFormed_cons_of_fault? {f : Fragment} {fault : Fault} (h : f.fault? = some fault)
    (rest : List Fragment) : wellFormed (f :: rest) = wellFormed rest := by
  simp [wellFormed, isMalformed, h]

theorem wellFormed_cons_of_fault?_eq_none {f : Fragment} (h : f.fault? = none)
    (rest : List Fragment) : wellFormed (f :: rest) = f :: wellFormed rest := by
  simp [wellFormed, isMalformed, h]

end Fragment

namespace Schema

open Fragment

variable {fragments : List Fragment} {s s' : Schema}

theorem contribute_eq_refused {f : Fragment} {fault : Fault} :
    s.contribute f = .error (.refused fault) ↔ f.fault? = some fault := by
  rw [fault?_eq_some, contribute]
  cases s.find? f.tableName <;>
    cases hread : Bag.ofValue (some f.tableName) f.fields <;>
    simp [Bag.overlay, hread, bind, Except.bind, pure, Except.pure]

/-- Gathering a malformed fragment reports it and does nothing else. -/
theorem gather_cons_of_fault? {f : Fragment} {fault : Fault} (h : f.fault? = some fault)
    (rest : List Fragment) :
    gather s (f :: rest) =
      Logged.report [.fragmentSkipped f.tableName fault] >>= fun _ => gather s rest := by
  rw [gather, contribute_eq_refused.2 h]

/-- Gathering a fragment that is not malformed goes on with its contribution, or stops. -/
theorem gather_cons_of_fault?_eq_none {f : Fragment} (h : f.fault? = none)
    (rest : List Fragment) :
    gather s (f :: rest) =
      Logged.ofExcept ((s.contribute f).mapError Error.declaration) >>= fun s' =>
        gather s' rest := by
  rw [gather]
  cases hcontribute : s.contribute f with
  | ok s' => rfl
  | error e =>
    cases e with
    | refused fault => simp [contribute_eq_refused.1 hcontribute] at h
    | misused cause => rfl

/-- Gathering yields what it would yield without the malformed fragments. -/
theorem outcome_gather_wellFormed (s : Schema) (fragments : List Fragment) :
    (gather s fragments).outcome = (gather s (wellFormed fragments)).outcome := by
  induction fragments generalizing s with
  | nil => rfl
  | cons f rest ih =>
    cases hfault : f.fault? with
    | some fault =>
      -- a report has no outcome of its own
      rw [gather_cons_of_fault? hfault, wellFormed_cons_of_fault? hfault,
        Logged.outcome_bind (Logged.outcome_report _), ih]
    | none =>
      rw [gather_cons_of_fault?_eq_none hfault, wellFormed_cons_of_fault?_eq_none hfault,
        gather_cons_of_fault?_eq_none hfault]
      cases s.contribute f with
      | ok s' =>
        rw [Logged.outcome_bind rfl, Logged.outcome_bind rfl, ih]
      | error e => rfl

/-- Gathering reports the malformed fragments, one by one, and nothing else. -/
theorem events_gather (h : (gather s fragments).outcome = .ok s') :
    (gather s fragments).events = fragments.filterMap Fragment.skipped? := by
  induction fragments generalizing s with
  | nil => rfl
  | cons f rest ih =>
    cases hfault : f.fault? with
    | some fault =>
      rw [gather_cons_of_fault? hfault] at h ⊢
      obtain ⟨⟨⟩, -, h⟩ := Logged.outcome_bind_eq_ok.1 h
      rw [Logged.events_bind (Logged.outcome_report _), ih h,
        List.filterMap_cons_some (by rw [skipped?, hfault]; rfl)]
      rfl
    | none =>
      rw [gather_cons_of_fault?_eq_none hfault] at h ⊢
      obtain ⟨s₁, hs₁, h⟩ := Logged.outcome_bind_eq_ok.1 h
      rw [Logged.events_bind hs₁, ih h, List.filterMap_cons_none (by rw [skipped?, hfault]; rfl)]
      rfl

theorem physicalName_of_forall (h : ∀ f ∈ fragments, f.tableName = f.key) (key : String) :
    physicalName fragments key = key := by
  rw [physicalName, physicalName?]
  cases hfind : fragments.reverse.find? fun f => f.key = key with
  | none => rfl
  | some f =>
    have hkey : f.key = key := by simpa using List.find?_some hfind
    have hmem := List.mem_reverse.1 (List.mem_of_find?_eq_some hfind)
    rw [Option.map_some, Option.getD_some, h f hmem, hkey]

/-- Without the malformed fragments assembly yields the same tables, and differs at most in the
    tables that references are resolved to.  It yields the same schema just where no malformed
    fragment changes the name of a table that is mentioned. -/
theorem assemble_wellFormed (h : (assemble fragments).outcome = .ok s) :
    ∃ gathered, (gather [] (wellFormed fragments)).outcome = .ok gathered ∧
      s = gathered.map (Table.resolved fragments) ∧
      (assemble (wellFormed fragments)).outcome =
        .ok (gathered.map (Table.resolved (wellFormed fragments))) ∧
      ((assemble (wellFormed fragments)).outcome = .ok s ↔
        ∀ m, gathered.Mentions m →
          physicalName fragments m = physicalName (wellFormed fragments) m) := by
  obtain ⟨gathered, hgathered, hcheck, rfl⟩ := assemble_eq_ok.1 h
  -- the names of all fragments are still given to what is gathered without the malformed ones
  rw [outcome_gather_wellFormed] at hgathered
  have hwellFormed := assemble_eq_ok.2 ⟨gathered, hgathered, hcheck, rfl⟩
  refine ⟨gathered, hgathered, rfl, hwellFormed, ?_⟩
  rw [hwellFormed, Except.ok.injEq, eq_comm, map_resolved_inj]

/-- A table whose fields are a list, under the name of an entity if there is one. -/
def listedUser (entityName : Option String) : Fragment :=
  ⟨"user", .list [], none, entityName, [], []⟩

/-- A table that references the one with the logical key `user`. -/
def userReferrer : Fragment :=
  ⟨"post", .mapping [(.text "author", .mapping
    [(.text "type", .text "string"), (.text "references", .text "user")])], none, none, [], []⟩

/-- What becomes of it, given the name of the table that is referenced. -/
def referrerTo (user : String) : Table :=
  ⟨"post", [(.text "author", { Field.plain .string with
    references := .reference ⟨.text user, .text "id", none⟩ })], Number.infinity, [], []⟩

/-- A malformed fragment that gives its table no other name leaves no trace. -/
theorem assemble_listedUser :
    (assemble [listedUser none, userReferrer]).outcome = .ok [referrerTo "user"] ∧
      (assemble (wellFormed [listedUser none, userReferrer])).outcome =
        .ok [referrerTo "user"] := by
  have h : (assemble [listedUser none, userReferrer]).outcome = .ok [referrerTo "user"] := by cbv
  obtain ⟨gathered, -, -, -, hiff⟩ := assemble_wellFormed h
  refine ⟨h, hiff.2 fun m _ => ?_⟩
  have hname : ∀ f ∈ [listedUser none, userReferrer], f.tableName = f.key := by
    simp only [List.forall_mem_cons]
    exact ⟨rfl, rfl, by simp⟩
  have hkept : ∀ f ∈ wellFormed [listedUser none, userReferrer], f.tableName = f.key :=
    fun f hf => hname f (List.mem_of_mem_filter hf)
  rw [physicalName_of_forall hname, physicalName_of_forall hkept]

/-- A malformed fragment that names its table leads a reference to a table that is nowhere. -/
theorem assemble_listedUser_renamed :
    (assemble [listedUser (some "accounts"), userReferrer]).outcome =
        .ok [referrerTo "accounts"] ∧
      (assemble (wellFormed [listedUser (some "accounts"), userReferrer])).outcome =
        .ok [referrerTo "user"] ∧
      [referrerTo "accounts"] ≠ [referrerTo "user"] := by
  refine ⟨by cbv, by cbv, ?_⟩
  simp [referrerTo]

end Schema

end Accrete
