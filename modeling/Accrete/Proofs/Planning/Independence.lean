import Accrete.Migration
import Accrete.Proofs.Assembly.Shuffling
import Accrete.Proofs.Planning.Comparison

/-!
# Plans of shuffled fragments

What is planned does not depend on the sequence in which unrelated fragments are declared.

* `Migration.between`     -- a difference and its plan, whatever the database is
* `difference_congr`      -- a difference does not depend on the sequence of a schema's tables
* `between_of_shuffled`   -- nor does a plan on that of unrelated fragments
-/

namespace Accrete

/-- What makes up for the difference between a schema and live tables. -/
def Migration.between (schema : Schema) (live : List LiveTable) (d : Dialect) :
    Logged Migration := do
  let found ← Accrete.difference schema.entries live d
  let plan ← Plan.build found.toCreate found.toAdd d
  return ⟨found, plan⟩

theorem Migration.against_eq_between (schema : Schema) (d : Dialect) (db : Database)
    (schemaName : Option String) :
    against schema d db schemaName =
      db.introspect schemaName >>= fun live => between schema live d := rfl

variable {entries entries' : List SchemaEntry} {live : List LiveTable} {d : Dialect}

/-- What is found does not depend on the sequence of entries. -/
theorem difference_congr (names : (entries.map SchemaEntry.name).Nodup)
    (h : entries'.Perm entries) {found : Difference} :
    (difference entries' live d).outcome = .ok found ↔
      (difference entries live d).outcome = .ok found := by
  obtain ⟨hextensions, hcreations, -⟩ := List.nodup_append.1 (nodup_lacking live names)
  have hcreate : creationOrder (SchemaEntry.creations live entries') =
      creationOrder (SchemaEntry.creations live entries) :=
    (creationOrder_congr hcreations (h.symm.filterMap _)).symm
  have hadd : extensionsByOrder (SchemaEntry.extensions live entries') =
      extensionsByOrder (SchemaEntry.extensions live entries) :=
    (byOrderAndName_congr hextensions (h.symm.filterMap _)).symm
  simp only [difference_eq_ok, h.mem_iff, hcreate, hadd]

/-- Fragments are declared in another sequence, in which those that have a logical key or a table
    in common keep theirs.  The same tables are assembled.  Whatever they are compared with, the
    same difference is found, and then there is the same plan, or planning stops for the same
    reason.  Comparing cannot fail unless a fragment names a column by something that is no key. -/
theorem between_of_shuffled {fs gs : List Fragment} {s : Schema} (h : Shuffled fs gs)
    (hs : (Schema.assemble fs).outcome = .ok s) :
    ∃ s', (Schema.assemble gs).outcome = .ok s' ∧ s'.Perm s ∧ ∀ live d,
      (∃ found, (difference s.entries live d).outcome = .ok found ∧
        (difference s'.entries live d).outcome = .ok found ∧
        (Migration.between s' live d).outcome = (Migration.between s live d).outcome) ∨
      (∃ f ∈ fs, ¬ f.NamesColumnsByKeys) ∧
        ∀ found, (difference s.entries live d).outcome ≠ .ok found ∧
          (difference s'.entries live d).outcome ≠ .ok found := by
  obtain ⟨s', hs', hperm⟩ := h.perm_assemble hs
  have names := Schema.entries_nodup (Schema.assemble_nodup hs)
  have hsame : ∀ live d found, (difference s'.entries live d).outcome = .ok found ↔
      (difference s.entries live d).outcome = .ok found :=
    fun live d found => difference_congr names (hperm.map _)
  refine ⟨s', hs', hperm, fun live d => ?_⟩
  by_cases hfound : ∃ found, (difference s.entries live d).outcome = .ok found
  · obtain ⟨found, hfound⟩ := hfound
    have hfound' := (hsame live d found).2 hfound
    -- planning depends on nothing but what is found
    refine .inl ⟨found, hfound, hfound', ?_⟩
    rw [Migration.between, Migration.between, Logged.outcome_bind hfound,
      Logged.outcome_bind hfound']
  · refine .inr ⟨?_, fun found => ⟨fun h => hfound ⟨found, h⟩,
      fun h => hfound ⟨found, (hsame live d found).1 h⟩⟩⟩
    by_contra htyped
    have hreadable := Schema.checkColumnKeys_assemble (by simpa using htyped) hs
    obtain ⟨found, h⟩ := exists_difference
      (fun t ht => hreadable t (Schema.mem_entries.1 ht)) live d
    exact hfound ⟨found, h⟩

/-- A fragment that declares one column. -/
def columnFragment (key column : String) (references : Value) : Fragment :=
  ⟨key, .mapping [(.text column, .mapping
    [(.text "type", .text "string"), (.text "references", references)])], none, none, [], []⟩

/-- A table that is referenced may be declared first or second, and a second fragment of it comes
    last. -/
theorem between_of_doorFirst :
    let door := columnFragment "door" "room" (.text "room")
    let room := columnFragment "room" "label" .null
    let again := columnFragment "room" "size" .null
    Shuffled [door, room, again] [room, door, again] ∧ ∃ s s',
      (Schema.assemble [door, room, again]).outcome = .ok s ∧
      (Schema.assemble [room, door, again]).outcome = .ok s' ∧
      (Migration.between s' [] .sqlite).outcome = (Migration.between s [] .sqlite).outcome := by
  intro door room again
  have hshuffled : Shuffled [door, room, again] [room, door, again] := by
    have hget : ∀ i : Fin 3, [room, door, again].get (Equiv.swap (0 : Fin 3) 1 i) =
        [door, room, again].get i
      | 0 => rfl
      | 1 => rfl
      | 2 => rfl
    exact ⟨Equiv.swap (0 : Fin 3) 1, hget, by decide⟩
  have hassembled : (Schema.assemble [door, room, again]).outcome.isOk = true := by decide +kernel
  obtain ⟨s, hs⟩ := Except.eq_ok_of_isOk hassembled
  obtain ⟨s', hs', -, hsame⟩ := between_of_shuffled hshuffled hs
  rcases hsame [] .sqlite with ⟨-, -, -, hplans⟩ | ⟨⟨f, hf, hkeys⟩, -⟩
  · exact ⟨hshuffled, s, s', hs, hs', hplans⟩
  · -- none of the fragments has an index
    have hplain : ∀ f ∈ [door, room, again], f.indexes = [] ∧ f.uniqueConstraints = [] := by
      simp only [List.forall_mem_cons]
      exact ⟨⟨rfl, rfl⟩, ⟨rfl, rfl⟩, ⟨rfl, rfl⟩, by simp⟩
    obtain ⟨hindexes, hconstraints⟩ := hplain f hf
    exact absurd ⟨by simp [hindexes], by simp [hconstraints]⟩ hkeys

end Accrete
