import Accrete.Proofs.Migrating.Replanning
import Accrete.Proofs.Migrating.Success

/-!
# Resuming a migration

A migration that is stopped after some of its statements is resumed by another one, which makes up
for what was left, but for some indexes: nothing ever looks at the indexes of a live table.

* `Replanning.perm`        -- what is left of the statements leads to the same as all of them
* `Plan.statements`        -- the statements of a plan, operation by operation
* `Migration.resumed_perm` -- what a migration leads to that was stopped and resumed
-/

namespace Accrete

namespace Replanning

variable {entries : List SchemaEntry} {db stopped full final : Database}
  {live live' : List LiveTable} {xs xs' : List Extension} {ts ts' : List Table}
  {before after : List Statement}
  (h : Replanning entries db stopped full final live live' xs xs' ts ts' before after)
include h

theorem length_fields_le {x : Extension} (hx : x ∈ xs) : x.fields.length ≤ x.script.length := by
  obtain ⟨t, l, ht, hl, hne, rfl⟩ := h.first.mem_extensions.1 hx
  obtain ⟨texts, indexes, -, hscript⟩ := h.first.script_extension ht (h.distinct t ht) hl hne
  rw [hscript, List.length_append, List.length_map]
  exact Nat.le_add_right ..

/-- What is executed is the same, but for the order of creations and for indexes that are left
    out. -/
theorem perm_of_left (done : List Statement) {left more : List Statement} {tables : List Table}
    (hafter : after = left ++ (more ++ tables.flatMap Table.script))
    (hxs : xs'.flatMap Extension.script = (left.filter fun s => !s.isIndexOver done) ++ more)
    (hts : ts'.Perm tables) :
    final.tables.Perm full.tables ∧ ∃ missing, full.indexes.Perm (final.indexes ++ missing) ∧
      List.Forall₂ Statement.Makes (left.filter (·.isIndexOver done)) missing := by
  have hcreations : ∀ s ∈ tables.flatMap Table.script, s.IsCreation := by
    intro s hs
    obtain ⟨t, ht, hs⟩ := List.mem_flatMap.1 hs
    exact Operation.isCreation_of_mem_script t.isPlanned_creation
      (h.second.created t (hts.symm.subset ht)) s hs
  -- both go on from where the first one was stopped
  have hfull := hafter ▸ h.runs_after
  have hfinal := h.second.runs
  rw [hxs, List.append_assoc] at hfinal
  obtain ⟨htables, missing, hindexes, hmakes⟩ := Database.perm_of_runs h.stopped_namesDiffer
    (fun s => !s.isIndexOver done)
    (fun s _ hs => Statement.isIndex_of_isIndexOver (by simpa using hs))
    hcreations (hts.flatMap_right Table.script) hfull hfinal
  simp only [Bool.not_not] at hmakes
  exact ⟨htables, missing, hindexes, hmakes⟩

theorem extensions_eq_nil (hmade : ∀ x ∈ xs, ∀ s ∈ x.script, s ∈ before) : xs' = [] := by
  rw [h.extensions_eq (xs.map fun x => (x, x.script.length)) (by simp [Function.comp_def]),
    List.map_eq_nil_iff, List.filter_eq_nil_iff]
  · exact List.forall_mem_map.2 fun x hx => by simpa using h.length_fields_le hx
  · exact List.forall_mem_map.2 fun x hx s hs => hmade x hx s (List.mem_of_mem_take hs)
  · exact List.forall_mem_map.2 fun x hx s hs => by simp at hs

section Addition

variable {made left : List Extension} {x : Extension} {k : ℕ} (hxs : xs = made ++ x :: left)
  (hbefore : before = made.flatMap Extension.script ++ x.script.take k)
  (hafter : after = x.script.drop k ++
    (left.flatMap Extension.script ++ ts.flatMap Table.script))
include hxs hbefore hafter

/-- What is added again if an extension was cut is what was left of it, and then the later ones. -/
theorem extensions_eq_append :
    xs' = (if k < x.fields.length then [x.after k] else []) ++ left := by
  have hleft : ∀ y ∈ left, y.after 0 = y ∧ 0 < y.fields.length := by
    intro y hy
    obtain ⟨t, l, -, -, hne, rfl⟩ := h.first.mem_extensions.1
      (hxs ▸ List.mem_append_right _ (List.mem_cons_of_mem _ hy))
    exact ⟨Table.extensionBy_after .., List.length_pos_of_ne_nil hne⟩
  -- the extensions before it are cut at their ends, and those after it at their beginnings
  rw [h.extensions_eq (made.map (fun y => (y, y.script.length)) ++ (x, k) ::
    left.map fun y => (y, 0)) (by simp [Function.comp_def, hxs])]
  · have hnone : ((made.map fun y => (y, y.script.length)).filter fun p : Extension × ℕ =>
        p.2 < p.1.fields.length) = [] :=
      List.filter_eq_nil_iff.2 <| List.forall_mem_map.2 fun y hy => by
        simpa using h.length_fields_le (hxs ▸ List.mem_append_left _ hy)
    have hall : ((left.map fun y => (y, 0)).filter fun p : Extension × ℕ =>
        p.2 < p.1.fields.length) = left.map fun y => (y, 0) :=
      List.filter_eq_self.2 <| List.forall_mem_map.2 fun y hy => by simpa using (hleft y hy).2
    have hsame : left.map (fun y => y.after 0) = left :=
      (List.map_congr_left fun y hy => (hleft y hy).1).trans (List.map_id' left)
    rw [List.filter_append, hnone, List.nil_append, List.filter_cons, hall]
    by_cases hk : k < x.fields.length <;> simp [hk, Function.comp_def, hsame]
  · subst hbefore
    refine List.forall_mem_append.2 ⟨List.forall_mem_map.2 fun y hy s hs => ?_,
      List.forall_mem_cons.2 ⟨fun s hs => List.mem_append_right _ hs,
        List.forall_mem_map.2 fun y hy s hs => by simp at hs⟩⟩
    exact List.mem_append_left _ (List.mem_flatMap.2 ⟨y, hy, List.mem_of_mem_take hs⟩)
  · subst hafter
    refine List.forall_mem_append.2 ⟨List.forall_mem_map.2 fun y hy s hs => by simp at hs,
      List.forall_mem_cons.2 ⟨fun s hs => List.mem_append_left _ hs,
        List.forall_mem_map.2 fun y hy s hs => ?_⟩⟩
    exact List.mem_append_right _ (List.mem_append_left _ (List.mem_flatMap.2 ⟨y, hy, hs⟩))

/-- The statements of what is left of an extension are those that were left of its statements. -/
theorem flatMap_script_eq : xs'.flatMap Extension.script =
    ((x.script.drop k).filter fun s => !s.isIndexOver (x.script.take k)) ++
      left.flatMap Extension.script := by
  have hx : x ∈ xs := hxs ▸ List.mem_append_right _ List.mem_cons_self
  have hxs' := h.extensions_eq_append hxs hbefore hafter
  have hscript := h.first.extended x hx
  rw [hxs', List.flatMap_append]
  congr 1
  obtain ⟨t, l, ht, hl, hne, rfl⟩ := h.first.mem_extensions.1 hx
  have hdistinct : (t.missingFields l).HasDistinctNames :=
    (h.distinct t ht).sublist (List.filter_sublist.map Prod.fst)
  by_cases hk : k < (t.extensionBy (t.missingFields l)).fields.length
  · rw [if_pos hk] at hxs' ⊢
    have hmem : (t.extensionBy (t.missingFields l)).after k ∈ xs' := by
      rw [hxs']
      exact List.mem_cons_self
    have hscript' := h.second.extended _ hmem
    rw [Table.extensionBy_after] at hscript' ⊢
    rw [List.flatMap_singleton]
    exact Table.statements_extensionBy_drop hdistinct hscript hk.le hscript'
  · -- all columns were added, and only indexes over them were left
    rw [if_neg hk, List.flatMap_nil]
    refine (Table.filter_isIndexOver_eq_nil hdistinct hscript (Nat.not_lt.1 hk) fun s hs => ?_).symm
    exact h.runs_after.exists_sent (hafter ▸ List.mem_append_left _ hs)

theorem perm_of_addition : final.tables.Perm full.tables ∧
    ∃ missing, full.indexes.Perm (final.indexes ++ missing) ∧ List.Forall₂ Statement.Makes
      ((x.script.drop k).filter (·.isIndexOver (x.script.take k))) missing := by
  refine h.perm_of_left _ hafter (h.flatMap_script_eq hxs hbefore hafter) ?_
  have hts : ts = [] ++ ts := rfl
  refine h.creations_perm hts (by simp) fun t ht s hs => ?_
  rw [hafter]
  exact List.mem_append_right _ (List.mem_append_right _
    (List.mem_flatMap.2 ⟨t, ht, List.mem_of_mem_head? hs⟩))

end Addition

section Creation

variable {made left : List Table}

theorem perm_of_creations (hts : ts = made ++ left)
    (hbefore : before = xs.flatMap Extension.script ++ made.flatMap Table.script)
    (hafter : after = left.flatMap Table.script) :
    final.tables.Perm full.tables ∧ final.indexes.Perm full.indexes := by
  have hxs := h.extensions_eq_nil fun x hx s hs =>
    hbefore ▸ List.mem_append_left _ (List.mem_flatMap.2 ⟨x, hx, hs⟩)
  have hperm : ts'.Perm left := h.creations_perm hts
    (fun t ht s hs => hbefore ▸ List.mem_append_right _
      (List.mem_flatMap.2 ⟨t, ht, List.mem_of_mem_head? hs⟩))
    fun t ht s hs => hafter ▸ List.mem_flatMap.2 ⟨t, ht, List.mem_of_mem_head? hs⟩
  have hafter : after = [] ++ ([] ++ left.flatMap Table.script) := hafter
  obtain ⟨htables, missing, hindexes, hmakes⟩ :=
    h.perm_of_left [] hafter (by rw [hxs]; rfl) hperm
  obtain rfl := List.forall₂_nil_left_iff.1 hmakes
  rw [List.append_nil] at hindexes
  exact ⟨htables, hindexes.symm⟩

/-- Only the indexes of a table are lost that was created before its indexes were. -/
theorem perm_of_creation {t : Table} {k : ℕ} (hts : ts = made ++ t :: left) (hk : 0 < k)
    (hbefore : before =
      xs.flatMap Extension.script ++ (made.flatMap Table.script ++ t.script.take k))
    (hafter : after = t.script.drop k ++ left.flatMap Table.script) :
    final.tables.Perm full.tables ∧
      ∃ missing, full.indexes.Perm (final.indexes ++ missing) ∧ List.Forall₂ Statement.Makes
        ((t.script.drop k).filter (·.isIndexOver (t.script.take k))) missing := by
  have hxs := h.extensions_eq_nil fun x hx s hs =>
    hbefore ▸ List.mem_append_left _ (List.mem_flatMap.2 ⟨x, hx, hs⟩)
  -- the table itself is there, since its first statement creates it
  have hperm : ts'.Perm left := by
    have hts : ts = (made ++ [t]) ++ left := by rw [hts, List.append_assoc, List.singleton_append]
    refine h.creations_perm hts (fun u hu s hs => ?_) fun u hu s hs => ?_
    · rw [hbefore]
      refine List.mem_append_right _ ?_
      rcases List.mem_append.1 hu with hu | hu
      · exact List.mem_append_left _ (List.mem_flatMap.2 ⟨u, hu, List.mem_of_mem_head? hs⟩)
      · obtain rfl := List.mem_singleton.1 hu
        refine List.mem_append_right _ (List.mem_of_mem_head? ?_)
        rwa [List.head?_take, if_neg (Nat.ne_of_gt hk)]
    · rw [hafter]
      exact List.mem_append_right _ (List.mem_flatMap.2 ⟨u, hu, List.mem_of_mem_head? hs⟩)
  have hafter' : after = t.script.drop k ++ ([] ++ left.flatMap Table.script) := hafter
  refine h.perm_of_left _ hafter' ?_ hperm
  have ht : t ∈ ts := hts ▸ List.mem_append_right _ List.mem_cons_self
  rw [hxs, TableCreation.filter_isIndexOver_eq_nil rfl rfl (h.first.created t ht) hk fun s hs =>
    h.runs_after.exists_sent (hafter ▸ List.mem_append_left _ hs)]
  rfl

end Creation

/-- What is stopped and done again is the same as what is done at once, but for indexes that the
    operation that was begun had still to create over columns that it made. -/
theorem perm : final.tables.Perm full.tables ∧
    ∃ missing, full.indexes.Perm (final.indexes ++ missing) ∧ List.Forall₂ Statement.Makes
      (Statement.neverMade (xs.map Extension.script ++ ts.map Table.script) before.length)
      missing := by
  have hcut := h.cut
  by_cases hadded : before.length < (xs.flatMap Extension.script).length
  · -- an extension was begun
    obtain ⟨made, x, left, k, hxs, hk, hlength⟩ := exists_cut _ hadded
    rw [hxs, flatMap_cut (k := k), List.append_assoc _ _ (ts.flatMap _),
      List.append_assoc (x.script.drop k)] at hcut
    obtain ⟨hbefore, hafter⟩ := List.append_inj hcut.symm
      (by simp [hlength, Nat.min_eq_left hk.le])
    rw [hlength, hxs, List.map_append, List.append_assoc, List.flatMap_def,
      Statement.neverMade_append, List.map_cons, List.cons_append, Statement.neverMade_cons hk]
    exact h.perm_of_addition hxs hbefore hafter
  obtain ⟨n, hn⟩ := Nat.exists_eq_add_of_le (Nat.not_lt.1 hadded)
  rw [hn, List.flatMap_def, Statement.neverMade_append]
  -- between two creations nothing is lost
  have hbetween : ∀ made left, ts = made ++ left → n = (made.flatMap Table.script).length →
      final.tables.Perm full.tables ∧ ∃ missing, full.indexes.Perm (final.indexes ++ missing) ∧
        List.Forall₂ Statement.Makes [] missing := by
    intro made left hts hmade
    rw [hts, List.flatMap_append, ← List.append_assoc] at hcut
    obtain ⟨hbefore, hafter⟩ := List.append_inj hcut.symm (by simp [hn, hmade])
    obtain ⟨htables, hindexes⟩ := h.perm_of_creations hts hbefore hafter
    exact ⟨htables, [], by simpa using hindexes.symm, .nil⟩
  by_cases hcreated : n < (ts.flatMap Table.script).length
  · -- a creation was begun, or was about to be
    obtain ⟨made, t, left, k, hts, hk, hlength⟩ := exists_cut _ hcreated
    rw [hlength, hts, List.map_append, List.flatMap_def, Statement.neverMade_append, List.map_cons]
    rcases Nat.eq_zero_or_pos k with rfl | hpos
    · rw [Statement.neverMade_zero]
      exact hbetween made (t :: left) hts hlength
    · rw [hts, flatMap_cut (k := k), ← List.append_assoc] at hcut
      obtain ⟨hbefore, hafter⟩ := List.append_inj hcut.symm
        (by simp [hn, hlength, Nat.min_eq_left hk.le])
      rw [Statement.neverMade_cons hk]
      exact h.perm_of_creation hts hpos hbefore hafter
  · -- all was made
    have hall : n = (ts.flatMap Table.script).length := by
      have hlengths := congrArg List.length hcut
      simp only [List.length_append, hn] at hlengths
      omega
    rw [Statement.neverMade_of_le (List.flatMap_def ▸ hall.ge)]
    exact hbetween ts [] (List.append_nil ts).symm hall

end Replanning

/-! ## Migrations -/

/-- The statements of a plan, operation by operation. -/
def Plan.statements (p : Plan) : Except StatementError (List (List Statement)) :=
  p.operations.mapM (Operation.statements p.dialect)

namespace Migration

variable {fragments : List Fragment} {stated : Option String}

/-- A migration that is run without a failure completes a database. -/
theorem exists_completion {db : Database} {m : Migration} {bind : BindKind}
    (hstated : ∀ name ∈ stated, Dialect.ofName? name = some .sqlite)
    (hm : (prepare db fragments stated none).outcome = .ok m)
    (hrun : (m.run bind db).failure = none) {schema : Schema}
    (hschema : (Schema.assemble fragments).outcome = .ok schema) :
    ∃ live xs ts, Completion schema.entries db live xs ts (m.run bind db).state ∧
      m.plan.statements = .ok (xs.map Extension.script ++ ts.map Table.script) := by
  obtain ⟨live, hlive, hfound, hplan⟩ :=
    against_eq_ok.1 ((prepare_of_assemble db hstated hschema).1.symm.trans hm)
  obtain ⟨hextensions, ts, hcreations, -, -, hdialect, hoperations⟩ :=
    Plan.build_difference_eq (Schema.entries_nodup (Schema.assemble_nodup hschema)) hfound hplan
  obtain ⟨hfailure, hstate⟩ := m.plan.run_backend bind db
  rw [run, hfailure, hdialect] at hrun
  obtain ⟨hscripts, hruns⟩ := runs_of_runOperations hrun
  have hextended : ∀ x ∈ extensionsByOrder m.difference.toAdd,
      (x.addition .sqlite).statements .sqlite = .ok x.script := fun x hx =>
    hscripts (.add _) (hoperations ▸ List.mem_append_left _ (List.mem_map_of_mem hx))
  have hcreated : ∀ t ∈ ts, (t.creation .sqlite).statements = .ok t.script := fun t ht =>
    hscripts (.create _) (hoperations ▸ List.mem_append_right _ (List.mem_map_of_mem ht))
  refine ⟨live, _, ts, ⟨hlive, hextensions, byOrderAndName_pairwise .., hcreations, hextended,
    hcreated, ?_⟩, ?_⟩
  · rw [run, hstate, hdialect]
    rw [hoperations, List.flatMap_append, List.flatMap_map, List.flatMap_map] at hruns
    exact hoperations ▸ hruns
  · rw [Plan.statements, hdialect, hoperations, Except.mapM_eq_ok]
    refine List.rel_append ?_ ?_
    · rw [List.forall₂_map_left_iff, List.forall₂_map_right_iff]
      exact List.forall₂_same.2 hextended
    · rw [List.forall₂_map_left_iff, List.forall₂_map_right_iff]
      exact List.forall₂_same.2 hcreated

/-- A migration that is stopped after some of its statements can be resumed by another one: both
    together lead to the same tables, with the same columns and rows, as the migration does when it
    is not stopped.  The indexes are the same too, but for those that the operation that was begun
    had still to create over columns that it made. -/
theorem resumed_perm {db stopped : Database} {m again : Migration} {bind bind' : BindKind}
    {scripts : List (List Statement)} {n : ℕ} (hdb : db.NamesDiffer)
    (hstated : ∀ name ∈ stated, Dialect.ofName? name = some .sqlite)
    (hm : (prepare db fragments stated none).outcome = .ok m)
    (hrun : (m.run bind db).failure = none) (hscripts : m.plan.statements = .ok scripts)
    (hstopped : db.Runs (scripts.flatten.take n) stopped)
    (hagain : (prepare stopped fragments stated none).outcome = .ok again)
    (hresumed : (again.run bind' stopped).failure = none) :
    (again.run bind' stopped).state.tables.Perm (m.run bind db).state.tables ∧
      ∃ missing, (m.run bind db).state.indexes.Perm
          ((again.run bind' stopped).state.indexes ++ missing) ∧
        List.Forall₂ Statement.Makes (Statement.neverMade scripts n) missing := by
  obtain ⟨target, htarget, -⟩ := Logged.outcome_bind_eq_ok.1 hm
  obtain ⟨schema, hschema, -⟩ := Logged.outcome_bind_eq_ok.1 htarget
  obtain ⟨live, xs, ts, hfirst, hstatements⟩ := exists_completion hstated hm hrun hschema
  obtain ⟨live', xs', ts', hsecond, -⟩ := exists_completion hstated hagain hresumed hschema
  obtain rfl := Except.ok.inj (hscripts.symm.trans hstatements)
  have hdistinct : ∀ t, .table t ∈ schema.entries → t.fields.HasDistinctNames := by
    intro t ht
    obtain ⟨u, hu, hut⟩ := List.mem_map.1 ht
    exact SchemaEntry.table.inj hut ▸ Schema.assemble_distinct hschema u hu
  have hreplanning : Replanning schema.entries db stopped (m.run bind db).state
      (again.run bind' stopped).state live live' xs xs' ts ts' _ _ :=
    ⟨Schema.entries_nodup (Schema.assemble_nodup hschema), hdistinct, hdb, hfirst, hsecond, by
      rw [List.take_append_drop n, List.flatten_append, List.flatMap_def, List.flatMap_def],
      hstopped⟩
  have hperm := hreplanning.perm
  -- a run that is stopped after more statements than there are is not stopped
  rcases le_total n (xs.map Extension.script ++ ts.map Table.script).flatten.length with hn | hn
  · rwa [List.length_take, Nat.min_eq_left hn] at hperm
  · rw [List.length_take, Nat.min_eq_right hn, Statement.neverMade_of_le le_rfl] at hperm
    rwa [Statement.neverMade_of_le hn]

/-- Whether a migration can be run, and can be stopped and resumed, with a given relation between
    what it leads to and what it leads to then. -/
def resumes (db : Database) (fragments : List Fragment) (n : ℕ) (p : Database → Database → Bool) :
    Bool :=
  (prepare db fragments none none).outcome.toOption.any fun m =>
    m.plan.statements.toOption.any fun scripts =>
      let stop :=
        Run.sequence (runStatement Database.backend .sqlite "") (scripts.flatten.take n) db
      (prepare stop.state fragments none none).outcome.toOption.any fun again =>
        (m.run .engine db).failure.isNone && stop.failure.isNone &&
          (again.run .engine stop.state).failure.isNone &&
          p (m.run .engine db).state (again.run .engine stop.state).state

theorem exists_of_resumes {db : Database} {n : ℕ} {p : Database → Database → Bool}
    (h : resumes db fragments n p = true) :
    ∃ m scripts stopped again, (prepare db fragments none none).outcome = .ok m ∧
      (m.run .engine db).failure = none ∧ m.plan.statements = .ok scripts ∧
      db.Runs (scripts.flatten.take n) stopped ∧
      (prepare stopped fragments none none).outcome = .ok again ∧
      (again.run .engine stopped).failure = none ∧
      p (m.run .engine db).state (again.run .engine stopped).state = true := by
  obtain ⟨m, hm, h⟩ := Except.exists_of_any h
  obtain ⟨scripts, hscripts, h⟩ := Except.exists_of_any h
  obtain ⟨again, hagain, h⟩ := Except.exists_of_any h
  simp only [Bool.and_eq_true, Option.isNone_iff_eq_none] at h
  obtain ⟨⟨⟨hrun, hstop⟩, hresumed⟩, hp⟩ := h
  exact ⟨m, scripts, _, again, hm, hrun, hscripts, runs_of_runStatements hstop, hagain, hresumed,
    hp⟩

/-- A fragment with two more columns for the stored table, of which one has an index, and one for a
    table that is not there. -/
def extendedHouse : List Fragment :=
  [⟨"room", Bag.toValue [
      (.text "size", { Field.plain .number with required := .bool false, indexed := .bool true }),
      (.text "note", { Field.plain .string with required := .bool false })], none, none, [], []⟩,
    ⟨"door", Bag.toValue [(.text "width", Field.plain .number)], none, none, [], []⟩]

/-- The run stops after both columns, and the index is never created. -/
theorem extendedHouse_resumed :
    let db : Database := ⟨[storedRoom], [], .none⟩
    db.NamesDiffer ∧ ∃ m scripts stopped again missing,
      (prepare db extendedHouse none none).outcome = .ok m ∧ (m.run .engine db).failure = none ∧
      m.plan.statements = .ok scripts ∧ db.Runs (scripts.flatten.take 2) stopped ∧
      (prepare stopped extendedHouse none none).outcome = .ok again ∧
      (again.run .engine stopped).failure = none ∧
      (again.run .engine stopped).state.tables.Perm (m.run .engine db).state.tables ∧
      (m.run .engine db).state.indexes.Perm
        ((again.run .engine stopped).state.indexes ++ missing) ∧
      List.Forall₂ Statement.Makes (Statement.neverMade scripts 2) missing ∧
      missing.map StoredIndex.name = ["ix_room_size"] := by
  intro db
  have hdb : db.NamesDiffer := List.nodup_singleton _
  have hresumes : resumes db extendedHouse 2 (fun full final =>
      (full.indexes.map StoredIndex.name == ["ix_room_size"]) && final.indexes.isEmpty) = true := by
    decide +kernel
  obtain ⟨m, scripts, stopped, again, hm, hrun, hscripts, hstopped, hagain, hresumed, hindexes⟩ :=
    exists_of_resumes hresumes
  simp only [Bool.and_eq_true, beq_iff_eq, List.isEmpty_iff] at hindexes
  obtain ⟨hfull, hfinal⟩ := hindexes
  obtain ⟨htables, missing, hperm, hmakes⟩ :=
    resumed_perm hdb (by simp) hm hrun hscripts hstopped hagain hresumed
  refine ⟨hdb, m, scripts, stopped, again, missing, hm, hrun, hscripts, hstopped, hagain, hresumed,
    htables, hperm, hmakes, ?_⟩
  -- the one index of the full run is not among those of the resumed one
  have hnames := hperm.map StoredIndex.name
  rw [hfull, hfinal, List.nil_append] at hnames
  exact List.perm_singleton.1 hnames.symm

/-- A fragment for a table of which a column has an index. -/
def indexedColumn : List Fragment :=
  [⟨"t", Bag.toValue [(.text "c", { Field.plain .string with
      required := .bool false, indexed := .bool true })], none, none, [], []⟩]

/-- The run stops after the table is created, and its index is never created. -/
theorem indexedColumn_lacks_index :
    Database.empty.NamesDiffer ∧ ∃ m scripts stopped again,
      (prepare .empty indexedColumn none none).outcome = .ok m ∧
      (m.run .engine .empty).failure = none ∧ m.plan.statements = .ok scripts ∧
      Database.empty.Runs (scripts.flatten.take 1) stopped ∧
      (prepare stopped indexedColumn none none).outcome = .ok again ∧
      (again.run .engine stopped).failure = none ∧
      (m.run .engine .empty).state.indexes.map StoredIndex.name = ["ix_t_c"] ∧
      (again.run .engine stopped).state.indexes = [] := by
  have hresumes : resumes .empty indexedColumn 1 (fun full final =>
      (full.indexes.map StoredIndex.name == ["ix_t_c"]) && final.indexes.isEmpty) = true := by
    decide +kernel
  obtain ⟨m, scripts, stopped, again, hm, hrun, hscripts, hstopped, hagain, hresumed, hindexes⟩ :=
    exists_of_resumes hresumes
  simp only [Bool.and_eq_true, beq_iff_eq, List.isEmpty_iff] at hindexes
  exact ⟨Database.empty_namesDiffer, m, scripts, stopped, again, hm, hrun, hscripts, hstopped,
    hagain, hresumed, hindexes⟩

end Migration

end Accrete
