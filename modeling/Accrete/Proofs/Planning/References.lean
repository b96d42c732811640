import Accrete.Field.Defined
import Accrete.Proofs.Assembly
import Accrete.Proofs.CreationOrder.Silence
import Accrete.Proofs.Planning.Build
import Mathlib

/-!
# Referenced tables first

The sequence in which a plan creates tables that reference each other.

* `TableCreation.References`   -- a table to create references another one
* `Plan.CreatesBefore`         -- a plan creates one table before another
* `Plan.createsBefore_of_split` -- where that is so
-/

namespace Accrete

/-- A table of a smaller order stands before one of a greater order. -/
theorem mem_before_of_order {out before after : List Table} {t u : Table}
    (ascending : out.Pairwise fun a b => b.order.lt a.order = false) (ht : t ∈ out)
    (hout : out = before ++ u :: after) (hlt : t.order.lt u.order = true) : t ∈ before := by
  subst hout
  rcases List.mem_append.1 ht with hmem | hmem
  · exact hmem
  · rcases List.mem_cons.1 hmem with rfl | hmem
    · exact absurd (Number.lt_iff.1 hlt) (lt_irrefl _)
    · have hge := List.rel_of_pairwise_cons (List.pairwise_append.1 ascending).2.1 hmem
      exact absurd (hge.symm.trans hlt) (by simp)

/-- A column of a table to create references a table by name. -/
def TableCreation.References (a : TableCreation) (name : String) : Prop :=
  ∃ c ∈ a.columns, ∃ r, c.reference? = some r ∧ r.model.text? = some name

/-- Wherever a plan creates two tables of given names, the first comes before the second. -/
def Plan.CreatesBefore (p : Plan) (first second : String) : Prop :=
  ∀ (i j : ℕ) (a b : TableCreation), p.operations[i]? = some (.create a) →
    p.operations[j]? = some (.create b) → a.table = first → b.table = second → i < j

theorem Table.references_creation {t : Table} {d : Dialect} {name : String} :
    (t.creation d).References name ↔ t.referencesTable name = true := by
  have hkey : (keyColumn d).reference? = none := rfl
  have hcolumn : ∀ (e : Value × Field) (covered : Columns),
      (e.2.column e.1 d covered).reference? = e.2.reference? := fun e covered => rfl
  simp only [TableCreation.References, creation, List.mem_cons, exists_eq_or_imp, hkey,
    declaredColumns, List.mem_map, reduceCtorEq, false_and, exists_false, false_or,
    referencesTable, List.any_eq_true]
  constructor
  · rintro ⟨_, ⟨e, he, rfl⟩, r, hr, hname⟩
    rw [hcolumn] at hr
    exact ⟨e, he, by simp [hr, hname]⟩
  · rintro ⟨e, he, hname⟩
    cases hr : e.2.reference? with
    | none => simp [hr] at hname
    | some r => exact ⟨_, ⟨e, he, rfl⟩, r, hr, by simpa [hr] using hname⟩

namespace Plan

variable {p : Plan} {additions : List Extension} {tables : List Table} {d : Dialect}

theorem getElem?_operations_create
    (hoperations : p.operations = additions.map (fun x => .add (x.addition d)) ++
      tables.map fun t => .create (t.creation d))
    {i : ℕ} {a : TableCreation} (h : p.operations[i]? = some (.create a)) :
    ∃ k t, i = additions.length + k ∧ tables[k]? = some t ∧ a = t.creation d := by
  rw [hoperations, List.getElem?_append] at h
  split at h
  · simp at h
  next hlt =>
    rw [List.length_map, not_lt] at hlt
    rw [List.length_map, List.getElem?_map, Option.map_eq_some_iff] at h
    obtain ⟨t, ht, heq⟩ := h
    exact ⟨i - additions.length, t, by omega, ht, (Operation.create.inj heq).symm⟩

/-- One table is created before another if it stands before it in creation order. -/
theorem createsBefore_of_split (hnodup : (tables.map Table.name).Nodup)
    (hoperations : p.operations = additions.map (fun x => .add (x.addition d)) ++
      tables.map fun t => .create (t.creation d))
    {first second : String}
    (h : ∀ t ∈ tables, t.name = first → ∀ before u after, tables = before ++ u :: after →
      u.name = second → t ∈ before) : p.CreatesBefore first second := by
  rintro i j a b hi hj rfl rfl
  -- creations stand in a plan as their tables do in creation order, after the additions
  obtain ⟨k, t, rfl, hk, rfl⟩ := getElem?_operations_create hoperations hi
  obtain ⟨m, u, rfl, hm, rfl⟩ := getElem?_operations_create hoperations hj
  obtain ⟨hkt, rfl⟩ := List.getElem?_eq_some_iff.1 hk
  obtain ⟨hmt, rfl⟩ := List.getElem?_eq_some_iff.1 hm
  have hsplit : tables = tables.take m ++ tables[m] :: tables.drop (m + 1) := by simp
  have hmem := h _ (List.getElem_mem hkt) rfl _ _ _ hsplit rfl
  obtain ⟨n, hn, heq⟩ := List.mem_take_iff_getElem.1 hmem
  have hsame : n = k := by
    refine (List.Nodup.getElem_inj_iff (List.Nodup.of_map _ hnodup)).1 heq
  omega

end Plan

/-! ## Plans of assembled schemas -/

section Assembled

variable {fragments : List Fragment} {schema : Schema} {live : List LiveTable} {d : Dialect}
  {found : Difference} {plan : Plan}

/-- A table that references one of a greater order is reported. -/
theorem Schema.orderViolated_of_references (h : (schema.map Table.name).Nodup) {t u : Table}
    (ht : t ∈ schema) (hu : u ∈ schema) (hname : u.name ≠ t.name)
    (hreferences : t.referencesTable u.name = true) (hlt : t.order.lt u.order = true) :
    ∃ column, .orderViolated t.name t.order u.name u.order column ∈ schema.orderWarnings := by
  obtain ⟨e, he, hmodel⟩ := List.any_eq_true.1 hreferences
  cases hr : e.2.reference? with
  | none => simp [hr] at hmodel
  | some r =>
    have hmodel : r.model.text? = some u.name := by simpa [hr] using hmodel
    have hlater : laterTarget? schema t e.2 = some u := by
      simp [laterTarget?, hr, hmodel, Schema.find?_name h hu, hname, hlt]
    exact ⟨e.1.plain, List.mem_flatMap.2 ⟨t, ht, List.mem_filterMap.2 ⟨e, he, by simp [hlater]⟩⟩⟩

/-- Each order violation comes from a table that references one of a greater order. -/
theorem Schema.orderViolated_inv {table target column : String} {order targetOrder : Number}
    (h : .orderViolated table order target targetOrder column ∈ schema.orderWarnings) :
    ∃ t ∈ schema, ∃ u ∈ schema, t.name = table ∧ u.name = target ∧
      t.order.lt u.order = true ∧ t.referencesTable u.name = true := by
  obtain ⟨t, ht, hmem⟩ := List.mem_flatMap.1 h
  obtain ⟨e, he, hmap⟩ := List.mem_filterMap.1 hmem
  obtain ⟨u, hlater, heq⟩ := Option.map_eq_some_iff.1 hmap
  obtain ⟨rfl, -, rfl, -, -⟩ := by simpa using heq
  obtain ⟨r, hr, hlater⟩ := Option.bind_eq_some_iff.1 hlater
  obtain ⟨name, hname, hlater⟩ := Option.bind_eq_some_iff.1 hlater
  obtain ⟨target, htarget, hlater⟩ := Option.bind_eq_some_iff.1 hlater
  split at hlater
  next hguard =>
    obtain rfl := Option.some.inj hlater
    have hfound : target.name = name := by simpa using List.find?_some htarget
    refine ⟨t, ht, target, List.mem_of_find?_eq_some htarget, rfl, rfl, hguard.2, ?_⟩
    exact List.any_eq_true.2 ⟨e, he, by simp [hr, hname, hfound]⟩
  · exact absurd hlater (by simp)

section Planned

variable (hschema : (schema.map Table.name).Nodup)
  (hfound : (difference schema.entries live d).outcome = .ok found)
  (hplan : (Plan.build found.toCreate found.toAdd d).outcome = .ok plan)
include hschema hfound hplan

/-- To see which of two tables of a schema is created first it is enough to look at creation
    order. -/
theorem Plan.createsBefore_of_complete :
    ∃ tables, (creationOrder found.toCreate).outcome = .ok tables ∧ ∀ t ∈ schema, ∀ u ∈ schema,
      (∀ before after, t.complete ∈ tables → tables = before ++ u.complete :: after →
        t.complete ∈ before) → plan.CreatesBefore t.name u.name := by
  obtain ⟨additions, tables, _, hperm, htables, _, hoperations⟩ :=
    Plan.build_difference_inv (Schema.entries_nodup hschema) hfound hplan
  -- a table to create is the completion of the one in the schema that has its name
  have hcreated : ∀ v ∈ tables, ∀ w ∈ schema, v.name = w.name → v = w.complete := by
    intro v hv w hw hname
    obtain ⟨w', hw', _, rfl⟩ := SchemaEntry.mem_creations.1 (hperm.mem_iff.1 hv)
    rw [List.inj_on_of_nodup_map hschema (Schema.mem_entries.1 hw') hw hname]
  have hnodup : (tables.map Table.name).Nodup := (hperm.map _).nodup_iff.2
    (List.nodup_append.1 (nodup_lacking live (Schema.entries_nodup hschema))).2.1
  refine ⟨tables, htables, fun t ht u hu h => Plan.createsBefore_of_split hnodup hoperations
    fun v hv hname before w after hsplit hw => ?_⟩
  obtain rfl := hcreated v hv t ht hname
  obtain rfl := hcreated w (by simp [hsplit]) u hu hw
  exact h before after hv hsplit

theorem Plan.createsBefore_of_order {t u : Table} (ht : t ∈ schema) (hu : u ∈ schema)
    (hlt : t.order.lt u.order = true) : plan.CreatesBefore t.name u.name := by
  obtain ⟨tables, htables, hbefore⟩ := Plan.createsBefore_of_complete hschema hfound hplan
  exact hbefore t ht u hu fun before after hmem hsplit =>
    mem_before_of_order (creationOrder_ascending htables) hmem hsplit hlt

/-- Neither of the two calls of creation order reports a cycle unless the other does. -/
theorem Plan.reportsNoCycle (silent : ReportsNoCycle (difference schema.entries live d).events ∨
    ReportsNoCycle (Plan.build found.toCreate found.toAdd d).events) :
    ReportsNoCycle (creationOrder found.toCreate).events := by
  obtain ⟨hcreate, _, hevents⟩ := difference_inv hfound
  obtain ⟨tables, htables, _⟩ := Plan.build_inv hplan
  rcases silent with silent | silent
  · have hnames := (List.nodup_append.1
      (nodup_lacking live (Schema.entries_nodup hschema))).2.1
    rw [hevents] at silent
    exact ReportsNoCycle.perm hnames hcreate (creationOrder_perm hnames hcreate).symm htables
      fun names o hmem => silent names o (List.mem_append_right _ hmem)
  · rw [Plan.build, Logged.events_bind htables] at silent
    exact fun names o hmem => silent names o (List.mem_append_left _ hmem)

/-- Where no cycle is reported a table is created after the tables of its order that it
    references. -/
theorem Plan.createsBefore_of_references
    (silent : ReportsNoCycle (creationOrder found.toCreate).events) {t u : Table} (ht : t ∈ schema)
    (hu : u ∈ schema) (hname : u.name ≠ t.name) (hsame : u.order.same t.order = true)
    (hreferences : t.referencesTable u.name = true) : plan.CreatesBefore u.name t.name := by
  obtain ⟨tables, htables, hbefore⟩ := Plan.createsBefore_of_complete hschema hfound hplan
  have hcreations := (List.nodup_append.1 (nodup_lacking live (Schema.entries_nodup hschema))).2.1
  have hcreate := creationOrder_perm hcreations (difference_inv hfound).1
  have hnames : (found.toCreate.map Table.name).Nodup := (hcreate.map _).nodup_iff.2 hcreations
  refine hbefore u hu t ht fun before after hmem hsplit => ?_
  exact mem_before_of_references hnames htables silent hsplit
    ((creationOrder_perm hnames htables).mem_iff.1 hmem) hsame hname hreferences

end Planned

end Assembled

/-- If assembly reports no order violation and creation order no cycle, then each table is created
    after the tables that it references.  Conversely, the tables of each order violation that is
    reported are created in the wrong sequence. -/
theorem plan_creates_referenced_first {fragments : List Fragment} {schema : Schema}
    {live : List LiveTable} {d : Dialect} {found : Difference} {plan : Plan}
    (hassemble : (Schema.assemble fragments).outcome = .ok schema)
    (hfound : (difference schema.entries live d).outcome = .ok found)
    (hplan : (Plan.build found.toCreate found.toAdd d).outcome = .ok plan) :
    ((∀ table order target targetOrder column, .orderViolated table order target targetOrder column ∉
          (Schema.assemble fragments).events) →
        (ReportsNoCycle (difference schema.entries live d).events ∨
          ReportsNoCycle (Plan.build found.toCreate found.toAdd d).events) →
        ∀ a b, .create a ∈ plan.operations → .create b ∈ plan.operations → b.table ≠ a.table →
          a.References b.table → plan.CreatesBefore b.table a.table) ∧
      ∀ table order target targetOrder column,
        .orderViolated table order target targetOrder column ∈
            (Schema.assemble fragments).events →
          plan.CreatesBefore table target ∧
            ∀ a, .create a ∈ plan.operations → a.table = table → a.References target := by
  have hschema := Schema.assemble_nodup hassemble
  have hmakes := Plan.build_difference_makesUpFor (Schema.entries_nodup hschema) hfound hplan
  have hcreation : ∀ a, .create a ∈ plan.operations → ∃ t ∈ schema, a = t.complete.creation d := by
    intro a ha
    rcases (hmakes.mem_operations_iff _).1 ha with ⟨t, ht, _, heq⟩ | ⟨_, _, _, _, _, _, heq⟩
    · exact ⟨t, Schema.mem_entries.1 ht, Operation.create.inj heq⟩
    · exact absurd heq (by simp)
  refine ⟨fun hordered silent a b ha hb hname hreferences => ?_,
    fun table order target targetOrder column hevent => ?_⟩
  · obtain ⟨t, ht, rfl⟩ := hcreation a ha
    obtain ⟨u, hu, rfl⟩ := hcreation b hb
    have htu : t.referencesTable u.name = true := (Table.references_creation (t := t.complete)).1 hreferences
    -- a reference to a table of a greater order would have been reported
    have hle : t.order.lt u.order ≠ true := by
      intro hlt
      obtain ⟨column, hwarned⟩ := Schema.orderViolated_of_references hschema ht hu hname htu hlt
      exact hordered _ _ _ _ _ ((Schema.orderViolated_assemble hassemble).2 hwarned)
    rcases lt_or_eq_of_le (not_lt.1 (hle ∘ Number.lt_iff.2)) with hlt | heq
    · exact Plan.createsBefore_of_order hschema hfound hplan (t := u) (u := t) hu ht (Number.lt_iff.2 hlt)
    · exact Plan.createsBefore_of_references (t := t) (u := u) hschema hfound hplan
        (Plan.reportsNoCycle hschema hfound hplan silent) ht hu hname (Number.same_iff.2 heq) htu
  · obtain ⟨t, ht, u, hu, rfl, rfl, hlt, htu⟩ :=
      Schema.orderViolated_inv ((Schema.orderViolated_assemble hassemble).1 hevent)
    refine ⟨Plan.createsBefore_of_order hschema hfound hplan ht hu hlt, fun a ha hname => ?_⟩
    obtain ⟨t', ht', rfl⟩ := hcreation a ha
    rw [List.inj_on_of_nodup_map hschema ht' ht hname]
    exact (Table.references_creation (t := t.complete)).2 htu

/-- A table and the one that it references, by a key that is not the name of the table. -/
def doorAndRoom : List Fragment :=
  [⟨"door", .mapping [(.text "room", .mapping
      [(.text "type", .text "string"), (.text "references", .text "place")])], none, none, [], []⟩,
    ⟨"place", .mapping [(.text "size", .mapping [(.text "type", .text "number")])],
      some (.infinite true), some "room", [], []⟩]

theorem doorAndRoom_creates_referenced_first :
    ∃ schema found plan,
      (Schema.assemble doorAndRoom).outcome = .ok schema ∧
      (difference schema.entries [] .sqlite).outcome = .ok found ∧
      (Plan.build found.toCreate found.toAdd .sqlite).outcome = .ok plan ∧
      ∀ a b, .create a ∈ plan.operations → .create b ∈ plan.operations → b.table ≠ a.table →
        a.References b.table → plan.CreatesBefore b.table a.table := by
  let door : Table := ⟨"door", [(.text "room", { Field.plain .string with
    references := .reference ⟨.text "room", .text "id", none⟩ })], Number.infinity, [], []⟩
  let room : Table := ⟨"room", [(.text "size", Field.plain .number)], .infinite true, [], []⟩
  have hassemble : (Schema.assemble doorAndRoom).outcome = .ok [door, room] := by cbv
  have hfound : (difference (Schema.entries [door, room]) [] .sqlite).outcome =
      .ok ⟨[room, door], []⟩ := by cbv
  have hordered : (creationOrder [room, door]).outcome = .ok [room, door] := by cbv
  have hplan : (Plan.ofOrdered [room, door]
    ((extensionsByOrder []).mapM (·.plan .sqlite)) .sqlite).outcome.isOk = true := by decide +kernel
  obtain ⟨plan, hplan⟩ := Except.eq_ok_of_isOk hplan
  have hplan : (Plan.build [room, door] [] .sqlite).outcome = .ok plan := by
    rw [Plan.build, Logged.outcome_bind hordered, hplan]
  have hassembly : (Schema.assemble doorAndRoom).events = [] := by cbv
  have hdifference : (difference (Schema.entries [door, room]) [] .sqlite).events = [] := by cbv
  refine ⟨_, _, plan, hassemble, hfound, hplan,
    (plan_creates_referenced_first hassemble hfound hplan).1 ?_ (.inl ?_)⟩
  · intro table order target targetOrder column hmem
    exact absurd (hassembly ▸ hmem) List.not_mem_nil
  · intro names o hmem
    exact absurd (hdifference ▸ hmem) List.not_mem_nil

end Accrete
