import Accrete.Proofs.Running.Recording

/-!
# Previews of runs

The document of a plan says what a run of it executes.

* `document_eq_ok`                 -- a document is made of the texts of its operations
* `intercalate_flatten`            -- groups of texts that are joined twice over
* `Operation.actions_steps`        -- an operation asks for its texts
* `Plan.document_eq_executed`      -- a document is made of the texts that are executed
-/

namespace Accrete

/-! ## Documents -/

theorem document_eq_ok {d : Dialect} {ops : List Operation} {doc : String} :
    document d ops = .ok doc ↔ ∃ groups, ops.mapM (Operation.sqlTexts d) = .ok groups ∧
      doc = statementSeparator.intercalate (groups.map statementSeparator.intercalate) ++ ";" := by
  rw [document, Except.bind_eq_ok]
  constructor
  · rintro ⟨sqls, hsqls, hdoc⟩
    obtain ⟨groups, hgroups, rfl⟩ := Except.mapM_map_eq_ok.1 hsqls
    exact ⟨groups, hgroups, (Except.pure_eq_ok.1 hdoc).symm⟩
  · rintro ⟨groups, hgroups, rfl⟩
    exact ⟨_, Except.mapM_map_eq_ok.2 ⟨groups, hgroups, rfl⟩, rfl⟩

/-- Joining groups that are joined themselves is joining them all, unless a group is empty. -/
theorem intercalate_flatten (separator : String) {groups : List (List String)}
    (h : ∀ g ∈ groups, g ≠ []) :
    separator.intercalate (groups.map separator.intercalate) =
      separator.intercalate groups.flatten := by
  induction groups with
  | nil => rfl
  | cons g groups ih =>
    obtain ⟨hg, hgroups⟩ := List.forall_mem_cons.1 h
    -- nothing follows the last group
    cases groups with
    | nil => simp
    | cons g' groups =>
      have hg' : (g' :: groups).flatten ≠ [] := by
        simp [(List.forall_mem_cons.1 hgroups).1]
      rw [List.map_cons, List.flatten_cons, String.intercalate_append_of_ne_nil hg hg', ← ih hgroups,
        String.intercalate_cons_of_ne_nil (by simp)]

/-! ## What is executed -/

theorem Operation.steps_of_ok {d : Dialect} {op : Operation} {ss : List Statement}
    (h : op.statements d = .ok ss) : op.steps d = ss.map fun s => ⟨op.table, .ok s⟩ := by
  rw [steps, h]

/-- An operation asks for its texts, in their order. -/
theorem Operation.actions_steps {d : Dialect} {op : Operation} {group : List String}
    (h : op.sqlTexts d = .ok group) :
    (op.steps d).flatMap (Step.actions d) = group.map .execute := by
  obtain ⟨ss, hss, hgroup⟩ := Except.bind_eq_ok.1 h
  rw [steps_of_ok hss, List.flatMap_map]
  replace hgroup := Except.mapM_eq_ok.1 hgroup
  clear h hss
  induction hgroup with
  | nil => rfl
  | cons hs _ ih =>
    rw [List.flatMap_cons, ih, Step.actions]
    simp [hs]

theorem actions_operations {d : Dialect} {ops : List Operation} {groups : List (List String)}
    (h : ops.mapM (Operation.sqlTexts d) = .ok groups) :
    (ops.flatMap (Operation.steps d)).flatMap (Step.actions d) = groups.flatten.map .execute := by
  replace h := Except.mapM_eq_ok.1 h
  induction h with
  | nil => rfl
  | cons hop _ ih =>
    rw [List.flatMap_cons, List.flatMap_append, ih, Operation.actions_steps hop, List.flatten_cons,
      List.map_append]

namespace Plan

theorem actions_of_isEmpty {σ : Type} {p : Plan} {b : Backend σ} {bind : BindKind} {state : σ}
    (hp : p.operations = []) : p.actions b bind state = [] := by
  rw [actions, run_of_isEmpty hp]

/-- The document of a plan is made of the texts that a run of it executes, on whichever database
    speaks its dialect and whatever it is bound to. -/
theorem document_eq_executed {p : Plan} {doc : String} (hdoc : p.document = .ok doc)
    (hstatements : ∀ op ∈ p.operations, op.statements p.dialect ≠ .ok []) :
    ∃ texts, doc = ";\n\n".intercalate texts ++ ";" ∧
      ∀ (σ : Type) (b : Backend σ) (bind : BindKind) (state : σ), b.dialect = p.dialect →
        (p.run b bind state).failure = none →
          (p.actions b bind state).filterMap Action.text? = texts := by
  obtain ⟨groups, hgroups, rfl⟩ := document_eq_ok.1 hdoc
  refine ⟨groups.flatten, ?_, ?_⟩
  · -- every operation has a text, as it has a statement
    have hne : ∀ group ∈ groups, group ≠ [] := by
      rintro group hgroup rfl
      obtain ⟨op, hop, htexts⟩ := Except.exists_of_mem_mapM hgroups hgroup
      obtain ⟨ss, hss, hmap⟩ := Except.bind_eq_ok.1 htexts
      rw [Except.mapM_eq_ok, List.forall₂_nil_right_iff] at hmap
      exact hstatements op hop (hmap ▸ hss)
    rw [intercalate_flatten _ hne, statementSeparator]
  · intro σ b bind state hb hrun
    have htexts : (groups.flatten.map Action.execute).filterMap Action.text? = groups.flatten := by
      rw [List.filterMap_map]
      exact List.filterMap_some
    by_cases hp : p.operations = []
    · rw [actions_of_isEmpty hp]
      rw [hp, List.mapM_nil, Except.pure_eq_ok] at hgroups
      rw [← hgroups]
      rfl
    · rw [actions_of_succeeds hp (succeeds_of_run hp hrun),
        BindKind.filterMap_text?_around rfl, hb, steps, actions_operations hgroups, htexts]

/-- A column for a table that is there, and a table with an index. -/
def guestBook : Plan :=
  ⟨.sqlite, [
    .add ⟨"room", [⟨.text "size", "INTEGER", true, false, .bool false, .null⟩], .int 1, []⟩,
    .create ⟨"guest", [⟨.text "id", "TEXT", false, true, .bool false, .null⟩], .int 2, [],
      [⟨[.text "id"], false, none⟩]⟩]⟩

theorem guestBook_document_eq_executed :
    ∃ doc, guestBook.document = .ok doc ∧
      (∀ op ∈ guestBook.operations, op.statements guestBook.dialect ≠ .ok []) ∧
      (guestBook.run (Recorder.backend .sqlite none) .engine []).failure = none ∧
      doc = ";\n\n".intercalate ((guestBook.actions (Recorder.backend .sqlite none) .engine
        []).filterMap Action.text?) ++ ";" := by
  obtain ⟨doc, hdoc, -⟩ := Except.exists_of_any (x := guestBook.document) (p := fun _ => true)
    (by decide +kernel)
  have hsome : ∀ op ∈ guestBook.operations,
      (op.statements guestBook.dialect).toOption.any (·.isEmpty) = false := by decide +kernel
  have hstatements : ∀ op ∈ guestBook.operations, op.statements guestBook.dialect ≠ .ok [] := by
    intro op hop hnil
    simpa [hnil, Except.toOption] using hsome op hop
  have hrun : (guestBook.run (Recorder.backend .sqlite none) .engine []).failure = none :=
    Option.isNone_iff_eq_none.1 (by decide +kernel)
  obtain ⟨texts, htexts, hexecuted⟩ := document_eq_executed hdoc hstatements
  exact ⟨doc, hdoc, hstatements, hrun, hexecuted _ _ .engine [] rfl hrun ▸ htexts⟩

end Plan

end Accrete
