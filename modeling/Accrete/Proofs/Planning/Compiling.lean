import Accrete.Proofs.Planning.Build
import Accrete.Proofs.Writing.Addition
import Accrete.Proofs.Writing.Creation
import Mathlib

/-!
# Plans that can be written

When planning is refused with a reason of its own or yields a plan that can be written, and when
instead a statement that cannot be written stops it or is left in the plan.

* `checkGroups_cases`       -- groups that name unknown columns are refused
* `Table.outcome_plan`      -- what planning a table comes to
* `Extension.outcome_plan`  -- and what planning an extension does
* `Plan.IsSettled`          -- a refusal, or a plan that can be written
* `Plan.isSettled_iff`      -- which tables and extensions lead to one
-/

namespace Accrete

/-- A refusal of a schema, as opposed to a failure to make use of a value or to write SQL. -/
def Error.isOwn : Error → Bool
  | .reservedColumn .. => true
  | .declaration (.refused _) => true
  | _ => false

/-- A field declares the generated primary key. -/
def Table.IsReserved (t : Table) : Prop := ∃ e ∈ t.fields, declaresKey e = true

variable {d : Dialect}

/-! ## Groups of columns -/

theorem areTexts.exists_eq {vs : List Value} (h : areTexts vs) {v : Value} (hv : v ∈ vs) :
    ∃ s, v = .text s := by
  obtain ⟨ss, rfl⟩ := h
  obtain ⟨s, -, rfl⟩ := List.mem_map.1 hv
  exact ⟨s, rfl⟩

theorem areTexts.filter {vs : List Value} (h : areTexts vs) (p : Value → Bool) :
    areTexts (vs.filter p) := by
  obtain ⟨ss, rfl⟩ := h
  exact ⟨_, List.filter_map ..⟩

theorem Value.isIn_iff_mem {v : Value} {vs : List Value} {s : String} (hv : v = .text s)
    (hvs : areTexts vs) : v.isIn vs = true ↔ v ∈ vs := by
  obtain ⟨ss, rfl⟩ := hvs
  rw [hv, isIn_map_text rfl, List.contains_iff_mem, text_mem_map]

theorem checkGroupKeys_of_texts {groups : List Columns} (h : ∀ g ∈ groups, areTexts g) :
    checkGroupKeys groups = .ok () := by
  refine Except.mapError_eq_ok.2 (Except.forM_eq_ok.2 fun v hv => ?_)
  obtain ⟨g, hg, hv⟩ := List.mem_flatten.1 hv
  obtain ⟨s, rfl⟩ := (h g hg).exists_eq hv
  rfl

/-- Groups of columns pass if all of them are known, and are refused otherwise. -/
theorem checkGroups_cases {known : Columns} {groups : List Columns} (table : String)
    (hknown : areTexts known) (hgroups : ∀ g ∈ groups, areTexts g) :
    (checkGroups table known groups = .ok () ∧ ¬ ∃ g ∈ groups, ∃ v ∈ g, v ∉ known) ∨
      (∃ fault, checkGroups table known groups = .error (.declaration (.refused fault))) ∧
        ∃ g ∈ groups, ∃ v ∈ g, v ∉ known := by
  have hunknown : ∀ g ∈ groups, ∀ v ∈ g, v ∈ unknownColumns known g ↔ v ∉ known := by
    intro g hg v hv
    obtain ⟨s, hs⟩ := (hgroups g hg).exists_eq hv
    simp [unknownColumns, hv, ← Value.isIn_iff_mem hs hknown]
  -- the first group with an unknown column is refused, with all its unknown columns
  cases hfind : (groups.map (unknownColumns known)).find? (!·.isEmpty) with
  | none =>
    refine .inl ⟨by rw [checkGroups, hfind]; rfl, ?_⟩
    rintro ⟨g, hg, v, hv, hnot⟩
    have hempty := List.find?_eq_none.1 hfind _ (List.mem_map_of_mem hg)
    have hmem := (hunknown g hg v hv).2 hnot
    simp_all
  | some columns =>
    obtain ⟨g, hg, rfl⟩ := List.mem_map.1 (List.mem_of_find?_eq_some hfind)
    obtain ⟨ss, hss⟩ := (hgroups g hg).filter fun c => !c.isIn known
    refine .inr ⟨⟨⟨some table, none, .columnsUnknown (", ".intercalate ss)⟩, ?_⟩, g, hg, ?_⟩
    · rw [checkGroups, hfind]
      dsimp only
      rw [show unknownColumns known g = ss.map .text from hss, Value.join_map_text]
      rfl
    · have hne : unknownColumns known g ≠ [] := by simpa using List.find?_some hfind
      obtain ⟨v, hv⟩ := List.exists_mem_of_ne_nil _ hne
      have hmem := List.mem_of_mem_filter hv
      exact ⟨v, hmem, (hunknown g hg v hmem).1 hv⟩

/-! ## Single tables -/

theorem Bag.IsTyped.areTexts_names {b : Bag} (h : b.IsTyped) : areTexts b.names := by
  obtain ⟨ns, -, hns⟩ := h.names
  exact ⟨ns, hns⟩

namespace Extension

variable {x : Extension}

/-- An extension is planned, or refused where it names an unknown column. -/
theorem outcome_plan (typed : x.IsTyped) (d : Dialect) :
    (¬ x.NamesUnknown ∧ (x.plan d).outcome = .ok (.add (x.addition d))) ∨
      x.NamesUnknown ∧ ∃ e, (x.plan d).outcome = .error e ∧ e.isOwn = true := by
  have hnames : (x.addition d).columnNames = x.fields.names := columnNames_addition
  have hkeys := checkGroupKeys_of_texts typed.groups
  rcases checkGroups_cases x.table typed.fields.areTexts_names typed.groups with
    ⟨hgroups, hknown⟩ | ⟨⟨fault, hgroups⟩, hunknown⟩
  · refine .inl ⟨hknown, ?_⟩
    rw [plan, hnames, hkeys, hgroups]
    rfl
  · refine .inr ⟨hunknown, .declaration (.refused fault), ?_, rfl⟩
    rw [plan, hnames, hkeys, hgroups]
    rfl

theorem exists_written_iff (typed : x.IsTyped) :
    (∃ op, (x.plan d).outcome = .ok op ∧ ∃ sql, op.sql d = .ok sql) ↔
      ¬ x.NamesUnknown ∧ x.IsWritable d := by
  rcases x.outcome_plan typed d with ⟨hknown, hplan⟩ | ⟨hunknown, e, hplan, -⟩
  · simp [hplan, hknown, exists_sql_addition_iff typed hknown]
  · simp [hplan, hunknown]

end Extension

namespace Table

variable {t : Table}

/-- A table is refused at the key of its first field that declares the generated primary key. -/
theorem checkReserved_eq (keyed : areTexts t.fields.names) :
    t.checkReserved = match t.reservedField? with
      | some key => .error (.reservedColumn t.name key)
      | none => .ok () := by
  rw [checkReserved]
  cases hkey : t.reservedField? with
  | none => rfl
  | some key =>
    obtain ⟨e, hfield, rfl⟩ := Option.map_eq_some_iff.1 hkey
    obtain ⟨s, hs⟩ := keyed.exists_eq (List.mem_map_of_mem (List.mem_of_find?_eq_some hfield))
    have hplace : areTexts ([.text t.name, e.1].filter Value.isTruthy) :=
      areTexts.filter ⟨[t.name, s], by rw [hs]; rfl⟩ _
    obtain ⟨ss, hss⟩ := hplace
    dsimp only
    rw [hss, Value.join_map_text]
    rfl

/-- A table is refused where it declares the generated primary key. -/
theorem outcome_checkReserved (typed : t.IsTyped) :
    (¬ t.IsReserved ∧ t.checkReserved = .ok ()) ∨
      t.IsReserved ∧ ∃ e, t.checkReserved = .error e ∧ e.isOwn = true := by
  rw [checkReserved_eq typed.fields.areTexts_names, reservedField?]
  cases hfield : t.fields.find? declaresKey with
  | none =>
    refine .inl ⟨?_, rfl⟩
    rintro ⟨e, he, hkey⟩
    exact List.find?_eq_none.1 hfield e he hkey
  | some e =>
    exact .inr ⟨⟨e, List.mem_of_find?_eq_some hfield, List.find?_some hfield⟩,
      .reservedColumn t.name e.1, rfl, rfl⟩

/-- A table is refused where it names an unknown column.  Otherwise it is planned if the statements
    that create it can be written. -/
theorem outcome_plan (typed : t.IsTyped) (d : Dialect) :
    (t.NamesUnknown ∧ ∃ e, (t.plan d).outcome = .error e ∧ e.isOwn = true) ∨
      ¬ t.NamesUnknown ∧
        ((t.plan d).outcome = .ok (.create (t.creation d)) ∧
            (∃ sql, (Operation.create (t.creation d)).sql d = .ok sql) ∨
          ∃ cause, (t.plan d).outcome = .error (.statement cause) ∧
            (Operation.create (t.creation d)).sql d = .error cause) := by
  have hnames : (t.creation d).columnNames = .text primaryKeyName :: t.fields.names :=
    columnNames_creation
  obtain ⟨ns, -, hns⟩ := typed.fields.names
  have hknown : areTexts (.text primaryKeyName :: t.fields.names) :=
    ⟨primaryKeyName :: ns, by rw [hns, List.map_cons]⟩
  have hkeys := checkGroupKeys_of_texts typed.groups
  have hplan : (t.plan d).outcome = (do
      checkGroups t.name (.text primaryKeyName :: t.fields.names) t.groups
      let _ ← ((Operation.create (t.creation d)).sql d).mapError Error.statement
      return .create (t.creation d)) := by
    rw [plan, hns, Value.join_map_text]
    dsimp only
    rw [hkeys, hnames, hns]
    -- only the events that are reported in between are left out
    cases checkGroups t.name (.text primaryKeyName :: ns.map .text) t.groups with
    | error e => rfl
    | ok _ => cases (Operation.create (t.creation d)).sql d <;> rfl
  rw [hplan]
  rcases checkGroups_cases t.name hknown typed.groups with
    ⟨hgroups, hall⟩ | ⟨⟨fault, hgroups⟩, hunknown⟩
  · refine .inr ⟨hall, ?_⟩
    rw [hgroups]
    cases hsql : (Operation.create (t.creation d)).sql d with
    | ok sql => exact .inl ⟨rfl, sql, rfl⟩
    | error cause => exact .inr ⟨cause, rfl, rfl⟩
  · rw [hgroups]
    exact .inl ⟨hunknown, .declaration (.refused fault), rfl, rfl⟩

section Free

variable (typed : t.IsTyped) (free : ¬ t.IsReserved)
include typed free

theorem exists_sql_iff (known : ¬ t.NamesUnknown) :
    (∃ sql, (Operation.create (t.creation d)).sql d = .ok sql) ↔ t.IsWritable d := by
  refine exists_sql_creation_iff typed (fun e he => ?_) known
  by_contra hkey
  exact free ⟨e, he, by simpa using hkey⟩

theorem exists_planned_iff :
    (∃ op, (t.plan d).outcome = .ok op) ↔ ¬ t.NamesUnknown ∧ t.IsWritable d := by
  rcases t.outcome_plan typed d with
    ⟨hunknown, e, he, -⟩ | ⟨hknown, ⟨hplan, hsql⟩ | ⟨cause, hplan, hsql⟩⟩
  · simp [he, hunknown]
  · simp [hplan, hknown, ← exists_sql_iff typed free hknown, hsql]
  · simp [hplan, hknown, ← exists_sql_iff typed free hknown, hsql]

theorem exists_written_iff :
    (∃ op, (t.plan d).outcome = .ok op ∧ ∃ sql, op.sql d = .ok sql) ↔
      ¬ t.NamesUnknown ∧ t.IsWritable d := by
  -- what is planned for a table has been written while it was
  rw [← exists_planned_iff typed free]
  refine exists_congr fun op => and_iff_left_of_imp fun h => ?_
  rcases t.outcome_plan typed d with ⟨-, e, he, -⟩ | ⟨-, ⟨hplan, hsql⟩ | ⟨cause, hplan, -⟩⟩
  · simp [he] at h
  · obtain rfl := Except.ok.inj (hplan.symm.trans h)
    exact hsql
  · simp [hplan] at h

end Free

theorem exists_refused_iff (typed : t.IsTyped) :
    (∃ e, (t.plan d).outcome = .error e ∧ e.isOwn = true) ↔ t.NamesUnknown := by
  rcases t.outcome_plan typed d with
    ⟨hunknown, hrefused⟩ | ⟨hknown, ⟨hplan, -⟩ | ⟨cause, hplan, -⟩⟩
  · exact ⟨fun _ => hunknown, fun _ => hrefused⟩
  · simp [hplan, hknown]
  · simp [hplan, hknown, Error.isOwn]

end Table

/-! ## Whole plans -/

theorem exists_document_iff {operations : List Operation} :
    (∃ text, document d operations = .ok text) ↔ ∀ op ∈ operations, ∃ sql, op.sql d = .ok sql := by
  rw [← Except.exists_mapM_iff, document]
  constructor
  · rintro ⟨text, h⟩
    obtain ⟨texts, htexts, -⟩ := Except.bind_eq_ok.1 h
    exact ⟨texts, htexts⟩
  · rintro ⟨texts, htexts⟩
    exact ⟨_, Except.bind_eq_ok.2 ⟨texts, htexts, rfl⟩⟩

namespace Plan

variable {toCreate ordered : List Table} {toAdd : List Extension}

theorem exists_creationOrder (typed : ∀ t ∈ toCreate, t.IsTyped) :
    ∃ ordered, (creationOrder toCreate).outcome = .ok ordered ∧ ∀ t ∈ ordered, t.IsTyped := by
  have hcheck : ∀ t ∈ toCreate, t.checkReferences = .ok () := by
    intro t ht
    refine Except.forM_eq_ok.2 fun e he => ?_
    rcases (typed t ht).fields.references e he with hnull | hsome
    · rw [Field.checkReference, hnull]
    · obtain ⟨p, hp⟩ := Option.isSome_iff_exists.1 hsome
      obtain ⟨action, href⟩ := Value.target?_eq_some.1 hp
      rw [Field.checkReference, href]
      rfl
  have hordered := creationOrder_eq_ok.2 ⟨hcheck, rfl⟩
  exact ⟨_, hordered, fun t ht => typed t (mem_of_mem_creationOrder hordered ht)⟩

theorem outcome_build (h : (creationOrder toCreate).outcome = .ok ordered) :
    (build toCreate toAdd d).outcome = (do
      ordered.forM Table.checkReserved
      let additions ← (extensionsByOrder toAdd).mapM fun x => (x.plan d).outcome
      let creations ← ordered.mapM fun t => (t.plan d).outcome
      return ⟨d, additions ++ creations⟩) := by
  simp only [build, Logged.outcome_bind h, ofOrdered, Logged.outcome_bind_eq, Logged.outcome_mapM,
    Logged.outcome_ofExcept, Logged.outcome_pure]
  rfl

theorem exists_document_build_iff (h : (creationOrder toCreate).outcome = .ok ordered) :
    (∃ plan sql, (build toCreate toAdd d).outcome = .ok plan ∧ plan.document = .ok sql) ↔
      ordered.forM Table.checkReserved = .ok () ∧
        (∃ additions, (extensionsByOrder toAdd).mapM (fun x => (x.plan d).outcome) =
          .ok additions ∧ ∀ op ∈ additions, ∃ sql, op.sql d = .ok sql) ∧
        ∃ creations, ordered.mapM (fun t => (t.plan d).outcome) = .ok creations ∧
          ∀ op ∈ creations, ∃ sql, op.sql d = .ok sql := by
  rw [outcome_build h]
  constructor
  · rintro ⟨plan, sql, h, hsql⟩
    obtain ⟨⟨⟩, hfree, h⟩ := Except.bind_eq_ok.1 h
    obtain ⟨additions, hadditions, h⟩ := Except.bind_eq_ok.1 h
    obtain ⟨creations, hcreations, h⟩ := Except.bind_eq_ok.1 h
    obtain rfl := Except.ok.inj h
    obtain ⟨hadded, hcreated⟩ := List.forall_mem_append.1 (exists_document_iff.1 ⟨sql, hsql⟩)
    exact ⟨hfree, ⟨additions, hadditions, hadded⟩, creations, hcreations, hcreated⟩
  · rintro ⟨hfree, ⟨additions, hadditions, hadded⟩, creations, hcreations, hcreated⟩
    obtain ⟨sql, hsql⟩ := exists_document_iff.2 (List.forall_mem_append.2 ⟨hadded, hcreated⟩)
    exact ⟨⟨d, additions ++ creations⟩, sql, Except.bind_eq_ok.2 ⟨(), hfree,
      Except.bind_eq_ok.2 ⟨additions, hadditions, Except.bind_eq_ok.2 ⟨creations, hcreations,
        rfl⟩⟩⟩, hsql⟩

theorem forM_checkReserved_cases (typed : ∀ t ∈ ordered, t.IsTyped) :
    ((∀ t ∈ ordered, ¬ t.IsReserved) ∧ ordered.forM Table.checkReserved = .ok ()) ∨
      (∃ t ∈ ordered, t.IsReserved) ∧
        ∃ e, ordered.forM Table.checkReserved = .error e ∧ e.isOwn = true := by
  cases hcheck : ordered.forM Table.checkReserved with
  | ok _ =>
    refine .inl ⟨fun t ht => ?_, rfl⟩
    rcases t.outcome_checkReserved (typed t ht) with ⟨hfree, -⟩ | ⟨-, e, he, -⟩
    · exact hfree
    · exact absurd ((Except.forM_eq_ok.1 hcheck t ht).symm.trans he) (by simp)
  | error e =>
    obtain ⟨t, ht, he⟩ := Except.exists_of_forM_eq_error hcheck
    rcases t.outcome_checkReserved (typed t ht) with ⟨-, hok⟩ | ⟨hreserved, e', he', hown⟩
    · exact absurd (hok.symm.trans he) (by simp)
    · obtain rfl := Except.error.inj (he'.symm.trans he)
      exact .inr ⟨⟨t, ht, hreserved⟩, e', rfl, hown⟩

theorem mapM_plan_cases (typed : ∀ x ∈ toAdd, x.IsTyped) (d : Dialect) :
    ((∀ x ∈ toAdd, ¬ x.NamesUnknown) ∧
        ∃ ops, (extensionsByOrder toAdd).mapM (fun x => (x.plan d).outcome) = .ok ops) ∨
      (∃ x ∈ toAdd, x.NamesUnknown) ∧
        ∃ e, (extensionsByOrder toAdd).mapM (fun x => (x.plan d).outcome) = .error e ∧
          e.isOwn = true := by
  have hmem : ∀ x, x ∈ extensionsByOrder toAdd ↔ x ∈ toAdd := fun x =>
    (byOrderAndName_perm ..).mem_iff
  cases hplan : (extensionsByOrder toAdd).mapM fun x => (x.plan d).outcome with
  | ok ops =>
    refine .inl ⟨fun x hx => ?_, ops, rfl⟩
    obtain ⟨op, hop⟩ := Except.exists_mapM_iff.1 ⟨ops, hplan⟩ x ((hmem x).2 hx)
    rcases x.outcome_plan (typed x hx) d with ⟨hknown, -⟩ | ⟨-, e, he, -⟩
    · exact hknown
    · exact absurd (he.symm.trans hop) (by simp)
  | error e =>
    -- an extension that is typed is refused for an unknown column only
    obtain ⟨before, x, after, hsplit, -, he⟩ := Except.mapM_eq_error.1 hplan
    have hx : x ∈ toAdd := (hmem x).1 (by simp [hsplit])
    rcases x.outcome_plan (typed x hx) d with ⟨-, hok⟩ | ⟨hunknown, e', he', hown⟩
    · exact absurd (hok.symm.trans he) (by simp)
    · obtain rfl := Except.error.inj (he'.symm.trans he)
      exact .inr ⟨⟨x, hx, hunknown⟩, e', rfl, hown⟩

/-- A schema is refused, or a plan is made that can be written. -/
def IsSettled (toCreate : List Table) (toAdd : List Extension) (d : Dialect) : Prop :=
  (∃ e, (build toCreate toAdd d).outcome = .error e ∧ e.isOwn = true) ∨
    ∃ plan sql, (build toCreate toAdd d).outcome = .ok plan ∧ plan.document = .ok sql

/-- Planning, and writing what was planned, tells whether it is. -/
def isSettled (toCreate : List Table) (toAdd : List Extension) (d : Dialect) : Bool :=
  match (build toCreate toAdd d).outcome with
  | .error e => e.isOwn
  | .ok plan => plan.document.isOk

theorem isSettled_eq_true : isSettled toCreate toAdd d = true ↔ IsSettled toCreate toAdd d := by
  rw [isSettled, IsSettled]
  cases (build toCreate toAdd d).outcome with
  | error e => simp
  | ok plan => cases hsql : plan.document <;> simp [Except.isOk, Except.toBool, hsql]

instance : Decidable (IsSettled toCreate toAdd d) :=
  decidable_of_iff _ isSettled_eq_true

section Typed

variable (hcreate : ∀ t ∈ ordered, t.IsTyped) (hadd : ∀ x ∈ toAdd, x.IsTyped)
  (hordered : (creationOrder toCreate).outcome = .ok ordered)
include hcreate hadd hordered

/-- Reserved columns are found first, then unknown columns of extensions.  If there are none, the
    tables decide. -/
theorem build_cases (d : Dialect) :
    ((∃ t ∈ ordered, t.IsReserved) ∨ ∃ x ∈ toAdd, x.NamesUnknown) ∧
        (∃ e, (build toCreate toAdd d).outcome = .error e ∧ e.isOwn = true) ∨
      (∀ t ∈ ordered, ¬ t.IsReserved) ∧ (∀ x ∈ toAdd, ¬ x.NamesUnknown) ∧
        ∀ e, (build toCreate toAdd d).outcome = .error e ↔
          ordered.mapM (fun t => (t.plan d).outcome) = .error e := by
  rw [outcome_build hordered]
  rcases forM_checkReserved_cases hcreate with ⟨hfree, hforM⟩ | ⟨hreserved, e, hforM, hown⟩
  · rcases mapM_plan_cases hadd d with ⟨hknown, additions, hmapM⟩ | ⟨hunknown, e, hmapM, hown⟩
    · refine .inr ⟨hfree, hknown, fun e => ?_⟩
      simp [hforM, hmapM, Except.bind_eq_error, pure, Except.pure]
    · exact .inl ⟨.inr hunknown, e, by rw [hforM, hmapM]; rfl, hown⟩
  · exact .inl ⟨.inl hreserved, e, by rw [hforM]; rfl, hown⟩

/-- A table that names an unknown column is refused unless an earlier one cannot be written. -/
theorem exists_refused_iff :
    (∃ e, (build toCreate toAdd d).outcome = .error e ∧ e.isOwn = true) ↔
      (∃ t ∈ ordered, t.IsReserved) ∨ (∃ x ∈ toAdd, x.NamesUnknown) ∨
        ∃ before t after, ordered = before ++ t :: after ∧
          (∀ u ∈ before, ¬ u.NamesUnknown ∧ u.IsWritable d) ∧ t.NamesUnknown := by
  rw [← or_assoc]
  rcases build_cases hcreate hadd hordered d with ⟨hfault, hrefused⟩ | ⟨hfree, hknown, herror⟩
  · exact iff_of_true hrefused (.inl hfault)
  have hnone : ¬ ((∃ t ∈ ordered, t.IsReserved) ∨ ∃ x ∈ toAdd, x.NamesUnknown) := by
    rintro (⟨t, ht, hreserved⟩ | ⟨x, hx, hunknown⟩)
    · exact hfree t ht hreserved
    · exact hknown x hx hunknown
  rw [or_iff_right hnone]
  -- nothing is reserved, so a table before the refused one was planned if it could be written
  have hbefore : ∀ before t after, ordered = before ++ t :: after →
      ((∀ u ∈ before, ∃ op, (u.plan d).outcome = .ok op) ↔
        ∀ u ∈ before, ¬ u.NamesUnknown ∧ u.IsWritable d) := by
    rintro before t after rfl
    refine forall₂_congr fun u hu => ?_
    have hmem := List.mem_append_left (t :: after) hu
    exact Table.exists_planned_iff (hcreate u hmem) (hfree u hmem)
  constructor
  · rintro ⟨e, he, hown⟩
    obtain ⟨before, t, after, hsplit, hplanned, he⟩ := Except.mapM_eq_error.1 ((herror e).1 he)
    have ht : t ∈ ordered := by simp [hsplit]
    exact ⟨before, t, after, hsplit, (hbefore _ _ _ hsplit).1 hplanned,
      (Table.exists_refused_iff (hcreate t ht)).1 ⟨e, he, hown⟩⟩
  · rintro ⟨before, t, after, hsplit, hplanned, hunknown⟩
    have ht : t ∈ ordered := by simp [hsplit]
    obtain ⟨e, he, hown⟩ := (Table.exists_refused_iff (hcreate t ht)).2 hunknown
    exact ⟨e, (herror e).2 (Except.mapM_eq_error.2
      ⟨before, t, after, hsplit, (hbefore _ _ _ hsplit).2 hplanned, he⟩), hown⟩

/-- A plan is made that can be written where nothing is refused and everything is writable. -/
theorem exists_written_iff :
    (∃ plan sql, (build toCreate toAdd d).outcome = .ok plan ∧ plan.document = .ok sql) ↔
      (∀ t ∈ ordered, ¬ t.IsReserved ∧ ¬ t.NamesUnknown ∧ t.IsWritable d) ∧
        ∀ x ∈ toAdd, ¬ x.NamesUnknown ∧ x.IsWritable d := by
  have hadded : ∀ x ∈ extensionsByOrder toAdd,
      (∃ op, (x.plan d).outcome = .ok op ∧ ∃ sql, op.sql d = .ok sql) ↔
        ¬ x.NamesUnknown ∧ x.IsWritable d := fun x hx =>
    Extension.exists_written_iff (hadd x ((byOrderAndName_perm ..).mem_iff.1 hx))
  rw [exists_document_build_iff hordered, Except.exists_mapM_and_iff, Except.exists_mapM_and_iff,
    forall₂_congr hadded]
  -- a reserved column stops the plan before any table is planned
  rcases forM_checkReserved_cases hcreate with ⟨hfree, hforM⟩ | ⟨⟨t, ht, hreserved⟩, e, hforM, -⟩
  · have hcreated : ∀ t ∈ ordered,
        (∃ op, (t.plan d).outcome = .ok op ∧ ∃ sql, op.sql d = .ok sql) ↔
          ¬ t.IsReserved ∧ ¬ t.NamesUnknown ∧ t.IsWritable d := fun t ht => by
      rw [Table.exists_written_iff (hcreate t ht) (hfree t ht), and_iff_right (hfree t ht)]
    have hmem : ∀ x, x ∈ extensionsByOrder toAdd ↔ x ∈ toAdd := fun x =>
      (byOrderAndName_perm ..).mem_iff
    rw [and_iff_right hforM, forall₂_congr hcreated, and_comm]
    simp only [hmem]
  · refine iff_of_false (fun h => ?_) fun h => (h.1 t ht).1 hreserved
    exact absurd (h.1.symm.trans hforM) (by simp)

/-- Planning is stopped by nothing but a refusal or a statement that cannot be written. -/
theorem isOwn_or_statement {e : Error} (h : (build toCreate toAdd d).outcome = .error e) :
    e.isOwn = true ∨ ∃ cause, e = .statement cause := by
  rcases build_cases hcreate hadd hordered d with ⟨-, e', he', hown⟩ | ⟨-, -, herror⟩
  · obtain rfl := Except.error.inj (he'.symm.trans h)
    exact .inl hown
  obtain ⟨before, t, after, rfl, -, he⟩ := Except.mapM_eq_error.1 ((herror e).1 h)
  have ht := hcreate t (List.mem_append_right _ List.mem_cons_self)
  rcases t.outcome_plan ht d with ⟨-, e', he', hown⟩ | ⟨-, ⟨hok, -⟩ | ⟨cause, he', -⟩⟩
  · obtain rfl := Except.error.inj (he'.symm.trans he)
    exact .inl hown
  · exact absurd (hok.symm.trans he) (by simp)
  · exact .inr ⟨cause, Except.error.inj (he.symm.trans he')⟩

end Typed

/-- Users with a chief, who is a user and known by a column of theirs. -/
def users (column : String) : Table :=
  ⟨"user", [(.text "chief", { Field.plain .string with
    references := .reference ⟨.text "user", .text column, none⟩ })], Number.infinity, [],
    [⟨[.text "chief"], false, none⟩]⟩

theorem isTyped_users (column : String) : ∀ t ∈ [users column], t.IsTyped :=
  List.forall_mem_singleton.2
    ⟨⟨⟨["chief"], by decide, rfl⟩, List.forall_mem_singleton.2 (.inr rfl)⟩,
      List.forall_mem_singleton.2 ⟨["chief"], rfl⟩⟩

def titles : Extension :=
  ⟨"post", [(.text "title", Field.plain .string)], Number.infinity,
    [⟨[.text "title"], false, none⟩]⟩

end Plan

end Accrete
