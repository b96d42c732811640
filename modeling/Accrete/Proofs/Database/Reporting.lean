import Accrete.Database.ReportedType
import Accrete.Proofs.Database.Executing
import Mathlib.Data.List.Perm.Basic

/-!
# What a database reports

The tables that a database shows, one by one as they are reported.

* `StoredColumn.IsReportedAs`           -- how a column is reported
* `StoredColumn.isReportedAs_of_type`   -- how one is that a migration made
* `Database.outcome_introspect_eq_ok`   -- what is reported of all tables
-/

namespace Accrete

/-! ## Columns -/

namespace ReportedType

theorem read_of_type {type : String} (h : type ∈ sqliteTypes) :
    read type = .ok ⟨some (Text.upper type), []⟩ := by
  simp only [sqliteTypes, List.mem_cons, List.not_mem_nil, or_false] at h
  rcases h with rfl | rfl | rfl | rfl
  · rfl
  · rfl
  · rfl
  · rfl

theorem shown?_of_type {type : String} (h : type ∈ sqliteTypes) :
    shown? ⟨some (Text.upper type), []⟩ = .ok (some (Text.upper type)) := by
  simp only [sqliteTypes, List.mem_cons, List.not_mem_nil, or_false] at h
  rcases h with rfl | rfl | rfl | rfl
  · rfl
  · rfl
  · rfl
  · rfl

end ReportedType

namespace StoredColumn

variable {c : StoredColumn} {type : String}

/-- A column is reported in a given way. -/
def IsReportedAs (c : StoredColumn) (l : LiveColumn) : Prop :=
  ∃ type, ReportedType.read c.declaredType = .ok type ∧ (c.report type).outcome = .ok l

/-- A type that a migration writes has none of the words that are left out. -/
theorem declaredType_of_type (htype : type ∈ sqliteTypes) (h : c.type = some type) :
    c.declaredType = type := by
  have hwords := forall_mem_sqliteTypes (p := fun type => String.ofList (withoutWord
    "always".toList (withoutWord "generated".toList type.toList)) == type)
      (by decide +kernel) htype
  rw [declaredType, h]
  split
  · rfl
  · exact beq_iff_eq.1 hwords

/-- A column of a type that a migration writes is reported with the type in upper case. -/
theorem isReportedAs_of_type (htype : type ∈ sqliteTypes) (h : c.type = some type) :
    c.IsReportedAs ⟨c.name, Text.upper type, c.notNull.isNone⟩ := by
  refine ⟨⟨some (Text.upper type), []⟩, ?_, ?_⟩
  · rw [declaredType_of_type htype h, ReportedType.read_of_type htype]
  · rw [report, ReportedType.shown?_of_type htype]
    rfl

theorem IsReportedAs.name {l : LiveColumn} (h : c.IsReportedAs l) : l.name = c.name := by
  obtain ⟨type, -, hl⟩ := h
  obtain ⟨shown, -, hl⟩ := Logged.outcome_bind_eq_ok.1 hl
  cases shown with
  | none | some type =>
    obtain rfl := Except.ok.inj hl
    rfl

theorem events_report {type : ReportedType} : ∀ e ∈ (c.report type).events, e = .typeUnnamed := by
  rw [report]
  cases type.shown? with
  | error cause => exact fun e he => absurd he List.not_mem_nil
  | ok shown =>
    cases shown with
    | none => exact fun e he => List.mem_singleton.1 he
    | some type => exact fun e he => absurd he List.not_mem_nil

end StoredColumn

/-! ## Tables -/

/-- A table that is shown is reported in a given way. -/
def IsReportedAs (t : String × List StoredColumn) (l : LiveTable) : Prop :=
  l.name = t.1 ∧ List.Forall₂ StoredColumn.IsReportedAs t.2 l.columns

theorem StoredColumn.IsReportedAs.unique {c : StoredColumn} {l l' : LiveColumn}
    (h : c.IsReportedAs l) (h' : c.IsReportedAs l') : l = l' := by
  obtain ⟨type, htype, hl⟩ := h
  obtain ⟨type', htype', hl'⟩ := h'
  obtain rfl := Except.ok.inj (htype.symm.trans htype')
  exact Except.ok.inj (hl.symm.trans hl')

theorem IsReportedAs.unique {t : String × List StoredColumn} {l l' : LiveTable}
    (h : IsReportedAs t l) (h' : IsReportedAs t l') : l = l' := by
  obtain ⟨hname, hcolumns⟩ := h
  obtain ⟨hname', hcolumns'⟩ := h'
  have hunique : Relator.RightUnique StoredColumn.IsReportedAs :=
    fun _ _ _ hl hl' => hl.unique hl'
  have hsame := hunique.forall₂ hcolumns hcolumns'
  obtain ⟨name, columns⟩ := l
  obtain ⟨name', columns'⟩ := l'
  simp_all

theorem StoredTable.outcome_report_eq_ok {t : StoredTable} {l : LiveTable} :
    t.report.outcome = .ok l ↔ IsReportedAs (t.name, t.columns) l := by
  have hcolumns : ∀ columns, List.Forall₂ StoredColumn.IsReportedAs t.columns columns ↔ _ :=
    fun columns => (exists_forall₂_zip
      (P := fun (c : StoredColumn) type => ReportedType.read c.declaredType = .ok type)
      (Q := fun (p : StoredColumn × ReportedType) l => (p.1.report p.2).outcome = .ok l)).symm
  rw [report, Logged.outcome_bind_eq_ok, Accrete.IsReportedAs, hcolumns]
  simp only [Logged.outcome_ofExcept, Except.mapError_eq_ok, Except.mapM_eq_ok,
    Logged.outcome_bind_eq_ok, Logged.outcome_mapM_eq_ok, Logged.outcome_pure]
  constructor
  · rintro ⟨types, htypes, columns, hreported, h⟩
    obtain rfl := Except.ok.inj h
    exact ⟨rfl, types, htypes, hreported⟩
  · rintro ⟨hname, types, htypes, hreported⟩
    obtain ⟨name, columns⟩ := l
    subst hname
    exact ⟨types, htypes, columns, hreported, rfl⟩

namespace Database

variable {db : Database} {live : List LiveTable}

/-- What is reported are the tables that are shown, in the order of their names. -/
theorem outcome_introspect_eq_ok : (db.introspect none).outcome = .ok live ↔
    List.Forall₂ IsReportedAs (db.tablesByName.map fun t => (t.name, t.columns)) live := by
  have hlive : (db.introspect none).outcome = (db.tablesByName.mapM StoredTable.report).outcome :=
    rfl
  rw [hlive, Logged.outcome_mapM_eq_ok, List.forall₂_map_left_iff]
  simp only [StoredTable.outcome_report_eq_ok]

theorem tablesByName_perm (db : Database) :
    (db.tablesByName.map fun t => (t.name, t.columns)).Perm db.shown :=
  (List.mergeSort_perm ..).map _

/-- All tables are reported if each can be. -/
theorem exists_introspect (h : ∀ t ∈ db.shown, ∃ l, Accrete.IsReportedAs t l) :
    ∃ live, (db.introspect none).outcome = .ok live := by
  simp only [outcome_introspect_eq_ok]
  have h : ∀ t ∈ db.tablesByName.map fun t => (t.name, t.columns), ∃ l, Accrete.IsReportedAs t l :=
    fun t ht => h t ((tablesByName_perm db).mem_iff.1 ht)
  generalize (db.tablesByName.map fun t => (t.name, t.columns)) = ts at h
  induction ts with
  | nil => exact ⟨[], .nil⟩
  | cons t ts ih =>
    obtain ⟨l, hl⟩ := h t List.mem_cons_self
    obtain ⟨live, hlive⟩ := ih fun t ht => h t (List.mem_cons_of_mem _ ht)
    exact ⟨l :: live, .cons hl hlive⟩

/-- Nothing is reported but that types are not known. -/
theorem events_introspect (h : (db.introspect none).outcome = .ok live) :
    ∀ e ∈ (db.introspect none).events, e = .typeUnnamed := by
  have hevents : (db.introspect none).events = (db.tablesByName.mapM StoredTable.report).events :=
    rfl
  have hlive : (db.tablesByName.mapM StoredTable.report).outcome = .ok live := h
  rw [hevents, Logged.events_mapM hlive]
  intro e he
  obtain ⟨t, ht, he⟩ := List.mem_flatMap.1 he
  obtain ⟨l, hl, -⟩ := exists_mem_zip_of_forall₂ (Logged.outcome_mapM_eq_ok.1 hlive) ht
  obtain ⟨types, htypes, hl⟩ := Logged.outcome_bind_eq_ok.1 hl
  obtain ⟨columns, hcolumns, -⟩ := Logged.outcome_bind_eq_ok.1 hl
  rw [StoredTable.report, Logged.events_bind htypes, Logged.events_bind hcolumns,
    Logged.events_mapM hcolumns, Logged.events_ofExcept, Logged.events_pure, List.append_nil,
    List.nil_append] at he
  obtain ⟨⟨c, type⟩, -, he⟩ := List.mem_flatMap.1 he
  exact StoredColumn.events_report e he

section Introspected

variable (h : (db.introspect none).outcome = .ok live)
include h

theorem exists_shown_of_mem {l : LiveTable} (hl : l ∈ live) :
    ∃ t ∈ db.shown, Accrete.IsReportedAs t l := by
  obtain ⟨t, ht, hmem⟩ := exists_mem_zip_of_forall₂ (outcome_introspect_eq_ok.1 h).flip hl
  exact ⟨t, (tablesByName_perm db).mem_iff.1 (List.of_mem_zip hmem).1, ht⟩

theorem exists_isReportedAs {t : String × List StoredColumn} (ht : t ∈ db.shown) :
    ∃ l, Accrete.IsReportedAs t l := by
  obtain ⟨l, hl, -⟩ := exists_mem_zip_of_forall₂ (outcome_introspect_eq_ok.1 h)
    ((tablesByName_perm db).mem_iff.2 ht)
  exact ⟨l, hl⟩

theorem mem_of_isReportedAs {t : String × List StoredColumn} {l : LiveTable} (ht : t ∈ db.shown)
    (hl : Accrete.IsReportedAs t l) : l ∈ live := by
  obtain ⟨l', hl', hmem⟩ := exists_mem_zip_of_forall₂ (outcome_introspect_eq_ok.1 h)
    ((tablesByName_perm db).mem_iff.2 ht)
  rw [hl.unique hl']
  exact (List.of_mem_zip hmem).1

theorem names_introspect_perm : (live.map LiveTable.name).Perm (db.shown.map Prod.fst) := by
  have hnames : live.map LiveTable.name =
      (db.tablesByName.map fun t => (t.name, t.columns)).map Prod.fst :=
    map_eq_map_of_forall₂ ((outcome_introspect_eq_ok.1 h).flip.imp fun _ _ hl => hl.1)
  rw [hnames]
  exact (tablesByName_perm db).map _

theorem NamesDiffer.nodup_introspect (hdb : db.NamesDiffer) :
    (live.map LiveTable.name).Nodup :=
  (names_introspect_perm h).nodup_iff.2 hdb.nodup_shown

end Introspected

end Database

end Accrete
