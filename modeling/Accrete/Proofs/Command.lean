import Mathlib
import Accrete.Proofs.Settings.Discovery
import Accrete.Proofs.Settings.Loading

/-!
# Errors of commands

A command reports the errors of its schema, its dialect and its database URL: it prints a message
and ends with the exit code 1.  The same errors stop it if its settings file gives rise to them.

* `Invocation.Meets`           -- a planning command meets an error at some stage
* `Invocation.Meets.reports`   -- what it does then
* `World.ReportsErrors`        -- a command reports whatever it is to report
* `World.reportsErrors_iff`    -- it does unless the settings that it loads are misstated
-/

namespace Accrete

/-! ## What stops planning -/

namespace Inputs

variable {w : World} {logLevel : Option String} {s : Sources} {e : Error}

theorem stopsBy_threshold (name : String) :
    Except.StopsBy Ending.mayHappen ((Threshold.ofName name).mapError .error) := by
  rw [Threshold.ofName]
  split
  · exact .error rfl
  · exact .pure _

theorem stopsBy_databaseUrl (settings : Settings) (asked : Option String) :
    Except.StopsBy Ending.mayHappen (w.databaseUrl settings asked) := by
  rw [World.databaseUrl]
  split
  · exact .pure _
  · exact .error rfl

theorem stopsBy_fragments (moduleName : Option String) :
    Except.StopsBy Ending.mayHappen (w.fragments moduleName) := by
  rw [World.fragments]
  split
  · exact .error rfl
  · split
    · exact .error rfl
    · split
      · exact .error rfl
      · split
        · exact .error rfl
        · exact .pure _

/-- Only settings can stop the finding of inputs by an error to report. -/
theorem stopsBy_find (h : Except.StopsBy Ending.mayHappen (w.settings s.config)) :
    Except.StopsBy Ending.mayHappen (find w logLevel s) :=
  .bind h fun _ _ => .bind (stopsBy_threshold _) fun _ _ => .bind (stopsBy_databaseUrl _ _)
    fun _ _ => .bind (stopsBy_fragments _) fun _ _ => .bind (.mapError (fun _ => rfl) _)
      fun _ _ => .pure _

theorem find_of_urlMissing {settings : Settings} {threshold : ℕ}
    (hsettings : w.settings s.config = .ok settings)
    (hlevel : Threshold.ofName ((Settings.nonempty? logLevel).getD settings.logLevel.name) =
      .ok threshold)
    (h : settings.databaseUrl? s.url w.environment = .error e) :
    find w logLevel s = .error (.message
      "Error: No database URL configured. Use --url or set sqlalchemy.url in schemakit.ini\n") := by
  refine Except.bind_eq_error.2 (.inr ⟨settings, hsettings, ?_⟩)
  refine Except.bind_eq_error.2 (.inr ⟨threshold, Except.mapError_eq_ok.2 hlevel, ?_⟩)
  refine Except.bind_eq_error.2 (.inl ?_)
  rw [World.databaseUrl, h]

end Inputs

theorem Prepared.stopsBy_ofInputs (w : World) (i : Inputs) :
    Logged.StopsBy Error.isOfMigration (ofInputs w i).1 :=
  .bind (Migration.stopsBy_target _ _) fun _ =>
    .bind (.ofExcept (FileTree.stopsBy_openNamed _ _)) fun _ =>
      .bind (Migration.stopsBy_against _ _ _ _) fun _ => .pure _

/-! ## How commands end -/

theorem stopsBy_announce {p : Prepared} {next : String → Outcome}
    (h : ∀ announced, Except.StopsBy Error.mayStop (next announced).exit) :
    Except.StopsBy Error.mayStop (announce p next).exit := by
  rw [announce]
  split
  · exact h _
  · exact .error rfl

theorem stopsBy_showSql (output : Option String) (p : Prepared) :
    Except.StopsBy Error.mayStop (showSql output p).exit := by
  rw [showSql]
  split
  next e h =>
    obtain ⟨cause, -, rfl⟩ := Except.mapError_eq_error.1 h
    exact .error rfl
  · split
    · exact .pure _
    · split
      next e h => exact .error (FileTree.stopsBy_write _ _ _ e h)
      · exact .pure _

/-- A migration that fails as it is applied is reported. -/
theorem apply_of_failure {p : Prepared} {e : Error} (announced : String)
    (h : (p.migration.plan.run p.backend .engine p.opened.database).failure = some e) :
    (apply p announced).exit = .ok 1 ∧
      (apply p announced).printed =
        announced ++ ("Error: Migration failed: " ++ e.report ++ "\n") := by
  rw [apply, h]
  exact ⟨rfl, rfl⟩

theorem exit_apply_of_success {p : Prepared} (announced : String)
    (h : (p.migration.plan.run p.backend .engine p.opened.database).failure = none) :
    (apply p announced).exit = .ok 0 := by
  rw [apply, h]

theorem stopsBy_apply (p : Prepared) (announced : String) :
    Except.StopsBy Error.mayStop (apply p announced).exit := by
  cases h : (p.migration.plan.run p.backend .engine p.opened.database).failure with
  | none =>
    rw [exit_apply_of_success announced h]
    exact .pure 0
  | some e =>
    rw [(apply_of_failure announced h).1]
    exact .pure 1

/-- A migration that is confirmed is applied after the lines that announce it. -/
theorem exists_applyIfConfirmed {p : Prepared} {lines : List String} {confirmed : Bool}
    {input : String} (hlines : p.migration.lines = .ok lines)
    (hyes : confirmed = true ∨ saysYes input = true) :
    ∃ announced, applyIfConfirmed confirmed input p = apply p announced := by
  rw [applyIfConfirmed, announce, hlines]
  cases confirmed with
  | true => exact ⟨_, if_pos rfl⟩
  | false =>
    have hinput : saysYes input = true := hyes.resolve_left (by decide)
    exact ⟨_, (if_neg (by decide)).trans (if_pos hinput)⟩

theorem stopsBy_applyIfConfirmed (confirmed : Bool) (input : String) (p : Prepared) :
    Except.StopsBy Error.mayStop (applyIfConfirmed confirmed input p).exit := by
  refine stopsBy_announce fun announced => ?_
  split
  · exact stopsBy_apply p announced
  · split
    · exact stopsBy_apply p _
    · exact .pure _

theorem stopsBy_runInit (w : World) (directory : String) (url : Option String) :
    Except.StopsBy Error.mayStop (runInit w directory url).exit := by
  have hstop := Settings.stopsBy_create w.files (w.files.resolve (Path.ofString directory)) url
  -- which file is written does not matter, and evaluating it would take long
  unfold runInit
  generalize Settings.create w.files (w.files.resolve (Path.ofString directory)) url = created
    at hstop ⊢
  rcases created with e | ⟨path, files⟩
  · have hstop := hstop e rfl
    dsimp only
    split
    · exact .pure 1
    · exact .pure 1
    · exact .error hstop
  · exact .pure 0

namespace Request

/-- Where a planning command finds its settings, database and fragments. -/
def sources? : Request → Option Sources
  | .plan s | .sql s _ | .up s _ => some s
  | .nothing | .unspecified | .init .. => none

/-- What a planning command does with a migration that is not empty. -/
def finish (input : String) : Request → Prepared → Outcome
  | .sql _ output => showSql output
  | .up _ confirmed => applyIfConfirmed confirmed input
  | _ => showPlan

theorem stopsBy_finish (input : String) (r : Request) (p : Prepared) :
    Except.StopsBy Error.mayStop (r.finish input p).exit := by
  cases r with
  | sql s output => exact stopsBy_showSql output p
  | up s confirmed => exact stopsBy_applyIfConfirmed confirmed input p
  | _ => exact stopsBy_announce fun _ => .pure _

end Request

section Planning

variable {w : World} {logLevel : Option String} {s : Sources} {finish : Prepared → Outcome}
  {inputs : Inputs}

theorem runPlanning_of_ending {ending : Ending}
    (h : Inputs.find w logLevel s = .error ending) :
    runPlanning w logLevel s finish = .ofEnding w.files ending := by
  rw [runPlanning, h]

theorem runPlanning_of_error {e : Error} (hinputs : Inputs.find w logLevel s = .ok inputs)
    (h : (Prepared.ofInputs w inputs).1.outcome = .error e) (he : e.isPlanningError = true) :
    (runPlanning w logLevel s finish).exit = .ok 1 ∧
      (runPlanning w logLevel s finish).printed =
        "Error: Migration planning failed: " ++ e.message ++ "\n" := by
  rw [runPlanning, hinputs]
  simp only [h, he, if_true]
  exact ⟨rfl, rfl⟩

theorem runPlanning_of_ok (finish : Prepared → Outcome) {p : Prepared}
    (hinputs : Inputs.find w logLevel s = .ok inputs)
    (h : (Prepared.ofInputs w inputs).1.outcome = .ok p) (hsome : p.migration.isEmpty = false) :
    (runPlanning w logLevel s finish).exit = (finish p).exit ∧
      (runPlanning w logLevel s finish).printed = (finish p).printed := by
  rw [runPlanning, hinputs]
  simp only [h, hsome, Bool.false_eq_true, if_false]
  exact ⟨rfl, rfl⟩

theorem stopsBy_runPlanning (hsettings : Except.StopsBy Ending.mayHappen (w.settings s.config))
    (hfinish : ∀ p, Except.StopsBy Error.mayStop (finish p).exit) :
    Except.StopsBy Error.mayStop (runPlanning w logLevel s finish).exit := by
  cases hinputs : Inputs.find w logLevel s with
  | error ending =>
    rw [runPlanning_of_ending hinputs]
    cases ending with
    | message printed => exact .pure 1
    | error e => exact .error (Inputs.stopsBy_find hsettings _ hinputs)
  | ok inputs =>
    have hprepared := Prepared.stopsBy_ofInputs w inputs
    rw [runPlanning, hinputs]
    dsimp only [Outcome.letThrough, Outcome.after]
    split
    · split
      · exact .pure 0
      · exact hfinish _
    next e he =>
      split
      · exact .pure 1
      next hplanning =>
        exact .error (Error.mayStop_of_isOfMigration (hprepared e he) hplanning)

end Planning

namespace Invocation

variable {w : World} {i : Invocation} {s : Sources} {input : String}

theorem run_of_sources (hs : i.request.sources? = some s) :
    i.run w input = runPlanning w i.logLevel s (i.request.finish input) := by
  rw [run]
  cases hrequest : i.request <;> simp_all [Request.sources?, Request.finish]

theorem stopsBy_run (h : ∀ s, i.request.sources? = some s →
    Except.StopsBy Ending.mayHappen (w.settings s.config)) :
    Except.StopsBy Error.mayStop (i.run w input).exit := by
  cases hs : i.request.sources? with
  | some s =>
    rw [run_of_sources hs]
    exact stopsBy_runPlanning (h s hs) (i.request.stopsBy_finish input)
  | none =>
    rw [run]
    cases hrequest : i.request with
    | nothing => exact .pure 1
    | unspecified => exact .pure 1
    | init directory url => exact stopsBy_runInit w directory url
    | _ => simp [hrequest, Request.sources?] at hs

end Invocation

/-! ## Reporting errors -/

namespace Invocation

/-- A planning command meets an error: as it loads its settings, as it looks for its database, as
    it plans, or as it applies what is planned. -/
inductive Meets (w : World) (input : String) (i : Invocation) (e : Error) : Prop where
  | settings {s : Sources} (hs : i.request.sources? = some s)
      (h : w.settings s.config = .error (.error e))
  | url {s : Sources} {settings : Settings} {threshold : Nat}
      (hs : i.request.sources? = some s) (hsettings : w.settings s.config = .ok settings)
      (hlevel : Threshold.ofName ((Settings.nonempty? i.logLevel).getD settings.logLevel.name) =
        .ok threshold)
      (h : settings.databaseUrl? s.url w.environment = .error e)
  | planning {s : Sources} {inputs : Inputs} (hs : i.request.sources? = some s)
      (hinputs : Inputs.find w i.logLevel s = .ok inputs)
      (h : (Prepared.ofInputs w inputs).1.outcome = .error e)
  | applying {s : Sources} {confirmed : Bool} {inputs : Inputs} {p : Prepared}
      {lines : List String} (hup : i.request = .up s confirmed)
      (hinputs : Inputs.find w i.logLevel s = .ok inputs)
      (hprepared : (Prepared.ofInputs w inputs).1.outcome = .ok p)
      (hsome : p.migration.isEmpty = false) (hlines : p.migration.lines = .ok lines)
      (hyes : confirmed = true ∨ saysYes input = true)
      (h : (p.migration.plan.run p.backend .engine p.opened.database).failure = some e)

end Invocation

namespace Outcome

/-- What is printed ends with the message of an error, and the exit code is 1. -/
def Reports (o : Outcome) : Prop :=
  o.exit = .ok 1 ∧ ∃ before text, o.printed = before ++ ("Error: " ++ text ++ "\n")

end Outcome

namespace Invocation

variable {w : World} {i : Invocation} {s : Sources} {input : String} {e : Error}

/-- A command whose settings may be loaded reports what it meets. -/
theorem Meets.reports (h : i.Meets w input e) (he : e.isReportable = true)
    (hsettings : ∀ s, i.request.sources? = some s →
      Except.StopsBy Ending.mayHappen (w.settings s.config)) : (i.run w input).Reports := by
  -- what is printed last depends on the stage at which the error is met
  cases h with
  | settings hs h =>
    exact absurd h ((hsettings _ hs).ne_error (Error.mayStop_eq_false he))
  | url hs hsettings hlevel h =>
    rw [run_of_sources hs, runPlanning_of_ending (Inputs.find_of_urlMissing hsettings hlevel h)]
    exact ⟨rfl, "", "No database URL configured. Use --url or set sqlalchemy.url in schemakit.ini",
      by simp [Outcome.ofEnding, Outcome.ended]⟩
  | planning hs hinputs h =>
    have hplanning := Error.isPlanningError_of_isOfMigration
      (Prepared.stopsBy_ofInputs w _ e h) he
    obtain ⟨hexit, hprinted⟩ := runPlanning_of_error hinputs h hplanning
    rw [run_of_sources hs]
    exact ⟨hexit, "", "Migration planning failed: " ++ e.message,
      by simp [hprinted, ← String.append_assoc]⟩
  | applying hup hinputs hprepared hsome hlines hyes h =>
    obtain ⟨announced, happly⟩ := exists_applyIfConfirmed hlines hyes
    obtain ⟨hcode, hlast⟩ := apply_of_failure announced h
    obtain ⟨hexit, hprinted⟩ := runPlanning_of_ok (applyIfConfirmed _ input) hinputs hprepared hsome
    rw [happly] at hexit hprinted
    rw [run, hup]
    exact ⟨hexit.trans hcode, announced, "Migration failed: " ++ e.report,
      by simp [hprinted, hlast, ← String.append_assoc]⟩

end Invocation

namespace World

variable {w : World} {args : List String} {input : String}

/-- A command loads its settings from a file that reads like this. -/
def Loads (w : World) (args : List String) (file : Ini.File) : Prop :=
  ∃ i s path, Invocation.ofArgs args = .ok i ∧ i.request.sources? = some s ∧
    w.settingsFile? s.config = .ok (some path) ∧ Settings.Reads w.files path file

/-- Whatever error to report a command meets is reported, and none of these stops it. -/
structure ReportsErrors (w : World) (args : List String) (input : String) : Prop where
  reported : ∀ i e, Invocation.ofArgs args = .ok i → i.Meets w input e → e.isReportable = true →
    (w.run args input).Reports
  kept : ∀ e, (w.run args input).exit = .error e → e.isReportable = false

/-- The settings of a command that loads no misstated file stop it by no error to report. -/
theorem stopsBy_settings {i : Invocation} {s : Sources}
    (h : ∀ file, w.Loads args file → ¬Settings.Misstated file)
    (hargs : Invocation.ofArgs args = .ok i) (hs : i.request.sources? = some s) :
    Except.StopsBy Ending.mayHappen (w.settings s.config) :=
  stopsBy_settings_iff.2 fun path file hpath hreads =>
    h file ⟨i, s, path, hargs, hs, hpath, hreads⟩

theorem exit_of_settings (input : String) {i : Invocation} {s : Sources} {e : Error}
    (hargs : Invocation.ofArgs args = .ok i) (hs : i.request.sources? = some s)
    (hsettings : w.settings s.config = .error (.error e)) :
    (w.run args input).exit = .error e := by
  have hfind : Inputs.find w i.logLevel s = .error (.error e) :=
    Except.bind_eq_error.2 (.inl hsettings)
  rw [run, hargs]
  dsimp only
  rw [Invocation.run_of_sources hs, runPlanning_of_ending hfind]
  rfl

/-- A misstated file stops the command that loads it. -/
theorem exists_exit_eq_error (input : String) {file : Ini.File} (hloads : w.Loads args file)
    (hmisstated : Settings.Misstated file) :
    ∃ e, (w.run args input).exit = .error e ∧ e.isReportable = true := by
  obtain ⟨i, s, path, hargs, hs, hpath, hreads⟩ := hloads
  obtain ⟨e, hfile, he⟩ := (Settings.exists_ofIni_eq_error_iff path).2 hmisstated
  have hsettings := (settings_eq_error_iff he).2 ⟨path, file, hpath, hreads, hfile⟩
  exact ⟨e, exit_of_settings input hargs hs hsettings, he⟩

/-- A command reports its errors just where the settings file that it loads, if any, is not
    misstated. -/
theorem reportsErrors_iff : w.ReportsErrors args input ↔
    ∀ file, w.Loads args file → ¬Settings.Misstated file := by
  constructor
  · intro h file hloads hmisstated
    obtain ⟨e, hexit, he⟩ := exists_exit_eq_error input hloads hmisstated
    exact absurd (he.symm.trans (h.kept e hexit)) (by decide)
  · intro h
    constructor
    · intro i e hargs hmeets he
      rw [run, hargs]
      exact hmeets.reports he fun s hs => stopsBy_settings h hargs hs
    · intro e hexit
      rw [run] at hexit
      split at hexit
      · rename_i i hargs
        have hstop := Invocation.stopsBy_run (fun s hs => stopsBy_settings h hargs hs) e hexit
        exact Error.isReportable_eq_false hstop
      · cases hexit
      · cases hexit

/-- Files with settings that state a dialect that is not known. -/
def oracular : World :=
  ⟨⟨[], [([Settings.fileName], .text "[schemakit]\ndialect = oracle\n")]⟩, none, []⟩

/-- A dialect that is not known stops a command, if it is the settings file that states it. -/
theorem oracular_not_reportsErrors :
    (oracular.run ["migrate", "plan"] "").exit = .error (.dialectUnsupported "oracle") ∧
      ¬oracular.ReportsErrors ["migrate", "plan"] "" := by
  have hargs : Invocation.ofArgs ["migrate", "plan"] =
      .ok ⟨none, .plan ⟨none, none, none, none⟩⟩ := by cbv
  have hfile : oracular.settingsFile? none = .ok (some (.ofParts [Settings.fileName])) := rfl
  have hload : Settings.load oracular.files (.ofParts [Settings.fileName]) =
      .error (.dialectUnsupported "oracle") :=
    (Settings.load_of_find? rfl).trans (by cbv)
  have hsettings : oracular.settings none = .error (.error (.dialectUnsupported "oracle")) := by
    rw [settings_eq, hfile]
    exact Except.mapError_eq_error.2 ⟨_, hload, rfl⟩
  have hexit := exit_of_settings "" hargs rfl hsettings
  exact ⟨hexit, fun h => absurd (h.kept _ hexit) (by decide)⟩

end World

end Accrete
