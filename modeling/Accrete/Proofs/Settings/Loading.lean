import Accrete.Command
import Accrete.Proofs.Stopping

/-!
# Settings that stop a command

A planning command loads its settings before it can report anything.  What they state wrongly
stops it, although it is among the errors that a command is to report.

* `Error.isReportable`                 -- the errors that a command is to report
* `Settings.Misstated`                 -- settings that can be read, but not be made sense of
* `Settings.exists_ofIni_eq_error_iff` -- they are the ones with an error to report
* `World.settingsFile?`                -- the settings file that a planning command loads
* `World.stopsBy_settings_iff`         -- when settings stop a command by no error to report
-/

namespace Accrete

variable {α : Type}

/-! ## Errors to report -/

namespace Error

/-- Whether an error is about what settings state or leave out. -/
def isAboutSettings : Error → Bool
  | .sectionMissing .. | .logLevelInvalid .. | .urlMissing => true
  | _ => false

/-- Whether an error is one that a command is to report, instead of being stopped by it. -/
def isReportable (e : Error) : Bool := e.isPlanningError || e.isAboutSettings

/-- Whether an error may stop a command. -/
def mayStop (e : Error) : Bool := !e.isReportable

variable {e : Error}

theorem mayStop_eq_false (h : e.isReportable = true) : e.mayStop = false := by
  rw [mayStop, h]
  rfl

theorem isReportable_eq_false (h : e.mayStop = true) : e.isReportable = false := by
  rwa [mayStop, Bool.not_eq_true'] at h

theorem isPlanningError_of_isOfMigration (h : e.isOfMigration = true)
    (hreport : e.isReportable = true) : e.isPlanningError = true := by
  cases e <;> simp_all [isOfMigration, isReportable, isAboutSettings]

theorem mayStop_of_isOfMigration (h : e.isOfMigration = true)
    (hplanning : ¬e.isPlanningError = true) : e.mayStop = true := by
  rw [mayStop, Bool.not_eq_true', Bool.eq_false_iff]
  exact fun hreport => hplanning (isPlanningError_of_isOfMigration h hreport)

end Error

/-- Whether a command may end in some way: with a message, or by an error that may stop it. -/
def Ending.mayHappen : Ending → Bool
  | .message _ => true
  | .error e => e.mayStop

/-! ## Files -/

namespace FileTree

theorem stopsBy_find? (t : FileTree) (p : Path) : Except.StopsBy Error.mayStop (t.find? p) := by
  rw [find?]
  split
  · exact .pure _
  · exact .error rfl
  · exact .pure _

theorem stopsBy_contains (t : FileTree) (p : Path) :
    Except.StopsBy Error.mayStop (t.contains p) := .map _ (t.stopsBy_find? p)

theorem stopsBy_write (t : FileTree) (p : Path) (content : String) :
    Except.StopsBy Error.mayStop (t.write p content) := by
  rw [write]
  split
  · exact .error rfl
  · split
    · exact .error rfl
    · exact .pure _

theorem stopsBy_makeDirectories (t : FileTree) (p : Path) :
    Except.StopsBy Error.mayStop (t.makeDirectories p) := by
  rw [makeDirectories]
  split
  · exact .error rfl
  · exact .mapError (fun _ => rfl) _

end FileTree

/-! ## Settings in a file -/

namespace Settings

/-- The log level that a settings file states, if it is one. -/
def statedLevel? (file : Ini.File) : Except Ini.Error (Option Level) :=
  (fun stated => Level.ofName? (Text.upper (stated.getD Level.info.name))) <$>
    file.get? sectionName "log_level"

/-- A settings file has no section for the program, or states a log level or a dialect that is not
    known.  The name of the dialect is looked at last, when all references are filled in. -/
inductive Misstated (file : Ini.File) : Prop where
  | noSection (hsection : file.hasSection sectionName = false)
  | unknownLevel {dialect : Option String} (hsection : file.hasSection sectionName = true)
      (hdialect : file.get? sectionName "dialect" = .ok dialect)
      (hlevel : statedLevel? file = .ok .none)
  | unknownDialect {name : String} {level : Level} {options : Ini.Options}
      (hsection : file.hasSection sectionName = true)
      (hdialect : file.get? sectionName "dialect" = .ok (some name)) (hname : name ≠ "")
      (hlevel : statedLevel? file = .ok (some level))
      (hoptions : file.filledOptions sectionName = .ok options)
      (hunknown : Dialect.ofName? name = .none)

variable {t : FileTree} {path : Path} {file : Ini.File} {e : Error} {place : String}

theorem logLevelIn_eq_ok {level : Level} :
    logLevelIn file place = .ok level ↔ statedLevel? file = .ok (some level) := by
  rw [logLevelIn, statedLevel?, Except.map_eq_ok, Except.bind_eq_ok]
  simp only [Except.mapError_eq_ok]
  refine exists_congr fun stated => and_congr_right fun _ => ?_
  cases Level.ofName? (Text.upper (stated.getD Level.info.name)) with
  | none => simp [throw, throwThe, MonadExceptOf.throw]
  | some known => simp

theorem exists_logLevelIn_eq_error :
    (∃ e, logLevelIn file place = .error e ∧ e.isReportable = true) ↔
      statedLevel? file = .ok .none := by
  rw [logLevelIn, statedLevel?]
  cases file.get? sectionName "log_level" with
  | error cause =>
    simp [Except.mapError, bind, Except.bind, Functor.map, Except.map, Error.isReportable,
      Error.isPlanningError, Error.isAboutSettings]
  | ok stated =>
    cases hlevel : Level.ofName? (Text.upper (stated.getD Level.info.name)) with
    | none =>
      simp [Except.mapError, bind, Except.bind, Functor.map, Except.map, throw, throwThe,
        MonadExceptOf.throw, Error.isReportable, Error.isAboutSettings, hlevel]
    | some level =>
      simp [Except.mapError, bind, Except.bind, Functor.map, Except.map, hlevel, pure, Except.pure]

/-- What a path leads to can be read as a settings file. -/
def Reads (t : FileTree) (path : Path) (file : Ini.File) : Prop :=
  ∃ node, t.find? path = .ok (some node) ∧
    Ini.File.parse path.text (node.text?.getD "") = .ok file

/-- What is wrong with the lines of a settings file, or with its references, may stop a command. -/
theorem stopsBy_mapError (x : Except Ini.Error α) :
    Except.StopsBy Error.mayStop (x.mapError Error.settings) := .mapError (fun _ => rfl) x

theorem nonempty?_eq_some {asked : Option String} {name : String} :
    nonempty? asked = some name ↔ asked = some name ∧ name ≠ "" := by
  rw [nonempty?, Option.filter_eq_some_iff, Bool.not_eq_true', Bool.eq_false_iff, ne_eq,
    String.isEmpty_iff]

theorem mapM_parse_eq_error {asked : Option String} :
    (nonempty? asked).mapM Dialect.parse = .error e ↔ ∃ name, asked = some name ∧ name ≠ "" ∧
      Dialect.ofName? name = .none ∧ e = .dialectUnsupported name := by
  simp only [← and_assoc, ← nonempty?_eq_some]
  cases nonempty? asked with
  | none => simp [pure, Except.pure]
  | some name =>
    cases hname : Dialect.ofName? name with
    | none => simp [Dialect.parse, hname, Functor.map, Except.map, eq_comm]
    | some d => simp [Dialect.parse, hname, Functor.map, Except.map]

/-- The errors to report of a settings file that can be read. -/
theorem exists_ofIni_eq_error_iff (path : Path) :
    (∃ e, ofIni file path = .error e ∧ e.isReportable = true) ↔ Misstated file := by
  constructor
  · -- only the section, the log level and the name of the dialect give rise to errors to report
    rintro ⟨e, h, he⟩
    have hstop := Error.mayStop_eq_false he
    rw [ofIni] at h
    cases hsection : file.hasSection sectionName with
    | false => exact .noSection hsection
    | true =>
      rw [hsection] at h
      rcases Except.bind_eq_error.1 h with h | ⟨dialect, hdialect, h⟩
      · exact absurd h ((stopsBy_mapError _).ne_error hstop)
      have hdialect := Except.mapError_eq_ok.1 hdialect
      rcases Except.bind_eq_error.1 h with h | ⟨level, hlevel, h⟩
      · exact .unknownLevel hsection hdialect (exists_logLevelIn_eq_error.1 ⟨e, h, he⟩)
      have hlevel := logLevelIn_eq_ok.1 hlevel
      rcases Except.bind_eq_error.1 h with h | ⟨options, hoptions, h⟩
      · exact absurd h ((stopsBy_mapError _).ne_error hstop)
      have hoptions := Except.mapError_eq_ok.1 hoptions
      rcases Except.bind_eq_error.1 h with h | ⟨_, -, h⟩
      · obtain ⟨name, rfl, hname, hunknown, -⟩ := mapM_parse_eq_error.1 h
        exact .unknownDialect hsection hdialect hname hlevel hoptions hunknown
      · exact nomatch h
  · intro hmisstated
    cases hmisstated with
    | noSection hsection =>
      refine ⟨.sectionMissing sectionName path.text, ?_, rfl⟩
      rw [ofIni, hsection]
      rfl
    | unknownLevel hsection hdialect hlevel =>
      obtain ⟨e, h, he⟩ := exists_logLevelIn_eq_error.2 hlevel
      refine ⟨e, ?_, he⟩
      rw [ofIni, hsection, hdialect, h]
      rfl
    | @unknownDialect name level options hsection hdialect hname hlevel hoptions hunknown =>
      refine ⟨.dialectUnsupported name, ?_, rfl⟩
      have hparse := mapM_parse_eq_error.2 ⟨name, rfl, hname, hunknown, rfl⟩
      rw [ofIni, hsection, hdialect, logLevelIn_eq_ok.2 hlevel, hoptions]
      refine Except.bind_eq_error.2 (.inr ⟨some name, rfl, ?_⟩)
      refine Except.bind_eq_error.2 (.inr ⟨level, rfl, ?_⟩)
      exact Except.bind_eq_error.2 (.inr ⟨options, rfl, Except.bind_eq_error.2 (.inl hparse)⟩)

/-- To load settings gives rise to an error to report just where they are read. -/
theorem load_eq_error_iff (he : e.isReportable = true) :
    load t path = .error e ↔ ∃ file, Reads t path file ∧ ofIni file path = .error e := by
  have hstop := Error.mayStop_eq_false he
  rw [load, Except.bind_eq_error]
  constructor
  · rintro (h | ⟨_ | node, hnode, h⟩)
    · exact absurd h ((t.stopsBy_find? path).ne_error hstop)
    · obtain rfl := Except.error.inj h
      exact nomatch he
    · rcases Except.bind_eq_error.1 h with h | ⟨file, hfile, h⟩
      · exact absurd h ((stopsBy_mapError _).ne_error hstop)
      · exact ⟨file, ⟨node, hnode, Except.mapError_eq_ok.1 hfile⟩, h⟩
  · rintro ⟨file, ⟨node, hnode, hfile⟩, h⟩
    refine .inr ⟨some node, hnode, ?_⟩
    exact Except.bind_eq_error.2 (.inr ⟨file, Except.mapError_eq_ok.2 hfile, h⟩)

theorem stopsBy_firstTaken? (t : FileTree) (paths : List Path) :
    Except.StopsBy Error.mayStop (firstTaken? t paths) := by
  induction paths with
  | nil => exact .pure _
  | cons p rest ih =>
    refine .bind (t.stopsBy_contains p) fun taken _ => ?_
    cases taken with
    | false => exact ih
    | true => exact .pure _

theorem stopsBy_create (t : FileTree) (directory : Path) (url : Option String) :
    Except.StopsBy Error.mayStop (create t directory url) := by
  refine .bind (t.stopsBy_contains _) fun taken _ => ?_
  split
  · exact .error rfl
  · exact .bind (t.stopsBy_makeDirectories _) fun t' _ => .bind (t'.stopsBy_write _ _)
      fun _ _ => .pure _

end Settings

/-! ## The settings of a command -/

namespace World

variable {w : World} {config : Option String} {e : Error}

/-- The settings file that a planning command loads, if there is one: the one that it names, or
    else the one of the working directory, or the nearest one above. -/
def settingsFile? (w : World) (config : Option String) : Except Error (Option Path) :=
  match Settings.nonempty? config with
  | some name => do
    if ← w.files.contains (Path.ofString name) then return some (Path.ofString name)
    return none
  | none => do
    let path := w.files.workingDirectory.child Settings.fileName
    if ← w.files.contains path then return some path
    Settings.nearest? w.files w.files.workingDirectory

theorem stopsBy_settingsFile? (w : World) (config : Option String) :
    Except.StopsBy Error.mayStop (w.settingsFile? config) := by
  rw [settingsFile?]
  split
  all_goals
    refine .bind (w.files.stopsBy_contains _) fun taken _ => ?_
    cases taken with
    | true => exact .pure _
    | false => first | exact .pure _ | exact Settings.stopsBy_firstTaken? _ _

/-- Settings are loaded from the settings file if there is one. -/
theorem settings_eq : w.settings config =
    match w.settingsFile? config with
    | .error e => .error (.error e)
    | .ok (some path) => (Settings.load w.files path).mapError .error
    | .ok none =>
      match Settings.nonempty? config with
      | some name => .error (.message ("Error: Config file not found: " ++
          (Path.ofString name).text ++ "\n"))
      | none => .ok Settings.none := by
  rw [settings, settingsFile?]
  cases Settings.nonempty? config with
  | some name =>
    cases hcontains : w.files.contains (Path.ofString name) with
    | error e => simp [hcontains, bind, Except.bind]
    | ok taken => cases taken <;> simp [hcontains, bind, Except.bind, pure, Except.pure]
  | none =>
    cases hcontains : w.files.contains (w.files.workingDirectory.child Settings.fileName) with
    | error e => simp [hcontains, bind, Except.bind]
    | ok taken =>
      cases taken with
      | true => simp [hcontains, bind, Except.bind, pure, Except.pure]
      | false =>
        simp only [hcontains, bind, Except.bind, Settings.discover]
        cases Settings.nearest? w.files w.files.workingDirectory with
        | error e => rfl
        | ok found =>
          cases found with
          | none => rfl
          | some path =>
            cases hload : Settings.load w.files path <;>
              simp [hload, Except.mapError, Functor.map, Except.map, pure, Except.pure]

/-- An error to report that stops the loading of settings comes from what they state. -/
theorem settings_eq_error_iff (he : e.isReportable = true) :
    w.settings config = .error (.error e) ↔ ∃ path file, w.settingsFile? config = .ok (some path) ∧
      Settings.Reads w.files path file ∧ Settings.ofIni file path = .error e := by
  rw [settings_eq]
  cases hfile : w.settingsFile? config with
  | error cause =>
    refine iff_of_false ?_ (by simp)
    intro h
    obtain rfl := Ending.error.inj (Except.error.inj h)
    exact (stopsBy_settingsFile? w config).ne_error (Error.mayStop_eq_false he) hfile
  | ok found =>
    cases found with
    | none =>
      refine iff_of_false ?_ (by simp)
      cases Settings.nonempty? config with
      | none => exact fun h => nomatch h
      | some name => exact fun h => nomatch Except.error.inj h
    | some path => simp [Except.mapError_eq_error, ← Settings.load_eq_error_iff he]

/-- Settings are found, or missed with a message, unless those that are loaded are misstated. -/
theorem stopsBy_settings_iff : Except.StopsBy Ending.mayHappen (w.settings config) ↔
    ∀ path file, w.settingsFile? config = .ok (some path) → Settings.Reads w.files path file →
      ¬Settings.Misstated file := by
  constructor
  · intro h path file hpath hreads hmisstated
    obtain ⟨e, hfile, he⟩ := (Settings.exists_ofIni_eq_error_iff path).2 hmisstated
    have hend := (settings_eq_error_iff he).2 ⟨path, file, hpath, hreads, hfile⟩
    exact h.ne_error (e := .error e) (Error.mayStop_eq_false he) hend
  · rintro h (message | e) hend
    · rfl
    · rw [Ending.mayHappen, Error.mayStop, Bool.not_eq_true', Bool.eq_false_iff]
      intro he
      obtain ⟨path, file, hpath, hreads, hfile⟩ := (settings_eq_error_iff he).1 hend
      exact h path file hpath hreads ((Settings.exists_ofIni_eq_error_iff path).1 ⟨e, hfile, he⟩)

end World

end Accrete
