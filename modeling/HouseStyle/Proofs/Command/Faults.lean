import HouseStyle.Proofs.Settings.Validity

/-!
# What keeps a check from its report

A check looks for faults in a fixed order: whether there are files to check, whether the selected
settings can be loaded and leave room for something once the command line has changed them, and
whether the files can be read. `Options.faults` lists all of them in that order. The reports on the
files stop at the first fault, and without one there is a report on every file
(`Options.reports_eq_stopAt`).
-/

namespace HouseStyle

namespace Options

/-- How the settings of a check are selected, and what comes of loading them. -/
inductive Selects (o : Options) (view : FileView) : Except Error Settings → Prop where
  | defaults (h : o.noSettingsFile = true) : Selects o view (.ok {})
  | named {path : String} (h : o.noSettingsFile = false) (hpath : o.settingsFile = some path) :
    Selects o view (view.loadSettingsFrom path)
  /-- The file is looked for in the usual places. -/
  | found (h : o.noSettingsFile = false) (hpath : o.settingsFile = none) :
    Selects o view view.loadSettings

/-- What is wrong with the settings: they cannot be loaded, or some limit is zero in the end. A
limit on the command line takes the place of the one that has been loaded. -/
def settingsFaults (o : Options) : Except Error Settings → List Error
  | .error e => [e]
  | .ok s =>
    (if o.maxLineLength.getD s.maxLineLength = 0 then
        [.badSetting "max_line_length must be greater than 0"] else [])
      ++ if o.maxMethodLength.getD s.maxMethodLength = 0 then
        [.badSetting "max_method_length must be greater than 0"] else []

/-- What is wrong with a file that cannot be read. -/
def unreadable? (view : FileView) (path : String) : Option Error :=
  match view.read path with
  | .ok _ => none
  | .error cause => some (.unreadable path cause)

/-- All faults that keep a check from its report, in the order in which they are looked for. -/
def faults (o : Options) (view : FileView) (loaded : Except Error Settings) : List Error :=
  (if o.files = [] then [.noFiles] else [])
    ++ (o.settingsFaults loaded ++ o.files.filterMap (unreadable? view))

variable {o : Options} {view : FileView} {loaded : Except Error Settings}

theorem selects_iff : o.Selects view loaded ↔ o.loadSettings view = loaded := by
  constructor
  · rintro (h | ⟨h, hpath⟩ | ⟨h, hpath⟩) <;> simp [loadSettings, *]
  · rintro rfl
    rw [loadSettings]
    cases h : o.noSettingsFile with
    | true => exact .defaults h
    | false =>
      cases hpath : o.settingsFile with
      | some path => exact .named h hpath
      | none => exact .found h hpath

theorem faults_eq_nil_iff : o.faults view loaded = [] ↔ o.files ≠ [] ∧
    o.settingsFaults loaded = [] ∧ ∀ path ∈ o.files, unreadable? view path = none := by
  simp [faults]

/-- Several files are free of faults if each of them is, checked alone. -/
theorem faults_eq_nil_iff_forall (hfiles : o.files ≠ []) : o.faults view loaded = [] ↔
    ∀ path ∈ o.files, faults { o with files := [path] } view loaded = [] := by
  have hsettings (path : String) :
      settingsFaults { o with files := [path] } loaded = o.settingsFaults loaded := by
    cases loaded <;> rfl
  simp only [faults_eq_nil_iff, hsettings, List.forall_mem_singleton]
  constructor
  · rintro ⟨-, hs, hread⟩ path hpath
    exact ⟨by simp, hs, hread path hpath⟩
  · intro h
    obtain ⟨path, hpath⟩ := List.exists_mem_of_ne_nil _ hfiles
    exact ⟨hfiles, (h path hpath).2.1, fun path hpath => (h path hpath).2.2⟩

/-! ## Stopping at the first fault -/

/-- The settings in force: loaded, overridden and validated. -/
def effectiveSettings (o : Options) (view : FileView) : Except Error Settings := do
  let settings := o.override (← o.loadSettings view)
  settings.validate
  return settings

/-- The reports on the files to check, if nothing keeps the check from them. -/
def reports (o : Options) (view : FileView) : Except Error (List FileReport) := do
  if o.files.isEmpty then throw .noFiles
  let settings ← o.effectiveSettings view
  let sources ← readSources view o.files
  let scanner ← Scanner.ofSettings settings
  return sources.map scanner.report

variable (o view)

/-- The settings in force stop at the first fault of the settings. -/
theorem effectiveSettings_eq_stopAt : ∃ s : Settings, s.HasPatterns
    ∧ (o.settingsFaults (o.loadSettings view) = [] → o.loadSettings view = .ok s)
    ∧ o.effectiveSettings view
      = stopAt (o.settingsFaults (o.loadSettings view)) (o.override s) := by
  rw [effectiveSettings]
  cases hload : o.loadSettings view with
  | error e =>
    have hdefault := (Settings.validate_eq_ok_iff.1 Settings.validate_default).2.2
    exact ⟨{}, hdefault, nofun, rfl⟩
  | ok s =>
    have hpatterns := (Settings.validate_eq_ok_iff.1 (validate_of_loadSettings hload)).2.2
    have hvalidate : (o.override s).validate = stopAt (o.settingsFaults (.ok s)) () :=
      Settings.validate_eq_stopAt (hasPatterns_override (o := o) hpatterns)
    refine ⟨s, hpatterns, fun _ => rfl, ?_⟩
    simp only [bind, Except.bind, hvalidate]
    cases o.settingsFaults (.ok s) <;> rfl

/-- A file to check with its content, if it can be read. -/
def source? (path : String) : Option (String × String) :=
  match view.read path with
  | .ok content => some (path, content)
  | .error _ => none

/-- Reading the files stops at the first one that cannot be read. -/
theorem readSources_eq_stopAt : ∀ files : List String, readSources view files
    = stopAt (files.filterMap (unreadable? view)) (files.filterMap (source? view))
  | [] => rfl
  | path :: files => by
    have ih := readSources_eq_stopAt files
    rw [readSources] at ih ⊢
    rw [List.mapM_cons, ih, readSource, List.filterMap_cons, List.filterMap_cons, unreadable?,
      source?]
    cases view.read path with
    | error cause => rfl
    | ok content => cases files.filterMap (unreadable? view) <;> rfl

/-- The reports stop at the first fault; without one there is a report on every file, by the scanner
for the settings that have been loaded and overridden. -/
theorem reports_eq_stopAt : ∃ (s : Settings) (scanner : Scanner),
    (o.faults view (o.loadSettings view) = [] → o.loadSettings view = .ok s)
    ∧ Scanner.ofSettings (o.override s) = .ok scanner
    ∧ o.reports view = stopAt (o.faults view (o.loadSettings view))
      ((o.files.filterMap (source? view)).map scanner.report) := by
  obtain ⟨s, hpatterns, hload, hsettings⟩ := o.effectiveSettings_eq_stopAt view
  obtain ⟨scanner, hscanner⟩ := Settings.exists_scanner_of_patterns
    (hasPatterns_override (o := o) hpatterns)
  refine ⟨s, scanner, fun h => hload (faults_eq_nil_iff.1 h).2.1, hscanner, ?_⟩
  rw [reports, faults, hsettings, readSources_eq_stopAt]
  by_cases hfiles : o.files = []
  · rw [hfiles]
    rfl
  · rw [if_neg hfiles, List.isEmpty_eq_false_iff.2 hfiles]
    cases o.settingsFaults (o.loadSettings view) with
    | cons e faults => rfl
    | nil =>
      cases o.files.filterMap (unreadable? view) with
      | cons e faults => rfl
      | nil =>
        simp only [stopAt, bind, Except.bind, hscanner]
        rfl

end Options

end HouseStyle
