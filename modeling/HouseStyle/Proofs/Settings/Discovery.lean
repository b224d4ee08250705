import HouseStyle.Proofs.Scan.Markers
import HouseStyle.Settings.Discovery
import Mathlib

/-!
# Which settings file decides

There are up to two places for a settings file, and the first file that exists decides alone
(`loadFirstSettings_eq`). What is wrong with it is reported (`loadSettingsFrom_eq_error_iff`), and
no other file and no default takes its place. So the settings do not depend on anything else that
the files hold: views that agree as far as the deciding file give the same result
(`AgreeOnSettings.loadSettings_eq`).
-/

namespace HouseStyle.FileView

variable {view other : FileView}

/-! ## The places -/

/-- The place for a settings file in the current directory. -/
def localPlace (view : FileView) : Option String :=
  view.currentDir.map (joinPath · localSettingsName)

/-- The place for a settings file in the user's directory. -/
def userPlace (view : FileView) : Option String :=
  view.userDir.map (joinPath · userSettingsName)

/-- The settings file that decides: the first that exists. -/
def decidingFile (view : FileView) : Option String :=
  view.settingsPaths.find? view.pathExists

theorem settingsPaths_eq (view : FileView) :
    view.settingsPaths = view.localPlace.toList ++ view.userPlace.toList :=
  rfl

/-- The file in the current directory comes first. -/
theorem decidingFile_eq (view : FileView) : view.decidingFile =
    (view.localPlace.filter view.pathExists).or (view.userPlace.filter view.pathExists) := by
  have hplace (place : Option String) :
      place.toList.find? view.pathExists = place.filter view.pathExists := by
    cases place with
    | none => rfl
    | some path => simp [List.find?_singleton, Option.filter_some]
  rw [decidingFile, settingsPaths_eq, List.find?_append, hplace, hplace]

/-! ## The file that decides -/

theorem loadFirstSettings_eq (view : FileView) : ∀ paths : List String,
    view.loadFirstSettings paths =
      (paths.find? view.pathExists).elim (.ok {}) view.loadSettingsFrom
  | [] => rfl
  | path :: paths => by
    rw [loadFirstSettings, List.find?_cons]
    split
    next h => rw [h]; rfl
    next h => rw [Bool.eq_false_iff.2 h, loadFirstSettings_eq view paths]

theorem loadSettings_eq (view : FileView) :
    view.loadSettings = view.decidingFile.elim (.ok {}) view.loadSettingsFrom :=
  loadFirstSettings_eq view view.settingsPaths

/-- What can be wrong with the settings file at a path. -/
inductive SettingsFault (view : FileView) (path : String) : Error → Prop where
  | unreadable {cause : String} (h : view.read path = .error cause) :
    SettingsFault view path (.unreadable path cause)
  /-- It is no settings document. -/
  | malformed {text : String} {problem : SettingsProblem} (hread : view.read path = .ok text)
    (h : Settings.ofDocument text = .error problem) :
    SettingsFault view path (.badSettingsFile problem)
  /-- Its settings make no sense. -/
  | invalid {text : String} {s : Settings} {e : Error} (hread : view.read path = .ok text)
    (hdocument : Settings.ofDocument text = .ok s) (h : s.validate = .error e) :
    SettingsFault view path e

theorem ofString_eq_error_iff {text : String} {e : Error} : Settings.ofString text = .error e ↔
    (∃ problem, Settings.ofDocument text = .error problem ∧ e = .badSettingsFile problem) ∨
      ∃ s, Settings.ofDocument text = .ok s ∧ s.validate = .error e := by
  rw [Settings.ofString]
  cases Settings.ofDocument text with
  | error problem =>
    constructor
    · intro h
      exact .inl ⟨problem, rfl, (Except.error.inj h).symm⟩
    · rintro (⟨_, hproblem, rfl⟩ | ⟨_, hs, -⟩)
      · rw [← Except.error.inj hproblem]
        rfl
      · cases hs
  | ok s =>
    constructor
    · intro h
      rcases bind_eq_error.1 h with hvalid | ⟨_, -, hdone⟩
      · exact .inr ⟨s, rfl, hvalid⟩
      · cases hdone
    · rintro (⟨_, hproblem, -⟩ | ⟨_, hs, hvalid⟩)
      · cases hproblem
      · obtain rfl := Except.ok.inj hs
        exact bind_eq_error.2 (.inl hvalid)

/-- A settings file cannot be loaded exactly if something is wrong with it, and that is reported. -/
theorem loadSettingsFrom_eq_error_iff {path : String} {e : Error} :
    view.loadSettingsFrom path = .error e ↔ SettingsFault view path e := by
  constructor
  · intro h
    rw [loadSettingsFrom] at h
    split at h
    next cause hread =>
      rw [← Except.error.inj h]
      exact .unreadable hread
    next text hread =>
      rcases ofString_eq_error_iff.1 h with ⟨problem, hdocument, rfl⟩ | ⟨s, hdocument, hvalid⟩
      · exact .malformed hread hdocument
      · exact .invalid hread hdocument hvalid
  · rintro (hread | ⟨hread, hdocument⟩ | ⟨hread, hdocument, hvalid⟩)
    · rw [loadSettingsFrom, hread]
    · rw [loadSettingsFrom, hread]
      exact ofString_eq_error_iff.2 (.inl ⟨_, hdocument, rfl⟩)
    · rw [loadSettingsFrom, hread]
      exact ofString_eq_error_iff.2 (.inr ⟨_, hdocument, hvalid⟩)

/-! ## Views that agree -/

/-- Two views agree on the places for settings files, on the files that exist there, and on what the
deciding one holds. -/
structure AgreeOnSettings (view other : FileView) : Prop where
  currentDir : other.currentDir = view.currentDir
  userDir : other.userDir = view.userDir
  pathExists : ∀ path ∈ view.settingsPaths, other.pathExists path = view.pathExists path
  /-- The file that decides holds the same, or cannot be read for the same reason. -/
  read : ∀ path, view.decidingFile = some path → other.read path = view.read path

theorem AgreeOnSettings.decidingFile_eq (h : AgreeOnSettings view other) :
    other.decidingFile = view.decidingFile := by
  have hpaths : other.settingsPaths = view.settingsPaths := by
    rw [settingsPaths, settingsPaths, h.currentDir, h.userDir]
  rw [decidingFile, decidingFile, hpaths, List.find?_congr h.pathExists]

/-- Views that agree give the same settings, or the same error. -/
theorem AgreeOnSettings.loadSettings_eq (h : AgreeOnSettings view other) :
    other.loadSettings = view.loadSettings := by
  rw [FileView.loadSettings_eq, FileView.loadSettings_eq view, h.decidingFile_eq]
  cases hfile : view.decidingFile with
  | none => rfl
  | some path =>
    rw [Option.elim_some, Option.elim_some, loadSettingsFrom, loadSettingsFrom, h.read path hfile]

/-! ## The settings of a check -/

/-- The settings file in the current directory decides if there is one, else the one in the user's
directory, else the defaults hold. The fault of the file that decides is the fault of the whole
search: nothing takes the place of a file that cannot be read, is no settings document or makes no
sense. Whatever else the files hold has no effect. -/
theorem loadSettings_decided (view : FileView) :
    (∀ path, view.localPlace = some path → view.pathExists path = true →
      view.loadSettings = view.loadSettingsFrom path) ∧
    (∀ path, (∀ place, view.localPlace = some place → view.pathExists place = false) →
      view.userPlace = some path → view.pathExists path = true →
      view.loadSettings = view.loadSettingsFrom path) ∧
    ((∀ place ∈ view.settingsPaths, view.pathExists place = false) → view.loadSettings = .ok {}) ∧
    (∀ path, view.decidingFile = some path →
      ∀ e, view.loadSettings = .error e ↔ SettingsFault view path e) ∧
    ∀ other, AgreeOnSettings view other → other.loadSettings = view.loadSettings := by
  have hdecided {path : String} (h : view.decidingFile = some path) :
      view.loadSettings = view.loadSettingsFrom path := by
    rw [loadSettings_eq, h, Option.elim_some]
  refine ⟨fun path hplace hpath => hdecided ?_, fun path hlocal hplace hpath => hdecided ?_,
    fun hnone => ?_, fun path hfile e => ?_, fun other h => h.loadSettings_eq⟩
  · rw [decidingFile_eq, hplace, Option.filter_some, if_pos hpath, Option.some_or]
  · have hskip : view.localPlace.filter view.pathExists = none := by
      cases hl : view.localPlace with
      | none => rfl
      | some place => rw [Option.filter_some, hlocal place hl, if_neg Bool.false_ne_true]
    rw [decidingFile_eq, hskip, hplace, Option.filter_some, if_pos hpath, Option.none_or]
  · have hfile : view.decidingFile = none := by
      rw [decidingFile, List.find?_eq_none]
      exact fun place h => Bool.eq_false_iff.1 (hnone place h)
    rw [loadSettings_eq, hfile, Option.elim_none]
  · rw [hdecided hfile, loadSettingsFrom_eq_error_iff]

/-- The files in the two places, as they can be read; `none` where there is no file. -/
def twoPlaces (inCurrentDir inUserDir : Option (Except String String)) : FileView where
  currentDir := some "/work"
  userDir := some "/home/user"
  pathExists path :=
    if path = "/work/.commandments.toml" then inCurrentDir.isSome else inUserDir.isSome
  read path :=
    (if path = "/work/.commandments.toml" then inCurrentDir else inUserDir).getD
      (.error "file not found")

/-- A first file without a value hides a second one, whatever that one holds; a second file that
cannot be read hides the defaults. -/
theorem loadSettings_decided_twoPlaces :
    (twoPlaces (some (.ok "x")) (some (.ok ""))).localPlace =
      some "/work/.commandments.toml" ∧
    (twoPlaces (some (.ok "x")) (some (.ok ""))).loadSettings =
      .error (.badSettingsFile ⟨"x", .malformed⟩) ∧
    AgreeOnSettings (twoPlaces (some (.ok "x")) (some (.ok "")))
      (twoPlaces (some (.ok "x")) (some (.error "unreadable"))) ∧
    (twoPlaces (some (.ok "x")) (some (.error "unreadable"))).loadSettings =
      .error (.badSettingsFile ⟨"x", .malformed⟩) ∧
    (twoPlaces none (some (.error "unreadable"))).userPlace = some "/home/user/config.toml" ∧
    (twoPlaces none (some (.error "unreadable"))).loadSettings =
      .error (.unreadable "/home/user/config.toml" "unreadable") ∧
    (twoPlaces none none).loadSettings = .ok {} := by
  have hlocal (a b : Option (Except String String)) :
      (twoPlaces a b).localPlace = some "/work/.commandments.toml" :=
    congrArg some (by decide : joinPath "/work" localSettingsName = _)
  have huser (a b : Option (Except String String)) :
      (twoPlaces a b).userPlace = some "/home/user/config.toml" :=
    congrArg some (by decide : joinPath "/home/user" userSettingsName = _)
  have hpaths (a b : Option (Except String String)) : (twoPlaces a b).settingsPaths =
      ["/work/.commandments.toml", "/home/user/config.toml"] := by
    rw [settingsPaths_eq, hlocal, huser]
    rfl
  have hmalformed : Settings.ofDocument "x" = .error ⟨"x", .malformed⟩ := by
    cbv
  have hfirst (b : Option (Except String String)) :
      (twoPlaces (some (.ok "x")) b).decidingFile =
        some "/work/.commandments.toml" := by
    rw [decidingFile, hpaths]
    rfl
  have hagree : AgreeOnSettings (twoPlaces (some (.ok "x")) (some (.ok "")))
      (twoPlaces (some (.ok "x")) (some (.error "unreadable"))) := by
    refine ⟨rfl, rfl, fun _ _ => rfl, fun path hpath => ?_⟩
    rw [hfirst] at hpath
    obtain rfl := Option.some.inj hpath
    rfl
  have hload := ((loadSettings_decided _).2.2.2.1 _ (hfirst (some (.ok ""))) _).2
    (.malformed rfl hmalformed)
  refine ⟨hlocal _ _, hload, hagree, ?_, huser _ _, ?_, ?_⟩
  · rw [(loadSettings_decided _).2.2.2.2 _ hagree, hload]
  · refine (((loadSettings_decided _).2.1 _ (fun place hplace => ?_) (huser _ _) ?_).trans ?_)
    · rw [hlocal] at hplace
      obtain rfl := Option.some.inj hplace
      rfl
    · rfl
    · rfl
  · refine (loadSettings_decided _).2.2.1 ?_
    rw [hpaths]
    decide

end HouseStyle.FileView
