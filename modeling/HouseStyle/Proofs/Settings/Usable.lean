import HouseStyle.Proofs.Settings.File
import HouseStyle.Proofs.Settings.Validity

/-!
# Settings of a check

Between the loading of settings and the scan of a file, the command line may change the settings,
and they are validated once more. What can go wrong there is known in advance: loaded settings are
valid, so the second validation finds nothing but a limit that the command line sets to zero, and
behind it there is a scanner, whichever markers are required (`Options.usable_of_loadSettings`).
-/

namespace HouseStyle

namespace Options

variable {o : Options} {view : FileView} {s : Settings}

/-- Over valid settings, the command line alone can set a limit to zero. -/
theorem zeroLimits_override (h : s.validate = .ok ()) : (o.override s).zeroLimits
    = (if o.maxLineLength = some 0 then
        [.badSetting "max_line_length must be greater than 0"] else [])
      ++ if o.maxMethodLength = some 0 then
        [.badSetting "max_method_length must be greater than 0"] else [] := by
  obtain ⟨hline, hmethod, -⟩ := Settings.validate_eq_ok_iff.1 h
  have hlimit (given : Option Nat) {limit : Nat} (hl : 0 < limit) :
      given.getD limit = 0 ↔ given = some 0 := by
    cases given with
    | none => simp [hl.ne']
    | some n => simp
  simp only [Settings.zeroLimits, override, hlimit _ hline, hlimit _ hmethod]

/-- Loaded settings are valid, as are the defaults. What the command line makes of them is faulty if
and only if it sets a limit to zero, and the first such limit is named. Valid settings have a
scanner for all requirements of markers. -/
theorem usable_of_loadSettings {source : Options} (h : source.loadSettings view = .ok s) :
    s.validate = .ok ()
    ∧ ({} : Settings).validate = .ok () ∧ ({} : Settings).HasPatterns
    ∧ ((∃ e, (o.override s).validate = .error e)
      ↔ o.maxLineLength = some 0 ∨ o.maxMethodLength = some 0)
    ∧ (∀ e, (o.override s).validate = .error e →
      e = if o.maxLineLength = some 0 then .badSetting "max_line_length must be greater than 0"
        else .badSetting "max_method_length must be greater than 0")
    ∧ ∀ s' : Settings, s'.validate = .ok () → ∀ requireHeader requireLog, ∃ scanner,
      Scanner.ofSettings { s' with requireHeader, requireLog } = .ok scanner := by
  have hvalid := validate_of_loadSettings h
  have hpatterns := (Settings.validate_eq_ok_iff.1 hvalid).2.2
  have hover := Settings.validate_eq_stopAt (hasPatterns_override (o := o) hpatterns)
  rw [zeroLimits_override hvalid] at hover
  refine ⟨hvalid, Settings.validate_default,
    (Settings.validate_eq_ok_iff.1 Settings.validate_default).2.2, ?_, ?_, ?_⟩
  · rw [hover]
    by_cases hline : o.maxLineLength = some 0 <;> by_cases hmethod : o.maxMethodLength = some 0 <;>
      simp [hline, hmethod, stopAt]
  · rw [hover]
    by_cases hline : o.maxLineLength = some 0 <;> by_cases hmethod : o.maxMethodLength = some 0 <;>
      simp [hline, hmethod, stopAt, eq_comm]
  · intro s' hs' requireHeader requireLog
    have hs := (Settings.validate_eq_ok_iff.1 hs').2.2
    exact Settings.exists_scanner_of_patterns fun m => by
      obtain ⟨p, hp⟩ := hs m
      cases m <;> exact ⟨p, hp⟩

/-- A directory with a settings file. -/
def settledView : FileView where
  currentDir := some "/work"
  userDir := none
  pathExists path := path = "house.toml"
  read path :=
    if path = "house.toml" then .ok "max_line_length = 80\nrequire_log_marker = true\n"
    else .error "No such file or directory (os error 2)"

/-- Both limits set to zero over a settings file: the first one is named. -/
theorem usable_of_loadSettings_settled :
    ({ settingsFile := some "house.toml" } : Options).loadSettings settledView
      = .ok { maxLineLength := 80, requireLog := true }
    ∧ (({ maxLineLength := some 0, maxMethodLength := some 0 } : Options).override
        { maxLineLength := 80, requireLog := true }).validate
      = .error (.badSetting "max_line_length must be greater than 0") := by
  have hread : Settings.ofDocument "max_line_length = 80\nrequire_log_marker = true\n"
      = .ok { maxLineLength := 80, requireLog := true } := by
    have hkeys : ([⟨.maxLineLength, 80, by decide⟩, ⟨.requireLog, true, by decide⟩].map
      Assignment.key).Nodup := by decide
    refine Settings.ofDocument_assignments hkeys (Eq.subst ?_ (.more _ (.more _ .none)))
    cbv
  have hvalid : ({ maxLineLength := 80, requireLog := true } : Settings).validate = .ok () := by
    refine Settings.validate_eq_ok_iff.2 ⟨by decide, by decide, fun m => ?_⟩
    obtain ⟨p, hp⟩ := (Settings.validate_eq_ok_iff.1 Settings.validate_default).2.2 m
    cases m <;> exact ⟨p, hp⟩
  have hload : ({ settingsFile := some "house.toml" } : Options).loadSettings settledView
      = .ok { maxLineLength := 80, requireLog := true } := by
    have hfile : settledView.read "house.toml"
        = .ok "max_line_length = 80\nrequire_log_marker = true\n" := rfl
    simp only [loadSettings, FileView.loadSettingsFrom, hfile, Settings.ofString, hread]
    rw [hvalid]
    rfl
  obtain ⟨-, -, -, hfails, hfirst, -⟩ := usable_of_loadSettings hload
    (o := { maxLineLength := some 0, maxMethodLength := some 0 })
  obtain ⟨e, he⟩ := hfails.2 (.inl rfl)
  refine ⟨hload, ?_⟩
  rw [he, hfirst e he]
  rfl

end Options

end HouseStyle
