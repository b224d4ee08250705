import HouseStyle.Command.Check
import HouseStyle.Proofs.Scan.Markers
import HouseStyle.Proofs.Settings.Defaults

/-!
# Settings that have been loaded are usable

Settings are valid if both limits leave room for something and both patterns are well-formed
(`validate_eq_ok_iff`). Every way of loading settings ends in a validation or in the defaults, so
what has been loaded is valid (`Options.validate_of_loadSettings`). The command line changes the
limits but no pattern: a limit of zero is all that can be wrong with the settings afterwards
(`validate_eq_stopAt`), and there is a scanner for them in any case (`exists_scanner_of_patterns`).
-/

namespace HouseStyle

/-- Stops at the first of some faults, or goes on with a value if there are none. -/
def stopAt {α : Type} : List Error → α → Except Error α
  | [], a => .ok a
  | e :: _, _ => .error e

namespace Settings

/-! ## Valid settings -/

theorem checkLimit_eq_ok_iff {key : String} {limit : Nat} :
    checkLimit key limit = .ok () ↔ 0 < limit := by
  rw [checkLimit]
  split
  · simp [‹limit = 0›]
  · simp [Nat.pos_of_ne_zero ‹limit ≠ 0›]

/-- Both patterns are well-formed. -/
def HasPatterns (s : Settings) : Prop := ∀ m, ∃ p, s.pattern? m = .ok p

theorem validate_eq_ok_iff {s : Settings} :
    s.validate = .ok () ↔ 0 < s.maxLineLength ∧ 0 < s.maxMethodLength ∧ s.HasPatterns := by
  constructor
  · intro h
    obtain ⟨⟨⟩, hline, h⟩ := bind_eq_ok.1 h
    obtain ⟨⟨⟩, hmethod, h⟩ := bind_eq_ok.1 h
    obtain ⟨header, hheader, h⟩ := bind_eq_ok.1 h
    obtain ⟨log, hlog, -⟩ := bind_eq_ok.1 h
    refine ⟨checkLimit_eq_ok_iff.1 hline, checkLimit_eq_ok_iff.1 hmethod, fun m => ?_⟩
    cases m with
    | header => exact ⟨header, hheader⟩
    | log => exact ⟨log, hlog⟩
  · rintro ⟨hline, hmethod, hpatterns⟩
    obtain ⟨header, hheader⟩ := hpatterns .header
    obtain ⟨log, hlog⟩ := hpatterns .log
    rw [validate, checkLimit_eq_ok_iff.2 hline, checkLimit_eq_ok_iff.2 hmethod, hheader, hlog]
    rfl

/-- What is wrong with the limits; the length of a line comes first. -/
def zeroLimits (s : Settings) : List Error :=
  (if s.maxLineLength = 0 then [.badSetting "max_line_length must be greater than 0"] else [])
    ++ if s.maxMethodLength = 0 then [.badSetting "max_method_length must be greater than 0"]
      else []

/-- Where the patterns are well-formed, only the limits can be wrong. -/
theorem validate_eq_stopAt {s : Settings} (h : s.HasPatterns) :
    s.validate = stopAt s.zeroLimits () := by
  obtain ⟨header, hheader⟩ := h .header
  obtain ⟨log, hlog⟩ := h .log
  rw [validate, zeroLimits, hheader, hlog]
  by_cases hline : s.maxLineLength = 0
  · rw [checkLimit, if_pos hline, if_pos hline]
    rfl
  · rw [checkLimit, checkLimit, if_neg hline, if_neg hline]
    by_cases hmethod : s.maxMethodLength = 0
    · rw [if_pos hmethod, if_pos hmethod]
      rfl
    · rw [if_neg hmethod, if_neg hmethod]
      rfl

/-- The default settings are valid. -/
theorem validate_default : ({} : Settings).validate = .ok () := by
  refine validate_eq_ok_iff.2 ⟨by decide, by decide, fun m => ?_⟩
  exact ⟨_, by rw [pattern?, ofString?_default]⟩

/-- There is a scanner for well-formed patterns, whichever markers are required. -/
theorem exists_scanner_of_patterns {s : Settings} (h : s.HasPatterns) :
    ∃ scanner, Scanner.ofSettings s = .ok scanner := by
  have hrequired (m : Marker) : ∃ found, Markers.required? s m = .ok found := by
    obtain ⟨p, hp⟩ := h m
    rw [Markers.required?, hp]
    cases s.requires m
    · exact ⟨none, rfl⟩
    · exact ⟨some p, rfl⟩
  obtain ⟨header, hheader⟩ := hrequired .header
  obtain ⟨log, hlog⟩ := hrequired .log
  rw [Scanner.ofSettings, Markers.ofSettings, hheader, hlog]
  exact ⟨_, rfl⟩

/-! ## Loaded settings -/

theorem validate_of_ofString {text : String} {s : Settings} (h : ofString text = .ok s) :
    s.validate = .ok () := by
  rw [ofString] at h
  split at h
  · cases h
  · obtain ⟨⟨⟩, hvalid, h⟩ := bind_eq_ok.1 h
    rwa [Except.ok.inj h] at hvalid

end Settings

namespace FileView

theorem validate_of_loadSettingsFrom {view : FileView} {path : String} {s : Settings}
    (h : view.loadSettingsFrom path = .ok s) : s.validate = .ok () := by
  rw [loadSettingsFrom] at h
  split at h
  · cases h
  · exact Settings.validate_of_ofString h

theorem validate_of_loadFirstSettings {view : FileView} {s : Settings} :
    ∀ {paths : List String}, view.loadFirstSettings paths = .ok s → s.validate = .ok ()
  | [], h => by
    obtain rfl := Except.ok.inj h
    exact Settings.validate_default
  | path :: paths, h => by
    rw [loadFirstSettings] at h
    split at h
    · exact validate_of_loadSettingsFrom h
    · exact validate_of_loadFirstSettings h

end FileView

namespace Options

variable {o : Options} {view : FileView} {s : Settings}

/-- Settings that the command line asks for are valid once they have been loaded. -/
theorem validate_of_loadSettings (h : o.loadSettings view = .ok s) : s.validate = .ok () := by
  rw [loadSettings] at h
  split at h
  · obtain rfl := Except.ok.inj h
    exact Settings.validate_default
  · split at h
    · exact FileView.validate_of_loadSettingsFrom h
    · exact FileView.validate_of_loadFirstSettings h

/-- The command line changes no pattern. -/
theorem hasPatterns_override (h : s.HasPatterns) : (o.override s).HasPatterns := by
  intro m
  obtain ⟨p, hp⟩ := h m
  cases m <;> exact ⟨p, hp⟩

end Options

end HouseStyle
