import HouseStyle.Scan.Markers

/-!
# Verdicts on markers

The verdicts on both markers, told from the settings alone: a marker is missed exactly if it is
required and its pattern does not match where it should (`checkHeader_eq`,
`LogWatch.verdict_foldl_observe`).
-/

namespace HouseStyle

/-- A computation in two parts succeeds if both do. -/
theorem bind_eq_ok {ε α β : Type} {x : Except ε α} {f : α → Except ε β} {b : β} :
    (x >>= f) = .ok b ↔ ∃ a, x = .ok a ∧ f a = .ok b := by
  cases x with
  | error e => simp [bind, Except.bind]
  | ok a => simp [bind, Except.bind]

/-- A computation in two parts fails if its first part does, or its second part behind the first. -/
theorem bind_eq_error {ε α β : Type} {x : Except ε α} {f : α → Except ε β} {e : ε} :
    (x >>= f) = .error e ↔ x = .error e ∨ ∃ a, x = .ok a ∧ f a = .error e := by
  cases x with
  | error e => simp [bind, Except.bind]
  | ok a => simp [bind, Except.bind]

namespace Settings

/-- Whether a text holds a marker, by the pattern in the settings. -/
def marks (s : Settings) (m : Marker) (text : String) : Bool :=
  match s.pattern? m with
  | .ok p => p.search text.toList
  | .error _ => false

end Settings

namespace Markers

/-- The pattern of a required marker is the one in the settings. -/
theorem required?_eq_ok {s : Settings} {m : Marker} {found : Option Pattern}
    (h : required? s m = .ok found) :
    (s.requires m = true ∧ ∃ p, s.pattern? m = .ok p ∧ found = some p) ∨
      (s.requires m = false ∧ found = none) := by
  unfold required? at h
  cases hr : s.requires m with
  | false =>
    rw [hr] at h
    exact .inr ⟨rfl, (Except.ok.inj h).symm⟩
  | true =>
    rw [hr, if_pos rfl] at h
    obtain ⟨p, hp, hf⟩ := bind_eq_ok.1 h
    exact .inl ⟨rfl, p, hp, (Except.ok.inj hf).symm⟩

theorem ofSettings_eq_ok {s : Settings} {m : Markers} (h : ofSettings s = .ok m) :
    required? s .header = .ok m.header ∧ required? s .log = .ok m.log := by
  obtain ⟨header, hh, h⟩ := bind_eq_ok.1 h
  obtain ⟨log, hl, h⟩ := bind_eq_ok.1 h
  obtain rfl := Except.ok.inj h
  exact ⟨hh, hl⟩

/-- The header marker is missed if it is required and the first line does not hold it. -/
theorem checkHeader_eq {s : Settings} {m : Markers} (h : ofSettings s = .ok m) (text : String) :
    m.checkHeader text =
      if s.requires .header && !s.marks .header text then
        some (.onLine .headerMarker 1 text) else none := by
  rcases required?_eq_ok (ofSettings_eq_ok h).1 with ⟨hr, p, hp, hm⟩ | ⟨hr, hm⟩
  · simp only [checkHeader, hm, hr, Settings.marks, hp]
    cases p.search text.toList <;> rfl
  · simp [checkHeader, hm, hr]

end Markers

namespace LogWatch

/-- A watch that has seen several lines has seen the marker on one of them, or before. -/
theorem foldl_observe (w : LogWatch) (lines : List String) :
    lines.foldl observe w =
      { w with seen := w.seen || lines.any fun text => w.pattern.any (·.search text.toList) } := by
  induction lines generalizing w with
  | nil => simp
  | cons text lines ih => simp [ih, observe, Bool.or_assoc]

/-- The log marker is missed if it is required and no line holds it. -/
theorem verdict_foldl_observe {s : Settings} {m : Markers} (h : Markers.ofSettings s = .ok m)
    (lines : List String) : (lines.foldl observe m.watch).verdict =
      if s.requires .log && !lines.any (s.marks .log) then some (.wholeFile .logMarker)
      else none := by
  rw [foldl_observe]
  rcases Markers.required?_eq_ok (Markers.ofSettings_eq_ok h).2 with ⟨hr, p, hp, hm⟩ | ⟨hr, hm⟩
  · have hmarks : s.marks .log = fun text => p.search text.toList := by
      funext text
      simp [Settings.marks, hp]
    simp [verdict, Markers.watch, hm, hr, hmarks]
  · simp [verdict, Markers.watch, hm, hr]

end LogWatch

end HouseStyle
