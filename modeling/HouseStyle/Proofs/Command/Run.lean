import HouseStyle.Proofs.Command.Faults

/-!
# Runs of a check

What a part of a check comes to when it is run on some files: its value or the error that stops it,
all that it does, in order, and the files behind it (`Ends`). One lemma for each way to put parts
together, then one for each part. A check that gets as far as its reports tells about the progress
first, then writes the report and warns in the end (`Options.ends_checkFiles`), unless the report
cannot be written (`Options.ends_checkFiles_of_unwritable`).
-/

namespace HouseStyle

variable {σ α β : Type} {fs : FileSystem σ}

/-- The run of two processes, one after the other. -/
theorem Process.run_bind (p : Process α) (f : α → Process β) (s : σ) : (p >>= f).run fs s =
    { (f (p.run fs s).value).run fs (p.run fs s).state with
      effects := (p.run fs s).effects ++
        ((f (p.run fs s).value).run fs (p.run fs s).state).effects } := by
  induction p generalizing s with
  | done value => rfl
  | act effect next ih =>
    exact congrArg (fun r : Run σ β => { r with effects := effect :: r.effects })
      (ih (fs.perform effect s).1 (fs.perform effect s).2)

/-! ## Parts of a check -/

/-- Run on the files `s`, a part of a check gives `result`, has some effects, and leaves the files
as `s'`. -/
def Ends (fs : FileSystem σ) (s : σ) (part : ExceptT Error Process α) (result : Except Error α)
    (effects : List Effect) (s' : σ) : Prop :=
  part.run.run fs s = ⟨result, effects, s'⟩

variable {s t u : σ} {part : ExceptT Error Process α} {next : α → ExceptT Error Process β}
  {effects later : List Effect}

theorem Ends.pure (value : α) : Ends fs s (Pure.pure value) (.ok value) [] s :=
  rfl

theorem Ends.bind {value : α} {result : Except Error β} (h : Ends fs s part (.ok value) effects t)
    (hnext : Ends fs t (next value) result later u) :
    Ends fs s (part >>= next) result (effects ++ later) u := by
  rw [Ends] at h hnext ⊢
  rw [ExceptT.run_bind, Process.run_bind, h]
  simp only [hnext]

/-- An error stops whatever comes next. -/
theorem Ends.bind_error {e : Error} (h : Ends fs s part (.error e) effects t) :
    Ends fs s (part >>= next) (.error e) effects t := by
  rw [Ends] at h ⊢
  rw [ExceptT.run_bind, Process.run_bind, h]
  exact congrArg (Run.mk _ · t) (List.append_nil effects)

/-- A process that cannot fail. -/
theorem Ends.lift {p : Process α} {value : α} (h : p.run fs s = ⟨value, effects, t⟩) :
    Ends fs s (ExceptT.lift p) (.ok value) effects t := by
  have hrun : (ExceptT.lift p).run.run fs s = _ :=
    p.run_bind (fun a => Pure.pure (Except.ok a : Except Error α)) s
  rw [h] at hrun
  exact hrun.trans (congrArg (Run.mk _ · t) (List.append_nil effects))

theorem Process.run_attempt {effect : Effect} {answer : Except String Unit}
    (h : fs.perform effect s = (answer, t)) :
    (attempt effect).run fs s = ⟨answer, [effect], t⟩ := by
  rw [attempt, run, h]
  rfl

theorem ends_change {effect : Effect} (h : fs.perform effect s = (.ok (), t)) :
    Ends fs s (Options.change effect) (.ok ()) [effect] t :=
  (Ends.lift (Process.run_attempt h)).bind (.pure ())

theorem ends_change_of_error {effect : Effect} {cause : String}
    (h : fs.perform effect s = (.error cause, t)) :
    Ends fs s (Options.change effect) (.error (.unwritable cause)) [effect] t :=
  (Ends.lift (Process.run_attempt h)).bind rfl

/-! ## Files that can be written -/

namespace FileSystem

/-- Makes the directory of a file, if it has one. -/
def prepare (fs : FileSystem σ) (path : Path) (s : σ) : Except String Unit × σ :=
  match path.directory? with
  | some directory => fs.makeDirectories directory s
  | none => (.ok (), s)

/-- A text can be written to a file, whose directory is made first. -/
structure CanWrite (fs : FileSystem σ) (s : σ) (path : Path) (text : String) : Prop where
  directory : (fs.prepare path s).1 = .ok ()
  file : (fs.write path text (fs.prepare path s).2).1 = .ok ()

end FileSystem

namespace Options

variable {o : Options} {console : Console}

/-! ## Before and behind the report -/

/-- The notes on the progress. -/
def notes (o : Options) (reports : List FileReport) : List Effect :=
  if 0 < o.verbosity then reports.map fun r => .tell (progressNote r) else []

/-- The warnings in the end. -/
def warnings (o : Options) (reports : List FileReport) : List Effect :=
  if o.warnOnly && !reports.all FileReport.isClean then
    [.tell (.warning "violations found, exiting with success because of --warn-only")]
  else []

theorem ne_print_of_mem_notes {reports : List FileReport} {effect : Effect}
    (h : effect ∈ o.notes reports) (text : String) : effect ≠ .print text := by
  rw [notes] at h
  split at h
  · obtain ⟨r, -, rfl⟩ := List.mem_map.1 h
    exact nofun
  · exact absurd h List.not_mem_nil

theorem run_forM_tell (message : FileReport → Diagnostic) (s : σ) : ∀ reports : List FileReport,
    (reports.forM fun r => Process.tell (message r)).run fs s =
      ⟨(), reports.map fun r => .tell (message r), s⟩
  | [] => rfl
  | r :: reports => by
    have ih := run_forM_tell message s reports
    exact (Process.run_bind ..).trans (congrArg (fun rest : Run σ Unit =>
      { rest with effects := .tell (message r) :: rest.effects }) ih)

theorem run_tellProgress (o : Options) (reports : List FileReport) (s : σ) :
    (o.tellProgress reports).run fs s = ⟨(), o.notes reports, s⟩ := by
  rw [tellProgress, notes]
  split
  · exact run_forM_tell progressNote s reports
  · rfl

theorem run_warn (o : Options) (reports : List FileReport) (s : σ) :
    (o.warn reports).run fs s = ⟨(), o.warnings reports, s⟩ := by
  rw [warn, warnings]
  split <;> rfl

/-! ## The report -/

/-- The changes to the files that a report asks for, or the report if it is printed. -/
def writing (o : Options) (report : String) : List Effect :=
  match o.output with
  | some path =>
    (Path.ofString path).directory?.toList.map .makeDirectories ++ [.write (.ofString path) report]
  | none => if o.quiet then [] else [.print report]

theorem ne_print_of_mem_writing {report path : String} (hout : o.output = some path)
    {effect : Effect} (h : effect ∈ o.writing report) (text : String) : effect ≠ .print text := by
  simp only [writing, hout, List.mem_append, List.mem_map, List.mem_singleton] at h
  rcases h with ⟨directory, -, rfl⟩ | rfl <;> exact nofun

theorem ends_writeReport {report : String}
    (h : ∀ path ∈ o.output, fs.CanWrite s (.ofString path) report) :
    ∃ t, Ends fs s (o.writeReport report) (.ok ()) (o.writing report) t := by
  rw [writeReport, writing]
  cases hout : o.output with
  | none =>
    cases o.quiet with
    | false => exact ⟨s, .lift rfl⟩
    | true => exact ⟨s, .pure ()⟩
  | some path =>
    obtain ⟨hdirectory, hfile⟩ := h path hout
    rw [FileSystem.prepare] at hdirectory hfile
    cases hpath : (Path.ofString path).directory? with
    | none =>
      simp only [hpath] at hfile ⊢
      exact ⟨_, ends_change (Prod.ext hfile rfl)⟩
    | some directory =>
      simp only [hpath] at hdirectory hfile ⊢
      have hmade : fs.perform (.makeDirectories directory) s = (.ok (), _) :=
        Prod.ext hdirectory rfl
      exact ⟨_, (ends_change hmade).bind (ends_change (Prod.ext hfile rfl))⟩

/-- A report that cannot be written stops the check on the way. -/
theorem ends_writeReport_of_error {report : String} {path : String} (hout : o.output = some path)
    (h : ¬ fs.CanWrite s (.ofString path) report) : ∃ cause effects t,
      Ends fs s (o.writeReport report) (.error (.unwritable cause)) effects t
      ∧ effects <+: o.writing report := by
  rw [writeReport, writing, hout]
  cases hpath : (Path.ofString path).directory? with
  | none =>
    have hprepare : fs.prepare (.ofString path) s = (.ok (), s) := by
      rw [FileSystem.prepare, hpath]
    simp only [hpath]
    rcases hfile : fs.perform (.write (.ofString path) report) s with ⟨cause | ⟨⟨⟩⟩, t⟩
    · exact ⟨cause, _, t, ends_change_of_error hfile, List.prefix_rfl⟩
    · have hwritten := congrArg Prod.fst hfile
      exact absurd ⟨congrArg Prod.fst hprepare, by rwa [hprepare]⟩ h
  | some directory =>
    have hprepare : fs.prepare (.ofString path) s = fs.perform (.makeDirectories directory) s := by
      rw [FileSystem.prepare, hpath]
      rfl
    simp only [hpath]
    rcases hmade : fs.perform (.makeDirectories directory) s with ⟨cause | ⟨⟨⟩⟩, t⟩
    · exact ⟨cause, _, t, (ends_change_of_error hmade).bind_error, List.prefix_append ..⟩
    · rw [hmade] at hprepare
      rcases hfile : fs.perform (.write (.ofString path) report) t with ⟨cause | ⟨⟨⟩⟩, u⟩
      · exact ⟨cause, _, u, (ends_change hmade).bind (ends_change_of_error hfile),
          List.prefix_rfl⟩
      · have hwritten := congrArg Prod.fst hfile
        exact absurd ⟨congrArg Prod.fst hprepare, by rwa [hprepare]⟩ h

/-! ## The check -/

/-- What is left of a check when the reports are there. -/
def conclude (o : Options) (console : Console) (reports : List FileReport) :
    ExceptT Error Process Nat := do
  o.tellProgress reports
  o.writeReport (o.render console reports)
  o.warn reports
  return exitCodeOf o.warnOnly reports

/-- Steps that do nothing can be taken one by one. -/
theorem liftM_bind_bind {γ : Type} (x : Except Error α) (f : α → Except Error β)
    (g : β → ExceptT Error Process γ) :
    (liftM (x >>= f) : ExceptT Error Process β) >>= g
      = (liftM x : ExceptT Error Process α) >>= fun a =>
        (liftM (f a) : ExceptT Error Process β) >>= g := by
  cases x <;> rfl

/-- Nothing is done before the reports are there. -/
theorem checkFiles_eq (o : Options) (console : Console) (view : FileView) :
    o.checkFiles console view = liftM (o.reports view) >>= o.conclude console := by
  rw [checkFiles, reports, effectiveSettings]
  cases o.files.isEmpty with
  | true => rfl
  | false =>
    simp only [Bool.false_eq_true, if_false, liftM_bind_bind]
    rfl

theorem ends_checkFiles_of_error {view : FileView} {e : Error} (h : o.reports view = .error e) :
    Ends fs s (o.checkFiles console view) (.error e) [] s := by
  rw [checkFiles_eq, h]
  rfl

/-- A check that has its reports tells about the progress, writes the report, and warns. -/
theorem ends_checkFiles {view : FileView} {reports : List FileReport}
    (h : o.reports view = .ok reports)
    (hwrite : ∀ path ∈ o.output, fs.CanWrite s (.ofString path) (o.render console reports)) :
    ∃ t, Ends fs s (o.checkFiles console view) (.ok (exitCodeOf o.warnOnly reports))
      (o.notes reports ++ (o.writing (o.render console reports) ++ o.warnings reports)) t := by
  obtain ⟨t, hreport⟩ := ends_writeReport hwrite
  have hwarn : Ends fs t (do o.warn reports; return exitCodeOf o.warnOnly reports)
      (.ok (exitCodeOf o.warnOnly reports)) (o.warnings reports ++ []) t :=
    (Ends.lift (run_warn o reports t)).bind (.pure _)
  rw [List.append_nil] at hwarn
  rw [checkFiles_eq, h]
  exact ⟨t, (Ends.lift (run_tellProgress o reports s)).bind (hreport.bind hwarn)⟩

/-- A report that cannot be written stops the check behind the notes. -/
theorem ends_checkFiles_of_unwritable {view : FileView} {reports : List FileReport} {path : String}
    (h : o.reports view = .ok reports) (hout : o.output = some path)
    (hwrite : ¬ fs.CanWrite s (.ofString path) (o.render console reports)) : ∃ cause effects t,
      Ends fs s (o.checkFiles console view) (.error (.unwritable cause))
        (o.notes reports ++ effects) t
      ∧ effects <+: o.writing (o.render console reports) := by
  obtain ⟨cause, effects, t, hreport, hprefix⟩ := ends_writeReport_of_error hout hwrite
  refine ⟨cause, effects, t, ?_, hprefix⟩
  rw [checkFiles_eq, h]
  exact (Ends.lift (run_tellProgress o reports s)).bind hreport.bind_error

end Options

/-! ## The error in the end -/

namespace FileSystem

variable {console : Console} {words : Words} {o : Options}

theorem check_of_ends {code : Nat}
    (h : Ends fs s (o.checkFiles console (fs.view s)) (.ok code) effects t) :
    fs.check s console words o = (⟨.ok code, effects⟩, t) := by
  rw [Ends] at h
  rw [check, Options.check, Process.run_bind, h]
  exact congrArg (fun effects => (Outcome.mk (.ok code) effects, t)) (List.append_nil effects)

/-- An error is told behind all the rest. -/
theorem check_of_ends_error {e : Error}
    (h : Ends fs s (o.checkFiles console (fs.view s)) (.error e) effects t) :
    fs.check s console words o
      = (⟨.error e, effects ++ [.tell (.ofError e words)]⟩, t) := by
  rw [Ends] at h
  rw [check, Options.check, Process.run_bind, h]
  rfl

end FileSystem

end HouseStyle
