import HouseStyle.Proofs.Command.Run

/-!
# How a check ends

A check ends with its first fault, before anything has been printed or written, or with a report and
an exit code that tells whether something has been found. That holds on every file system on which
the report can be written if the check gets that far (`FileSystem.check_ending`). How the report is
written down has no part in the exit code, and the exit code for several files is the greatest of
those for each of them. Where the report cannot be written, the check ends with an error as well,
and no check that ends with an error has printed anything (`FileSystem.printed_of_error`).
-/

namespace HouseStyle

/-- Whether a scan finds something in a file that can be read. -/
def Scanner.Finds (scanner : Scanner) (view : FileView) (path : String) : Prop :=
  ∃ content, view.read path = .ok content ∧ scanner.scanContent content ≠ []

/-! ## Exit codes of reports -/

theorem exitCodeOf_eq_one_iff {warnOnly : Bool} {reports : List FileReport} :
    exitCodeOf warnOnly reports = 1 ↔ warnOnly = false ∧ ∃ r ∈ reports, r.violations ≠ [] := by
  cases warnOnly <;> simp [exitCodeOf, FileReport.isClean]

theorem exitCodeOf_le_one (warnOnly : Bool) (reports : List FileReport) :
    exitCodeOf warnOnly reports ≤ 1 := by
  rw [exitCodeOf]
  split <;> decide

theorem Outcome.printed_eq_empty {outcome : Outcome}
    (h : ∀ effect ∈ outcome.effects, ∀ text, effect ≠ .print text) : outcome.printed = "" := by
  obtain ⟨result, effects⟩ := outcome
  induction effects with
  | nil => rfl
  | cons effect effects ih =>
    have hrest := ih fun e he => h e (List.mem_cons_of_mem effect he)
    cases effect with
    | print text => exact absurd rfl (h _ List.mem_cons_self text)
    | _ => exact hrest

namespace Options

variable {view : FileView}

theorem source?_eq_some_iff {path : String} {source : String × String} :
    source? view path = some source ↔ path = source.1 ∧ view.read path = .ok source.2 := by
  obtain ⟨path', content⟩ := source
  rw [source?]
  cases view.read path with
  | ok content' => simp
  | error cause => simp

/-- The exit code for some files tells whether a scan finds something in one of them. -/
theorem exitCodeOf_files_eq_one_iff {scanner : Scanner} {files : List String} {warnOnly : Bool} :
    exitCodeOf warnOnly ((files.filterMap (source? view)).map scanner.report) = 1
      ↔ warnOnly = false ∧ ∃ path ∈ files, scanner.Finds view path := by
  rw [exitCodeOf_eq_one_iff]
  refine and_congr_right fun _ => ?_
  constructor
  · rintro ⟨r, hr, hfound⟩
    obtain ⟨⟨path, content⟩, hsource, rfl⟩ := List.mem_map.1 hr
    obtain ⟨path', hpath, hsource⟩ := List.mem_filterMap.1 hsource
    obtain ⟨rfl, hread⟩ := source?_eq_some_iff.1 hsource
    exact ⟨path', hpath, content, hread, hfound⟩
  · rintro ⟨path, hpath, content, hread, hfound⟩
    have hsource : source? view path = some (path, content) := source?_eq_some_iff.2 ⟨rfl, hread⟩
    exact ⟨_, List.mem_map_of_mem (List.mem_filterMap.2 ⟨path, hpath, hsource⟩), hfound⟩

end Options

namespace FileSystem

variable {σ : Type}

/-- A report that the check gets to can be written. -/
def CanReport (fs : FileSystem σ) (s : σ) (console : Console) (o : Options) : Prop :=
  ∀ reports path, o.reports (fs.view s) = .ok reports → o.output = some path →
    fs.CanWrite s (.ofString path) (o.render console reports)

variable {fs : FileSystem σ} {s : σ} {console : Console} {words : Words} {o : Options}

/-! ## With and without a fault -/

theorem exitCode_of_reports (hwrite : fs.CanReport s console o) {reports : List FileReport}
    (h : o.reports (fs.view s) = .ok reports) :
    (fs.check s console words o).1.exitCode = exitCodeOf o.warnOnly reports := by
  obtain ⟨t, hends⟩ := Options.ends_checkFiles h fun path hpath => hwrite reports path h hpath
  rw [check_of_ends hends]
  rfl

theorem check_of_error {e : Error} (h : o.reports (fs.view s) = .error e) :
    fs.check s console words o = (⟨.error e, [.tell (.ofError e words)]⟩, s) :=
  check_of_ends_error (Options.ends_checkFiles_of_error h)

/-- A fault stops the check with the error for it, which is all that the check tells. -/
theorem check_of_fault {e : Error}
    (h : (o.faults (fs.view s) (o.loadSettings (fs.view s))).head? = some e) :
    fs.check s console words o = (⟨.error e, [.tell (.ofError e words)]⟩, s) := by
  obtain ⟨faults, hfaults⟩ := List.head?_eq_some_iff.1 h
  obtain ⟨_, _, -, -, hreports⟩ := o.reports_eq_stopAt (fs.view s)
  rw [hfaults] at hreports
  exact check_of_error hreports

theorem exitCode_of_faults (h : o.faults (fs.view s) (o.loadSettings (fs.view s)) ≠ []) :
    (fs.check s console words o).1.exitCode = 2 := by
  obtain ⟨e, faults, hfaults⟩ := List.exists_cons_of_ne_nil h
  rw [check_of_fault (e := e) (by rw [hfaults]; rfl)]
  rfl

/-- A report that cannot be written stops the check behind the notes, with what has been done so far
to write it. -/
theorem check_of_unwritable (words : Words) {reports : List FileReport} {path : String}
    (h : o.reports (fs.view s) = .ok reports) (hout : o.output = some path)
    (hwrite : ¬ fs.CanWrite s (.ofString path) (o.render console reports)) : ∃ cause effects t,
      fs.check s console words o = (⟨.error (.unwritable cause),
        o.notes reports ++ effects ++ [.tell (.ofError (.unwritable cause) words)]⟩, t)
      ∧ effects <+: o.writing (o.render console reports) := by
  obtain ⟨cause, effects, t, hends, hprefix⟩ :=
    Options.ends_checkFiles_of_unwritable h hout hwrite
  exact ⟨cause, effects, t, check_of_ends_error hends, hprefix⟩

/-- Nothing has been printed when a check ends with an error, whatever the error is. -/
theorem printed_of_error {e : Error} (h : (fs.check s console words o).1.result = .error e) :
    (fs.check s console words o).1.printed = "" := by
  cases hreports : o.reports (fs.view s) with
  | error e' =>
    rw [check_of_error hreports]
    rfl
  | ok reports =>
    by_cases hwrite : ∀ path ∈ o.output, fs.CanWrite s (.ofString path) (o.render console reports)
    · obtain ⟨t, hends⟩ := Options.ends_checkFiles hreports hwrite
      rw [check_of_ends hends] at h
      cases h
    · obtain ⟨path, hout, hpath⟩ : ∃ path, o.output = some path
          ∧ ¬ fs.CanWrite s (.ofString path) (o.render console reports) := by
        simpa using hwrite
      obtain ⟨cause, effects, t, hcheck, hprefix⟩ :=
        check_of_unwritable words hreports hout hpath
      rw [hcheck]
      refine Outcome.printed_eq_empty fun effect heffect => ?_
      have hparts : effect ∈ o.notes reports ∨ effect ∈ o.writing (o.render console reports)
          ∨ effect = .tell (.ofError (.unwritable cause) words) := by
        simp only [List.mem_append, List.mem_singleton, or_assoc] at heffect
        exact heffect.imp_right (.imp_left fun h => hprefix.subset h)
      rcases hparts with hnote | hwriting | rfl
      · exact Options.ne_print_of_mem_notes hnote
      · exact Options.ne_print_of_mem_writing hout hwriting
      · exact nofun

/-- Without a fault the exit code tells whether the scanner for the settings in force finds
something. -/
theorem exitCode_of_no_faults (words : Words) (hwrite : fs.CanReport s console o)
    (h : o.faults (fs.view s) (o.loadSettings (fs.view s)) = []) {loaded : Settings}
    {scanner : Scanner} (hload : o.loadSettings (fs.view s) = .ok loaded)
    (hscanner : Scanner.ofSettings (o.override loaded) = .ok scanner) :
    (fs.check s console words o).1.exitCode ≤ 1
    ∧ ((fs.check s console words o).1.exitCode = 1
      ↔ o.warnOnly = false ∧ ∃ path ∈ o.files, scanner.Finds (fs.view s) path) := by
  obtain ⟨loaded', scanner', hload', hscanner', hreports⟩ := o.reports_eq_stopAt (fs.view s)
  obtain rfl := Except.ok.inj (hload.symm.trans (hload' h))
  obtain rfl := Except.ok.inj (hscanner.symm.trans hscanner')
  rw [h] at hreports
  rw [exitCode_of_reports hwrite hreports]
  exact ⟨exitCodeOf_le_one _ _, Options.exitCodeOf_files_eq_one_iff⟩

theorem exitCode_le_two (hwrite : fs.CanReport s console o) :
    (fs.check s console words o).1.exitCode ≤ 2 := by
  by_cases h : o.faults (fs.view s) (o.loadSettings (fs.view s)) = []
  · obtain ⟨loaded, scanner, hload, hscanner, -⟩ := o.reports_eq_stopAt (fs.view s)
    have hle := (exitCode_of_no_faults words hwrite h (hload h) hscanner).1
    omega
  · exact (exitCode_of_faults h).le

/-! ## Checks of several files -/

/-- The exit code for several files is the greatest of those for each of them. -/
theorem isGreatest_exitCode (hwrite : fs.CanReport s console o) (hfiles : o.files ≠ [])
    (halone : ∀ path ∈ o.files, fs.CanReport s console { o with files := [path] }) :
    IsGreatest {code | ∃ path ∈ o.files,
        (fs.check s console words { o with files := [path] }).1.exitCode = code}
      (fs.check s console words o).1.exitCode := by
  by_cases h : o.faults (fs.view s) (o.loadSettings (fs.view s)) = []
  · have hfaults := (Options.faults_eq_nil_iff_forall hfiles).1 h
    obtain ⟨loaded, scanner, hload, hscanner, -⟩ := o.reports_eq_stopAt (fs.view s)
    obtain ⟨hle, hone⟩ := exitCode_of_no_faults words hwrite h (hload h) hscanner
    have hsingle (path : String) (hpath : path ∈ o.files) :=
      exitCode_of_no_faults words (halone path hpath) (hfaults path hpath) (hload h)
        hscanner
    have hlift (path : String) (hpath : path ∈ o.files)
        (hcode : (fs.check s console words { o with files := [path] }).1.exitCode = 1) :
        (fs.check s console words o).1.exitCode = 1 := by
      obtain ⟨hwarn, path', hpath', hfinds⟩ := (hsingle path hpath).2.1 hcode
      obtain rfl := List.mem_singleton.1 hpath'
      exact hone.2 ⟨hwarn, path', hpath, hfinds⟩
    constructor
    -- A file in which something is found decides; if there is none, any file will do.
    · by_cases hcode : (fs.check s console words o).1.exitCode = 1
      · obtain ⟨hwarn, path, hpath, hfinds⟩ := hone.1 hcode
        refine ⟨path, hpath, ?_⟩
        rw [hcode]
        exact (hsingle path hpath).2.2 ⟨hwarn, path, List.mem_singleton_self path, hfinds⟩
      · obtain ⟨path, hpath⟩ := List.exists_mem_of_ne_nil _ hfiles
        have hzero := mt (hlift path hpath) hcode
        have hpathLe := (hsingle path hpath).1
        exact ⟨path, hpath, by omega⟩
    · rintro _ ⟨path, hpath, rfl⟩
      have hpathLe := (hsingle path hpath).1
      by_cases hcode : (fs.check s console words { o with files := [path] }).1.exitCode = 1
      · rw [hcode, hlift path hpath hcode]
      · omega
  · obtain ⟨path, hpath, hpathFaults⟩ : ∃ path ∈ o.files,
        Options.faults { o with files := [path] } (fs.view s) (o.loadSettings (fs.view s))
          ≠ [] := by
      simpa [Options.faults_eq_nil_iff_forall hfiles] using h
    rw [exitCode_of_faults h]
    constructor
    · exact ⟨path, hpath, exitCode_of_faults hpathFaults⟩
    · rintro _ ⟨path, hpath, rfl⟩
      exact exitCode_le_two (halone path hpath)

/-- How a check ends on a file system on which its report can be written if it gets that far. It has
the exit code 2 exactly if there is a fault: the first one is told, nothing else is done, and the
files stay as they are. Otherwise the exit code is 1 if the scan of some file under the settings in
force finds something and that counts as a failure, and 0 if not. How the report is written down has
no part in it, and the exit code for several files is the greatest of those for each of them. -/
theorem check_ending (fs : FileSystem σ) (s : σ) (console : Console) (words : Words) (o : Options)
    (hwrite : fs.CanReport s console o) :
    ∃ loaded, o.Selects (fs.view s) loaded
    ∧ ((fs.check s console words o).1.exitCode = 2 ↔ o.faults (fs.view s) loaded ≠ [])
    ∧ (∀ e, (o.faults (fs.view s) loaded).head? = some e →
      fs.check s console words o = (⟨.error e, [.tell (.ofError e words)]⟩, s)
      ∧ (fs.check s console words o).1.printed = "")
    ∧ (o.faults (fs.view s) loaded = [] → ∃ (settings : Settings) (scanner : Scanner),
      loaded = .ok settings
      ∧ Scanner.ofSettings
        { maxLineLength := o.maxLineLength.getD settings.maxLineLength
          maxMethodLength := o.maxMethodLength.getD settings.maxMethodLength
          requireHeader := settings.requireHeader || o.requireHeader
          requireLog := settings.requireLog || o.requireLog
          checkMagicNumbers := settings.checkMagicNumbers || o.magicNumbers
          headerPattern := settings.headerPattern
          logPattern := settings.logPattern } = .ok scanner
      ∧ (fs.check s console words o).1.exitCode ≤ 1
      ∧ ((fs.check s console words o).1.exitCode = 1
        ↔ o.warnOnly = false ∧ ∃ path ∈ o.files, scanner.Finds (fs.view s) path))
    ∧ (∀ console' words' quiet verbosity colour format output,
      fs.CanReport s console' { o with quiet, verbosity, colour, format, output } →
        (fs.check s console' words' { o with quiet, verbosity, colour, format, output }).1.exitCode
          = (fs.check s console words o).1.exitCode)
    ∧ (o.files ≠ [] → (∀ path ∈ o.files, fs.CanReport s console { o with files := [path] }) →
      IsGreatest {code | ∃ path ∈ o.files,
          (fs.check s console words { o with files := [path] }).1.exitCode = code}
        (fs.check s console words o).1.exitCode) := by
  obtain ⟨settings, scanner, hload, hscanner, -⟩ := o.reports_eq_stopAt (fs.view s)
  refine ⟨o.loadSettings (fs.view s), Options.selects_iff.2 rfl,
    ⟨fun hcode hfaults => ?_, exitCode_of_faults⟩, fun e he => ?_, fun hfaults => ?_,
    fun console' words' quiet verbosity colour format output hwrite' => ?_,
    isGreatest_exitCode hwrite⟩
  · have hle := (exitCode_of_no_faults words hwrite hfaults (hload hfaults) hscanner).1
    omega
  · rw [check_of_fault he]
    exact ⟨rfl, rfl⟩
  · exact ⟨settings, scanner, hload hfaults, hscanner,
      exitCode_of_no_faults words hwrite hfaults (hload hfaults) hscanner⟩
  · have hsame : Options.reports { o with quiet, verbosity, colour, format, output } (fs.view s)
        = o.reports (fs.view s) := rfl
    cases h : o.reports (fs.view s) with
    | error e =>
      rw [check_of_error (hsame.trans h), check_of_error h]
      rfl
    | ok reports =>
      rw [exitCode_of_reports hwrite' (hsame.trans h), exitCode_of_reports hwrite h]

end FileSystem

namespace FileTree

/-! ## Checks of trees -/

/-- Whether a file can be written does not depend on its text. -/
theorem write_text (t : FileTree) (p : Path) :
    (∃ e, ∀ text, t.write p text = .error e) ∨ ∀ text, ∃ t', t.write p text = .ok t' := by
  simp only [write, bind, Except.bind]
  cases t.locate p with
  | error e => exact .inl ⟨e, fun _ => rfl⟩
  | ok l =>
    simp only
    cases t.find? l with
    | none =>
      cases p.isDirectoryOnly
      · exact .inr fun _ => ⟨_, rfl⟩
      · exact .inl ⟨_, fun _ => rfl⟩
    | some entry =>
      cases entry with
      | directory => exact .inl ⟨_, fun _ => rfl⟩
      | file bytes =>
        cases p.isDirectoryOnly
        · exact .inr fun _ => ⟨_, rfl⟩
        · exact .inl ⟨_, fun _ => rfl⟩

variable {t : FileTree} {userDir : Option String}

theorem canWrite_text {path : Path} {text : String} (text' : String)
    (h : (fileSystem userDir).CanWrite t path text) :
    (fileSystem userDir).CanWrite t path text' := by
  refine ⟨h.directory, ?_⟩
  have hfile := h.file
  generalize ((fileSystem userDir).prepare path t).2 = t' at hfile ⊢
  rcases t'.write_text path with ⟨e, herror⟩ | hok
  · simp [fileSystem, answer, herror] at hfile
  · obtain ⟨_, hwritten⟩ := hok text'
    simp [fileSystem, answer, hwritten]

/-- In a tree it is enough that some text can be written to the file for the report. -/
theorem canReport_of_canWrite {console : Console} {o : Options} (text : String)
    (h : ∀ path ∈ o.output, (fileSystem userDir).CanWrite t (.ofString path) text) :
    (fileSystem userDir).CanReport t console o :=
  fun _ path _ hpath => canWrite_text _ (h path hpath)

/-- Two files, one of which holds a tab. -/
def workTree : FileTree where
  current := ["work"]
  entries := [
    (["work"], .directory),
    (["work", "Clean.java"], .file "".toUTF8),
    (["work", "Tab.java"], .file "\tint x;".toUTF8)]

/-- A check of both files, with a report to a directory that is still missing. -/
def workOptions : Options where
  files := ["Clean.java", "Tab.java"]
  noSettingsFile := true
  output := some "out/report.txt"

theorem check_ending_work : (fileSystem none).CanReport workTree {} workOptions
    ∧ ((fileSystem none).check workTree {} default workOptions).1.exitCode = 1
    ∧ IsGreatest {code | ∃ path ∈ workOptions.files,
        ((fileSystem none).check workTree {} default
          { workOptions with files := [path] }).1.exitCode = code} 1 := by
  have hempty : ∀ path ∈ workOptions.output,
      (fileSystem none).CanWrite workTree (.ofString path) "" := by
    rintro _ ⟨⟩
    exact ⟨by cbv, by cbv⟩
  have hwrite : (fileSystem none).CanReport workTree {} workOptions :=
    canReport_of_canWrite "" hempty
  obtain ⟨loaded, hselects, -, -, hok, -, hgreatest⟩ :=
    FileSystem.check_ending (fileSystem none) workTree {} default workOptions hwrite
  obtain rfl := Options.selects_iff.1 hselects
  obtain ⟨settings, scanner, hload, hscanner, -, hone⟩ := hok (by decide +kernel)
  obtain rfl := Except.ok.inj hload
  obtain rfl := Except.ok.inj hscanner
  have hcode := hone.2 ⟨rfl, "Tab.java", by decide, "\tint x;", by cbv, by decide +kernel⟩
  exact ⟨hwrite, hcode, hcode ▸ hgreatest (by decide) fun _ _ =>
    canReport_of_canWrite "" hempty⟩

end FileTree

end HouseStyle
