import HouseStyle.Proofs.Report.Tally
import HouseStyle.Proofs.Report.Wording
import HouseStyle.Text.Lines
import Mathlib

/-!
# The lines of the report for people

The report is a sequence of rows, each of one kind and printed on a line of its own (`Row`). Which
rows there are, and in which order, is told file by file (`rows`): a file looks at the files before
it only to see whether any of them has violations. Cutting a report into lines gives the texts of
these rows back (`splitLines_render`), and a row can be told from its text as far as separators and
the first lines of violations go, so that counting these lines counts the violations.
-/

namespace HouseStyle.TextReport

open Text

/-! ## Rows -/

/-- A line of a report, by what it is for. -/
inductive Row where
  /-- The line between two violations. -/
  | separator
  /-- The first line of a violation. -/
  | heading (commandment : Nat) (description : String)
  | method (name : String)
  /-- The number of the line of a violation. -/
  | place (number : Nat)
  /-- The text of the line of a violation. -/
  | quote (text : String)
  /-- The last line of a violation. -/
  | threat
  /-- A file without violations. -/
  | clean (path : String)
  /-- The file that the next violations belong to. -/
  | file (path : String)
  /-- The line in front of the summary. -/
  | gap
  /-- The number of files, and what was found in them. -/
  | summary (files : Nat) (outcome : String)
  deriving DecidableEq

namespace Row

/-- The text of a row, without colours. -/
def text : Row → String
  | separator => TextReport.separator
  | heading commandment description =>
    "COMMANDMENT " ++ toString commandment ++ " : " ++ description
  | method name => "In method '" ++ name ++ "'"
  | place number => "At line " ++ toString number
  | quote text => "· " ++ text
  | threat => "You will be punished."
  | clean path => "✓ " ++ path ++ ": no violations"
  | file path => "==> " ++ path ++ " <=="
  | gap => ""
  | summary files outcome =>
    "Summary: " ++ toString files ++ " " ++ plural files "file" ++ " checked, " ++ outcome

/-- Whether a row stands between two violations. -/
def isSeparator : Row → Bool
  | separator => true
  | _ => false

/-- Whether a row is the first one of a violation. -/
def isHeading : Row → Bool
  | heading _ _ => true
  | _ => false

end Row

/-- Whether a line starts like the first one of a violation. -/
def opensBlock (text : String) : Bool := "COMMANDMENT ".toList.isPrefixOf text.toList

/-! ## The rows of a report -/

/-- The rows of a violation behind the first one. -/
def detailRows (v : Violation) : List Row :=
  ((if v.rule = .methodLength then v.method else none).map Row.method).toList
    ++ (v.line.map Row.place).toList
    ++ ((if v.rule.quotesLine then v.text else none).map Row.quote).toList
    ++ [.threat]

/-- The rows of a violation. -/
def violationRows (v : Violation) : List Row :=
  .heading v.rule.commandment v.description :: detailRows v

/-- The rows of a file, one of `files`, behind the files `earlier`. -/
def fileRows (verbosity files : Nat) (earlier : List FileReport) (r : FileReport) : List Row :=
  if r.violations = [] then (if 1 ≤ verbosity then [.clean r.path] else [])
  else
    (if allViolations earlier = [] then [] else [.separator])
      ++ (if 2 ≤ files then [.file r.path] else [])
      ++ [.separator].intercalate (r.violations.map violationRows)

/-- What was found in all files. -/
def outcome (reports : List FileReport) : String :=
  let n := (allViolations reports).length
  if n = 0 then "no violations"
  else
    toString n ++ " " ++ plural n "violation" ++ " (" ++ breakdown (tallyOf reports) ++ ")"

/-- The rows of a report: those of each file, in order, an empty one if anything was found, and the
summary. -/
def rows (verbosity : Nat) (reports : List FileReport) : List Row :=
  (reports.zipIdx.flatMap fun (r, i) => fileRows verbosity reports.length (reports.take i) r)
    ++ (if allViolations reports = [] then [] else [.gap])
    ++ [.summary reports.length (outcome reports)]

/-! ## The rows are what is printed -/

/-- Some rows, each on a line of its own. -/
def printed : List Row → String
  | [] => ""
  | row :: rows => line row.text ++ printed rows

@[simp] theorem printed_nil : printed [] = "" :=
  rfl

@[simp] theorem printed_cons (row : Row) (rows : List Row) :
    printed (row :: rows) = line row.text ++ printed rows :=
  rfl

@[simp] theorem printed_append : ∀ xs ys : List Row, printed (xs ++ ys) = printed xs ++ printed ys
  | [], ys => by simp
  | x :: xs, ys => by
    rw [List.cons_append, printed_cons, printed_append xs ys, printed_cons, String.append_assoc]

theorem printed_toList {α : Type} (f : α → Row) (x : Option α) :
    printed (x.map f).toList = x.elim "" fun a => line (f a).text := by
  cases x <;> simp

theorem block_eq (v : Violation) : block false v = printed (violationRows v) := by
  simp only [violationRows, detailRows, printed_cons, printed_append, printed_toList, block,
    Style.paint, Bool.false_eq_true, if_false, Row.text, printed_nil, String.append_empty,
    String.append_assoc]

theorem blocks_eq : ∀ vs : List Violation,
    blocks false vs = printed ([.separator].intercalate (vs.map violationRows))
  | [] => rfl
  | [v] => by simp [blocks, block_eq]
  | v :: w :: vs => by
    rw [blocks, block_eq, blocks_eq (w :: vs)]
    · simp only [List.map_cons, List.intercalate_cons_cons, printed_append, printed_cons,
        printed_nil, String.append_empty]
      rfl
    · simp

/-- The rows of the files `rest`, behind the files `seen`. -/
def filesRows (verbosity files : Nat) (seen rest : List FileReport) : List Row :=
  (rest.zipIdx seen.length).flatMap fun (r, i) =>
    fileRows verbosity files ((seen ++ rest).take i) r

theorem filesRows_cons (verbosity files : Nat) (seen : List FileReport) (r : FileReport)
    (rest : List FileReport) : filesRows verbosity files seen (r :: rest) =
      fileRows verbosity files seen r ++ filesRows verbosity files (seen ++ [r]) rest := by
  simp [filesRows, List.zipIdx_cons]

theorem rows_eq (verbosity : Nat) (reports : List FileReport) :
    rows verbosity reports = filesRows verbosity reports.length [] reports
      ++ (if allViolations reports = [] then [] else [.gap])
      ++ [.summary reports.length (outcome reports)] := by
  rw [rows, filesRows, List.nil_append, List.length_nil]

theorem allViolations_concat (seen : List FileReport) (r : FileReport) :
    allViolations (seen ++ [r]) = allViolations seen ++ r.violations := by
  simp [allViolations]

theorem body_eq (verbosity files : Nat) : ∀ seen rest : List FileReport,
    body false (2 ≤ files) verbosity (allViolations seen ≠ []) rest =
      printed (filesRows verbosity files seen rest)
        ++ if allViolations (seen ++ rest) = [] then "" else line ""
  | seen, [] => by
    simp [body, filesRows]
  | seen, r :: rest => by
    have ih := body_eq verbosity files (seen ++ [r]) rest
    rw [List.append_assoc, List.singleton_append, allViolations_concat] at ih
    rw [filesRows_cons, printed_append, String.append_assoc, ← ih, body, fileRows,
      FileReport.isClean]
    by_cases hr : r.violations = []
    · simp [hr, apply_ite printed, Row.text]
    · have hlater : decide (allViolations seen ++ r.violations ≠ []) = true := by simp [hr]
      rw [if_neg (by simpa using hr), if_neg hr, blocks_eq, hlater]
      simp [apply_ite printed, Row.text, String.append_assoc]

/-- The summary is the text of the last row. -/
theorem summary_eq (reports : List FileReport) :
    summary false reports = (Row.summary reports.length (outcome reports)).text := by
  have htotal : (tallyOf reports).total = (allViolations reports).length :=
    Tally.total_ofViolations _
  simp only [summary, outcome, Row.text, htotal, Style.paint]
  split
  · rfl
  · simp [String.append_assoc]

/-- A report is its rows, each on a line of its own. -/
theorem render_eq (verbosity : Nat) (reports : List FileReport) :
    render false verbosity reports = printed (rows verbosity reports) := by
  have hbody : body false (1 < reports.length) verbosity false reports =
      printed (filesRows verbosity reports.length [] reports)
        ++ if allViolations reports = [] then "" else line "" :=
    body_eq verbosity reports.length [] reports
  have hgap : printed (if allViolations reports = [] then [] else [.gap]) =
      if allViolations reports = [] then "" else line "" := by
    rw [apply_ite printed]
    rfl
  rw [render, hbody, summary_eq, rows_eq, printed_append, printed_append, hgap]
  simp

/-! ## Cutting the report into lines -/

/-- The text holds no newline. -/
def OneLine (text : String) : Prop := '\n' ∉ text.toList

instance (text : String) : Decidable (OneLine text) :=
  inferInstanceAs (Decidable ('\n' ∉ text.toList))

theorem OneLine.append {s t : String} (hs : OneLine s) (ht : OneLine t) : OneLine (s ++ t) :=
  Lacks.append hs ht

theorem oneLine_toString (n : Nat) : OneLine (toString n) :=
  lacks_toString (by decide) n

theorem oneLine_plural (n : Nat) {word : String} (h : OneLine word) : OneLine (plural n word) :=
  lacks_plural (by decide) n h

/-- Rows without newlines are found again when what is printed is cut into lines. -/
theorem splitLines_printed : ∀ rows : List Row, (∀ row ∈ rows, OneLine row.text) →
    splitLines (printed rows) = rows.map Row.text ++ [""]
  | [], _ => rfl
  | row :: rows, h => by
    obtain ⟨hrow, hrows⟩ := List.forall_mem_cons.1 h
    have ih := splitLines_printed rows hrows
    have htext : (printed (row :: rows)).toList =
        row.text.toList ++ '\n' :: (printed rows).toList := by
      simp [line]
    rw [splitLines] at ih ⊢
    rw [htext, split_append_cons hrow, List.map_cons, ih, String.ofList_toList]
    rfl

/-- The strings of a row that come from elsewhere. -/
def Row.strings : Row → List String
  | heading _ description => [description]
  | method name => [name]
  | quote text => [text]
  | clean path | file path => [path]
  | summary _ outcome => [outcome]
  | separator | place _ | threat | gap => []

theorem oneLine_separator : OneLine separator :=
  lacks_separator (by decide)

/-- A row holds no newline unless one comes from elsewhere. -/
theorem Row.oneLine_text (row : Row) (h : ∀ s ∈ row.strings, OneLine s) : OneLine row.text := by
  cases row with
  | separator => exact oneLine_separator
  | heading c description =>
    have hc := oneLine_toString c
    have hdescription := h description List.mem_cons_self
    exact ((OneLine.append (by decide) hc).append (by decide)).append hdescription
  | method name => exact (OneLine.append (by decide) (h name List.mem_cons_self)).append (by decide)
  | place n => exact OneLine.append (by decide) (oneLine_toString n)
  | quote text => exact OneLine.append (by decide) (h text List.mem_cons_self)
  | threat => decide
  | clean path => exact (OneLine.append (by decide) (h path List.mem_cons_self)).append (by decide)
  | file path => exact (OneLine.append (by decide) (h path List.mem_cons_self)).append (by decide)
  | gap => decide
  | summary n outcome =>
    have hfiles := (OneLine.append (s := "Summary: ") (by decide) (oneLine_toString n)).append
      (t := " ") (by decide)
    exact ((hfiles.append (oneLine_plural n (by decide))).append (by decide)).append
      (h outcome List.mem_cons_self)

/-- Neither the path of a file nor the texts and the names in its violations hold a newline. -/
structure Plain (r : FileReport) : Prop where
  path : OneLine r.path
  text : ∀ v ∈ r.violations, ∀ text ∈ v.text, OneLine text
  method : ∀ v ∈ r.violations, ∀ name ∈ v.method, OneLine name

instance (r : FileReport) : Decidable (Plain r) :=
  decidable_of_iff
    (OneLine r.path ∧ (∀ v ∈ r.violations, ∀ text ∈ v.text, OneLine text) ∧
      ∀ v ∈ r.violations, ∀ name ∈ v.method, OneLine name)
    ⟨fun h => ⟨h.1, h.2.1, h.2.2⟩, fun h => ⟨h.path, h.text, h.method⟩⟩

theorem oneLine_description (v : Violation) : OneLine v.description :=
  v.lacks_description (by decide)

theorem oneLine_outcome (reports : List FileReport) : OneLine (outcome reports) := by
  rw [outcome]
  split
  · decide
  · have hbreakdown : OneLine (breakdown (tallyOf reports)) := lacks_breakdown (by decide) _
    have hnumber := (oneLine_toString (allViolations reports).length).append (t := " ") (by decide)
    exact (((hnumber.append (oneLine_plural _ (by decide))).append (by decide)).append
      hbreakdown).append (by decide)

theorem mem_detailRows_iff {v : Violation} {row : Row} : row ∈ detailRows v ↔
    (∃ name ∈ v.method, v.rule = .methodLength ∧ row = .method name) ∨
    (∃ n ∈ v.line, row = .place n) ∨
    (∃ text ∈ v.text, v.rule.quotesLine = true ∧ row = .quote text) ∨ row = .threat := by
  simp only [detailRows, List.mem_append, Option.mem_toList, Option.map_eq_some_iff,
    Option.ite_none_right_eq_some, List.mem_singleton, Option.mem_def, or_assoc]
  grind

theorem oneLine_of_mem_violationRows {v : Violation} (htext : ∀ text ∈ v.text, OneLine text)
    (hmethod : ∀ name ∈ v.method, OneLine name) :
    ∀ row ∈ violationRows v, OneLine row.text := by
  rw [violationRows, List.forall_mem_cons]
  refine ⟨Row.oneLine_text _ (List.forall_mem_singleton.2 (oneLine_description v)),
    fun row hrow => row.oneLine_text fun s hs => ?_⟩
  rcases mem_detailRows_iff.1 hrow with ⟨name, hname, -, rfl⟩ | ⟨n, -, rfl⟩ | ⟨text, ht, -, rfl⟩ |
    rfl
  · rw [List.mem_singleton.1 hs]
    exact hmethod name hname
  · simp [Row.strings] at hs
  · rw [List.mem_singleton.1 hs]
    exact htext text ht
  · simp [Row.strings] at hs

theorem oneLine_of_mem_fileRows {verbosity files : Nat} {earlier : List FileReport} {r : FileReport}
    (h : Plain r) : ∀ row ∈ fileRows verbosity files earlier r, OneLine row.text := by
  have hpath : ∀ s ∈ [r.path], OneLine s := List.forall_mem_singleton.2 h.path
  have hseparator : ∀ row ∈ [Row.separator], OneLine row.text :=
    List.forall_mem_singleton.2 oneLine_separator
  rw [fileRows]
  split
  · split
    · exact List.forall_mem_singleton.2 (Row.oneLine_text (.clean r.path) hpath)
    · simp
  · have hblocks := forall_mem_intercalate hseparator (r.violations.map violationRows)
      (List.forall_mem_map.2 fun v hv => oneLine_of_mem_violationRows (h.text v hv) (h.method v hv))
    rw [List.forall_mem_append, List.forall_mem_append]
    refine ⟨⟨?_, ?_⟩, hblocks⟩
    · split
      · simp
      · exact hseparator
    · split
      · exact List.forall_mem_singleton.2 (Row.oneLine_text (.file r.path) hpath)
      · simp

theorem oneLine_of_mem_rows (verbosity : Nat) {reports : List FileReport}
    (h : ∀ r ∈ reports, Plain r) : ∀ row ∈ rows verbosity reports, OneLine row.text := by
  rw [rows, List.forall_mem_append, List.forall_mem_append]
  refine ⟨⟨fun row hrow => ?_, ?_⟩, ?_⟩
  · obtain ⟨⟨r, i⟩, hri, hrow⟩ := List.mem_flatMap.1 hrow
    exact oneLine_of_mem_fileRows (h r (List.fst_mem_of_mem_zipIdx hri)) row hrow
  · split
    · simp
    · exact List.forall_mem_singleton.2 (by decide)
  · exact List.forall_mem_singleton.2 (Row.oneLine_text _
      (List.forall_mem_singleton.2 (oneLine_outcome reports)))

/-! ## Telling rows by their texts -/

theorem Row.text_eq_separator_iff (row : Row) :
    row.text = TextReport.separator ↔ row.isSeparator = true := by
  constructor
  · intro h
    have hlead := congrArg (fun s => s.toList.take 3) h
    cases row <;> simp [Row.text, Row.isSeparator, toList_separator] at hlead ⊢
  · cases row <;> simp [Row.text, Row.isSeparator]

theorem Row.opensBlock_text (row : Row) : opensBlock row.text = row.isHeading := by
  cases row <;>
    simp [opensBlock, Row.text, Row.isHeading, toList_separator, List.isPrefixOf, List.replicate]

/-! ## Counting separators and violations -/

/-- Behind its first row a violation has neither a separator nor a further heading. -/
theorem not_isSeparator_of_mem_detailRows {v : Violation} {row : Row} (h : row ∈ detailRows v) :
    row.isSeparator = false ∧ row.isHeading = false := by
  rcases mem_detailRows_iff.1 h with ⟨_, -, -, rfl⟩ | ⟨_, -, rfl⟩ | ⟨_, -, -, rfl⟩ | rfl <;>
    exact ⟨rfl, rfl⟩

@[simp] theorem countP_isHeading_violationRows (v : Violation) :
    (violationRows v).countP Row.isHeading = 1 := by
  have hzero : (detailRows v).countP Row.isHeading = 0 :=
    List.countP_eq_zero.2 fun row hrow => by simp [(not_isSeparator_of_mem_detailRows hrow).2]
  rw [violationRows, List.countP_cons, hzero]
  rfl

@[simp] theorem countP_isSeparator_violationRows (v : Violation) :
    (violationRows v).countP Row.isSeparator = 0 := by
  have hzero : (detailRows v).countP Row.isSeparator = 0 :=
    List.countP_eq_zero.2 fun row hrow => by simp [(not_isSeparator_of_mem_detailRows hrow).1]
  rw [violationRows, List.countP_cons, hzero]
  rfl

theorem countP_isHeading_blocks : ∀ vs : List Violation,
    ([.separator].intercalate (vs.map violationRows)).countP Row.isHeading = vs.length
  | [] => rfl
  | [v] => by simp
  | v :: w :: vs => by
    have ih := countP_isHeading_blocks (w :: vs)
    rw [List.map_cons] at ih
    rw [List.map_cons, List.map_cons, List.intercalate_cons_cons, List.countP_append, ih]
    simp [Row.isHeading, Nat.add_comm]

theorem countP_isSeparator_blocks : ∀ vs : List Violation,
    ([.separator].intercalate (vs.map violationRows)).countP Row.isSeparator = vs.length - 1
  | [] => rfl
  | [v] => by simp
  | v :: w :: vs => by
    have ih := countP_isSeparator_blocks (w :: vs)
    rw [List.map_cons] at ih
    rw [List.map_cons, List.map_cons, List.intercalate_cons_cons, List.countP_append, ih]
    simp [Row.isSeparator, Nat.add_comm]

theorem countP_isHeading_fileRows (verbosity files : Nat) (earlier : List FileReport)
    (r : FileReport) :
    (fileRows verbosity files earlier r).countP Row.isHeading = r.violations.length := by
  rw [fileRows]
  split
  next hr => split <;> simp [hr, Row.isHeading]
  next =>
    rw [List.countP_append, countP_isHeading_blocks]
    split <;> split <;> simp [Row.isHeading]

/-- A file has one separator for each of its violations, but for the very first one of all. -/
theorem countP_isSeparator_fileRows (verbosity files : Nat) (earlier : List FileReport)
    (r : FileReport) :
    ((allViolations earlier).length - 1) +
        (fileRows verbosity files earlier r).countP Row.isSeparator =
      (allViolations (earlier ++ [r])).length - 1 := by
  rw [allViolations_concat, List.length_append, fileRows]
  split
  next hr => split <;> simp [hr, Row.isSeparator]
  next hr =>
    have hpos := List.length_pos_iff.2 hr
    have hfile : (if 2 ≤ files then [Row.file r.path] else []).countP Row.isSeparator = 0 := by
      split <;> rfl
    rw [List.countP_append, List.countP_append, countP_isSeparator_blocks, hfile]
    split
    next hearlier =>
      simp [hearlier]
    next hearlier =>
      have := List.length_pos_iff.2 hearlier
      simp [Row.isSeparator]
      omega

theorem countP_isHeading_filesRows (verbosity files : Nat) : ∀ seen rest : List FileReport,
    (filesRows verbosity files seen rest).countP Row.isHeading = (allViolations rest).length
  | _, [] => rfl
  | seen, r :: rest => by
    rw [filesRows_cons, List.countP_append, countP_isHeading_fileRows,
      countP_isHeading_filesRows verbosity files (seen ++ [r]) rest]
    simp [allViolations]

theorem countP_isSeparator_filesRows (verbosity files : Nat) : ∀ seen rest : List FileReport,
    ((allViolations seen).length - 1) + (filesRows verbosity files seen rest).countP Row.isSeparator
      = (allViolations (seen ++ rest)).length - 1
  | seen, [] => by simp [filesRows]
  | seen, r :: rest => by
    have ih := countP_isSeparator_filesRows verbosity files (seen ++ [r]) rest
    rw [← countP_isSeparator_fileRows verbosity files, List.append_assoc,
      List.singleton_append] at ih
    rw [filesRows_cons, List.countP_append, ← ih]
    omega

theorem countP_isHeading_rows (verbosity : Nat) (reports : List FileReport) :
    (rows verbosity reports).countP Row.isHeading = (allViolations reports).length := by
  have hgap : (if allViolations reports = [] then [] else [Row.gap]).countP Row.isHeading = 0 := by
    split <;> rfl
  rw [rows_eq, List.countP_append, List.countP_append, countP_isHeading_filesRows, hgap]
  rfl

theorem countP_isSeparator_rows (verbosity : Nat) (reports : List FileReport) :
    (rows verbosity reports).countP Row.isSeparator = (allViolations reports).length - 1 := by
  have hfiles := countP_isSeparator_filesRows verbosity reports.length [] reports
  have hgap :
      (if allViolations reports = [] then [] else [Row.gap]).countP Row.isSeparator = 0 := by
    split <;> rfl
  rw [List.nil_append] at hfiles
  rw [rows_eq, List.countP_append, List.countP_append, hgap, ← hfiles]
  simp [allViolations, Row.isSeparator]

/-! ## The lines of a report -/

/-- Cut into lines, a report on files whose paths, lines and method names hold no newline gives the
texts of its rows, and nothing behind the last newline. There is one separator less than there are
violations and each violation has one first line; no other row reads like one of these, whatever
paths, lines and names it holds. -/
theorem splitLines_render (verbosity : Nat) {reports : List FileReport}
    (h : ∀ r ∈ reports, Plain r) :
    splitLines (render false verbosity reports) = (rows verbosity reports).map Row.text ++ [""] ∧
    (splitLines (render false verbosity reports)).count separator =
      (allViolations reports).length - 1 ∧
    (splitLines (render false verbosity reports)).countP opensBlock =
      (allViolations reports).length ∧
    ∀ row : Row, (row.text = separator ↔ row = .separator) ∧
      (opensBlock row.text = true ↔ ∃ c description, row = .heading c description) := by
  have hlines : splitLines (render false verbosity reports) =
      (rows verbosity reports).map Row.text ++ [""] := by
    rw [render_eq, splitLines_printed _ (oneLine_of_mem_rows verbosity h)]
  refine ⟨hlines, ?_, ?_, fun row => ⟨?_, ?_⟩⟩
  · have hkind : (fun line => line == separator) ∘ Row.text = Row.isSeparator := by
      funext row
      rw [Function.comp_apply, Bool.eq_iff_iff, beq_iff_eq, Row.text_eq_separator_iff]
    have hempty : "" ≠ separator := fun heq =>
      Bool.false_ne_true ((Row.text_eq_separator_iff .gap).1 heq)
    have hlast : [""].count separator = 0 := by simp [hempty]
    rw [hlines, List.count_append, hlast, List.count, List.countP_map, hkind,
      countP_isSeparator_rows]
    rfl
  · have hkind : opensBlock ∘ Row.text = Row.isHeading := funext Row.opensBlock_text
    rw [hlines, List.countP_append, List.countP_map, hkind, countP_isHeading_rows]
    rfl
  · rw [Row.text_eq_separator_iff]
    cases row <;> simp [Row.isSeparator]
  · rw [Row.opensBlock_text]
    cases row <;> simp [Row.isHeading]

/-- Three files, in which a path, a line and the name of a method read like rows of the report. -/
def imitations : List FileReport :=
  [⟨"========", 2,
      [.onLine .tabIndent 1 "COMMANDMENT 4 : \t", .methodTooLong "COMMANDMENT 3" 2 60 50]⟩,
    ⟨"B", 1, []⟩, ⟨"==> C <==", 1, [.wholeFile .logMarker]⟩]

theorem splitLines_render_imitations : (∀ r ∈ imitations, Plain r) ∧
    splitLines (render false 1 imitations) =
      ["==> ======== <==", "COMMANDMENT 4 : There is a tab at this line.", "At line 1",
        "· COMMANDMENT 4 : \t", "You will be punished.", separator,
        "COMMANDMENT 3 : The method is longer than 50 lines (60).", "In method 'COMMANDMENT 3'",
        "At line 2", "You will be punished.", "✓ B: no violations", separator,
        "==> ==> C <== <==", "COMMANDMENT 8 : The file doesn't contain the required log marker.",
        "You will be punished.", "",
        "Summary: 3 files checked, 3 violations " ++
          "(commandment 4: 1, commandment 3: 1, commandment 8: 1)",
        ""] ∧
    (splitLines (render false 1 imitations)).count separator = 2 ∧
    (splitLines (render false 1 imitations)).countP opensBlock = 3 := by
  have hplain : ∀ r ∈ imitations, Plain r := by decide
  obtain ⟨hlines, hseparators, hheadings, -⟩ := splitLines_render 1 hplain
  refine ⟨hplain, ?_, hseparators, hheadings⟩
  rw [hlines]
  rfl

end HouseStyle.TextReport
