import HouseStyle.Command.Arguments

/-!
# Command lines that spell out the choices

Choices can be written on the command line one by one, each by its long name with its value attached,
and the files behind two dashes. Reading such a command line takes one choice after the other into
account (`Reading.arguments_choices`). Choices under different names do not interfere, so that their
order does not matter, and what is read is what was written (`Options.parse_written`).
-/

namespace HouseStyle

/-- A choice of the user that can be written on the command line. -/
inductive Choice where
  | switch (s : Switch)
  | colour (c : ColourChoice)
  | config (path : String)
  | maxLineLength (n : Nat)
  | maxMethodLength (n : Nat)
  | format (f : ReportFormat)
  | output (path : String)
  deriving DecidableEq

namespace Choice

/-- The argument that a choice is made by. -/
def named : Choice → Named
  | switch s => .switch s
  | colour _ => .parameter .colour
  | config _ => .parameter .config
  | maxLineLength _ => .parameter .maxLineLength
  | maxMethodLength _ => .parameter .maxMethodLength
  | format _ => .parameter .format
  | output _ => .parameter .output

/-- The value that is attached to the argument. -/
def value? : Choice → Option String
  | switch _ => none
  | colour c => some c.name
  | config path => some path
  | maxLineLength n | maxMethodLength n => some n.repr
  | format f => some f.name
  | output path => some path

/-- The long form of a choice: `--name` or `--name=value`. -/
def token (c : Choice) : String :=
  "--" ++ c.named.name ++ c.value?.elim "" ("=" ++ ·)

/-- The options with the choice made. -/
def apply (o : Options) : Choice → Options
  | switch .verbose => { o with verbosity := min (o.verbosity + 1) 255 }
  | switch .quiet => { o with quiet := true }
  | switch .noConfig => { o with noSettingsFile := true }
  | switch .requireHeader => { o with requireHeader := true }
  | switch .requireLog => { o with requireLog := true }
  | switch .magicNumbers => { o with magicNumbers := true }
  | switch .warnOnly => { o with warnOnly := true }
  | switch .help | switch .version => o
  | colour c => { o with colour := c }
  | config path => { o with settingsFile := some path }
  | maxLineLength n => { o with maxLineLength := some n }
  | maxMethodLength n => { o with maxMethodLength := some n }
  | format f => { o with format := f }
  | output path => { o with output := some path }

/-- A choice can be written down: its value fits its type, and it asks for no information. -/
def IsWritable : Choice → Prop
  | switch s => s ≠ .help ∧ s ≠ .version
  | config path | output path => path ≠ ""
  | maxLineLength n | maxMethodLength n => n ≤ maxNumber
  | colour _ | format _ => True

/-- What a choice says holds of the options. -/
def Agrees (o : Options) : Choice → Prop
  | switch .verbose => 0 < o.verbosity
  | switch .quiet => o.quiet = true
  | switch .noConfig => o.noSettingsFile = true
  | switch .requireHeader => o.requireHeader = true
  | switch .requireLog => o.requireLog = true
  | switch .magicNumbers => o.magicNumbers = true
  | switch .warnOnly => o.warnOnly = true
  | switch .help | switch .version => False
  | colour c => o.colour = c
  | config path => o.settingsFile = some path
  | maxLineLength n => o.maxLineLength = some n
  | maxMethodLength n => o.maxMethodLength = some n
  | format f => o.format = f
  | output path => o.output = some path

/-- Choices that hold of the same options are equal if they are made by one argument. -/
theorem Agrees.eq {o : Options} {c d : Choice} (hc : c.Agrees o) (hd : d.Agrees o)
    (h : c.named = d.named) : c = d := by
  cases c <;> cases d <;> simp_all [named, Agrees]

/-- Choices do not interfere, unless they set one parameter to different values. -/
theorem apply_comm {c d : Choice} (h : c.named = d.named → c = d) (o : Options) :
    apply (apply o c) d = apply (apply o d) c := by
  cases c with
  | switch s =>
    cases d with
    | switch t => cases s <;> cases t <;> rfl
    | _ => cases s <;> rfl
  | colour =>
    cases d with
    | switch t => cases t <;> rfl
    | colour => rw [h rfl]
    | _ => rfl
  | config =>
    cases d with
    | switch t => cases t <;> rfl
    | config => rw [h rfl]
    | _ => rfl
  | maxLineLength =>
    cases d with
    | switch t => cases t <;> rfl
    | maxLineLength => rw [h rfl]
    | _ => rfl
  | maxMethodLength =>
    cases d with
    | switch t => cases t <;> rfl
    | maxMethodLength => rw [h rfl]
    | _ => rfl
  | format =>
    cases d with
    | switch t => cases t <;> rfl
    | format => rw [h rfl]
    | _ => rfl
  | output =>
    cases d with
    | switch t => cases t <;> rfl
    | output => rw [h rfl]
    | _ => rfl

end Choice

/-! ## Reading numbers -/

theorem le_ofDigitChars (digits : List Char) (n : Nat) : n ≤ Nat.ofDigitChars 10 digits n := by
  induction digits generalizing n with
  | nil => exact Nat.le_refl n
  | cons c digits ih =>
    rw [Nat.ofDigitChars_cons]
    exact Nat.le_trans (by omega) (ih _)

theorem readNumber_digits : ∀ (digits : List Char) (n : Nat), (∀ c ∈ digits, c.isDigit = true) →
    Nat.ofDigitChars 10 digits n ≤ maxNumber →
      readNumber n digits = .ok (Nat.ofDigitChars 10 digits n)
  | [], _, _, _ => rfl
  | c :: digits, n, hdigits, hle => by
    rw [List.forall_mem_cons] at hdigits
    rw [Nat.ofDigitChars_cons] at hle ⊢
    have hnext := Nat.le_trans (le_ofDigitChars digits _) hle
    rw [readNumber, hdigits.1]
    simp only [Bool.not_true, Bool.false_eq_true, if_false, hnext, if_true]
    exact readNumber_digits digits _ hdigits.2 hle

/-- A number that fits into 64 bits is read back from its digits. -/
theorem parseNumber_repr {n : Nat} (h : n ≤ maxNumber) : parseNumber n.repr = .ok n := by
  have hdigits : ∀ c ∈ Nat.toDigits 10 n, c.isDigit = true := fun c hc =>
    Nat.isDigit_of_mem_toDigits (by decide) (by decide) hc
  have hvalue : Nat.ofDigitChars 10 (Nat.toDigits 10 n) 0 = n :=
    Nat.ofDigitChars_toDigits (by decide) (by decide)
  have hread := readNumber_digits _ 0 hdigits (by rwa [hvalue])
  rw [hvalue] at hread
  rw [parseNumber, Nat.toList_repr]
  cases hn : Nat.toDigits 10 n with
  | nil => exact absurd hn Nat.toDigits_ne_nil
  | cons c digits =>
    rw [hn] at hdigits hread
    have hplus : c ≠ '+' := by
      rintro rfl
      exact absurd (hdigits '+' List.mem_cons_self) (by decide)
    split
    · contradiction
    · simp_all
    · simp_all
    · exact hread

/-! ## Reading choices -/

namespace Named

/-- An argument is found by its name. -/
theorem ofName?_name (a : Named) : ofName? a.name = some a := by
  cases a with
  | switch s => cases s <;> decide
  | parameter p => cases p <;> decide

theorem not_mem_name (a : Named) : '=' ∉ a.name.toList := by
  cases a with
  | switch s => cases s <;> decide
  | parameter p => cases p <;> decide

end Named

namespace Choice

theorem toList_token (c : Choice) : c.token.toList
    = '-' :: '-' :: (c.named.name.toList ++ (c.value?.elim [] fun v => '=' :: v.toList)) := by
  rw [token]
  cases c.value? with
  | none => simp
  | some v => simp

theorem ofName?_colour (c : ColourChoice) : ColourChoice.ofName? c.name = some c := by
  cases c <;> decide

theorem ofName?_format (f : ReportFormat) : ReportFormat.ofName? f.name = some f := by
  cases f <;> decide

/-- A parameter is set to its value. -/
theorem setParameter_eq {c : Choice} {p : Parameter} {v : String} (hnamed : c.named = .parameter p)
    (hvalue : c.value? = some v) (h : c.IsWritable) (o : Options) :
    o.setParameter p v = .ok (c.apply o) := by
  cases c with
  | switch => cases hnamed
  | colour c =>
    cases hnamed
    cases hvalue
    have hne : c.name ≠ "" := by cases c <;> decide
    rw [Options.setParameter, if_neg hne, ofName?_colour]
    rfl
  | config path =>
    cases hnamed
    cases hvalue
    rw [Options.setParameter, if_neg h]
    rfl
  | maxLineLength n =>
    cases hnamed
    cases hvalue
    rw [Options.setParameter, Options.numberFor, parseNumber_repr h]
    rfl
  | maxMethodLength n =>
    cases hnamed
    cases hvalue
    rw [Options.setParameter, Options.numberFor, parseNumber_repr h]
    rfl
  | format f =>
    cases hnamed
    cases hvalue
    rw [Options.setParameter, ofName?_format]
    rfl
  | output path =>
    cases hnamed
    cases hvalue
    rw [Options.setParameter, if_neg h]
    rfl

/-- A switch sets what it stands for. -/
theorem setSwitch_eq {s : Switch} (h : (switch s).IsWritable) (o : Options) :
    o.setSwitch s = .ok (apply o (switch s)) := by
  cases s with
  | help => exact absurd rfl h.1
  | version => exact absurd rfl h.2
  | _ => rfl

end Choice

namespace Reading

/-- Records a choice whose argument may be given. -/
def choose (r : Reading) (c : Choice) : Reading where
  options := c.apply r.options
  given := r.given ++ [c.named]

theorem give_eq {r : Reading} {a : Named} (h : a ∈ r.given → a = .switch .verbose) :
    r.give a = .ok { r with given := r.given ++ [a] } := by
  rw [give, if_neg]
  rintro ⟨hmem, hne⟩
  exact hne (h (List.contains_iff_mem.1 hmem))

theorem settle_eq {r : Reading} (h : r.pending = .nothing) : r.settle = .ok r := by
  obtain ⟨options, given, pending⟩ := r
  subst h
  rfl

theorem turnOn_eq {r : Reading} {s : Switch} (hpending : r.pending = .nothing)
    (hwritable : (Choice.switch s).IsWritable)
    (hgiven : .switch s ∈ r.given → s = .verbose) :
    r.turnOn s = .ok (r.choose (.switch s)) := by
  have hinfo : ¬(s = .help ∨ s = .version) := not_or.2 hwritable
  have hgive : r.give (.switch s) = _ := give_eq fun h => congrArg Named.switch (hgiven h)
  have hset := Choice.setSwitch_eq hwritable r.options
  simp only [turnOn, settle_eq hpending, bind, Except.bind, if_neg hinfo, hgive, hset]
  rw [choose, hpending]
  rfl

theorem setTo_eq {r : Reading} {c : Choice} {p : Parameter} {v : String}
    (hpending : r.pending = .nothing) (hnamed : c.named = .parameter p) (hvalue : c.value? = some v)
    (hwritable : c.IsWritable) (hgiven : .parameter p ∉ r.given) :
    r.setTo p (some v) = .ok (r.choose c) := by
  have hgive : r.give (.parameter p) = _ := give_eq fun h => absurd h hgiven
  have hset := Choice.setParameter_eq hnamed hvalue hwritable r.options
  simp only [setTo, settle_eq hpending, bind, Except.bind, accept, hgive, hset]
  rw [choose, hpending, hnamed]
  rfl

/-- The long form of an argument leads to the argument and its value. -/
theorem long_eq (r : Reading) (a : Named) (value : Option String) :
    r.long (a.name.toList ++ value.elim [] fun v => '=' :: v.toList) =
      match a, value with
      | .parameter p, value => r.setTo p value
      | .switch s, none => r.turnOn s
      | .switch s, some v => .error (.unwantedValue v s.shown) := by
  have hname : ∀ c ∈ a.name.toList, (c != '=') = true := fun c hc => by
    have hne : c ≠ '=' := fun h => a.not_mem_name (h ▸ hc)
    simpa using hne
  rw [long, List.takeWhile_append_of_pos hname, List.dropWhile_append_of_pos hname]
  cases value with
  | none =>
    simp only [Option.elim, List.takeWhile_nil, List.dropWhile_nil, List.append_nil,
      String.ofList_toList, Named.ofName?_name]
    cases a <;> rfl
  | some v =>
    simp only [Option.elim, List.takeWhile_cons, List.dropWhile_cons, bne_self_eq_false,
      Bool.false_eq_true, if_false, List.append_nil, String.ofList_toList, Named.ofName?_name]
    cases a <;> rfl

/-- A choice is read from its long form. -/
theorem argument_token {r : Reading} {c : Choice} (hpending : r.pending = .nothing)
    (hwritable : c.IsWritable) (hgiven : c.named ∈ r.given → c.named = .switch .verbose) :
    r.argument c.token = .ok (r.choose c) := by
  rw [argument, c.toList_token]
  simp only [long_eq]
  cases c with
  | switch s => exact turnOn_eq hpending hwritable fun h => Named.switch.inj (hgiven h)
  | _ => exact setTo_eq hpending rfl rfl hwritable fun h => Named.noConfusion (hgiven h)

/-- No argument is given twice, except for more verbosity. -/
def Unrepeated (names : List Named) : Prop :=
  names.Pairwise fun a b => a = b → a = .switch .verbose

theorem token_ne (c : Choice) : c.token ≠ "--" := by
  intro h
  have hlist := c.toList_token.symm.trans (congrArg String.toList h)
  have hname : c.named.name.toList ≠ [] := by
    generalize c.named = a
    cases a with
    | switch s => cases s <;> decide
    | parameter p => cases p <;> decide
  have hdashes : "--".toList = ['-', '-'] := by decide
  simp [hdashes, hname] at hlist

/-- Choices are taken into account one after the other. -/
theorem arguments_choices (rest : List String) : ∀ (choices : List Choice) {r : Reading},
    r.pending = .nothing → (∀ c ∈ choices, c.IsWritable) →
    Unrepeated (r.given ++ choices.map Choice.named) →
      r.arguments (choices.map Choice.token ++ rest) = (choices.foldl choose r).arguments rest
  | [], _, _, _, _ => rfl
  | c :: choices, r, hpending, hwritable, hnames => by
    rw [List.forall_mem_cons] at hwritable
    have hgiven (h : c.named ∈ r.given) : c.named = .switch .verbose :=
      (List.pairwise_append.1 hnames).2.2 _ h _ (by simp) rfl
    rw [List.map_cons, List.cons_append, arguments, if_neg (token_ne c),
      argument_token hpending hwritable.1 hgiven]
    exact arguments_choices rest choices rfl hwritable.2 (by simpa [choose] using hnames)

theorem foldl_choose : ∀ (choices : List Choice) {r : Reading}, r.pending = .nothing →
    choices.foldl choose r = {
      options := choices.foldl Choice.apply r.options
      given := r.given ++ choices.map Choice.named }
  | [], r, hpending => by
    obtain ⟨options, given, pending⟩ := r
    subst hpending
    simp
  | c :: choices, r, hpending => by
    rw [List.foldl_cons, foldl_choose choices rfl]
    simp [choose]

/-! ## Reading files -/

theorem foldlM_file (files : List String) : ∀ {r : Reading} {done : List String},
    r.pending = .files done →
      files.foldlM file r = .ok { r with pending := .files (files.reverse ++ done) } := by
  induction files with
  | nil =>
    rintro ⟨options, given, _⟩ done rfl
    rfl
  | cons f files ih =>
    rintro ⟨options, given, _⟩ done rfl
    rw [List.foldlM_cons, file]
    simp only [bind, Except.bind]
    rw [ih rfl]
    simp

theorem foldlM_addFile : ∀ (files : List String) (o : Options), "" ∉ files →
    files.foldlM Options.addFile o = .ok { o with files := o.files ++ files }
  | [], o, _ => by simp [pure, Except.pure]
  | f :: files, o, h => by
    rw [List.mem_cons, not_or] at h
    rw [List.foldlM_cons, Options.addFile, if_neg (Ne.symm h.1)]
    simp only [bind, Except.bind]
    rw [foldlM_addFile files _ h.2]
    simp

/-- Files behind two dashes are files, whatever they look like. -/
theorem exists_settle_files {r : Reading} (hpending : r.pending = .nothing) {files : List String}
    (hfiles : "" ∉ files) : ∃ read, files.foldlM file r = .ok read ∧ read.settle
      = .ok { r with options := { r.options with files := r.options.files ++ files } } := by
  obtain ⟨options, given, _⟩ := r
  subst hpending
  cases files with
  | nil => exact ⟨_, rfl, by rw [settle_eq rfl, List.append_nil]⟩
  | cons f files =>
    have hfirst : file ⟨options, given, .nothing⟩ f = .ok ⟨options, given, .files [f]⟩ := rfl
    refine ⟨⟨options, given, .files (files.reverse ++ [f])⟩, ?_, ?_⟩
    · rw [List.foldlM_cons, hfirst]
      exact foldlM_file files rfl
    · have hreverse : (files.reverse ++ [f]).reverse = f :: files := by simp
      simp only [settle, hreverse, foldlM_addFile _ _ hfiles]
      rfl

end Reading

/-! ## Writing options -/

namespace Options

/-- Options that the command line can express: numbers fit their types, and no file name or path is
empty. -/
structure IsWritable (o : Options) : Prop where
  /-- The degrees of verbosity are numbers of 8 bits. -/
  verbosity_le : o.verbosity ≤ 255
  /-- Limits are numbers of 64 bits. -/
  maxLineLength_le : ∀ n ∈ o.maxLineLength, n ≤ maxNumber
  maxMethodLength_le : ∀ n ∈ o.maxMethodLength, n ≤ maxNumber
  files_ne : "" ∉ o.files
  settingsFile_ne : o.settingsFile ≠ some ""
  output_ne : o.output ≠ some ""

/-- A switch that is on. -/
def switchIf (b : Bool) (s : Switch) : List Choice := if b then [.switch s] else []

/-- The choices that make up options, each once, but one for each degree of verbosity. The two flags
tell whether a colour choice and a format are spelled out that are the defaults. -/
def choices (o : Options) (spellColour spellFormat : Bool) : List Choice :=
  List.replicate o.verbosity (.switch .verbose)
    ++ o.settingsFile.toList.map .config
    ++ o.maxLineLength.toList.map .maxLineLength
    ++ o.maxMethodLength.toList.map .maxMethodLength
    ++ o.output.toList.map .output
    ++ (if o.colour = .auto ∧ spellColour = false then [] else [.colour o.colour])
    ++ (if o.format = .text ∧ spellFormat = false then [] else [.format o.format])
    ++ switchIf o.quiet .quiet
    ++ switchIf o.noSettingsFile .noConfig
    ++ switchIf o.requireHeader .requireHeader
    ++ switchIf o.requireLog .requireLog
    ++ switchIf o.magicNumbers .magicNumbers
    ++ switchIf o.warnOnly .warnOnly

variable (o : Options) (spellColour spellFormat : Bool)

theorem foldl_verbose (n : Nat) (o : Options) (h : o.verbosity + n ≤ 255) :
    (List.replicate n (Choice.switch .verbose)).foldl Choice.apply o
      = { o with verbosity := o.verbosity + n } := by
  induction n generalizing o with
  | zero => rfl
  | succ n ih =>
    have hmin : min (o.verbosity + 1) 255 = o.verbosity + 1 := by omega
    rw [List.replicate_succ, List.foldl_cons, Choice.apply, hmin, ih _ (by simp only; omega)]
    simp only [Nat.add_assoc, Nat.add_comm 1 n]

/-- The choices make up the options. -/
theorem foldl_choices (h : o.verbosity ≤ 255) :
    (o.choices spellColour spellFormat).foldl Choice.apply {} = { o with files := [] } := by
  have hverbose := foldl_verbose o.verbosity {} (by simpa using h)
  have hconfig (o' : Options) : (o.settingsFile.toList.map Choice.config).foldl Choice.apply o'
      = { o' with settingsFile := o.settingsFile.or o'.settingsFile } := by
    cases o.settingsFile <;> rfl
  have hline (o' : Options) : (o.maxLineLength.toList.map .maxLineLength).foldl Choice.apply o'
      = { o' with maxLineLength := o.maxLineLength.or o'.maxLineLength } := by
    cases o.maxLineLength <;> rfl
  have hmethod (o' : Options) :
      (o.maxMethodLength.toList.map .maxMethodLength).foldl Choice.apply o'
        = { o' with maxMethodLength := o.maxMethodLength.or o'.maxMethodLength } := by
    cases o.maxMethodLength <;> rfl
  have houtput (o' : Options) : (o.output.toList.map Choice.output).foldl Choice.apply o'
      = { o' with output := o.output.or o'.output } := by
    cases o.output <;> rfl
  have hcolour (o' : Options) (ho' : o'.colour = .auto) :
      (if o.colour = .auto ∧ spellColour = false then [] else [.colour o.colour]).foldl
        Choice.apply o' = { o' with colour := o.colour } := by
    split
    · rw [‹o.colour = .auto ∧ _›.1, ← ho']
      rfl
    · rfl
  have hformat (o' : Options) (ho' : o'.format = .text) :
      (if o.format = .text ∧ spellFormat = false then [] else [.format o.format]).foldl
        Choice.apply o' = { o' with format := o.format } := by
    split
    · rw [‹o.format = .text ∧ _›.1, ← ho']
      rfl
    · rfl
  obtain ⟨files, verbosity, quiet, colour, settingsFile, noSettingsFile, maxLineLength,
    maxMethodLength, requireHeader, requireLog, magicNumbers, format, output, warnOnly⟩ := o
  simp only [choices, List.foldl_append, hverbose, hconfig, hline, hmethod, houtput, hcolour,
    hformat, Option.or_none, Nat.zero_add]
  cases quiet <;> cases noSettingsFile <;> cases requireHeader <;> cases requireLog <;>
    cases magicNumbers <;> cases warnOnly <;> rfl

/-- The arguments that choices can be made by, more verbosity apart. -/
def otherNames : List Named :=
  [.parameter .config, .parameter .maxLineLength, .parameter .maxMethodLength, .parameter .output,
    .parameter .colour, .parameter .format, .switch .quiet, .switch .noConfig,
    .switch .requireHeader, .switch .requireLog, .switch .magicNumbers, .switch .warnOnly]

theorem map_named_choices : ∃ names, names.Sublist otherNames ∧
    (o.choices spellColour spellFormat).map Choice.named
      = List.replicate o.verbosity (.switch .verbose) ++ names := by
  have hvalue {α : Type} (v : Option α) (make : α → Choice) (p : Parameter)
      (h : ∀ x, (make x).named = .parameter p) :
      ((v.toList.map make).map Choice.named).Sublist [.parameter p] := by
    cases v <;> simp [h]
  have hswitch (b : Bool) (s : Switch) :
      ((switchIf b s).map Choice.named).Sublist [.switch s] := by
    cases b <;> simp [switchIf, Choice.named]
  have hcolour : ((if o.colour = .auto ∧ spellColour = false then [] else
      [Choice.colour o.colour]).map Choice.named).Sublist [.parameter .colour] := by
    split <;> simp [Choice.named]
  have hformat : ((if o.format = .text ∧ spellFormat = false then [] else
      [Choice.format o.format]).map Choice.named).Sublist [.parameter .format] := by
    split <;> simp [Choice.named]
  refine ⟨_, ?_, by simp only [choices, List.map_append, List.map_replicate, List.append_assoc]; rfl⟩
  exact (hvalue o.settingsFile .config .config fun _ => rfl).append <|
    (hvalue o.maxLineLength .maxLineLength .maxLineLength fun _ => rfl).append <|
    (hvalue o.maxMethodLength .maxMethodLength .maxMethodLength fun _ => rfl).append <|
    (hvalue o.output .output .output fun _ => rfl).append <| hcolour.append <| hformat.append <|
    (hswitch o.quiet .quiet).append <| (hswitch o.noSettingsFile .noConfig).append <|
    (hswitch o.requireHeader .requireHeader).append <| (hswitch o.requireLog .requireLog).append <|
    (hswitch o.magicNumbers .magicNumbers).append (hswitch o.warnOnly .warnOnly)

/-- Choices that make up options repeat nothing. -/
theorem unrepeated_choices :
    Reading.Unrepeated ((o.choices spellColour spellFormat).map Choice.named) := by
  obtain ⟨names, hsub, hnames⟩ := o.map_named_choices spellColour spellFormat
  have hnodup : otherNames.Nodup := by decide
  rw [hnames, Reading.Unrepeated, List.pairwise_append]
  refine ⟨?_, ?_, ?_⟩
  · exact List.pairwise_replicate.2 (.inr fun _ => rfl)
  · exact (hnodup.sublist hsub).imp fun hne heq => absurd heq hne
  · intro a ha b _ _
    exact List.eq_of_mem_replicate ha

variable {o spellColour spellFormat}

theorem mem_switchIf {c : Choice} {b : Bool} {s : Switch} :
    c ∈ switchIf b s ↔ b = true ∧ c = .switch s := by
  cases b <;> simp [switchIf]

/-- The options hold what the choices say that make them up. -/
theorem agrees_of_mem_choices {c : Choice} (h : c ∈ o.choices spellColour spellFormat) :
    c.Agrees o := by
  simp only [choices, List.mem_append, List.mem_replicate, List.mem_map, Option.mem_toList,
    mem_switchIf, List.mem_ite_nil_left, List.mem_singleton] at h
  rcases h with (((((((((((⟨hv, rfl⟩ | ⟨_, hv, rfl⟩) | ⟨_, hv, rfl⟩) | ⟨_, hv, rfl⟩) |
    ⟨_, hv, rfl⟩) | ⟨_, rfl⟩) | ⟨_, rfl⟩) | ⟨hv, rfl⟩) | ⟨hv, rfl⟩) | ⟨hv, rfl⟩) | ⟨hv, rfl⟩) |
    ⟨hv, rfl⟩) | ⟨hv, rfl⟩
  · exact Nat.pos_of_ne_zero hv
  · exact hv
  · exact hv
  · exact hv
  · exact hv
  · rfl
  · rfl
  · exact hv
  · exact hv
  · exact hv
  · exact hv
  · exact hv
  · exact hv

theorem mem_named_config_iff : .parameter .config ∈ (o.choices spellColour spellFormat).map
    Choice.named ↔ o.settingsFile.isSome = true := by
  rw [Option.isSome_iff_exists]
  constructor
  · intro h
    obtain ⟨c, hc, hnamed⟩ := List.mem_map.1 h
    have hagrees := agrees_of_mem_choices hc
    cases c with
    | config path => exact ⟨path, hagrees⟩
    | _ => cases hnamed
  · rintro ⟨path, hpath⟩
    exact List.mem_map.2 ⟨.config path, by simp [choices, hpath], rfl⟩

theorem mem_named_noConfig_iff : .switch .noConfig ∈ (o.choices spellColour spellFormat).map
    Choice.named ↔ o.noSettingsFile = true := by
  constructor
  · intro h
    obtain ⟨c, hc, hnamed⟩ := List.mem_map.1 h
    have hagrees := agrees_of_mem_choices hc
    cases c with
    | switch s =>
      cases hnamed
      exact hagrees
    | _ => cases hnamed
  · intro h
    exact List.mem_map.2 ⟨.switch .noConfig, by simp [choices, switchIf, h], rfl⟩

end Options

namespace Reading

/-! ## Arguments that exclude each other -/

/-- The arguments that exclude each other. -/
def isExclusive (a : Named) : Bool := a = .parameter .config ∨ a = .switch .noConfig

theorem finish_of_settle {r settled : Reading} (h : r.settle = .ok settled) :
    r.finish = match settled.given.filter isExclusive with
      | first :: second :: _ => .error (.conflict first.shown second.shown)
      | _ => .ok settled.options := by
  rw [finish, h]
  rfl

theorem isExclusive_iff {a : Named} :
    isExclusive a = true ↔ a = .parameter .config ∨ a = .switch .noConfig := by
  simp [isExclusive]

/-- Two exclusive arguments are the settings file and the refusal of one. -/
theorem perm_of_filter_isExclusive {names rest : List Named} {first second : Named}
    (hnames : Unrepeated names) (h : names.filter isExclusive = first :: second :: rest) :
    [first, second].Perm [.parameter .config, .switch .noConfig] := by
  have hfirst : isExclusive first = true := (List.mem_filter.1 (h ▸ List.mem_cons_self)).2
  have hsecond : isExclusive second = true :=
    (List.mem_filter.1 (h ▸ List.mem_cons_of_mem _ List.mem_cons_self)).2
  have hne : first = second → first = .switch .verbose :=
    List.rel_of_pairwise_cons (h ▸ hnames.sublist List.filter_sublist) List.mem_cons_self
  rcases isExclusive_iff.1 hfirst with rfl | rfl <;> rcases isExclusive_iff.1 hsecond with rfl | rfl
  · cases hne rfl
  · exact .refl _
  · exact .swap ..
  · cases hne rfl

theorem finish_ok {r settled : Reading} (h : r.settle = .ok settled)
    (hnames : Unrepeated settled.given)
    (hone : ¬(.parameter .config ∈ settled.given ∧ .switch .noConfig ∈ settled.given)) :
    r.finish = .ok settled.options := by
  rw [finish_of_settle h]
  match hfilter : settled.given.filter isExclusive with
  | [] => rfl
  | [_] => rfl
  | first :: second :: rest =>
    have hperm := perm_of_filter_isExclusive hnames hfilter
    have hmem (a : Named) (ha : a ∈ [first, second]) : a ∈ settled.given := by
      have hboth : a ∈ first :: second :: rest := List.mem_append_left rest ha
      exact (List.mem_filter.1 (hfilter ▸ hboth)).1
    exact absurd ⟨hmem _ (hperm.mem_iff.2 (by simp)), hmem _ (hperm.mem_iff.2 (by simp))⟩ hone

theorem finish_conflict {r settled : Reading} (h : r.settle = .ok settled)
    (hnames : Unrepeated settled.given) (hconfig : .parameter .config ∈ settled.given)
    (hnoConfig : .switch .noConfig ∈ settled.given) :
    ∃ first second : Named, [first, second].Perm [.parameter .config, .switch .noConfig] ∧
      r.finish = .error (.conflict first.shown second.shown) := by
  have hmem {a : Named} (ha : a ∈ settled.given) (hexclusive : isExclusive a = true) :
      a ∈ settled.given.filter isExclusive := List.mem_filter.2 ⟨ha, hexclusive⟩
  have hconfig' := hmem hconfig rfl
  have hnoConfig' := hmem hnoConfig rfl
  rw [finish_of_settle h]
  match hfilter : settled.given.filter isExclusive with
  | [] => simp [hfilter] at hconfig'
  | [a] =>
    rw [hfilter] at hconfig' hnoConfig'
    cases (List.mem_singleton.1 hconfig').trans (List.mem_singleton.1 hnoConfig').symm
  | first :: second :: rest =>
    exact ⟨first, second, perm_of_filter_isExclusive hnames hfilter, rfl⟩

end Reading

namespace Options

variable {o : Options} {spellColour spellFormat : Bool} {choices : List Choice}

theorem isWritable_of_agrees (h : o.IsWritable) {c : Choice} (hc : c.Agrees o) :
    c.IsWritable := by
  cases c with
  | switch s =>
    cases s with
    | help => exact hc.elim
    | version => exact hc.elim
    | _ => exact ⟨nofun, nofun⟩
  | colour => trivial
  | config path => exact fun he => h.settingsFile_ne (he ▸ hc)
  | maxLineLength n => exact h.maxLineLength_le n hc
  | maxMethodLength n => exact h.maxMethodLength_le n hc
  | format => trivial
  | output path => exact fun he => h.output_ne (he ▸ hc)

/-- Choices are read in any order, and files behind them. -/
theorem exists_settled (h : o.IsWritable)
    (horder : choices.Perm (o.choices spellColour spellFormat)) :
    ∃ read : Reading, Reading.arguments {} (choices.map Choice.token ++ "--" :: o.files) = .ok read
      ∧ read.settle = .ok { options := o, given := choices.map Choice.named }
      ∧ Reading.Unrepeated (choices.map Choice.named) := by
  have hagrees : ∀ c ∈ choices, c.Agrees o := fun c hc =>
    agrees_of_mem_choices (horder.mem_iff.1 hc)
  have hnames : Reading.Unrepeated (choices.map Choice.named) :=
    ((horder.map Choice.named).pairwise_iff fun hab heq => heq ▸ hab heq.symm).2
      (o.unrepeated_choices spellColour spellFormat)
  have hoptions : choices.foldl Choice.apply {} = { o with files := [] } := by
    rw [horder.foldl_eq' fun c hc d hd =>
      Choice.apply_comm ((hagrees c hc).eq (hagrees d hd)), o.foldl_choices _ _ h.verbosity_le]
  obtain ⟨read, hread, hsettle⟩ := Reading.exists_settle_files
    (r := { options := { o with files := [] }, given := choices.map Choice.named }) rfl h.files_ne
  refine ⟨read, ?_, hsettle, hnames⟩
  rw [Reading.arguments_choices ("--" :: o.files) choices (r := {}) rfl
    (fun c hc => isWritable_of_agrees h (hagrees c hc)) hnames, Reading.foldl_choose choices rfl,
    hoptions, Reading.arguments, if_pos rfl]
  exact hread

/-- A command line that spells out options is read as these options, unless it asks both for a
settings file and for none, which is a conflict. -/
theorem parse_written (h : o.IsWritable)
    (horder : choices.Perm (o.choices spellColour spellFormat)) :
    (¬(o.settingsFile.isSome = true ∧ o.noSettingsFile = true) →
      parse (choices.map Choice.token ++ "--" :: o.files) = .ok o)
    ∧ (o.settingsFile.isSome = true → o.noSettingsFile = true →
      ∃ first second : Named, [first, second].Perm [.parameter .config, .switch .noConfig] ∧
        parse (choices.map Choice.token ++ "--" :: o.files)
          = .error (.conflict first.shown second.shown)) := by
  obtain ⟨read, hread, hsettle, hnames⟩ := exists_settled h horder
  have hparse : parse (choices.map Choice.token ++ "--" :: o.files) = read.finish := by
    rw [parse, hread]
    rfl
  have hmem (a : Named) : a ∈ choices.map Choice.named ↔
      a ∈ (o.choices spellColour spellFormat).map Choice.named := (horder.map _).mem_iff
  have hconfig := (hmem (.parameter .config)).trans mem_named_config_iff
  have hnoConfig := (hmem (.switch .noConfig)).trans mem_named_noConfig_iff
  rw [hparse]
  constructor
  · intro hone
    refine Reading.finish_ok hsettle hnames fun hboth => hone ?_
    exact ⟨hconfig.1 hboth.1, hnoConfig.1 hboth.2⟩
  · intro hfile hno
    exact Reading.finish_conflict hsettle hnames (hconfig.2 hfile) (hnoConfig.2 hno)

/-- Options with a path that looks like an option, and files that look like options. -/
def dashedOptions : Options where
  files := ["-v", "--"]
  verbosity := 2
  settingsFile := some "--a=b"
  maxLineLength := some maxNumber
  format := .json

theorem parse_written_dashed : dashedOptions.IsWritable ∧
    [.switch .verbose, .format .json, .maxLineLength maxNumber, .config "--a=b", .colour .auto,
      .switch .verbose].Perm (dashedOptions.choices true false) ∧
    parse ["--verbose", "--format=json", "--max-line-length=18446744073709551615",
      "--config=--a=b", "--color=auto", "--verbose", "--", "-v", "--"] = .ok dashedOptions ∧
    ∃ first second : Named, parse ["--no-config", "--config=x", "--"]
      = .error (.conflict first.shown second.shown) := by
  have hwritable : dashedOptions.IsWritable := by
    constructor <;> decide
  have horder : [.switch .verbose, .format .json, .maxLineLength maxNumber, .config "--a=b",
      .colour .auto, .switch .verbose].Perm (dashedOptions.choices true false) := by decide
  have hwritable' : IsWritable { settingsFile := some "x", noSettingsFile := true } := by
    constructor <;> decide
  have horder' : [.switch .noConfig, .config "x"].Perm
      (choices { settingsFile := some "x", noSettingsFile := true } false false) := by decide
  obtain ⟨first, second, -, hparse⟩ := (parse_written hwritable' horder').2 rfl rfl
  exact ⟨hwritable, horder, (parse_written hwritable horder).1 (by decide), first, second, hparse⟩

end Options

end HouseStyle
