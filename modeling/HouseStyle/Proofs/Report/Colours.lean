import HouseStyle.Command.Options
import HouseStyle.Proofs.Report.Wording
import HouseStyle.Report.Diagnostic
import Mathlib

/-!
# Colours only decorate

A control sequence can be found again in a text: it starts with an escape character. `erase` takes
all of them out. A report in colours is put together from painted pieces, while each line of a
message has two wordings that have to agree. Part by part the coloured text decorates the plain one
(`Decorates`), so taking the control sequences out of a coloured report or message gives the plain
one, as long as nothing in it brings an escape character of its own (`erased_colours`).
-/

namespace HouseStyle

/-! ## Taking out control sequences -/

namespace Style

/-- The character that starts a control sequence. -/
def escape : Char := '\x1b'

/-- What follows the control sequence at the start of a text: an escape character, a bracket, some
digits and the letter `m`. -/
def afterControl? : List Char → Option (List Char)
  | '\x1b' :: '[' :: d :: rest =>
    if d.isDigit then
      match rest.dropWhile Char.isDigit with
      | 'm' :: rest => some rest
      | _ => none
    else none
  | _ => none

theorem length_lt_of_afterControl? {text rest : List Char} (h : afterControl? text = some rest) :
    rest.length < text.length := by
  unfold afterControl? at h
  split at h
  next d digits =>
    split at h
    · split at h
      next next hdrop =>
        have hle := (List.dropWhile_suffix (l := digits) Char.isDigit).length_le
        rw [hdrop, Option.some.inj h, List.length_cons] at hle
        simp only [List.length_cons]
        omega
      next => cases h
    · cases h
  next => cases h

/-- The characters of a text that belong to no control sequence. -/
def erase : List Char → List Char
  | [] => []
  | c :: rest =>
    match h : afterControl? (c :: rest) with
    | some next =>
      have := Nat.le_of_lt_succ (length_lt_of_afterControl? h)
      erase next
    | none => c :: erase rest
termination_by text => text.length

/-- A text without its control sequences. -/
def erased (s : String) : String := String.ofList (erase s.toList)

theorem erase_nil : erase [] = [] := by
  rw [erase]

theorem erase_cons_of_ne {c : Char} (h : c ≠ escape) (rest : List Char) :
    erase (c :: rest) = c :: erase rest := by
  have hnone : afterControl? (c :: rest) = none := by
    unfold afterControl?
    split
    next heq => exact absurd (List.cons.inj heq).1 h
    next => rfl
  rw [erase]
  split
  next heq => rw [hnone] at heq; cases heq
  next => rfl

/-- A text without escape characters stays as it is. -/
theorem erase_append {s : List Char} (h : escape ∉ s) (rest : List Char) :
    erase (s ++ rest) = s ++ erase rest := by
  induction s with
  | nil => rfl
  | cons c s ih =>
    obtain ⟨hc, hs⟩ := not_or.1 (mt List.mem_cons.2 h)
    rw [List.cons_append, erase_cons_of_ne (Ne.symm hc), ih hs, List.cons_append]

theorem erase_control (d : Char) (digits : List Char) (hd : d.isDigit = true)
    (hdigits : ∀ c ∈ digits, c.isDigit = true) (rest : List Char) :
    erase ((control (String.ofList (d :: digits))).toList ++ rest) = erase rest := by
  have htext : (control (String.ofList (d :: digits))).toList ++ rest =
      '\x1b' :: '[' :: d :: (digits ++ 'm' :: rest) := by
    simp [control]
  have hdrop : (digits ++ 'm' :: rest).dropWhile Char.isDigit = 'm' :: rest := by
    rw [List.dropWhile_append_of_pos hdigits]
    rfl
  have hafter : afterControl? ('\x1b' :: '[' :: d :: (digits ++ 'm' :: rest)) = some rest := by
    simp only [afterControl?, hd, if_true, hdrop]
  rw [htext, erase]
  split
  next heq => exact congrArg erase (Option.some.inj (heq.symm.trans hafter))
  next heq => rw [hafter] at heq; cases heq

theorem erase_reset (rest : List Char) : erase (reset.toList ++ rest) = erase rest :=
  erase_control '0' [] (by decide) (by simp) rest

theorem erase_start (style : Style) (rest : List Char) :
    erase (style.start.toList ++ rest) = erase rest := by
  have hone (rest : List Char) : erase ((control "1").toList ++ rest) = erase rest :=
    erase_control '1' [] (by decide) (by simp) rest
  have htwo (rest : List Char) : erase ((control "2").toList ++ rest) = erase rest :=
    erase_control '2' [] (by decide) (by simp) rest
  have hcolour {d : Char} (hd : d.isDigit = true) (rest : List Char) :
      erase ((control (String.ofList ['3', d])).toList ++ rest) = erase rest :=
    erase_control '3' [d] (by decide) (by simpa using hd) rest
  cases style with
  | red => exact hcolour (d := '1') (by decide) rest
  | yellow => exact hcolour (d := '3') (by decide) rest
  | cyan => exact hcolour (d := '6') (by decide) rest
  | bold => exact hone rest
  | dim => exact htwo rest

/-! ## Texts that differ in their colours alone -/

/-- Without its control sequences the first text reads like the second, whatever follows. -/
def Decorates (coloured plain : String) : Prop :=
  ∀ rest, erase (coloured.toList ++ rest) = plain.toList ++ erase rest

section

variable {s t s' t' : String}

theorem Decorates.erased_eq (h : Decorates s t) : erased s = t := by
  have herase : erase s.toList = t.toList := by simpa [erase_nil] using h []
  rw [erased, herase, String.ofList_toList]

theorem Decorates.append (h : Decorates s t) (h' : Decorates s' t') :
    Decorates (s ++ s') (t ++ t') := by
  intro rest
  rw [String.toList_append, List.append_assoc, h, h', String.toList_append, List.append_assoc]

theorem decorates_self (h : Lacks escape s) : Decorates s s :=
  erase_append h

theorem decorates_start (style : Style) : Decorates style.start "" :=
  erase_start style

theorem decorates_reset : Decorates reset "" :=
  erase_reset

/-- A text that goes on in the same colour. -/
theorem Decorates.text {u : String} (h : Decorates s t) (hu : Lacks escape u) :
    Decorates (s ++ u) (t ++ u) :=
  h.append (decorates_self hu)

theorem Decorates.start (h : Decorates s t) (style : Style) : Decorates (s ++ style.start) t := by
  have hstart := h.append (decorates_start style)
  rwa [String.append_empty] at hstart

theorem Decorates.reset (h : Decorates s t) : Decorates (s ++ Style.reset) t := by
  have hreset := h.append decorates_reset
  rwa [String.append_empty] at hreset

theorem decorates_paint (style : Style) (colours : Bool) (h : Lacks escape s) :
    Decorates (style.paint colours s) (style.paint false s) := by
  cases colours with
  | false => exact decorates_self h
  | true =>
    have hpainted := ((decorates_start style).text h).reset
    rwa [String.empty_append] at hpainted

/-- The coloured wording of something, or the plain one, decorates the plain one. -/
theorem decorates_ite (colours : Bool) (ht : Lacks escape t) (h : Decorates s t) :
    Decorates (if colours then s else t) (if false then s else t) := by
  cases colours with
  | false => exact decorates_self ht
  | true => exact h

theorem decorates_elim {α : Type} {f g : α → String} {o : Option α}
    (h : ∀ a ∈ o, Decorates (f a) (g a)) : Decorates (o.elim "" f) (o.elim "" g) := by
  cases o with
  | none => exact decorates_self (s := "") (by decide)
  | some a => exact h a rfl

theorem Decorates.line (h : Decorates s t) : Decorates (TextReport.line s) (TextReport.line t) :=
  h.append (decorates_self (by decide))

end

end Style

open Style

variable (colours : Bool)

/-! ## Messages -/

/-- The texts that a message is made of. -/
def Diagnostic.strings : Diagnostic → List String
  | error label message cause suggestion =>
    label :: message :: (cause.toList ++ suggestion.toList)
  | warning message | note message => [message]

namespace Diagnostic

variable {label message s : String}

theorem decorates_headline (hlabel : Lacks escape label) (hmessage : Lacks escape message) :
    Decorates (headline colours label message) (headline false label message) := by
  have hplain : Lacks escape ("✖ " ++ label ++ ": " ++ message ++ "\n") :=
    ((((Lacks.append (by decide) hlabel).append (by decide)).append hmessage).append (by decide))
  have hpieces : "✖ " ++ label ++ ": " = "" ++ "✖ " ++ label ++ ":" ++ " " := by
    simp [← String.toList_inj]
  have hlead := ((((decorates_start bold).start red).text (u := "✖ ") (by decide)).text hlabel).text
    (u := ":") (by decide)
  refine decorates_ite colours hplain ?_
  rw [hpieces]
  exact ((hlead.reset.text (by decide)).text hmessage).text (by decide)

theorem decorates_causeLine (h : Lacks escape s) :
    Decorates (causeLine colours s) (causeLine false s) := by
  have hplain : Lacks escape ("  × " ++ s ++ "\n") :=
    (Lacks.append (by decide) h).append (by decide)
  have hpieces : "  × " = "  " ++ "× " := by decide
  have hindent : Decorates "  " "  " := decorates_self (by decide)
  refine decorates_ite colours hplain ?_
  rw [hpieces]
  exact (((hindent.start dim).text (by decide)).text h).reset.text (by decide)

theorem decorates_suggestionLine (h : Lacks escape s) :
    Decorates (suggestionLine colours s) (suggestionLine false s) := by
  have hplain : Lacks escape ("  help: " ++ s ++ "\n") :=
    (Lacks.append (by decide) h).append (by decide)
  have hpieces : "  help: " = "  " ++ "help:" ++ " " := by decide
  have hindent : Decorates "  " "  " := decorates_self (by decide)
  refine decorates_ite colours hplain ?_
  rw [hpieces]
  exact ((((hindent.start cyan).text (by decide)).reset.text (by decide)).text h).text (by decide)

theorem decorates_warningLine (h : Lacks escape message) :
    Decorates (warningLine colours message) (warningLine false message) := by
  have hplain : Lacks escape ("⚠ Warning: " ++ message ++ "\n") :=
    (Lacks.append (by decide) h).append (by decide)
  have hpieces : "⚠ Warning: " = "" ++ "⚠ Warning:" ++ " " := by decide
  have hlead := ((decorates_start bold).start yellow).text (u := "⚠ Warning:") (by decide)
  refine decorates_ite colours hplain ?_
  rw [hpieces]
  exact ((hlead.reset.text (by decide)).text h).text (by decide)

theorem decorates_noteLine (h : Lacks escape message) :
    Decorates (noteLine colours message) (noteLine false message) := by
  have hplain : Lacks escape ("· " ++ message ++ "\n") :=
    (Lacks.append (by decide) h).append (by decide)
  have hpieces : "· " = "" ++ "· " := by decide
  refine decorates_ite colours hplain ?_
  rw [hpieces]
  exact (((decorates_start dim).text (by decide)).text h).reset.text (by decide)

theorem decorates_render {d : Diagnostic} (h : ∀ s ∈ d.strings, Lacks escape s) :
    Decorates (d.render colours) (d.render false) := by
  cases d with
  | error label message cause suggestion =>
    have hhead := decorates_headline colours (h label (by simp [strings]))
      (h message (by simp [strings]))
    refine (hhead.append (decorates_elim fun c hc => ?_)).append (decorates_elim fun s hs => ?_)
    · exact decorates_causeLine colours (h c (by simp_all [strings]))
    · exact decorates_suggestionLine colours (h s (by simp_all [strings]))
  | warning message => exact decorates_warningLine colours (h message (by simp [strings]))
  | note message => exact decorates_noteLine colours (h message (by simp [strings]))

end Diagnostic

/-! ## Reports -/

/-- The texts in a violation that come from the file. -/
def Violation.strings (v : Violation) : List String := v.text.toList ++ v.method.toList

/-- The texts in a report on a file that come from elsewhere. -/
def FileReport.strings (r : FileReport) : List String :=
  r.path :: r.violations.flatMap Violation.strings

namespace TextReport

theorem lacks_escape_toString (n : Nat) : Lacks escape (toString n) :=
  lacks_toString (by decide) n

theorem decorates_block {v : Violation} (h : ∀ s ∈ v.strings, Lacks escape s) :
    Decorates (block colours v) (block false v) := by
  have hheading : Lacks escape ("COMMANDMENT " ++ toString v.rule.commandment) :=
    Lacks.append (by decide) (lacks_escape_toString _)
  have hdescription : Lacks escape (" : " ++ v.description) :=
    Lacks.append (by decide) (v.lacks_description (by decide))
  have hfirst := ((decorates_paint red colours hheading).append (decorates_self hdescription)).line
  have hlast := (decorates_paint yellow colours (s := "You will be punished.") (by decide)).line
  rw [← String.append_assoc, ← String.append_assoc] at hfirst
  refine (((hfirst.append (decorates_elim fun name hname => ?_)).append
    (decorates_elim fun n _ => ?_)).append (decorates_elim fun text htext => ?_)).append hlast
  · have hlacks := h name (List.mem_append_right _
      (Option.mem_toList.2 (Option.ite_none_right_eq_some.1 hname).2))
    exact (decorates_self ((Lacks.append (by decide) hlacks).append (by decide))).line
  · exact (decorates_self (Lacks.append (by decide) (lacks_escape_toString n))).line
  · have hlacks := h text (List.mem_append_left _
      (Option.mem_toList.2 (Option.ite_none_right_eq_some.1 htext).2))
    exact (decorates_self (Lacks.append (by decide) hlacks)).line

theorem decorates_separator : Decorates (line separator) (line separator) :=
  (decorates_self (lacks_separator (by decide))).line

theorem decorates_blocks : ∀ {vs : List Violation},
    (∀ v ∈ vs, ∀ s ∈ v.strings, Lacks escape s) →
      Decorates (blocks colours vs) (blocks false vs)
  | [], _ => decorates_self (s := "") (by decide)
  | [v], h => decorates_block colours (h v List.mem_cons_self)
  | v :: w :: vs, h => by
    obtain ⟨hv, hvs⟩ := List.forall_mem_cons.1 h
    exact ((decorates_block colours hv).append decorates_separator).append (decorates_blocks hvs)

theorem decorates_body (named : Bool) (verbosity : Nat) : ∀ (later : Bool)
    {reports : List FileReport}, (∀ r ∈ reports, ∀ s ∈ r.strings, Lacks escape s) →
    Decorates (body colours named verbosity later reports)
      (body false named verbosity later reports)
  | later, [], _ => by
    cases later with
    | false => exact decorates_self (s := "") (by decide)
    | true => exact decorates_self (s := "\n") (by decide)
  | later, r :: rest, h => by
    obtain ⟨hr, hrest⟩ := List.forall_mem_cons.1 h
    obtain ⟨hpath, hviolations⟩ := List.forall_mem_cons.1 hr
    have hblocks : Decorates (blocks colours r.violations) (blocks false r.violations) :=
      decorates_blocks colours fun v hv s hs => hviolations s (List.mem_flatMap.2 ⟨v, hv, hs⟩)
    have hclean : Lacks escape ("✓ " ++ r.path ++ ": no violations") :=
      (Lacks.append (by decide) hpath).append (by decide)
    have hname : Lacks escape ("==> " ++ r.path ++ " <==") :=
      (Lacks.append (by decide) hpath).append (by decide)
    have hnothing : Decorates "" "" := decorates_self (by decide)
    rw [body, body]
    split
    · refine Decorates.append ?_ (decorates_body named verbosity later hrest)
      split
      · exact (decorates_self hclean).line
      · exact hnothing
    · refine ((Decorates.append ?_ ?_).append hblocks).append
        (decorates_body named verbosity true hrest)
      · split
        · exact decorates_separator
        · exact hnothing
      · split
        · exact (decorates_self hname).line
        · exact hnothing

theorem decorates_summary (reports : List FileReport) :
    Decorates (summary colours reports) (summary false reports) := by
  have hplural (n : Nat) (word : String) (h : Lacks escape word) : Lacks escape (plural n word) :=
    lacks_plural (by decide) n h
  have hchecked : Lacks escape ("Summary: " ++ toString reports.length ++ " "
      ++ plural reports.length "file" ++ " checked, ") :=
    (((Lacks.append (by decide) (lacks_escape_toString _)).append (by decide)).append
      (hplural _ "file" (by decide))).append (by decide)
  have hbreakdown : Lacks escape (breakdown (tallyOf reports)) := lacks_breakdown (by decide) _
  simp only [summary]
  split
  · exact (decorates_self hchecked).append (decorates_self (by decide))
  · have htotal := (decorates_self hchecked).append
      (decorates_paint red colours (lacks_escape_toString (tallyOf reports).total))
    exact ((((htotal.append (decorates_self (by decide))).append
      (decorates_self (hplural _ "violation" (by decide)))).append
      (decorates_self (by decide))).append (decorates_self hbreakdown)).append
      (decorates_self (by decide))

theorem decorates_render (verbosity : Nat) {reports : List FileReport}
    (h : ∀ r ∈ reports, ∀ s ∈ r.strings, Lacks escape s) :
    Decorates (render colours verbosity reports) (render false verbosity reports) :=
  (decorates_body colours _ verbosity false h).append (decorates_summary colours reports).line

end TextReport

/-! ## With colours and without -/

/-- Where no escape character is brought in from elsewhere, a report that is always coloured reads
like one that never is once its control sequences are taken out, and so does a message. -/
theorem erased_colours (onTerminal : Bool) :
    (∀ (verbosity : Nat) (reports : List FileReport),
      (∀ r ∈ reports, ∀ s ∈ r.strings, Lacks escape s) →
      erased (TextReport.render (ColourChoice.always.isOn onTerminal) verbosity reports) =
        TextReport.render (ColourChoice.never.isOn onTerminal) verbosity reports) ∧
    ∀ d : Diagnostic, (∀ s ∈ d.strings, Lacks escape s) →
      erased (d.render (ColourChoice.always.isOn onTerminal)) =
        d.render (ColourChoice.never.isOn onTerminal) :=
  ⟨fun verbosity _ h => (TextReport.decorates_render true verbosity h).erased_eq,
    fun _ h => (Diagnostic.decorates_render true h).erased_eq⟩

/-- A file whose path, line and method read like control sequences but for the escape character. -/
def lookalikes : List FileReport :=
  [⟨"[31m", 2, [.onLine .tabIndent 1 "\t[0m", .methodTooLong "m[1m" 2 60 50]⟩]

theorem erased_colours_lookalikes :
    (∀ r ∈ lookalikes, ∀ s ∈ r.strings, Lacks escape s) ∧
    erased (TextReport.render (ColourChoice.always.isOn false) 1 lookalikes) =
      TextReport.render (ColourChoice.never.isOn false) 1 lookalikes ∧
    (∀ s ∈ (Diagnostic.error "Config" "[31m" (some "1m") none).strings, Lacks escape s) ∧
    erased ((Diagnostic.error "Config" "[31m" (some "1m") none).render
      (ColourChoice.always.isOn true)) = "✖ Config: [31m\n  × 1m\n" := by
  have hreports : ∀ r ∈ lookalikes, ∀ s ∈ r.strings, Lacks escape s := by decide
  have hmessage : ∀ s ∈ (Diagnostic.error "Config" "[31m" (some "1m") none).strings,
      Lacks escape s := by
    decide
  refine ⟨hreports, (erased_colours false).1 1 lookalikes hreports, hmessage, ?_⟩
  rw [(erased_colours true).2 _ hmessage]
  rfl

end HouseStyle
