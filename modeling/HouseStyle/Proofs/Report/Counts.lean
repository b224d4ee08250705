import HouseStyle.Proofs.Report.Colours
import HouseStyle.Proofs.Report.Lossless
import Mathlib

/-!
# Counting what was found

A tally names the commandments that were broken in the order of their first violations
(`pairwise_idxOf_eraseDups`), each with the number of its violations (`Tally.mem_ofViolations_iff`),
so that all of these numbers together count the violations of all files. That is the number that
both summaries show: the one for people as their fifth word (`shownTotal_summary`), the one for
programs in a field.
-/

namespace HouseStyle

open Text

/-- The number of violations in all files. -/
def violationCount (reports : List FileReport) : Nat :=
  (reports.map fun r => r.violations.length).sum

theorem violationCount_eq (reports : List FileReport) :
    violationCount reports = (allViolations reports).length := by
  rw [violationCount, allViolations, List.length_flatMap]

theorem violationCount_eq_zero_iff (reports : List FileReport) :
    violationCount reports = 0 ↔ ∀ r ∈ reports, r.isClean = true := by
  rw [violationCount, List.sum_eq_zero_iff, List.forall_mem_map]
  simp [FileReport.isClean]

/-! ## The tally -/

/-- Without its repetitions a list has its entries in the order in which they first occur. -/
theorem pairwise_idxOf_eraseDups (l : List Nat) :
    l.eraseDups.Pairwise fun a b => l.idxOf a < l.idxOf b := by
  induction l using List.reverseRecOn with
  | nil => exact .nil
  | append_singleton l c ih =>
    have hl : l.eraseDups.Pairwise fun a b => (l ++ [c]).idxOf a < (l ++ [c]).idxOf b := by
      refine ih.imp_of_mem fun {a b} ha hb h => ?_
      rwa [List.idxOf_append_of_mem (List.mem_eraseDups.1 ha),
        List.idxOf_append_of_mem (List.mem_eraseDups.1 hb)]
    rw [eraseDups_concat]
    split
    · exact hl
    next hc =>
      refine List.pairwise_append.2 ⟨hl, List.pairwise_singleton _ _, fun a ha b hb => ?_⟩
      have ha := List.mem_eraseDups.1 ha
      rw [List.mem_singleton.1 hb, List.idxOf_append_of_mem ha, List.idxOf_append_of_notMem hc]
      exact Nat.lt_add_right _ (List.idxOf_lt_length_of_mem ha)

namespace Tally

theorem count_commandmentsOf (vs : List Violation) (c : Nat) :
    (commandmentsOf vs).count c = vs.countP fun v => v.rule.commandment = c := by
  rw [commandmentsOf, List.count, List.countP_map]
  exact List.countP_congr fun v _ => by simp

/-- The entries of a tally are the commandments that were broken, with the numbers of their
violations. -/
theorem mem_ofViolations_iff {vs : List Violation} {c n : Nat} :
    (c, n) ∈ ofViolations vs ↔ 1 ≤ n ∧ n = vs.countP fun v => v.rule.commandment = c := by
  rw [ofViolations_eq, List.mem_map, ← count_commandmentsOf]
  constructor
  · rintro ⟨k, hk, heq⟩
    obtain ⟨rfl, rfl⟩ := Prod.mk.inj heq
    exact ⟨List.count_pos_iff.2 (List.mem_eraseDups.1 hk), rfl⟩
  · rintro ⟨hn, rfl⟩
    exact ⟨c, List.mem_eraseDups.2 (List.count_pos_iff.1 hn), rfl⟩

theorem map_fst_ofViolations (vs : List Violation) :
    (ofViolations vs).map Prod.fst = (commandmentsOf vs).eraseDups := by
  rw [ofViolations_eq, List.map_map]
  exact List.map_id _

theorem sum_map_snd (tally : Tally) : (tally.map Prod.snd).sum = tally.total := by
  induction tally with
  | nil => rfl
  | cons entry rest ih =>
    rw [List.map_cons, List.sum_cons, ih]
    rfl

end Tally

/-! ## The summaries -/

namespace TextReport

/-- The number of violations that the last line of a report shows: its fifth word, unless it says
that there are none. -/
def shownTotal (summary : String) : Nat :=
  Nat.ofDigitChars 10 (((split ' ' summary.toList).getD 4 []).takeWhile Char.isDigit) 0

/-- Words that are followed by separators are the first pieces of a text. -/
theorem split_flatMap {sep : Char} {words : List (List Char)} (h : ∀ word ∈ words, sep ∉ word)
    (rest : List Char) :
    split sep (words.flatMap (· ++ [sep]) ++ rest) = words ++ split sep rest := by
  induction words with
  | nil => rfl
  | cons word words ih =>
    obtain ⟨hword, hwords⟩ := List.forall_mem_cons.1 h
    have htext : (word :: words).flatMap (· ++ [sep]) ++ rest =
        word ++ sep :: (words.flatMap (· ++ [sep]) ++ rest) := by
      simp
    rw [htext, split_append_cons hword, ih hwords, List.cons_append]

theorem takeWhile_isDigit_toString (n : Nat) :
    (toString n).toList.takeWhile Char.isDigit = (toString n).toList := by
  refine List.takeWhile_eq_self_iff.2 fun c hc => ?_
  exact Nat.isDigit_of_mem_toDigits (b := 10) (n := n) (by decide) (by decide) (by simpa using hc)

/-- The words of a summary in front of the number of violations. -/
def leadWords (files : Nat) : List (List Char) :=
  ["Summary:".toList, (toString files).toList, (plural files "file").toList, "checked,".toList]

theorem not_mem_of_mem_leadWords (files : Nat) : ∀ word ∈ leadWords files, ' ' ∉ word := by
  have hnumber : ' ' ∉ (toString files).toList := lacks_toString (by decide) files
  have hplural : ' ' ∉ (plural files "file").toList := by
    rw [plural]
    split <;> decide
  simp only [leadWords, List.forall_mem_cons]
  exact ⟨by decide, hnumber, hplural, by decide, by simp⟩

/-- The fifth word of a summary is the one behind these. -/
theorem shownTotal_eq {summary : String} {files : Nat} {next rest : List Char} (h : ' ' ∉ next)
    (htext : summary.toList = (leadWords files).flatMap (· ++ [' ']) ++ (next ++ ' ' :: rest)) :
    shownTotal summary = Nat.ofDigitChars 10 (next.takeWhile Char.isDigit) 0 := by
  have hfifth : (split ' ' summary.toList).getD 4 [] = next := by
    rw [htext, split_flatMap (not_mem_of_mem_leadWords files), split_append_cons h]
    rfl
  rw [shownTotal, hfifth]

/-- The last line of a report shows the number of violations, with colours or without. -/
theorem shownTotal_summary (colours : Bool) (reports : List FileReport) :
    shownTotal (Style.erased (summary colours reports)) = violationCount reports := by
  have htotal : (tallyOf reports).total = violationCount reports := by
    rw [violationCount_eq]
    exact Tally.total_ofViolations _
  rw [(decorates_summary colours reports).erased_eq]
  by_cases h : violationCount reports = 0
  · have htext : (summary false reports).toList =
        (leadWords reports.length).flatMap (· ++ [' ']) ++
          ("no".toList ++ ' ' :: "violations".toList) := by
      simp [summary, leadWords, htotal, h]
    rw [shownTotal_eq (by decide) htext, h]
    rfl
  · have htext : (summary false reports).toList =
        (leadWords reports.length).flatMap (· ++ [' ']) ++
          ((toString (violationCount reports)).toList ++ ' ' ::
            (plural (violationCount reports) "violation" ++ " (" ++ breakdown (tallyOf reports)
              ++ ")").toList) := by
      simp [summary, leadWords, htotal, h, Style.paint]
    rw [shownTotal_eq (lacks_toString (by decide) _) htext, takeWhile_isDigit_toString,
      Nat.toString_eq_repr, Nat.toList_repr]
    exact Nat.ofDigitChars_toDigits (by decide) (by decide)

end TextReport

namespace Json

/-- The value of a field of an object. -/
def Value.field? (key : String) : Value → Option Value
  | .object fields => fields.lookup key
  | _ => none

end Json

/-- The summary in the report for programs has the number of violations in a field. -/
theorem JsonReport.field?_valueOf (reports : List FileReport) :
    ((valueOf reports).field? "summary").bind (Json.Value.field? "violations") =
      some (.number (violationCount reports)) := by
  rw [violationCount_eq]
  rfl

/-! ## All counts -/

/-- A tally names each commandment that was broken once, in the order in which they were first
broken, with the number of its violations, and no other. These numbers add up to the number of
violations in all files, which both summaries show; it is zero if and only if all files are
clean. -/
theorem tallyOf_counts (reports : List FileReport) :
    ((tallyOf reports).map Prod.fst).Nodup ∧
    (((tallyOf reports).map Prod.fst).Pairwise fun c d =>
      (commandmentsOf (allViolations reports)).idxOf c <
        (commandmentsOf (allViolations reports)).idxOf d) ∧
    (∀ c n, (c, n) ∈ tallyOf reports ↔
      1 ≤ n ∧ n = (allViolations reports).countP fun v => v.rule.commandment = c) ∧
    ((tallyOf reports).map Prod.snd).sum = violationCount reports ∧
    (∀ colours, TextReport.shownTotal (Style.erased (TextReport.summary colours reports)) =
      violationCount reports) ∧
    (∃ v, Json.Document (JsonReport.render reports).toList v ∧
      (v.field? "summary").bind (Json.Value.field? "violations") =
        some (.number (violationCount reports))) ∧
    (violationCount reports = 0 ↔ ∀ r ∈ reports, r.isClean = true) := by
  have hkeys : (tallyOf reports).map Prod.fst =
      (commandmentsOf (allViolations reports)).eraseDups :=
    Tally.map_fst_ofViolations _
  have hsum : ((tallyOf reports).map Prod.snd).sum = violationCount reports := by
    rw [Tally.sum_map_snd, violationCount_eq]
    exact Tally.total_ofViolations _
  have hdocument : Json.Document (JsonReport.render reports).toList
      (JsonReport.valueOf reports) := by
    rw [JsonReport.render, Json.document_render_iff, JsonReport.toValue_document]
  refine ⟨?_, ?_, fun c n => Tally.mem_ofViolations_iff, hsum,
    fun colours => TextReport.shownTotal_summary colours reports,
    ⟨_, hdocument, JsonReport.field?_valueOf reports⟩, violationCount_eq_zero_iff reports⟩
  · rw [hkeys]
    exact nodup_eraseDups _
  · rw [hkeys]
    exact pairwise_idxOf_eraseDups _

end HouseStyle
