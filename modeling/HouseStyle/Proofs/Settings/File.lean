import HouseStyle.Proofs.Scan.Markers
import HouseStyle.Proofs.Toml.Lines
import HouseStyle.Settings.File
import Mathlib

/-!
# Partial settings files

A settings file need not say everything. A document with one line for each of some distinct keys
makes the settings that have the given values and the defaults everywhere else, in whatever order
the lines stand (`Settings.ofDocument_written`). One line more, with a key that is unknown or that
has a line already, makes the whole document unreadable.
-/

namespace HouseStyle

open Toml

namespace SettingKey

/-- What a key can be set to. -/
abbrev Domain : SettingKey → Type
  | maxLineLength | maxMethodLength => Nat
  | requireHeader | requireLog | checkMagicNumbers => Bool
  | pattern _ => String

theorem ofName?_name (key : SettingKey) : ofName? key.name = some key := by
  cases key with
  | pattern m => cases m <;> rfl
  | _ => rfl

theorem name_injective : Function.Injective name := by
  intro key key' h
  have hname := ofName?_name key
  rw [h, ofName?_name] at hname
  exact (Option.some.inj hname).symm

theorem isBareKey_name (key : SettingKey) : Document.IsBareKey key.name := by
  have hall : (all.all fun key => key.name.toList.all isKeyChar) = true := by decide +kernel
  have hmem : key ∈ all := List.mem_of_find?_eq_some key.ofName?_name
  refine ⟨?_, List.all_eq_true.1 (List.all_eq_true.1 hall key hmem)⟩
  cases key with
  | pattern m => cases m <;> decide
  | _ => decide

end SettingKey

namespace Settings

/-! ## Settings by their keys -/

/-- What a key is set to. -/
def get (s : Settings) : (key : SettingKey) → key.Domain
  | .maxLineLength => s.maxLineLength
  | .maxMethodLength => s.maxMethodLength
  | .requireHeader => s.requireHeader
  | .requireLog => s.requireLog
  | .checkMagicNumbers => s.checkMagicNumbers
  | .pattern m => s.patternText m

/-- The settings with another value for a key. -/
def put (s : Settings) : (key : SettingKey) → key.Domain → Settings
  | .maxLineLength, n => { s with maxLineLength := n }
  | .maxMethodLength, n => { s with maxMethodLength := n }
  | .requireHeader, b => { s with requireHeader := b }
  | .requireLog, b => { s with requireLog := b }
  | .checkMagicNumbers, b => { s with checkMagicNumbers := b }
  | .pattern .header, text => { s with headerPattern := text }
  | .pattern .log, text => { s with logPattern := text }

theorem get_put (s : Settings) (key key' : SettingKey) (value : key.Domain) :
    (s.put key value).get key' = if h : key = key' then h ▸ value else s.get key' := by
  rcases key with _ | _ | _ | _ | _ | (_ | _) <;>
    rcases key' with _ | _ | _ | _ | _ | (_ | _) <;> rfl

theorem get_put_self (s : Settings) (key : SettingKey) (value : key.Domain) :
    (s.put key value).get key = value := by
  rw [get_put, dif_pos rfl]

theorem get_put_of_ne (s : Settings) {key key' : SettingKey} (value : key.Domain) (h : key' ≠ key) :
    (s.put key value).get key' = s.get key' := by
  rw [get_put, dif_neg h.symm]

/-- Settings are the same if they agree on every key. -/
theorem ext_get {s s' : Settings} (h : ∀ key, s.get key = s'.get key) : s = s' := by
  have hline : s.maxLineLength = s'.maxLineLength := h .maxLineLength
  have hmethod : s.maxMethodLength = s'.maxMethodLength := h .maxMethodLength
  have hheader : s.requireHeader = s'.requireHeader := h .requireHeader
  have hlog : s.requireLog = s'.requireLog := h .requireLog
  have hnumbers : s.checkMagicNumbers = s'.checkMagicNumbers := h .checkMagicNumbers
  have hheaderPattern : s.headerPattern = s'.headerPattern := h (.pattern .header)
  have hlogPattern : s.logPattern = s'.logPattern := h (.pattern .log)
  cases s
  cases s'
  simp_all

end Settings

/-! ## Lines of a settings file -/

/-- Whether a settings file can give a key a value: a number has to fit into 64 bits, and a text,
which is written between apostrophes, must hold neither an apostrophe nor a control character other
than the tab. -/
def SettingKey.IsWritable : (key : SettingKey) → key.Domain → Prop
  | .maxLineLength, n | .maxMethodLength, n => n < 2 ^ 64
  | .requireHeader, _ | .requireLog, _ | .checkMagicNumbers, _ => True
  | .pattern _, text => ∀ c ∈ text.toList, isAllowed c = true ∧ c ≠ '\''

instance : (key : SettingKey) → (value : key.Domain) → Decidable (key.IsWritable value)
  | .maxLineLength, n | .maxMethodLength, n => Nat.decLt n (2 ^ 64)
  | .requireHeader, _ | .requireLog, _ | .checkMagicNumbers, _ => instDecidableTrue
  | .pattern _, text => List.decidableBAll (fun c => isAllowed c = true ∧ c ≠ '\'') text.toList

/-- A key with the value that a settings file gives it. -/
structure Assignment where
  key : SettingKey
  value : key.Domain
  isWritable : key.IsWritable value

namespace Assignment

/-- How a value is written. -/
def written : (key : SettingKey) → key.Domain → String
  | .maxLineLength, n | .maxMethodLength, n => n.repr
  | .requireHeader, b | .requireLog, b | .checkMagicNumbers, b => toString b
  | .pattern _, text => "'" ++ text ++ "'"

/-- What a document holds for a value. -/
def toValue : (key : SettingKey) → key.Domain → Value
  | .maxLineLength, n | .maxMethodLength, n => .integer n
  | .requireHeader, b | .requireLog, b | .checkMagicNumbers, b => .boolean b
  | .pattern _, text => .string text

theorem readsAs_written (a : Assignment) :
    ReadsAs (written a.key a.value).toList (toValue a.key a.value) := by
  obtain ⟨key, value, hwritable⟩ := a
  cases key with
  | maxLineLength | maxMethodLength => exact readsAs_repr value
  | requireHeader | requireLog | checkMagicNumbers => exact readsAs_boolean value
  | pattern m => exact readsAs_literal hwritable

/-- The line of a settings file. -/
def toPlainLine (a : Assignment) : Document.PlainLine where
  key := a.key.name
  written := written a.key a.value
  value := toValue a.key a.value
  isBareKey := a.key.isBareKey_name
  readsAs := a.readsAs_written

/-- The line of a settings file, as it is written. -/
def line (a : Assignment) : String := Document.keyLine a.key.name (written a.key a.value)

theorem map_text (assignments : List Assignment) :
    (assignments.map toPlainLine).map Document.PlainLine.text = assignments.map line := by
  rw [List.map_map]
  rfl

theorem map_entry (assignments : List Assignment) :
    (assignments.map toPlainLine).map Document.PlainLine.entry
      = assignments.map fun a => a.toPlainLine.entry := by
  rw [List.map_map]
  rfl

theorem map_key (assignments : List Assignment) :
    (assignments.map toPlainLine).map Document.PlainLine.key
      = (assignments.map key).map SettingKey.name := by
  rw [List.map_map, List.map_map]
  rfl

/-- The line of an assignment is a document by itself. -/
theorem isSome_ofString?_line (a : Assignment) :
    '\n' ∉ (written a.key a.value).toList ∧ (Document.ofString? a.line).isSome = true := by
  have hline : Document.HasLines ([a.toPlainLine].map Document.PlainLine.text) a.line.toList :=
    .last a.line
  refine ⟨a.readsAs_written.isLine, ?_⟩
  rw [Document.ofString?_lines hline, if_pos (by simp)]
  rfl

/-- Keys are distinct if and only if their names are. -/
theorem nodup_map_key {assignments : List Assignment} :
    ((assignments.map toPlainLine).map Document.PlainLine.key).Nodup
      ↔ (assignments.map key).Nodup := by
  rw [map_key, List.nodup_map_iff SettingKey.name_injective]

end Assignment

namespace Settings

theorem limitOf_natCast {n : Nat} (h : n < 2 ^ 64) : limitOf (.integer n) = .ok n := by
  have hmax : (n : Int) ≤ maxUnsigned64 := by
    rw [maxUnsigned64]
    omega
  rw [limitOf, if_pos ⟨Int.natCast_nonneg n, hmax⟩]
  rfl

/-- An entry of a settings file sets its key. -/
theorem set_toValue (s : Settings) (a : Assignment) :
    s.set a.key (Assignment.toValue a.key a.value) = .ok (s.put a.key a.value) := by
  obtain ⟨key, value, hwritable⟩ := a
  cases key with
  | maxLineLength | maxMethodLength =>
    simp only [set, Assignment.toValue, limitOf_natCast hwritable]
    rfl
  | requireHeader | requireLog | checkMagicNumbers => rfl
  | pattern m => cases m <;> rfl

/-- The settings with several other values. -/
def putAll (s : Settings) (assignments : List Assignment) : Settings :=
  assignments.foldl (fun s a => s.put a.key a.value) s

theorem get_putAll_of_not_mem {key : SettingKey} :
    ∀ {assignments : List Assignment} (s : Settings), key ∉ assignments.map Assignment.key →
      (s.putAll assignments).get key = s.get key
  | [], _, _ => rfl
  | a :: assignments, s, h => by
    rw [List.map_cons, List.mem_cons, not_or] at h
    have ih := get_putAll_of_not_mem (s.put a.key a.value) h.2
    rwa [get_put_of_ne s a.value h.1] at ih

/-- Every assignment with a key of its own holds in the end. -/
theorem get_putAll_of_mem {a : Assignment} :
    ∀ {assignments : List Assignment} (s : Settings), (assignments.map Assignment.key).Nodup →
      a ∈ assignments → (s.putAll assignments).get a.key = a.value
  | b :: assignments, s, hkeys, ha => by
    rw [List.map_cons, List.nodup_cons] at hkeys
    rcases List.mem_cons.1 ha with rfl | ha
    · have h := get_putAll_of_not_mem (s.put a.key a.value) hkeys.1
      rwa [get_put_self] at h
    · exact get_putAll_of_mem (s.put b.key b.value) hkeys.2 ha

/-- The order of assignments with distinct keys makes no difference. -/
theorem putAll_perm {s : Settings} {assignments order : List Assignment}
    (hkeys : (assignments.map Assignment.key).Nodup) (hperm : order.Perm assignments) :
    s.putAll order = s.putAll assignments := by
  have horder : (order.map Assignment.key).Nodup := (hperm.map _).nodup_iff.2 hkeys
  refine ext_get fun key => ?_
  by_cases hmem : key ∈ assignments.map Assignment.key
  · obtain ⟨a, ha, rfl⟩ := List.mem_map.1 hmem
    rw [get_putAll_of_mem s horder (hperm.mem_iff.2 ha), get_putAll_of_mem s hkeys ha]
  · have hmem' : key ∉ order.map Assignment.key := fun h => hmem ((hperm.map _).mem_iff.1 h)
    rw [get_putAll_of_not_mem s hmem', get_putAll_of_not_mem s hmem]

/-! ## Entries -/

theorem foldlM_addEntry : ∀ (assignments : List Assignment) (s : Settings),
    (assignments.map fun a => a.toPlainLine.entry).foldlM addEntry s = .ok (s.putAll assignments)
  | [], _ => rfl
  | a :: assignments, s => by
    have hadd : s.addEntry a.toPlainLine.entry = .ok (s.put a.key a.value) := by
      have hname : SettingKey.ofName? a.toPlainLine.entry.1 = some a.key := a.key.ofName?_name
      rw [addEntry, hname]
      exact set_toValue s a
    rw [List.map_cons, List.foldlM_cons, hadd]
    exact foldlM_addEntry assignments _

/-- Only the names of keys may stand in a settings file. -/
theorem exists_key_of_foldlM_addEntry : ∀ {entries : Entries} {s s' : Settings},
    entries.foldlM addEntry s = .ok s' → ∀ name ∈ entries.keys, ∃ key : SettingKey, key.name = name
  | (name, value) :: entries, s, s', h, name', hmem => by
    rw [List.foldlM_cons] at h
    obtain ⟨s₁, hadd, h⟩ := bind_eq_ok.1 h
    rcases List.mem_cons.1 hmem with rfl | hmem
    · rw [addEntry] at hadd
      split at hadd
      · rename_i key hname
        exact ⟨key, by simpa using List.find?_some hname⟩
      · cases hadd
    · exact exists_key_of_foldlM_addEntry h name' hmem

/-- The entries of a document are visited in alphabetical order of their keys. -/
theorem ofEntries_assignments {assignments : List Assignment}
    (hkeys : (assignments.map Assignment.key).Nodup) :
    ofEntries (assignments.map fun a => a.toPlainLine.entry)
      = .ok (({} : Settings).putAll assignments) := by
  have hsort := List.map_mergeSort (l := assignments) (f := fun a => a.toPlainLine.entry)
    (r := fun a b => !(b.key.name < a.key.name)) (s := fun a b => !(b.1 < a.1)) fun _ _ _ _ => rfl
  rw [ofEntries, ← hsort, foldlM_addEntry, putAll_perm hkeys (List.mergeSort_perm ..)]

theorem exists_key_of_ofEntries {entries : Entries} {s : Settings} (h : ofEntries entries = .ok s)
    {name : String} (hname : name ∈ entries.keys) : ∃ key : SettingKey, key.name = name :=
  exists_key_of_foldlM_addEntry h name
    ((List.Perm.map _ (List.mergeSort_perm ..)).mem_iff.2 hname)

/-! ## Documents -/

theorem ofString_eq_error {text : String} {problem : SettingsProblem}
    (h : ofDocument text = .error problem) : ofString text = .error (.badSettingsFile problem) := by
  rw [ofString, h]
  rfl

theorem ofDocument_assignments {assignments : List Assignment} {text : String}
    (hkeys : (assignments.map Assignment.key).Nodup)
    (htext : Document.HasLines (assignments.map Assignment.line) text.toList) :
    ofDocument text = .ok (({} : Settings).putAll assignments) := by
  rw [← Assignment.map_text] at htext
  rw [ofDocument, Document.ofString?_lines htext, if_pos (Assignment.nodup_map_key.2 hkeys),
    Assignment.map_entry]
  exact congrArg (Except.mapError _) (ofEntries_assignments hkeys)

/-- Whether one more line spoils the lines of some assignments: its key is unknown, or has a line
already. If that line stands below, the new one has to be a document by itself, since otherwise its
value could take in the lines that follow. -/
def Spoils (above below : List Assignment) (key value : String) : Prop :=
  (∀ k : SettingKey, k.name ≠ key)
  ∨ key ∈ (above.map Assignment.key).map SettingKey.name
  ∨ key ∈ (below.map Assignment.key).map SettingKey.name ∧ '\n' ∉ value.toList
    ∧ (Document.ofString? (Document.keyLine key value)).isSome = true

theorem ofDocument_of_spoils {above below : List Assignment} {key value text : String}
    (hkeys : ((above ++ below).map Assignment.key).Nodup) (hkey : Document.IsBareKey key)
    (hspoils : Spoils above below key value)
    (htext : Document.HasLines (above.map Assignment.line
      ++ Document.keyLine key value :: below.map Assignment.line) text.toList) :
    ∃ problem, ofDocument text = .error problem := by
  have habove : ((above.map Assignment.toPlainLine).map Document.PlainLine.key).Nodup := by
    rw [List.map_append] at hkeys
    exact Assignment.nodup_map_key.2 (List.nodup_append.1 hkeys).1
  have hbelow : ∀ line ∈ below.map Assignment.line, Document.IsKeyLine line := by
    intro line hmem
    obtain ⟨a, -, rfl⟩ := List.mem_map.1 hmem
    exact a.toPlainLine.isKeyLine_text
  rw [ofDocument]
  cases hread : Document.ofString? text with
  | none => exact ⟨_, rfl⟩
  | some entries =>
    rw [← Assignment.map_text above] at htext
    obtain ⟨hnew, hmem⟩ := Document.key_of_ofString? hkey habove hbelow htext hread
    rcases hspoils with hunknown | hset | ⟨hset, hline, hdocument⟩
    · cases hentries : ofEntries entries with
      | error flaw => exact ⟨⟨text, flaw⟩, congrArg (Except.mapError _) hentries⟩
      | ok s =>
        obtain ⟨k, hk⟩ := exists_key_of_ofEntries hentries hmem
        exact absurd hk (hunknown k)
    · rw [Assignment.map_key] at hnew
      exact absurd hset hnew
    · -- the new line is plain, so all lines are, and two of them have the same key
      obtain ⟨line, rfl, hplain⟩ := Document.exists_plainLine hkey hline hdocument
      have htext : Document.HasLines
          ((above.map Assignment.toPlainLine ++ line :: below.map Assignment.toPlainLine).map
            Document.PlainLine.text) text.toList := by
        rwa [List.map_append, List.map_cons, Assignment.map_text below, hplain]
      have hall := Document.ofString?_lines htext
      rw [hread] at hall
      split at hall
      · rename_i hnodup
        rw [List.map_append, List.map_cons] at hnodup
        have hbelow := (List.nodup_cons.1 (List.nodup_append.1 hnodup).2.1).1
        rw [Assignment.map_key] at hbelow
        exact absurd hset hbelow
      · cases hall

/-- A settings file with one line for each of some distinct keys makes the settings with these
values, and with the defaults for the other keys, in whatever order the lines stand. With one line
more, anywhere among them, whose key is unknown or has a line already, nothing can be read. -/
theorem ofDocument_written {assignments : List Assignment}
    (hkeys : (assignments.map Assignment.key).Nodup) :
    (∃ s : Settings, (∀ a ∈ assignments, s.get a.key = a.value)
      ∧ (∀ key, key ∉ assignments.map Assignment.key → s.get key = ({} : Settings).get key)
      ∧ ∀ order : List Assignment, order.Perm assignments → ∀ text : String,
        Document.HasLines (order.map Assignment.line) text.toList → ofDocument text = .ok s)
    ∧ ∀ above below : List Assignment, (above ++ below).Perm assignments →
      ∀ key value : String, Document.IsBareKey key → Spoils above below key value →
        ∀ text : String, Document.HasLines (above.map Assignment.line
          ++ Document.keyLine key value :: below.map Assignment.line) text.toList →
          ∃ problem, ofDocument text = .error problem
            ∧ ofString text = .error (.badSettingsFile problem) := by
  constructor
  · refine ⟨({} : Settings).putAll assignments, fun a ha => get_putAll_of_mem {} hkeys ha,
      fun key hkey => get_putAll_of_not_mem {} hkey, fun order horder text htext => ?_⟩
    have hnodup : (order.map Assignment.key).Nodup := (horder.map _).nodup_iff.2 hkeys
    rw [ofDocument_assignments hnodup htext, putAll_perm hkeys horder]
  · intro above below hperm key value hkey hspoils text htext
    have hnodup : ((above ++ below).map Assignment.key).Nodup := (hperm.map _).nodup_iff.2 hkeys
    obtain ⟨problem, hproblem⟩ := ofDocument_of_spoils hnodup hkey hspoils htext
    exact ⟨problem, hproblem, ofString_eq_error hproblem⟩

/-- The greatest limit there is. -/
def greatestLimit : Assignment := ⟨.maxMethodLength, 18446744073709551615, by decide⟩

/-- A pattern that holds quotes and what would start a remark elsewhere. -/
def quotedPattern : Assignment := ⟨.pattern .header, "^# \"v1\"", by decide⟩

/-- A switch that is turned on. -/
def turnedOn : Assignment := ⟨.checkMagicNumbers, true, by decide⟩

/-- Three lines in another order, the same lines with a list that is not closed among them, and the
same lines below another pattern. -/
theorem ofDocument_written_three :
    ([greatestLimit, quotedPattern, turnedOn].map Assignment.key).Nodup
    ∧ (∃ s : Settings, s.maxMethodLength = 18446744073709551615 ∧ s.headerPattern = "^# \"v1\""
      ∧ s.checkMagicNumbers = true ∧ s.maxLineLength = 120
      ∧ ofDocument ("check_magic_numbers = true\nmax_method_length = 18446744073709551615\n"
          ++ "header_pattern = '^# \"v1\"'\n") = .ok s)
    ∧ (∃ problem, ofString ("check_magic_numbers = true\nwrap = [\n"
        ++ "max_method_length = 18446744073709551615\nheader_pattern = '^# \"v1\"'")
          = .error (.badSettingsFile problem))
    ∧ ∃ problem, ofString ("header_pattern = ''\ncheck_magic_numbers = true\n"
        ++ "max_method_length = 18446744073709551615\nheader_pattern = '^# \"v1\"'")
          = .error (.badSettingsFile problem) := by
  have hkeys : ([greatestLimit, quotedPattern, turnedOn].map Assignment.key).Nodup := by decide
  have hperm : ([turnedOn] ++ [greatestLimit, quotedPattern]).Perm
      ([greatestLimit, quotedPattern] ++ [turnedOn]) := List.perm_append_comm
  have hchars : "wrap".toList.all isKeyChar = true := by decide
  have hbare : Document.IsBareKey "wrap" := ⟨by decide, List.all_eq_true.1 hchars⟩
  have hunknown : ∀ key : SettingKey, key.name ≠ "wrap" := by
    intro key
    rcases key with _ | _ | _ | _ | _ | (_ | _) <;> decide
  have hpattern : Spoils [] [turnedOn, greatestLimit, quotedPattern] "header_pattern" "''" :=
    .inr (.inr ⟨by decide, Assignment.isSome_ofString?_line ⟨.pattern .header, "", by decide⟩⟩)
  obtain ⟨⟨s, hvalues, hdefaults, hread⟩, hspoiled⟩ := ofDocument_written hkeys
  refine ⟨hkeys, ⟨s, hvalues greatestLimit (by simp), hvalues quotedPattern (by simp),
    hvalues turnedOn (by simp), hdefaults .maxLineLength (by decide), hread _ hperm _ ?_⟩,
    (hspoiled [turnedOn] _ hperm "wrap" "[" hbare (.inl hunknown) _ ?_).imp fun _ h => h.2,
    (hspoiled [] _ hperm "header_pattern" "''" (SettingKey.isBareKey_name (.pattern .header))
      hpattern _ ?_).imp fun _ h => h.2⟩
  · refine Eq.subst ?_
      (.more turnedOn.line (.more greatestLimit.line (.more quotedPattern.line .none)))
    cbv
  · refine Eq.subst ?_ (.more turnedOn.line (.more (Document.keyLine "wrap" "[")
      (.more greatestLimit.line (.last quotedPattern.line))))
    cbv
  · refine Eq.subst ?_ (.more (Document.keyLine "header_pattern" "''")
      (.more turnedOn.line (.more greatestLimit.line (.last quotedPattern.line))))
    cbv

end Settings

end HouseStyle
