import HouseStyle.Proofs.Toml.Plain

/-!
# Documents of plain lines

The lines of many documents are a key without quotes, an equals sign and a value that ends on the
same line. Such a document is well-formed if and only if its keys are distinct, and then its entries
are those of its lines in their order (`Document.ofString?_lines`). A line whose value is not known
adds its key or makes the document malformed (`Document.key_of_ofString?`): nothing that follows
takes a key away again.
-/

namespace HouseStyle.Toml

namespace Entries

/-! ## Keys that stay -/

/-- The keys of a table. -/
def keys (entries : Entries) : List String := entries.map Prod.fst

@[simp] theorem keys_append (entries entries' : Entries) :
    keys (entries ++ entries') = keys entries ++ keys entries' := List.map_append

theorem lookup_eq_none_iff {entries : Entries} {key : String} :
    entries.lookup key = none ↔ key ∉ entries.keys := by
  rw [List.lookup_eq_none_iff, keys, List.mem_map]
  constructor
  · rintro h ⟨entry, hmem, rfl⟩
    simpa using h entry hmem
  · intro h entry hmem
    simpa using fun heq : key = entry.1 => h ⟨entry, hmem, heq.symm⟩

theorem keys_subset_put (key : String) (value : Value) :
    ∀ entries : Entries, entries.keys ⊆ (put key value entries).keys
  | [] => List.nil_subset _
  | (k, v) :: rest => by
    rw [put]
    split
    · subst k
      exact List.Subset.refl _
    · exact List.cons_subset_cons k (keys_subset_put key value rest)

/-- A change of a table that takes no key away. -/
def KeepsKeys (f : Entries → Option Entries) : Prop :=
  ∀ ⦃entries entries' : Entries⦄, f entries = some entries' → entries.keys ⊆ entries'.keys

theorem keepsKeys_assign? (key : String) (value : Value) (path : List String) :
    KeepsKeys (assign? key value path) := by
  intro entries entries' h
  rw [assign?.eq_def] at h
  split at h
  · split at h
    · cases h
    · rw [← Option.some.inj h, keys_append]
      exact List.subset_append_left ..
  · split at h
    · obtain ⟨e, -, rfl⟩ := Option.map_eq_some_iff.1 h
      rw [keys_append]
      exact List.subset_append_left ..
    · split at h
      · obtain ⟨e, -, rfl⟩ := Option.map_eq_some_iff.1 h
        exact keys_subset_put ..
      · cases h
    · split at h
      · cases h
      · obtain ⟨es, -, rfl⟩ := Option.map_eq_some_iff.1 h
        exact keys_subset_put ..
    · cases h

theorem keepsKeys_within? {f : Entries → Option Entries} (hf : KeepsKeys f) (path : List String) :
    KeepsKeys (within? f path) := by
  intro entries entries' h
  rw [within?.eq_def] at h
  split at h
  · exact hf h
  · split at h
    · obtain ⟨e, -, rfl⟩ := Option.map_eq_some_iff.1 h
      rw [keys_append]
      exact List.subset_append_left ..
    · split at h
      · cases h
      · obtain ⟨e, -, rfl⟩ := Option.map_eq_some_iff.1 h
        exact keys_subset_put ..
    · obtain ⟨es, -, rfl⟩ := Option.map_eq_some_iff.1 h
      exact keys_subset_put ..
    · cases h

theorem keepsKeys_openTable? (key : String) : KeepsKeys (openTable? key) := by
  intro entries entries' h
  rw [openTable?] at h
  split at h
  · rw [← Option.some.inj h, keys_append]
    exact List.subset_append_left ..
  · rw [← Option.some.inj h]
    exact keys_subset_put ..
  · cases h

theorem keepsKeys_openElement? (key : String) : KeepsKeys (openElement? key) := by
  intro entries entries' h
  rw [openElement?] at h
  split at h
  · rw [← Option.some.inj h, keys_append]
    exact List.subset_append_left ..
  · rw [← Option.some.inj h]
    exact keys_subset_put ..
  · cases h

end Entries

namespace Document

open Entries

theorem keys_subset_of_header? {d d' : Document} {text rest : List Char}
    (h : d.header? text = some (d', rest)) : d.entries.keys ⊆ d'.entries.keys := by
  by_cases helement : text.head? = some '['
  · obtain ⟨text, rfl⟩ := List.head?_eq_some_iff.1 helement
    simp only [header?, if_true] at h
    obtain ⟨⟨key, rest⟩, -, h⟩ := Option.bind_eq_some_iff.1 h
    obtain ⟨rest, -, h⟩ := Option.bind_eq_some_iff.1 h
    obtain ⟨rest, -, h⟩ := Option.bind_eq_some_iff.1 h
    obtain ⟨entries, hentries, h⟩ := Option.bind_eq_some_iff.1 h
    obtain ⟨rfl, rfl⟩ := Prod.mk.inj (Option.some.inj h)
    exact keepsKeys_within? (keepsKeys_openElement? _) _ hentries
  · rw [header?] at h
    · obtain ⟨⟨key, rest⟩, -, h⟩ := Option.bind_eq_some_iff.1 h
      obtain ⟨rest, -, h⟩ := Option.bind_eq_some_iff.1 h
      obtain ⟨entries, hentries, h⟩ := Option.bind_eq_some_iff.1 h
      obtain ⟨rfl, rfl⟩ := Prod.mk.inj (Option.some.inj h)
      exact keepsKeys_within? (keepsKeys_openTable? _) _ hentries
    · rintro rest rfl
      exact helement rfl

theorem keys_subset_of_entry? {d d' : Document} {text rest : List Char}
    (h : d.entry? text = some (d', rest)) : d.entries.keys ⊆ d'.entries.keys := by
  rw [ entry?] at h
  obtain ⟨⟨key, rest⟩, -, h⟩ := Option.bind_eq_some_iff.1 h
  obtain ⟨rest, -, h⟩ := Option.bind_eq_some_iff.1 h
  obtain ⟨⟨value, rest⟩, -, h⟩ := Option.bind_eq_some_iff.1 h
  obtain ⟨entries, hentries, h⟩ := Option.bind_eq_some_iff.1 h
  obtain ⟨rfl, rfl⟩ := Prod.mk.inj (Option.some.inj h)
  exact keepsKeys_within? (keepsKeys_assign? ..) _ hentries

/-- Whatever a line says, it takes no key away. -/
theorem keys_subset_of_statement? {d d' : Document} {text rest : List Char}
    (h : d.statement? text = some (d', rest)) : d.entries.keys ⊆ d'.entries.keys := by
  rw [statement?.eq_def] at h
  split at h
  · obtain ⟨rfl, -⟩ := Prod.mk.inj (Option.some.inj h)
    exact List.Subset.refl _
  · split at h
    · exact keys_subset_of_header? h
    split at h
    · obtain ⟨rfl, -⟩ := Prod.mk.inj (Option.some.inj h)
      exact List.Subset.refl _
    · exact keys_subset_of_entry? h

theorem keys_subset_of_readLines? :
    ∀ {fuel : Nat} {d : Document} {text : List Char} {entries : Entries},
      d.readLines? fuel text = some entries → d.entries.keys ⊆ entries.keys
  | 0, _, _, _, h => by cases h
  | fuel + 1, d, text, entries, h => by
    rw [readLines?] at h
    obtain ⟨⟨d', rest⟩, hstatement, h⟩ := Option.bind_eq_some_iff.1 h
    obtain ⟨rest, -, h⟩ := Option.bind_eq_some_iff.1 h
    have hkeys := keys_subset_of_statement? hstatement
    split at h
    · exact Option.some.inj h ▸ hkeys
    · exact List.Subset.trans hkeys (keys_subset_of_readLines? h)

/-! ## A line with a key -/

/-- A key that needs no quotes. -/
structure IsBareKey (key : String) : Prop where
  ne_nil : key.toList ≠ []
  isKeyChar : ∀ c ∈ key.toList, isKeyChar c = true

theorem isSpace_of_isKeyChar {c : Char} (hc : isKeyChar c = true) : isSpace c = false := by
  refine Bool.eq_false_iff.2 fun hspace => ?_
  obtain rfl | rfl : c = ' ' ∨ c = '\t' := by simpa [isSpace] using hspace
  · exact absurd hc (by decide)
  · exact absurd hc (by decide)

/-- The line that gives a key a value. -/
def keyLine (key value : String) : String := key ++ " = " ++ value

theorem toList_keyLine (key value : String) :
    (keyLine key value).toList = key.toList ++ ' ' :: '=' :: ' ' :: value.toList := by
  simp [keyLine]

section KeyLine

variable {key : String} (hkey : IsBareKey key) (more : List Char)

include hkey

theorem readKey?_bare :
    readKey? (key.toList ++ ' ' :: '=' :: ' ' :: more) = some (⟨[], key⟩, '=' :: ' ' :: more) := by
  obtain ⟨c, cs, hcs⟩ := List.exists_cons_of_ne_nil hkey.ne_nil
  have hc : isKeyChar c = true := hkey.isKeyChar c (by rw [hcs]; exact .head _)
  have hskip : skipSpace (key.toList ++ ' ' :: '=' :: ' ' :: more)
      = key.toList ++ ' ' :: '=' :: ' ' :: more := by
    rw [hcs]
    simp [skipSpace, isSpace_of_isKeyChar hc]
  have hquote {quote : Char} (hq : isKeyChar quote = false) :
      (key.toList ++ ' ' :: '=' :: ' ' :: more).head? ≠ some quote := by
    rw [hcs]
    rintro heq
    rw [Option.some.inj heq, hq] at hc
    cases hc
  have hblank : isKeyChar ' ' = false := by decide
  have htake : (key.toList ++ ' ' :: '=' :: ' ' :: more).takeWhile isKeyChar = key.toList := by
    rw [List.takeWhile_append_of_pos hkey.isKeyChar]
    simp [hblank]
  have hdrop : (key.toList ++ ' ' :: '=' :: ' ' :: more).dropWhile isKeyChar
      = ' ' :: '=' :: ' ' :: more := by
    rw [List.dropWhile_append_of_pos hkey.isKeyChar]
    simp [hblank]
  have hpart : readKeyPart? (skipSpace (key.toList ++ ' ' :: '=' :: ' ' :: more))
      = some (key, ' ' :: '=' :: ' ' :: more) := by
    rw [hskip, readKeyPart?_bare (hquote (by decide)) (hquote (by decide)), htake, hdrop,
      if_neg hkey.ne_nil, String.ofList_toList]
  rw [readKey?, maxParts, readParts?_last hpart (by simp [skipSpace, isSpace])]
  rfl

theorem entry?_bare {d : Document} (hd : d.current = []) :
    d.entry? (key.toList ++ ' ' :: '=' :: ' ' :: more)
      = (readValue? maxDepth (more.length + 2) (skipSpace more)).bind fun (value, rest) =>
        if key ∈ d.entries.keys then none
        else some ({ d with entries := d.entries ++ [(key, value)] }, rest) := by
  have hskip : skipSpace (' ' :: more) = skipSpace more := rfl
  have hassign (value : Value) : d.entries.within? (assign? key value []) d.current
      = if key ∈ d.entries.keys then none else some (d.entries ++ [(key, value)]) := by
    rw [hd, within?, assign?]
    by_cases hmem : key ∈ d.entries.keys
    · rw [if_pos hmem, if_pos]
      exact Option.isSome_iff_ne_none.2 fun hnone => lookup_eq_none_iff.1 hnone hmem
    · rw [if_neg hmem, if_neg]
      simp [lookup_eq_none_iff.2 hmem]
  rw [ entry?, readKey?_bare hkey]
  simp only [Option.bind_eq_bind, Option.bind_some, expect?, if_true, hskip, List.length_cons,
    hassign]
  congr 1
  funext x
  split <;> rfl

theorem readLines?_bare {d : Document} {fuel : Nat} :
    d.readLines? (fuel + 1) (key.toList ++ ' ' :: '=' :: ' ' :: more)
      = (d.entry? (key.toList ++ ' ' :: '=' :: ' ' :: more)).bind fun (d, rest) =>
        (lineEnd? rest).bind fun rest =>
          if rest = [] then some d.entries else d.readLines? fuel rest := by
  obtain ⟨c, cs, hcs⟩ := List.exists_cons_of_ne_nil hkey.ne_nil
  have hc : isKeyChar c = true := hkey.isKeyChar c (by rw [hcs]; exact .head _)
  have hother {d : Char} (hd : isKeyChar d = false) : c ≠ d := by
    rintro rfl
    rw [hd] at hc
    cases hc
  have hskip (text : List Char) : skipSpace (c :: text) = c :: text := by
    simp [skipSpace, isSpace_of_isKeyChar hc]
  rw [readLines?, hcs, List.cons_append, hskip, statement?, if_neg (hother (by decide)), if_neg]
  · rfl
  · rintro (h | h | h)
    · exact hother (by decide) h
    · exact hother (by decide) h
    · exact hother (by decide) h

end KeyLine

/-! ## Lines -/

/-- A text is made of some lines. The last one need not end in a newline. -/
inductive HasLines : List String → List Char → Prop where
  | none : HasLines [] []
  /-- The text ends with its last line. -/
  | last (line : String) : HasLines [line] line.toList
  /-- A line is followed by a newline. -/
  | more (line : String) {lines : List String} {text : List Char} (h : HasLines lines text) :
    HasLines (line :: lines) (line.toList ++ '\n' :: text)

/-- A line with a key without quotes and a value that ends on the line. -/
structure PlainLine where
  key : String
  /-- What is written behind the equals sign. -/
  written : String
  /-- The value that this stands for. -/
  value : Value
  isBareKey : IsBareKey key
  readsAs : ReadsAs written.toList value

namespace PlainLine

/-- A line as it stands in a document. -/
def text (line : PlainLine) : String := keyLine line.key line.written

theorem not_mem_text (line : PlainLine) : '\n' ∉ line.text.toList := by
  have hkey : '\n' ∉ line.key.toList := fun hmem =>
    absurd (line.isBareKey.isKeyChar _ hmem) (by decide)
  simp [text, toList_keyLine, hkey, line.readsAs.isLine]

/-- What a line adds to a document. -/
def entry (line : PlainLine) : String × Value := (line.key, line.value)

end PlainLine

section Step

variable {d : Document} {fuel : Nat} (hd : d.current = [])

include hd

/-- A key that is there cannot get another value, whatever stands behind its equals sign. -/
theorem entry?_of_mem {key : String} (hkey : IsBareKey key) (hmem : key ∈ d.entries.keys)
    (more : List Char) : d.entry? (key.toList ++ ' ' :: '=' :: ' ' :: more) = none := by
  rw [entry?_bare hkey more hd, Option.bind_eq_none_iff]
  intro x _
  exact if_pos hmem

variable (line : PlainLine)

theorem entry?_text (hnew : line.key ∉ d.entries.keys) : ∃ rest, lineEnd? rest = some []
    ∧ d.entry? line.text.toList = some ({ d with entries := d.entries ++ [line.entry] }, rest) := by
  obtain ⟨rest, hread, hend⟩ := line.readsAs.read
  refine ⟨rest, hend, ?_⟩
  rw [PlainLine.text, toList_keyLine, entry?_bare line.isBareKey _ hd, hread, Option.bind_some]
  exact if_neg hnew

/-- A plain line at the end of a document. -/
theorem readLines?_last : d.readLines? (fuel + 1) line.text.toList
    = if line.key ∈ d.entries.keys then none else some (d.entries ++ [line.entry]) := by
  split
  · rw [PlainLine.text, toList_keyLine, readLines?_bare line.isBareKey,
      entry?_of_mem hd line.isBareKey ‹_›, Option.bind_none]
  · obtain ⟨rest, hend, hentry⟩ := entry?_text hd line ‹_›
    rw [PlainLine.text, toList_keyLine] at hentry ⊢
    rw [readLines?_bare line.isBareKey, hentry, Option.bind_some]
    simp only [hend, Option.bind_some, if_true]

/-- A plain line in front of others. -/
theorem readLines?_more (tail : List Char) :
    d.readLines? (fuel + 2) (line.text.toList ++ '\n' :: tail)
      = if line.key ∈ d.entries.keys then none
        else readLines? { d with entries := d.entries ++ [line.entry] } (fuel + 1) tail := by
  split
  · rw [PlainLine.text, toList_keyLine, List.append_assoc]
    simp only [List.cons_append]
    rw [readLines?_bare line.isBareKey, entry?_of_mem hd line.isBareKey ‹_›, Option.bind_none]
  · obtain ⟨rest, hend, hentry⟩ := entry?_text hd line ‹_›
    obtain ⟨hrest, hentry⟩ := lineLocal_entry? d line.not_mem_text hentry
    have hend := (lineEnd?_append_newline hrest hend).2 tail
    have htext := hentry tail
    rw [PlainLine.text, toList_keyLine, List.append_assoc] at htext ⊢
    simp only [List.cons_append] at htext ⊢
    rw [readLines?_bare line.isBareKey, htext, Option.bind_some]
    simp only [hend, Option.bind_some]
    split
    · subst tail
      rfl
    · rfl

/-- A plain line adds its entry, unless its key is there already. -/
theorem readLines?_line (fuel : Nat) {lines : List String} {text : List Char}
    (h : HasLines (line.text :: lines) text) : ∃ rest, HasLines lines rest
      ∧ d.readLines? (fuel + 2) text = if line.key ∈ d.entries.keys then none
        else readLines? { d with entries := d.entries ++ [line.entry] } (fuel + 1) rest := by
  cases h with
  | last => exact ⟨[], .none, readLines?_last hd line⟩
  | more _ h => exact ⟨_, h, readLines?_more hd line _⟩

end Step

theorem keys_append_entry (entries : Entries) (line : PlainLine) (keys : List String) :
    (entries ++ [line.entry]).keys ++ keys = entries.keys ++ line.key :: keys := by
  simp [Entries.keys, PlainLine.entry]

/-- Plain lines with distinct keys add their entries one after the other. -/
theorem readLines?_append {lines : List String} :
    ∀ {above : List PlainLine} {d : Document} (fuel : Nat) {text : List Char},
      HasLines (above.map PlainLine.text ++ lines) text → above.length < fuel → d.current = [] →
        (d.entries.keys ++ above.map PlainLine.key).Nodup →
          ∃ rest, HasLines lines rest ∧ d.readLines? fuel text
            = readLines? { d with entries := d.entries ++ above.map PlainLine.entry }
              (fuel - above.length) rest
  | [], d, fuel, text, h, _, _, _ => ⟨text, h, by simp⟩
  | line :: above, d, fuel + 2, text, h, hfuel, hd, hnodup => by
    obtain ⟨tail, htail, hline⟩ := readLines?_line hd line fuel h
    have hnew : line.key ∉ d.entries.keys := fun hmem =>
      (List.nodup_append.1 hnodup).2.2 _ hmem _ (.head _) rfl
    rw [List.map_cons, ← keys_append_entry] at hnodup
    obtain ⟨rest, hrest, hread⟩ := readLines?_append (fuel + 1)
      (d := { d with entries := d.entries ++ [line.entry] }) htail
      (by rw [List.length_cons] at hfuel; omega) hd hnodup
    refine ⟨rest, hrest, ?_⟩
    rw [hline, if_neg hnew, hread, List.append_assoc]
    congr 1
    rw [List.length_cons]
    omega

/-- Plain lines that repeat a key make a document malformed. -/
theorem readLines?_eq_none :
    ∀ {lines : List PlainLine} {d : Document} {fuel : Nat} {text : List Char},
      HasLines (lines.map PlainLine.text) text → lines.length < fuel → d.current = [] →
        d.entries.keys.Nodup → ¬(d.entries.keys ++ lines.map PlainLine.key).Nodup →
          d.readLines? fuel text = none
  | [], d, fuel, text, _, _, _, hnodup, hdup => by simp [hnodup] at hdup
  | line :: lines, d, fuel + 2, text, h, hfuel, hd, hnodup, hdup => by
    obtain ⟨tail, htail, hline⟩ := readLines?_line hd line fuel h
    rw [hline]
    split
    · rfl
    · have hnew : (d.entries ++ [line.entry]).keys.Nodup := by
        rw [keys_append]
        refine List.nodup_append.2 ⟨hnodup, by simp [keys], fun key hkey key' hkey' heq => ?_⟩
        obtain rfl : key' = line.key := List.mem_singleton.1 hkey'
        exact ‹line.key ∉ _› (heq ▸ hkey)
      rw [List.map_cons, ← keys_append_entry] at hdup
      exact readLines?_eq_none (d := { d with entries := d.entries ++ [line.entry] }) htail
        (by rw [List.length_cons] at hfuel; omega) hd hnew hdup

/-! ## Documents -/

/-- A line that gives a key without quotes something. -/
def IsKeyLine (line : String) : Prop := ∃ key value, IsBareKey key ∧ line = keyLine key value

theorem PlainLine.isKeyLine_text (line : PlainLine) : IsKeyLine line.text :=
  ⟨line.key, line.written, line.isBareKey, rfl⟩

theorem IsKeyLine.exists_head {line : String} (h : IsKeyLine line) :
    ∃ c cs, line.toList = c :: cs ∧ isKeyChar c = true := by
  obtain ⟨key, value, hkey, rfl⟩ := h
  obtain ⟨c, cs, hcs⟩ := List.exists_cons_of_ne_nil hkey.ne_nil
  exact ⟨c, cs ++ ' ' :: '=' :: ' ' :: value.toList, by rw [toList_keyLine, hcs]; rfl,
    hkey.isKeyChar c (by rw [hcs]; exact .head _)⟩

theorem HasLines.length_le {lines : List String} {text : List Char} (h : HasLines lines text)
    (hlines : ∀ line ∈ lines, IsKeyLine line) : lines.length ≤ text.length := by
  induction h with
  | none => exact Nat.le_refl _
  | last line =>
    obtain ⟨c, cs, hcs, -⟩ := (hlines line (.head _)).exists_head
    simp [hcs]
  | more line h ih =>
    have := ih fun line hmem => hlines line (.tail _ hmem)
    simp only [List.length_cons, List.length_append]
    omega

theorem HasLines.head?_ne {lines : List String} {text : List Char} (h : HasLines lines text)
    (hlines : ∀ line ∈ lines, IsKeyLine line) {c : Char} (hc : isKeyChar c = false) :
    text.head? ≠ some c := by
  have hhead {line : String} (hline : IsKeyLine line) (more : List Char) :
      (line.toList ++ more).head? ≠ some c := by
    obtain ⟨d, cs, hcs, hd⟩ := hline.exists_head
    rw [hcs]
    rintro heq
    rw [Option.some.inj heq, hc] at hd
    cases hd
  cases h with
  | none => simp
  | last line => simpa using hhead (hlines line (.head _)) []
  | more line h => exact hhead (hlines line (.head _)) _

theorem HasLines.exists_keyLine {key value : String} {lines : List String} {text : List Char}
    (h : HasLines (keyLine key value :: lines) text) :
    ∃ more, text = key.toList ++ ' ' :: '=' :: ' ' :: more := by
  cases h with
  | last => exact ⟨value.toList, toList_keyLine key value⟩
  | more _ h => exact ⟨_, by rw [toList_keyLine, List.append_assoc]; rfl⟩

/-- There is no byte order mark in front of a key. -/
theorem ofString?_eq {lines : List String} {text : String} (h : HasLines lines text.toList)
    (hlines : ∀ line ∈ lines, IsKeyLine line) :
    ofString? text = readLines? {} (text.toList.length + 1) text.toList := by
  rw [ofString?]
  simp only [h.head?_ne hlines (c := '\ufeff') (by decide), if_false]

/-- A document of plain lines holds their entries if the keys are distinct; otherwise it is
malformed. -/
theorem ofString?_lines {lines : List PlainLine} {text : String}
    (h : HasLines (lines.map PlainLine.text) text.toList) :
    ofString? text
      = if (lines.map PlainLine.key).Nodup then some (lines.map PlainLine.entry) else none := by
  have hlines : ∀ line ∈ lines.map PlainLine.text, IsKeyLine line := by
    intro line hmem
    obtain ⟨line, -, rfl⟩ := List.mem_map.1 hmem
    exact line.isKeyLine_text
  have hlength := h.length_le hlines
  rw [List.length_map] at hlength
  rw [ofString?_eq h hlines]
  split
  · have hall : HasLines (lines.map PlainLine.text ++ []) text.toList := by rwa [List.append_nil]
    obtain ⟨rest, hrest, hread⟩ := readLines?_append (d := {}) _ hall
      (Nat.lt_succ_of_le hlength) rfl ‹_›
    obtain ⟨fuel, hfuel⟩ : ∃ fuel, text.toList.length.succ - lines.length = fuel + 1 :=
      ⟨text.toList.length - lines.length, by omega⟩
    cases hrest
    rw [hread, hfuel]
    rfl
  · exact readLines?_eq_none h (Nat.lt_succ_of_le hlength) rfl List.nodup_nil ‹_›

/-- A document that has been read has given every key a value once, whatever stands behind the
equals sign. -/
theorem key_of_ofString? {above : List PlainLine} {key value : String} {below : List String}
    {text : String} {entries : Entries} (hkey : IsBareKey key)
    (habove : (above.map PlainLine.key).Nodup) (hbelow : ∀ line ∈ below, IsKeyLine line)
    (h : HasLines (above.map PlainLine.text ++ keyLine key value :: below) text.toList)
    (hread : ofString? text = some entries) :
    key ∉ above.map PlainLine.key ∧ key ∈ entries.keys := by
  have hlines : ∀ line ∈ above.map PlainLine.text ++ keyLine key value :: below,
      IsKeyLine line := by
    intro line hmem
    obtain hmem | hmem := List.mem_append.1 hmem
    · obtain ⟨line, -, rfl⟩ := List.mem_map.1 hmem
      exact line.isKeyLine_text
    · obtain rfl | hmem := List.mem_cons.1 hmem
      · exact ⟨key, value, hkey, rfl⟩
      · exact hbelow line hmem
  have hlength := h.length_le hlines
  simp only [List.length_append, List.length_map, List.length_cons] at hlength
  rw [ofString?_eq h hlines] at hread
  obtain ⟨rest, hrest, hrun⟩ := readLines?_append (d := {}) (text.toList.length + 1) h
    (by omega) rfl habove
  obtain ⟨more, rfl⟩ := hrest.exists_keyLine
  obtain ⟨fuel, hfuel⟩ : ∃ fuel, text.toList.length + 1 - above.length = fuel + 1 :=
    ⟨text.toList.length - above.length, by omega⟩
  rw [hrun, hfuel, readLines?_bare hkey] at hread
  obtain ⟨⟨d, rest⟩, hentry, hread⟩ := Option.bind_eq_some_iff.1 hread
  obtain ⟨rest, -, hlast⟩ := Option.bind_eq_some_iff.1 hread
  rw [entry?_bare hkey more rfl] at hentry
  obtain ⟨⟨v, rest⟩, -, hentry⟩ := Option.bind_eq_some_iff.1 hentry
  have hkeys : keys (([] : Entries) ++ above.map PlainLine.entry) = above.map PlainLine.key := by
    simp [keys, PlainLine.entry]
  simp only [hkeys] at hentry
  split at hentry
  · cases hentry
  · obtain ⟨rfl, rfl⟩ := Prod.mk.inj (Option.some.inj hentry)
    refine ⟨‹_›, ?_⟩
    have hmem : key ∈ keys (([] ++ above.map PlainLine.entry) ++ [(key, v)]) := by simp [keys]
    split at hlast
    · rwa [← Option.some.inj hlast]
    · exact keys_subset_of_readLines? hlast hmem

/-- A line that is a document by itself is plain. -/
theorem exists_plainLine {key value : String} (hkey : IsBareKey key) (hvalue : '\n' ∉ value.toList)
    (h : (ofString? (keyLine key value)).isSome = true) :
    ∃ line : PlainLine, line.key = key ∧ line.text = keyLine key value := by
  obtain ⟨entries, h⟩ := Option.isSome_iff_exists.1 h
  have hline : ∀ line ∈ [keyLine key value], IsKeyLine line := by
    intro line hmem
    exact ⟨key, value, hkey, List.mem_singleton.1 hmem⟩
  rw [ofString?_eq (.last _) hline, toList_keyLine, readLines?_bare hkey] at h
  obtain ⟨⟨d, rest⟩, hentry, h⟩ := Option.bind_eq_some_iff.1 h
  obtain ⟨rest', hend, -⟩ := Option.bind_eq_some_iff.1 h
  rw [entry?_bare hkey value.toList rfl] at hentry
  obtain ⟨⟨v, rest⟩, hread, hentry⟩ := Option.bind_eq_some_iff.1 hentry
  obtain ⟨-, rfl⟩ := Prod.mk.inj (Option.some.inj hentry)
  have hrest := ((lineLocal_values Nat.le.refl maxDepth).1.skipSpace hvalue hread).1
  obtain ⟨rfl, -⟩ := lineEnd?_append_newline hrest hend
  exact ⟨⟨key, value, v, hkey, hvalue, rest, hread, hend⟩, rfl, rfl⟩

end Document

end HouseStyle.Toml
