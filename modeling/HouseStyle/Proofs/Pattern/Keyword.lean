import HouseStyle.Pattern.Occurrence
import HouseStyle.Proofs.Pattern.Language
import HouseStyle.Proofs.Settings.Defaults

/-!
# Where a keyword stands

The default patterns look for a keyword between dollar signs, possibly with a colon and a value
behind it. The value takes in no dollar sign, so that a search may fail at one place and succeed at
a later one; but whether it succeeds at all only depends on whether there is a dollar sign anywhere
behind the colon (`search_keyword_iff`).
-/

namespace HouseStyle.Pattern

open Text

/-- The keyword stands in the text behind a dollar sign, with another one right behind it, or with a
colon right behind it and another one anywhere behind that. -/
def HoldsKeyword (name text : List Char) : Prop :=
  '$' :: name ++ ['$'] <:+: text ∨ ∃ value, '$' :: name ++ [':'] ++ value <:+ text ∧ '$' ∈ value

/-- A keyword between dollar signs, possibly with a value. -/
def IsKeyword (name t : List Char) : Prop :=
  t = '$' :: name ++ ['$'] ∨ ∃ value, t = '$' :: name ++ (':' :: value ++ ['$']) ∧ '$' ∉ value

theorem contains_noDollar {c : Char} : (CharClass.of noDollar).contains c = true ↔ c ≠ '$' := by
  have hdollar : c ≠ '$' ↔ c.toNat ≠ 0x24 := not_congr (Char.toNat_inj (d := '$')).symm
  have hlast : c.toNat ≤ 0x10FFFF := Char.toNat_le_max c
  rw [hdollar, CharClass.contains, CodeSet.contains_eq_true_iff]
  simp only [noDollar, CodeSet.lastCode, List.mem_cons, List.not_mem_nil, or_false,
    exists_eq_or_imp, exists_eq_left]
  omega

theorem means_keyword (name : List Char) : Means (keyword name).regex (IsKeyword name) := by
  have hvalue : Means (.sequence [Expr.textRegex [':'], .star (.one (.of noDollar))])
      fun t => ∃ value, t = ':' :: value ∧ '$' ∉ value := by
    refine ((means_letters [':']).seq (means_star_one (.of noDollar))).congr fun t => ?_
    simp only [contains_noDollar]
    constructor
    · rintro ⟨_, value, rfl, rfl, hvalue⟩
      exact ⟨value, rfl, fun h => hvalue _ h rfl⟩
    · rintro ⟨value, rfl, hvalue⟩
      exact ⟨[':'], value, rfl, rfl, fun c hc h => hvalue (h ▸ hc)⟩
  have hwhole : Means (.sequence [Expr.textRegex ('$' :: name), _, Expr.textRegex ['$']]) _ :=
    (means_letters ('$' :: name)).seq (hvalue.counted_optional.seq (means_letters ['$']))
  refine hwhole.congr fun t => ?_
  constructor
  · rintro ⟨_, _, rfl, rfl, _, _, rfl, ⟨value, rfl, hvalue⟩ | rfl, rfl⟩
    · exact .inr ⟨value, rfl, hvalue⟩
    · exact .inl rfl
  · rintro (rfl | ⟨value, rfl, hvalue⟩)
    · exact ⟨_, ['$'], rfl, rfl, [], ['$'], rfl, .inr rfl, rfl⟩
    · exact ⟨_, _, rfl, rfl, ':' :: value, ['$'], rfl, .inl ⟨value, rfl, hvalue⟩, rfl⟩

/-- A keyword is found where it stands, no matter what the value is or how many starts of a keyword
come before it. -/
theorem search_keyword_iff {name text : List Char} :
    (keyword name).regex.search text = true ↔ HoldsKeyword name text := by
  rw [Regex.search_eq_true_iff, (means_keyword name).occurs_iff_isInfix]
  constructor
  · rintro ⟨_, hfound, rfl | ⟨value, rfl, -⟩⟩
    · exact .inl hfound
    · obtain ⟨before, after, rfl⟩ := hfound
      exact .inr ⟨value ++ '$' :: after, ⟨before, by simp⟩, by simp⟩
  · rintro (hplain | ⟨value, ⟨before, rfl⟩, hdollar⟩)
    · exact ⟨_, hplain, .inl rfl⟩
    -- The search stops at the first dollar sign behind the colon, wherever the one known stands.
    · obtain ⟨front, after, rfl, hfront⟩ := List.eq_append_cons_of_mem hdollar
      exact ⟨_, ⟨before, after, by simp⟩, .inr ⟨front, rfl, hfront⟩⟩

/-- A keyword stands in a text if it stands at the start of one of its ends. -/
theorem holdsKeyword_iff {name text : List Char} : HoldsKeyword name text ↔
    ∃ rest ∈ text.tails, '$' :: name ++ ['$'] <+: rest ∨
      '$' :: name ++ [':'] <+: rest ∧ '$' ∈ rest.drop (name.length + 2) := by
  have hdrop (value : List Char) :
      ('$' :: name ++ [':'] ++ value).drop (name.length + 2) = value :=
    List.drop_left' (by simp)
  simp only [List.mem_tails]
  constructor
  · rintro (hplain | ⟨value, hrest, hdollar⟩)
    · obtain ⟨rest, hstart, hrest⟩ := List.infix_iff_prefix_suffix.1 hplain
      exact ⟨rest, hrest, .inl hstart⟩
    · exact ⟨_, hrest, .inr ⟨⟨value, rfl⟩, (hdrop value).symm ▸ hdollar⟩⟩
  · rintro ⟨rest, hrest, hstart | ⟨⟨value, rfl⟩, hdollar⟩⟩
    · exact .inl (hstart.isInfix.trans hrest.isInfix)
    · exact .inr ⟨value, hrest, hdrop value ▸ hdollar⟩

instance (name text : List Char) : Decidable (HoldsKeyword name text) :=
  decidable_of_iff _ holdsKeyword_iff.symm

/-- The dollar sign behind a value may be the first one of another keyword. -/
example : HoldsKeyword ['I', 'd'] ['$', 'I', 'd', ':', '$', 'I', 'd', '$'] ∧
    ¬HoldsKeyword ['I', 'd'] ['$', 'I', 'd', ' ', '$', 'I', 'd', ':'] := by
  decide

end HouseStyle.Pattern
