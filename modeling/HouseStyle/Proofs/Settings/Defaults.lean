import HouseStyle.Proofs.Pattern.Room
import HouseStyle.Settings.Basic
import HouseStyle.Pattern.Parser

/-!
# The default settings make sense

Both default patterns look for a keyword between dollar signs, with or without a text behind a
colon. They are well-formed, and their machines stay far within their room (`ofString?_default`), so
the default settings are valid (`validate_default`).
-/

namespace HouseStyle

namespace Pattern

open Text

/-- Every character but a dollar sign. -/
def noDollar : CodeSet := ⟨[(0, 0x23), (0x25, CodeSet.lastCode)]⟩

/-- The pattern `\$name(?::[^$]*)?\$` of the keyword `name`. -/
def keyword (name : List Char) : Expr :=
  .sequence [
    .literal ('$' :: name),
    .loop ⟨0, some 1, false⟩ (.sequence [.literal [':'], .loop ⟨0, none, false⟩ (.set noDollar)]),
    .literal ['$']]

theorem byteRanges_noDollar :
    noDollar.byteRanges = [
      [(0x00, 0x23)],
      [(0x25, 0x7F)],
      [(0xC2, 0xDF), (0x80, 0xBF)],
      [(0xE0, 0xE0), (0xA0, 0xBF), (0x80, 0xBF)],
      [(0xE1, 0xEC), (0x80, 0xBF), (0x80, 0xBF)],
      [(0xED, 0xED), (0x80, 0x9F), (0x80, 0xBF)],
      [(0xEE, 0xEF), (0x80, 0xBF), (0x80, 0xBF)],
      [(0xF0, 0xF0), (0x90, 0xBF), (0x80, 0xBF), (0x80, 0xBF)],
      [(0xF1, 0xF3), (0x80, 0xBF), (0x80, 0xBF), (0x80, 0xBF)],
      [(0xF4, 0xF4), (0x80, 0x8F), (0x80, 0xBF), (0x80, 0xBF)]] := by
  cbv

theorem setCost_noDollar_le (d : Direction) : Machine.setCost d noDollar ≤ 2048 := by
  have hascii : noDollar.isAscii = false := by decide
  unfold Machine.setCost
  rw [hascii, byteRanges_noDollar]
  cases d with
  | forward => decide
  | backward => decide

/-- The pattern of a keyword fits, unless the keyword is very long. -/
theorem fits_keyword {name : List Char} (h : name.length ≤ 1000) : (keyword name).fits = true := by
  have hpart (d : Direction) : ((keyword name).assembly d).Cost (2 ^ 18) := by
    have hset := (Expr.cost_set d noDollar).mono (setCost_noDollar_le d)
    have htext := Expr.cost_sequence (.cons (Expr.cost_literal d [':'])
      (.cons (Expr.cost_loop_anyNumber false hset) .nil))
    have hwhole := Expr.cost_sequence (.cons (Expr.cost_literal d ('$' :: name))
      (.cons (Expr.cost_loop_optional false htext) (.cons (Expr.cost_literal d ['$']) .nil)))
    refine hwhole.mono ?_
    simp only [stateRoom, forkRoom, List.map_cons, List.map_nil, List.sum_cons, List.sum_nil,
      List.length_cons, List.length_nil]
    omega
  exact Expr.fits_of_cost hpart (by decide)

end Pattern

/-- The keyword that a marker consists of, unless another pattern is set. -/
def Marker.keyword : Marker → List Char
  | header => ['I', 'd']
  | log => ['L', 'o', 'g']

namespace Settings

/-- The default patterns, as they are read. -/
theorem parse?_default (m : Marker) :
    Pattern.parse? (({} : Settings).patternText m) = some (Pattern.keyword m.keyword) := by
  cases m with
  | header => cbv
  | log => cbv

theorem ofString?_default (m : Marker) :
    Pattern.ofString? (({} : Settings).patternText m) =
      some (Pattern.keyword m.keyword).regex := by
  have hfits : (Pattern.keyword m.keyword).fits = true := by
    cases m <;> exact Pattern.fits_keyword (by decide)
  rw [Pattern.ofString?, parse?_default]
  simp [hfits]

end Settings

end HouseStyle
