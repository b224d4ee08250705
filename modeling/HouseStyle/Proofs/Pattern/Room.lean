import HouseStyle.Pattern.Assembly
import Mathlib

/-!
# Machines that stay within their room

Putting a machine together fails only where it outgrows its room. `Within` says so of one step: if a
bound is within the room of a machine, the step succeeds and what it makes takes no more than the
bound. Steps that follow each other add up (`Within.bind`), and so the parts of a machine have a
`Cost` each that follows the expression. States that are used again are counted as if they were
new.
-/

namespace HouseStyle.Pattern

open Text

/-- Where `room` is within the room of a machine, there is a result, and its machine takes no more
than that. -/
def Within {α : Type} (machine : α → Machine) (room : Nat) (result : Option α) : Prop :=
  room ≤ maxRoom → ∃ a, result = some a ∧ (machine a).room ≤ room

section Steps

variable {α β γ : Type} {f : α → Machine} {g : β → Machine} {room cost : Nat}

theorem Within.some (f : α → Machine) (a : α) : Within f (f a).room (Option.some a) :=
  fun _ => ⟨a, rfl, Nat.le_refl _⟩

theorem Within.mono {room' : Nat} {r : Option α} (h : Within f room r) (hroom : room ≤ room') :
    Within f room' r := by
  intro hr
  obtain ⟨a, ha, hle⟩ := h (hroom.trans hr)
  exact ⟨a, ha, hle.trans hroom⟩

/-- The cost of a further step is added to that of the steps before. -/
theorem Within.bind {cost' : Nat} {r : Option α} {k : α → Option β}
    (hr : Within f (room + cost) r) (hk : ∀ a, Within g ((f a).room + cost') (k a)) :
    Within g (room + (cost + cost')) (r >>= k) := by
  intro hroom
  obtain ⟨a, rfl, ha⟩ := hr (by omega)
  obtain ⟨b, hb, hle⟩ := hk a (by omega)
  exact ⟨b, hb, by omega⟩

/-- A step that gives its machine on as it is costs nothing. -/
theorem Within.map {r : Option α} {h : α → β} (hr : Within f room r) (hgh : ∀ a, g (h a) = f a) :
    Within g room (r >>= fun a => Option.some (h a)) := by
  intro hroom
  obtain ⟨a, rfl, ha⟩ := hr hroom
  exact ⟨h a, rfl, (hgh a).symm ▸ ha⟩

/-- The costs of the steps for the entries of a list add up. -/
theorem within_foldlM {step : α → γ → Option α} (price : γ → Nat)
    (h : ∀ a c, Within f ((f a).room + price c) (step a c)) :
    ∀ (l : List γ) (a : α), Within f ((f a).room + (l.map price).sum) (l.foldlM step a)
  | [], a => .some f a
  | c :: l, a => by
    rw [List.foldlM_cons, List.map_cons, List.sum_cons]
    exact (h a c).bind fun b => within_foldlM price h l b

end Steps

/-! ## States -/

namespace Machine

theorem within_add (m : Machine) (states ways : Nat) :
    Within id (m.room + (stateRoom * states + ways)) (m.add states ways) := by
  intro hroom
  rw [← Nat.add_assoc] at hroom
  exact ⟨_, if_pos hroom, (Nat.add_assoc ..).le⟩

theorem within_join (m : Machine) (fork : Bool) : Within id (m.room + forkRoom) (m.join fork) := by
  refine (within_add m 0 _).mono ?_
  cases fork <;> simp

/-- The machine of a step that hands on something else and the states that are known. -/
abbrev grown {α : Type} (r : α × Memo × Machine) : Machine := r.2.2

theorem within_state (m : Machine) (memo : Memo) (slots : Nat) (kind : List Nat) (ways : Nat) :
    Within grown (m.room + (stateRoom + ways)) (m.state memo slots kind ways) := by
  have hnew : Within grown (m.room + (stateRoom + ways))
      (do return (m.states, memo.insert (slotOf slots kind) (kind, m.states), ← m.add 1 ways)) := by
    have := within_add m 1 ways
    rw [Nat.mul_one] at this
    exact this.map fun _ => rfl
  have hknown (number : Nat) :
      Within grown (m.room + (stateRoom + ways)) (some (number, memo, m)) :=
    (Within.some grown _).mono (Nat.le_add_right ..)
  rw [state]
  split
  · split
    · exact hknown _
    · exact hnew
  · exact hnew

/-! ## Sets of characters -/

/-- What the states cost that read rows of byte ranges from left to right. -/
def forwardCost : (bytes : Nat) → List (List ByteRange) → Nat
  | 0, _ => 0
  | bytes + 1, rows =>
    let groups := rows.splitBy fun u v => u.head? == v.head?
    (groups.map fun group => forwardCost bytes (group.map List.tail)).sum
      + (stateRoom + branchRoom * groups.length)

theorem within_forwardRows (goal : Nat) : ∀ (bytes : Nat) (rows : List (List ByteRange))
    (known : Memo × Machine),
    Within grown (known.2.room + forwardCost bytes rows) (forwardRows goal bytes rows known)
  | 0, _, known => Within.some grown (goal, known)
  | bytes + 1, rows, known => by
    rw [forwardRows]
    split
    · exact (Within.some grown (goal, known)).mono (Nat.le_add_right ..)
    · rw [forwardCost]
      refine Within.bind (f := grown) ?_ ?_
      · refine within_foldlM (f := grown) _ ?_ _ ([], known)
        rintro ⟨ways, known⟩ group
        exact (within_forwardRows goal bytes _ known).map fun _ => rfl
      · rintro ⟨ways, memo, m⟩
        exact within_state m memo forwardSlots ways.reverse _

/-- What the states cost that read rows of byte ranges from right to left. -/
def backwardCost (rows : List (List ByteRange)) : Nat :=
  (rows.map fun row => stateRoom * row.length + forkRoom).sum

theorem within_backwardRow (goal : Nat) (row : List ByteRange) (known : Memo × Machine) :
    Within grown (known.2.room + stateRoom * row.length) (backwardRow goal row known) := by
  refine (within_foldlM (f := grown) (fun _ => stateRoom) ?_ row (goal, known)).mono
    (by simp [Nat.mul_comm])
  rintro ⟨number, memo, m⟩ ⟨lo, hi⟩
  exact within_state m memo backwardSlots [number, lo, hi] 0

/-- What the states cost that read one character of a set. -/
def setCost (d : Direction) (s : CodeSet) : Nat :=
  if s.isAscii then stateRoom * 2 + branchRoom * s.ranges.length
  else
    match d with
    | .forward => stateRoom + forwardCost 4 s.byteRanges
    | .backward => stateRoom * 2 + backwardCost s.byteRanges

theorem within_addSet (d : Direction) (s : CodeSet) (m : Machine) :
    Within id (m.room + setCost d s) (addSet d s m) := by
  unfold addSet setCost
  split
  · exact within_add m 2 _
  · cases d with
    | forward =>
      refine (within_add m 1 0).bind fun started => ?_
      exact (within_forwardRows m.states 4 s.byteRanges (∅, started)).map fun _ => rfl
    | backward =>
      refine (within_add m 2 0).bind fun started => ?_
      refine Within.map (f := Prod.snd) ?_ fun _ => rfl
      refine within_foldlM (f := Prod.snd) _ ?_ s.byteRanges (∅, started)
      intro known row
      refine (within_backwardRow (m.states + 1) row known).bind ?_
      rintro ⟨_, memo, m⟩
      exact (within_join m true).map fun _ => rfl

end Machine

/-! ## Parts of a machine -/

/-- What a part adds to a machine takes no more than `cost`. -/
def Assembly.Cost (part : Assembly) (cost : Nat) : Prop :=
  ∀ m, Within Prod.snd (m.room + cost) (part m)

namespace Assembly

variable {part : Assembly} {cost : Nat}

theorem Cost.mono {cost' : Nat} (h : part.Cost cost) (hle : cost ≤ cost') : part.Cost cost' :=
  fun m => (h m).mono (by omega)

theorem cost_states (n : Nat) : (states n).Cost (stateRoom * n) :=
  fun m => (m.within_add n 0).map fun _ => rfl

theorem cost_plain {grow : Machine → Option Machine}
    (h : ∀ m, Within id (m.room + cost) (grow m)) : (plain grow).Cost cost :=
  fun m => (h m).map fun _ => rfl

theorem chain_cons_cons (first second : Assembly) (parts : List Assembly) (m : Machine) :
    chain (first :: second :: parts) m = (do
      let (fork, m) ← first m
      let (last, m) ← chain (second :: parts) m
      return (last, ← m.join fork)) :=
  rfl

/-- Behind each part of a chain there may be a fork, which takes another way out. -/
theorem cost_chain {parts : List Assembly} {costs : List Nat} (h : List.Forall₂ Cost parts costs) :
    (chain parts).Cost (stateRoom + (costs.map (· + forkRoom)).sum) := by
  induction h with
  | nil => exact cost_states 1
  | @cons first cost parts costs h hs ih =>
    cases hs with
    | nil => exact h.mono (by simp; omega)
    | @cons second cost' parts costs _ _ =>
      intro m
      have hparts : Within Prod.snd
          (m.room + (cost + (stateRoom + ((cost' :: costs).map (· + forkRoom)).sum + forkRoom)))
          (chain (first :: second :: parts) m) := by
        rw [chain_cons_cons]
        refine (h m).bind ?_
        rintro ⟨fork, m⟩
        refine (ih m).bind ?_
        rintro ⟨last, m⟩
        exact (m.within_join fork).map fun _ => rfl
      exact hparts.mono (by simp; omega)

/-- A part that need not be taken has a fork in front of it, and a state behind it. -/
theorem cost_optional (h : part.Cost cost) :
    (optional part).Cost (stateRoom + (cost + (stateRoom + 2 * forkRoom + forkRoom))) := by
  intro m
  refine (m.within_add 1 0).bind fun m => (h m).bind ?_
  rintro ⟨fork, m⟩
  refine (m.within_add 1 (2 * forkRoom)).bind fun m => ?_
  exact (m.within_join fork).map fun _ => rfl

/-- A part that can be taken any number of times has a fork in front of it, or two forks and a state
around it. -/
theorem cost_anyNumber (solid : Bool) (h : part.Cost cost) :
    (anyNumber solid part).Cost (cost + (3 * stateRoom + 5 * forkRoom)) := by
  intro m
  unfold anyNumber
  split
  · have hpart : Within Prod.snd (m.room + (stateRoom + (cost + (forkRoom + forkRoom))))
        (do
          let (fork, m) ← part (← m.add 1 0)
          return (true, ← (← m.add 0 forkRoom).join fork)) := by
      refine (m.within_add 1 0).bind fun m => (h m).bind ?_
      rintro ⟨fork, m⟩
      refine (m.within_add 0 forkRoom).bind fun m => ?_
      exact (m.within_join fork).map fun _ => rfl
    exact hpart.mono (by omega)
  · have hpart : Within Prod.snd (m.room + (cost + (3 * stateRoom + 4 * forkRoom + forkRoom)))
        (do
          let (fork, m) ← part m
          return (false, ← (← m.add 3 (4 * forkRoom)).join fork)) := by
      refine (h m).bind ?_
      rintro ⟨fork, m⟩
      refine (m.within_add 3 (4 * forkRoom)).bind fun m => ?_
      exact (m.within_join fork).map fun _ => rfl
    exact hpart.mono (by omega)

end Assembly

namespace Expr

/-! ## Machines for expressions -/

theorem length_bytes_le (d : Direction) (text : List Char) :
    (bytes d text).length ≤ 4 * text.length := by
  have hutf8 (c : Char) : (utf8 c.toNat).length ≤ 4 := by
    simpa [utf8] using Char.utf8Size_le_four _
  have hbytes : (text.flatMap fun c => utf8 c.toNat).length ≤ 4 * text.length := by
    induction text with
    | nil => exact Nat.le_refl 0
    | cons c text ih =>
      have := hutf8 c
      rw [List.flatMap_cons, List.length_append, List.length_cons]
      omega
  cases d with
  | forward => exact hbytes
  | backward => rwa [bytes, List.length_reverse]

theorem cost_literal (d : Direction) (text : List Char) :
    ((literal text).assembly d).Cost (stateRoom * (4 * text.length)) :=
  (Assembly.cost_states _).mono (Nat.mul_le_mul_left _ (length_bytes_le d text))

theorem cost_set (d : Direction) (s : CodeSet) :
    ((set s).assembly d).Cost (Machine.setCost d s) :=
  Assembly.cost_plain (Machine.within_addSet d s)

theorem assemblies_eq_map (d : Direction) : ∀ ps : List Expr, assemblies d ps = ps.map (assembly d)
  | [] => rfl
  | p :: ps => by rw [assemblies, assemblies_eq_map d ps, List.map_cons]

theorem cost_sequence {d : Direction} {ps : List Expr} {costs : List Nat}
    (h : List.Forall₂ (fun p cost => (p.assembly d).Cost cost) ps costs) :
    ((sequence ps).assembly d).Cost (stateRoom + (costs.map (· + forkRoom)).sum) := by
  have hparts : List.Forall₂ Assembly.Cost (ps.map (assembly d)) costs :=
    List.forall₂_map_left_iff.mpr h
  cases d with
  | forward =>
    rw [assembly, assemblies_eq_map]
    exact Assembly.cost_chain hparts
  | backward =>
    have hcosts : (costs.reverse.map (· + forkRoom)).sum = (costs.map (· + forkRoom)).sum := by
      rw [List.map_reverse, List.sum_reverse]
    rw [assembly, assemblies_eq_map, ← hcosts]
    exact Assembly.cost_chain (List.forall₂_reverse_iff.mpr hparts)

theorem cost_loop_optional {d : Direction} {p : Expr} {cost : Nat} (lazy : Bool)
    (h : (p.assembly d).Cost cost) :
    ((loop ⟨0, some 1, lazy⟩ p).assembly d).Cost (cost + (2 * stateRoom + 3 * forkRoom)) :=
  (Assembly.cost_optional h).mono (by omega)

theorem cost_loop_anyNumber {d : Direction} {p : Expr} {cost : Nat} (lazy : Bool)
    (h : (p.assembly d).Cost cost) :
    ((loop ⟨0, none, lazy⟩ p).assembly d).Cost (cost + (3 * stateRoom + 5 * forkRoom)) :=
  Assembly.cost_anyNumber _ h

/-- The part for an expression and the states around it. -/
def framed (p : Expr) : Direction → List Assembly
  | .forward => [.states 1, p.assembly .forward, .states 2]
  | .backward => [p.assembly .backward, .states 1]

/-- What the states around the part for an expression take at most. -/
def frameRoom : Nat := 12 * stateRoom

theorem isSome_machine? {p : Expr} {d : Direction} {cost : Nat} (h : (p.assembly d).Cost cost)
    (hcost : cost + frameRoom ≤ maxRoom) : (p.machine? d).isSome := by
  have hbound : Within id (0 + 4 * stateRoom) (Machine.add {} 1 0) :=
    (Machine.within_add {} 1 0).mono (by decide)
  have hfree : Within id (0 + 4 * stateRoom) (Machine.add {} 3 (branchRoom + 2 * forkRoom)) :=
    (Machine.within_add {} 3 _).mono (by decide)
  have hwhole : (Assembly.chain (framed p d)).Cost (cost + 8 * stateRoom) := by
    have hbefore := Assembly.cost_states 1
    cases d with
    | forward =>
      have hbehind := Assembly.cost_states 2
      exact (Assembly.cost_chain (.cons hbefore (.cons h (.cons hbehind .nil)))).mono
        (by simp [stateRoom, forkRoom]; omega)
    | backward =>
      exact (Assembly.cost_chain (.cons h (.cons hbefore .nil))).mono
        (by simp [stateRoom, forkRoom]; omega)
  have hmachine : Within id (0 + (4 * stateRoom + (cost + 8 * stateRoom))) (p.machine? d) := by
    have hend (m : Machine) : Within id (m.room + (cost + 8 * stateRoom)) (do
        let (_, m) ← Assembly.chain (framed p d) m
        return m) :=
      (hwhole m).map fun _ => rfl
    cases d <;> rw [machine?] <;> split
    · exact hbound.bind hend
    · exact hfree.bind hend
    · exact hbound.bind hend
    · exact hfree.bind hend
  obtain ⟨m, hm, -⟩ := hmachine (by simp only [frameRoom] at hcost; omega)
  rw [hm]
  rfl

/-- An expression fits if its part does not cost too much in either direction. -/
theorem fits_of_cost {p : Expr} {cost : Nat} (h : ∀ d, (p.assembly d).Cost cost)
    (hcost : cost + frameRoom ≤ maxRoom) : p.fits = true := by
  rw [fits, isSome_machine? (h .forward) hcost, isSome_machine? (h .backward) hcost]
  exact Bool.or_true _

end Expr

end HouseStyle.Pattern
