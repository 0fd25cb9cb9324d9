/-
  MaterialSearch.Proofs.Query.Positions
  ────────────────────────────────
  **THE POSITIONS THAT A WALK VISITS.**

  A cursor is compared with the plain list of the positions `first`,
  `first + step`, … below a limit.  Single steps take the list apart at its
  head, and a skip drops all positions before a boundary; the capped sums
  of 64 bits never show, because a position that does not fit is past every
  limit.

  Main definitions:
    * `visits`      — the positions, in order
    * `visitLimit`  — the first position not to visit
    * `Cursor.rest` — the positions that a cursor has yet to visit

  Main results:
    * `isExhausted_eq` — a cursor is exhausted when it has no such position
    * `rest_advance`   — one step takes the first of them away
    * `toNat_remaining` — the number announced is that of these positions
    * `toNat_skipTo`   — where a skip ends
    * `rest_skipTo`    — a skip takes away those before the boundary
-/
import Mathlib.Algebra.Group.Nat.Defs
import Mathlib.Data.List.Sort
import MaterialSearch.Query.Cursor

namespace MaterialSearch

open Numeric

/-! ## §1. Lists of positions. -/

/-- **The positions** `first`, `first + step`, … below `limit`. -/
def visits (first step limit : Nat) : List Nat :=
  List.range' first ((limit - first + (step - 1)) / step) step

theorem visits_eq_nil {first step limit : Nat} (hstep : 0 < step) (h : limit ≤ first) :
    visits first step limit = [] := by
  unfold visits
  rw [show limit - first + (step - 1) = step - 1 by omega,
    Nat.div_eq_of_lt (show step - 1 < step by omega)]
  rfl

theorem visits_eq_cons {first step limit : Nat} (hstep : 0 < step) (h : first < limit) :
    visits first step limit = first :: visits (first + step) step limit := by
  have hcount : (limit - first + (step - 1)) / step
      = (limit - (first + step) + (step - 1)) / step + 1 := by
    by_cases hle : first + step ≤ limit
    · rw [show limit - first + (step - 1) = limit - (first + step) + (step - 1) + step by omega,
        Nat.add_div_right _ hstep]
    · rw [show limit - first + (step - 1) = (limit - first - 1) + step by omega,
        Nat.add_div_right _ hstep, show limit - (first + step) + (step - 1) = step - 1 by omega,
        Nat.div_eq_of_lt (show limit - first - 1 < step by omega),
        Nat.div_eq_of_lt (show step - 1 < step by omega)]
  unfold visits
  rw [hcount]
  rfl

theorem length_visits (first step limit : Nat) :
    (visits first step limit).length = (limit - first + (step - 1)) / step := by
  unfold visits
  rw [List.length_range']

/-- Which positions are visited. -/
theorem mem_visits {first step limit p : Nat} (hstep : 0 < step) :
    p ∈ visits first step limit ↔ p < limit ∧ ∃ j, p = first + step * j := by
  unfold visits
  rw [List.mem_range']
  constructor
  · rintro ⟨j, hj, rfl⟩
    have hle : (j + 1) * step ≤ limit - first + (step - 1) := (Nat.le_div_iff_mul_le hstep).mp hj
    rw [Nat.add_mul, Nat.mul_comm j] at hle
    exact ⟨by omega, j, rfl⟩
  · rintro ⟨hlt, j, rfl⟩
    refine ⟨j, ?_, rfl⟩
    apply (Nat.le_div_iff_mul_le hstep).mpr
    rw [Nat.succ_mul, Nat.mul_comm j]
    omega

theorem lt_of_mem_visits {first step limit p : Nat} (hstep : 0 < step)
    (h : p ∈ visits first step limit) : p < limit :=
  ((mem_visits hstep).mp h).1

theorem le_of_mem_visits {first step limit p : Nat} (hstep : 0 < step)
    (h : p ∈ visits first step limit) : first ≤ p := by
  obtain ⟨_, j, rfl⟩ := (mem_visits hstep).mp h
  exact Nat.le_add_right _ _

/-- Positions are visited in ascending order. -/
theorem visits_sorted {first step limit : Nat} (hstep : 0 < step) :
    (visits first step limit).Pairwise (· < ·) :=
  List.pairwise_lt_range' step hstep

/-- A first position that does not fit a word may as well be the greatest. -/
theorem visits_capped {first step limit : Nat} (hstep : 0 < step) (h : limit < 2 ^ 64) :
    visits (min first 0xFFFFFFFFFFFFFFFF) step limit = visits first step limit := by
  by_cases hfit : first ≤ 0xFFFFFFFFFFFFFFFF
  · rw [Nat.min_eq_left hfit]
  · rw [visits_eq_nil hstep (show limit ≤ min first 0xFFFFFFFFFFFFFFFF by omega),
      visits_eq_nil hstep (show limit ≤ first by omega)]

/-- **Whole steps up to a boundary** leave the positions from there on. -/
theorem visits_skip {first step limit boundary : Nat} (hstep : 0 < step)
    (h : first ≤ boundary) :
    visits (first + (boundary - first + step - 1) / step * step) step limit
      = (visits first step limit).filter fun p => decide (boundary ≤ p) := by
  have hround : ∀ j, boundary ≤ first + step * j ↔ (boundary - first + step - 1) / step ≤ j := by
    intro j
    rw [Nat.div_le_iff_le_mul_add_pred hstep]
    constructor <;> intro _ <;> omega
  -- Both lists ascend, so that it is enough to compare their members.
  apply List.Pairwise.eq_of_mem_iff (visits_sorted hstep) ((visits_sorted hstep).filter _)
  intro p
  rw [List.mem_filter, mem_visits hstep, mem_visits hstep, decide_eq_true_eq]
  constructor
  · rintro ⟨hlt, j, rfl⟩
    have hp : first + (boundary - first + step - 1) / step * step + step * j
        = first + step * ((boundary - first + step - 1) / step + j) := by
      rw [Nat.mul_add, Nat.mul_comm step (_ / step), Nat.add_assoc]
    rw [hp] at hlt ⊢
    exact ⟨⟨hlt, _, rfl⟩, (hround _).mpr (Nat.le_add_right _ _)⟩
  · rintro ⟨⟨hlt, j, rfl⟩, hb⟩
    refine ⟨hlt, j - (boundary - first + step - 1) / step, ?_⟩
    have hle := (hround j).mp hb
    rw [Nat.mul_comm _ step, Nat.add_assoc, ← Nat.mul_add, Nat.add_sub_cancel' hle]

/-! ## §2. The positions of a cursor. -/

/-- The first position not to visit, for a stop and a number of records. -/
def visitLimit (stop : Option UInt64) (total : UInt64) : Nat :=
  match stop with
  | some stop => min stop.toNat total.toNat
  | none => total.toNat

theorem visitLimit_le (stop : Option UInt64) (total : UInt64) :
    visitLimit stop total ≤ total.toNat := by
  cases stop with
  | none => exact Nat.le_refl _
  | some stop => exact Nat.min_le_right _ _

theorem toNat_min (a b : UInt64) : (min a b).toNat = min a.toNat b.toNat := by
  show (if a ≤ b then a else b).toNat = _
  split
  · next h => rw [Nat.min_eq_left (UInt64.le_iff_toNat_le.mp h)]
  · next h =>
    rw [Nat.min_eq_right]
    have := mt UInt64.le_iff_toNat_le.mpr h
    omega

theorem toNat_max (a b : UInt64) : (max a b).toNat = max a.toNat b.toNat := by
  show (if a ≤ b then b else a).toNat = _
  split
  · next h => rw [Nat.max_eq_right (UInt64.le_iff_toNat_le.mp h)]
  · next h =>
    rw [Nat.max_eq_left]
    have := mt UInt64.le_iff_toNat_le.mpr h
    omega

namespace Cursor

theorem toNat_bound (c : Cursor) (total : UInt64) :
    (c.bound total).toNat = visitLimit c.stop total := by
  unfold Cursor.bound visitLimit
  cases c.stop with
  | none => rfl
  | some stop => exact toNat_min stop total

theorem toNat_step_between (start : UInt64) (stop : Option UInt64) (step : UInt64) :
    (between start stop step).step.toNat = max step.toNat 1 :=
  toNat_max step 1

theorem isExhausted_eq (c : Cursor) (total : UInt64) :
    c.isExhausted total
      = (c.halted || decide (visitLimit c.stop total ≤ c.position.toNat)) := by
  unfold Cursor.isExhausted
  rw [← toNat_bound]
  rfl

/-- A walk that goes on is at a record. -/
theorem position_lt {c : Cursor} {total : UInt64} (h : c.isExhausted total = false) :
    c.position.toNat < total.toNat := by
  rw [isExhausted_eq, Bool.or_eq_false_iff, decide_eq_false_iff_not] at h
  have hlimit := visitLimit_le c.stop total
  omega

/-- A walk that is over for some number of records is over for fewer. -/
theorem isExhausted_mono {c : Cursor} {total total' : UInt64} (h : total ≤ total')
    (hend : c.isExhausted total' = true) : c.isExhausted total = true := by
  have hle : visitLimit c.stop total ≤ visitLimit c.stop total' := by
    have hle := UInt64.le_iff_toNat_le.mp h
    unfold visitLimit
    cases c.stop with
    | none => exact hle
    | some stop =>
        show min stop.toNat total.toNat ≤ min stop.toNat total'.toNat
        omega
  rw [isExhausted_eq, Bool.or_eq_true, decide_eq_true_eq] at hend ⊢
  exact hend.imp id hle.trans

theorem le_maxCount (n : UInt64) : n ≤ maxCount := by
  rw [UInt64.le_iff_toNat_le, toNat_maxCount]
  have := n.toNat_lt
  omega

/-- The positions that a cursor has yet to visit. -/
def rest (c : Cursor) (total : UInt64) : List Nat :=
  visits c.position.toNat c.step.toNat (visitLimit c.stop total)

theorem skipTo_halted (c : Cursor) (b : UInt64) : (c.skipTo b).halted = c.halted := by
  unfold skipTo
  split <;> rfl

theorem skipTo_step (c : Cursor) (b : UInt64) : (c.skipTo b).step = c.step := by
  unfold skipTo
  split <;> rfl

theorem skipTo_stop (c : Cursor) (b : UInt64) : (c.skipTo b).stop = c.stop := by
  unfold skipTo
  split <;> rfl

/-- **One step takes the first position away.** -/
theorem rest_advance {c : Cursor} {total : UInt64} (hstep : 0 < c.step.toNat)
    (h : c.position.toNat < visitLimit c.stop total) :
    c.rest total = c.position.toNat :: c.advance.rest total := by
  have hlimit : visitLimit c.stop total < 2 ^ 64 :=
    Nat.lt_of_le_of_lt (visitLimit_le _ _) total.toNat_lt
  unfold rest
  rw [visits_eq_cons hstep h, ← visits_capped hstep hlimit]
  unfold advance
  rw [toNat_addCapped]

/-- **Where a skip ends**: whole steps on, at the boundary or past it. -/
theorem toNat_skipTo {c : Cursor} {boundary : UInt64} (hstep : 0 < c.step.toNat)
    (h : c.position.toNat < boundary.toNat) :
    (c.skipTo boundary).position.toNat
      = min (c.position.toNat
        + (boundary.toNat - c.position.toNat + c.step.toNat - 1) / c.step.toNat * c.step.toNat)
        0xFFFFFFFFFFFFFFFF := by
  have hlt : c.position < boundary := UInt64.lt_iff_toNat_lt.mpr h
  have hsub : (boundary - c.position).toNat = boundary.toNat - c.position.toNat :=
    UInt64.toNat_sub_of_le _ _ (UInt64.le_iff_toNat_le.mpr h.le)
  unfold skipTo
  rw [if_pos hlt]
  show (addCapped c.position (mulCapped (divUp (boundary - c.position) c.step) c.step)).toNat = _
  rw [toNat_addCapped, toNat_mulCapped, toNat_divUp _ hstep, hsub]
  omega

/-- A cursor at the boundary or past it stays where it is. -/
theorem skipTo_eq_self {c : Cursor} {boundary : UInt64} (h : boundary.toNat ≤ c.position.toNat) :
    c.skipTo boundary = c := by
  unfold skipTo
  rw [if_neg (fun hlt => absurd (UInt64.lt_iff_toNat_lt.mp hlt) (Nat.not_lt.mpr h))]

/-- **A skip takes away the positions before the boundary.** -/
theorem rest_skipTo {c : Cursor} {total boundary : UInt64} (hstep : 0 < c.step.toNat) :
    (c.skipTo boundary).rest total
      = (c.rest total).filter fun p => decide (boundary.toNat ≤ p) := by
  have hlimit : visitLimit c.stop total < 2 ^ 64 :=
    Nat.lt_of_le_of_lt (visitLimit_le _ _) total.toNat_lt
  by_cases hlt : c.position.toNat < boundary.toNat
  · have hstop : (c.skipTo boundary).stop = c.stop := skipTo_stop c boundary
    unfold rest
    rw [toNat_skipTo hstep hlt, skipTo_step, hstop, visits_capped hstep hlimit,
      visits_skip hstep hlt.le]
  · have hge : boundary.toNat ≤ c.position.toNat := Nat.le_of_not_lt hlt
    rw [skipTo_eq_self hge]
    symm
    rw [List.filter_eq_self]
    intro p hp
    have := le_of_mem_visits hstep hp
    exact decide_eq_true (by omega)

/-- Nothing is left for an exhausted cursor, a halted one aside. -/
theorem rest_eq_nil_iff {c : Cursor} {total : UInt64} (hstep : 0 < c.step.toNat) :
    c.rest total = [] ↔ visitLimit c.stop total ≤ c.position.toNat := by
  constructor
  · intro h
    by_contra hlt
    rw [rest_advance hstep (by omega)] at h
    exact absurd h (List.cons_ne_nil _ _)
  · exact visits_eq_nil hstep

/-- **The number announced** is that of the positions left. -/
theorem toNat_remaining {c : Cursor} (total : UInt64) (hstep : 0 < c.step.toNat) :
    (c.remaining total).toNat = if c.halted then 0 else (c.rest total).length := by
  have hex := isExhausted_eq c total
  unfold remaining
  cases hh : c.halted with
  | true =>
      rw [hh, Bool.true_or] at hex
      rw [hex]
      rfl
  | false =>
      rw [hh, Bool.false_or] at hex
      rw [hex]
      by_cases hend : visitLimit c.stop total ≤ c.position.toNat
      · rw [decide_eq_true hend, (rest_eq_nil_iff hstep).mpr hend]
        rfl
      · have hle : c.position ≤ c.bound total := by
          rw [UInt64.le_iff_toNat_le, toNat_bound]
          omega
        rw [decide_eq_false hend, if_neg (by decide), if_neg (by decide), toNat_divUp _ hstep,
          UInt64.toNat_sub_of_le _ _ hle, toNat_bound]
        unfold rest
        rw [length_visits]
        congr 1
        omega

theorem length_rest_advance {c : Cursor} {total : UInt64} (hstep : 0 < c.step.toNat)
    (h : c.position.toNat < visitLimit c.stop total) :
    (c.advance.rest total).length + 1 = (c.rest total).length := by
  rw [rest_advance hstep h]
  rfl

end Cursor

end MaterialSearch
