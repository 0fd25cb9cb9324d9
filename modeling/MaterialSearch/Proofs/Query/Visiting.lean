/-
  MaterialSearch.Proofs.Query.Visiting
  ────────────────────────────────
  **A WHOLE WALK OF A CURSOR.**

  A cursor is taken on step by step until it is exhausted.  Whatever the
  start, the stop, the step and the number of records are, this comes to an
  end, and the positions on the way are the ones of the plain list, as many
  as were announced at the start.  A position that would pass the greatest
  word stays there; since no bound is greater, it is past every bound.

  Main definitions:
    * `Cursor.Walks` — the positions on the way until a cursor is exhausted

  Main results:
    * `walks_iff`               — they are the positions that were left to visit
    * `toNat_position_iterate`  — where a cursor is after some steps
    * `remaining_advance`       — a step lowers the number announced by one
    * `walk_between`            — **a whole walk**
-/
import MaterialSearch.Proofs.Query.Positions

namespace MaterialSearch

open Numeric

namespace Cursor

/-- **The positions of a walk**: as long as the cursor is not exhausted, its
position is visited and it goes one step on. -/
inductive Walks (total : UInt64) : Cursor → List UInt64 → Prop
  /-- No position is left. -/
  | finished {c : Cursor} (h : c.isExhausted total = true) : Walks total c []
  /-- One more position. -/
  | visit {c : Cursor} {ps : List UInt64} (h : c.isExhausted total = false)
      (rest : Walks total c.advance ps) : Walks total c (c.position :: ps)

variable {c : Cursor} {total : UInt64} {ps : List UInt64}

/-! ## §1. One step. -/

/-- A cursor goes on when it was not broken off and is below its bound. -/
theorem isExhausted_eq_false_iff :
    c.isExhausted total = false
      ↔ c.halted = false ∧ c.position.toNat < visitLimit c.stop total := by
  rw [isExhausted_eq, Bool.or_eq_false_iff, decide_eq_false_iff_not, Nat.not_le]

/-- **A step lowers the number announced by one.** -/
theorem remaining_advance (hstep : 0 < c.step.toNat) (h : c.isExhausted total = false) :
    (c.remaining total).toNat = (c.advance.remaining total).toNat + 1 := by
  obtain ⟨hhalted, hlt⟩ := isExhausted_eq_false_iff.mp h
  have hadvance : c.advance.halted = false := hhalted
  rw [toNat_remaining total hstep, toNat_remaining (c := c.advance) total hstep, hhalted, hadvance,
    ← length_rest_advance hstep hlt]
  rfl

/-! ## §2. A whole walk. -/

/-- Lists of words are told apart by the numbers in them. -/
theorem toNat_list_inj {ps qs : List UInt64} (h : ps.map UInt64.toNat = qs.map UInt64.toNat) :
    ps = qs :=
  List.map_injective_iff.mpr (fun _ _ => UInt64.toNat_inj.mp) h

/-- The positions on the way were left to visit, and all of them are. -/
theorem Walks.toNat_eq_rest (h : c.Walks total ps) (hstep : 0 < c.step.toNat)
    (hhalted : c.halted = false) : ps.map UInt64.toNat = c.rest total := by
  induction h with
  | @finished c hend =>
    rw [isExhausted_eq, hhalted, Bool.false_or, decide_eq_true_eq] at hend
    exact ((rest_eq_nil_iff hstep).mpr hend).symm
  | @visit c ps hgoes _ ih =>
    rw [rest_advance hstep (isExhausted_eq_false_iff.mp hgoes).2, List.map_cons,
      ih hstep hhalted]

/-- A walk comes to an end: by induction on the number of positions left. -/
theorem exists_walks (hstep : 0 < c.step.toNat) (hhalted : c.halted = false) :
    ∃ ps, c.Walks total ps := by
  induction hleft : (c.rest total).length generalizing c with
  | zero =>
    have hend := (rest_eq_nil_iff hstep).mp (List.length_eq_zero_iff.mp hleft)
    refine ⟨[], .finished ?_⟩
    rw [isExhausted_eq, decide_eq_true hend, Bool.or_true]
  | succ n ih =>
    have hlt : c.position.toNat < visitLimit c.stop total := by
      by_contra hend
      rw [(rest_eq_nil_iff hstep).mpr (Nat.le_of_not_lt hend)] at hleft
      exact absurd hleft (by simp)
    have hfewer := length_rest_advance hstep hlt
    obtain ⟨ps, hps⟩ := ih (c := c.advance) hstep hhalted (by omega)
    exact ⟨c.position :: ps, .visit (isExhausted_eq_false_iff.mpr ⟨hhalted, hlt⟩) hps⟩

/-- **A walk is unique**, and its positions are those that were left. -/
theorem walks_iff (hstep : 0 < c.step.toNat) (hhalted : c.halted = false) :
    c.Walks total ps ↔ ps.map UInt64.toNat = c.rest total := by
  constructor
  · exact fun h => h.toNat_eq_rest hstep hhalted
  · intro h
    obtain ⟨qs, hqs⟩ : ∃ qs, c.Walks total qs := exists_walks hstep hhalted
    have hsame : ps.map UInt64.toNat = qs.map UInt64.toNat :=
      h.trans (hqs.toNat_eq_rest hstep hhalted).symm
    rwa [toNat_list_inj hsame]

/-! ## §3. After some steps. -/

/-- Steps change nothing but the position. -/
theorem iterate_advance_eq (c : Cursor) (n : Nat) :
    advance^[n] c = { c with position := (advance^[n] c).position } := by
  induction n with
  | zero => rfl
  | succ n ih =>
    rw [Function.iterate_succ_apply', ih]
    rfl

/-- **Where a cursor is after some steps**: no position passes the greatest
word. -/
theorem toNat_position_iterate (c : Cursor) (n : Nat) :
    (advance^[n] c).position.toNat
      = min (c.position.toNat + n * c.step.toNat) 0xFFFFFFFFFFFFFFFF := by
  have hword := c.position.toNat_lt
  induction n with
  | zero =>
    rw [Function.iterate_zero_apply]
    omega
  | succ n ih =>
    have hstep : (advance^[n] c).step = c.step := by rw [iterate_advance_eq]
    rw [Function.iterate_succ_apply']
    show (addCapped (advance^[n] c).position (advance^[n] c).step).toNat = _
    rw [toNat_addCapped, ih, hstep, Nat.succ_mul]
    omega

/-- **The number announced after some steps**, without a wrap. -/
theorem toNat_remaining_iterate (hstep : 0 < c.step.toNat) (hhalted : c.halted = false) (n : Nat) :
    ((advance^[n] c).remaining total).toNat
      = (visitLimit c.stop total - (c.position.toNat + n * c.step.toNat) + (c.step.toNat - 1))
        / c.step.toNat := by
  have hlimit : visitLimit c.stop total < 2 ^ 64 :=
    Nat.lt_of_le_of_lt (visitLimit_le _ _) total.toNat_lt
  have hrest : (advance^[n] c).rest total
      = visits (c.position.toNat + n * c.step.toNat) c.step.toNat (visitLimit c.stop total) := by
    rw [← visits_capped hstep hlimit, ← toNat_position_iterate, iterate_advance_eq]
    rfl
  have hgoes : (advance^[n] c).halted = false := by
    rw [iterate_advance_eq]
    exact hhalted
  have hsteps : 0 < (advance^[n] c).step.toNat := by
    rw [iterate_advance_eq]
    exact hstep
  rw [toNat_remaining total hsteps, hgoes, if_neg (by decide), hrest, length_visits]

/-- **When a cursor is exhausted after some steps**, wherever it stays. -/
theorem isExhausted_iterate (hhalted : c.halted = false) (n : Nat) :
    (advance^[n] c).isExhausted total = true
      ↔ visitLimit c.stop total ≤ c.position.toNat + n * c.step.toNat := by
  have hlimit : visitLimit c.stop total < 2 ^ 64 :=
    Nat.lt_of_le_of_lt (visitLimit_le _ _) total.toNat_lt
  have hgoes : (advance^[n] c).halted = false := by
    rw [iterate_advance_eq]
    exact hhalted
  have hstop : (advance^[n] c).stop = c.stop := by rw [iterate_advance_eq]
  rw [isExhausted_eq, hgoes, Bool.false_or, decide_eq_true_eq, hstop, toNat_position_iterate]
  omega

end Cursor

/-- **A WHOLE WALK** from a start up to a stop, if any, for every number of
records; a step of zero counts as one.

  * It comes to an end, in one way.  The positions on the way are, in ascending
    order, the start and those whole steps further on that are below the stop
    and the number of records, and there are as many as were announced.
  * After any number of steps the cursor is at the position so many steps on,
    or at the greatest word if that is less.  It is exhausted exactly when the
    former has reached the bound, and what it announces is the number of whole
    steps up to the bound, rounded up.
  * Every step of a cursor that is not exhausted lowers the number it announces
    by one. -/
theorem walk_between (start step total : UInt64) (stop : Option UInt64) :
    (∃ ps, (Cursor.between start stop step).Walks total ps
      ∧ (∀ qs, (Cursor.between start stop step).Walks total qs → qs = ps)
      ∧ ps.Pairwise (· < ·)
      ∧ (∀ p, p ∈ ps ↔ p.toNat < visitLimit stop total
        ∧ ∃ j, p.toNat = start.toNat + j * max step.toNat 1)
      ∧ ps.length = ((Cursor.between start stop step).remaining total).toNat)
    ∧ (∀ n, let c := Cursor.advance^[n] (Cursor.between start stop step)
      let ahead := start.toNat + n * max step.toNat 1
      c.position.toNat = min ahead (2 ^ 64 - 1)
        ∧ (c.isExhausted total = true ↔ visitLimit stop total ≤ ahead)
        ∧ (c.remaining total).toNat
          = (visitLimit stop total - ahead + (max step.toNat 1 - 1)) / max step.toNat 1)
    ∧ ∀ c : Cursor, 0 < c.step.toNat → c.isExhausted total = false →
      (c.remaining total).toNat = (c.advance.remaining total).toNat + 1 := by
  have hword : (Cursor.between start stop step).step.toNat = max step.toNat 1 := toNat_max step 1
  have hstep : 0 < (Cursor.between start stop step).step.toNat := by omega
  refine ⟨?_, ?_, fun c hc hgoes => Cursor.remaining_advance hc hgoes⟩
  · obtain ⟨ps, hps⟩ : ∃ ps, (Cursor.between start stop step).Walks total ps :=
      Cursor.exists_walks hstep rfl
    have hrest : ps.map UInt64.toNat
        = visits start.toNat (max step.toNat 1) (visitLimit stop total) := by
      rw [hps.toNat_eq_rest hstep rfl, Cursor.rest, hword]
      rfl
    refine ⟨ps, hps, ?_, ?_, ?_, ?_⟩
    · intro qs hqs
      apply Cursor.toNat_list_inj
      rw [hqs.toNat_eq_rest hstep rfl, hps.toNat_eq_rest hstep rfl]
    · have hsorted : (visits start.toNat (max step.toNat 1) (visitLimit stop total)).Pairwise
          (· < ·) := visits_sorted (hword ▸ hstep)
      rw [← hrest, List.pairwise_map] at hsorted
      exact hsorted.imp fun h => UInt64.lt_iff_toNat_lt.mpr h
    · intro p
      rw [← List.mem_map_of_injective (fun _ _ => UInt64.toNat_inj.mp), hrest,
        mem_visits (hword ▸ hstep)]
      simp only [Nat.mul_comm]
    · rw [Cursor.toNat_remaining total hstep, ← hps.toNat_eq_rest hstep rfl, List.length_map]
      rfl
  · intro n c ahead
    have hposition : c.position.toNat = _ := Cursor.toNat_position_iterate _ n
    have hend : c.isExhausted total = true ↔ _ := Cursor.isExhausted_iterate rfl n
    have hleft : (c.remaining total).toNat = _ := Cursor.toNat_remaining_iterate hstep rfl n
    rw [hword] at hposition hend hleft
    exact ⟨hposition, hend, hleft⟩

/-- Steps of four from five below the greatest word: two positions are visited,
the second step would pass the greatest word and stays there. -/
theorem walk_between_saturated :
    (∃ ps, (Cursor.between 18446744073709551610 none 4).Walks 18446744073709551615 ps
      ∧ (18446744073709551614 : UInt64) ∈ ps ∧ ps.length = 2)
    ∧ (Cursor.advance^[2] (Cursor.between 18446744073709551610 none 4)).position.toNat
      = 2 ^ 64 - 1
    ∧ 0 < (Cursor.between 18446744073709551610 none 4).step.toNat
    ∧ (Cursor.between 18446744073709551610 none 4).isExhausted 18446744073709551615 = false
    ∧ ((Cursor.between 18446744073709551610 none 4).remaining 18446744073709551615).toNat
      = ((Cursor.between 18446744073709551610 none 4).advance.remaining
          18446744073709551615).toNat + 1 := by
  obtain ⟨⟨ps, hps, -, -, hmem, hlength⟩, hsteps, hadvance⟩ :=
    walk_between 18446744073709551610 4 18446744073709551615 none
  refine ⟨⟨ps, hps, (hmem _).mpr ⟨by decide, 1, by decide⟩, hlength.trans (by decide)⟩,
    (hsteps 2).1.trans (by decide), by decide, by decide, hadvance _ (by decide) (by decide)⟩

end MaterialSearch
