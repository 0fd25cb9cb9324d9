/-
  MaterialSearch.Proofs.Query.Items
  ────────────────────────────────
  **THE ITEMS OF A PASS, AS A LIST.**

  A position on a page that can be had gives one item; a page that cannot
  be had gives one error, at the first position visited on it, and nothing
  more.  Here this is said of a plain list of positions, and the list is
  taken apart at its head, as a walk does.

  Main definitions:
    * `entryIn`   — the item at a position of a page that can be had
    * `itemAt`    — the item at a position, if it gives one
    * `items`     — the items of all positions
    * `HeadItem`  — the item of the first position, and what is left after it

  Main results:
    * `items_cons`     — the items, taken apart at the first position
    * `ascending_cons` — the pages to look at, likewise
-/
import MaterialSearch.Proofs.Page.Numbering
import MaterialSearch.Proofs.Query.Served

namespace MaterialSearch

open Keyword

/-! ## §1. The items of a pass. -/

/-- The item at position `p` of a page that can be had: the entry under the
key of its rank, or the report that it is missing. -/
def entryIn (find : String → Option Entry) (d : Direction) (k p : Nat) (N : UInt64) :
    Except QueryError Entry :=
  match find (toString (p + 1) ++ " of " ++ toString N.toNat) with
  | some entry => .ok entry
  | none => .error
      (.missingRecord (toString (p + 1) ++ " of " ++ toString N.toNat) (d.page (p / k + 1)))

/-- After a record that was read, or that is missing, a walk goes one step on. -/
theorem stepOver?_entryIn (find : String → Option Entry) (d : Direction) (k p : Nat) (N : UInt64)
    (size : UInt64) (c : Cursor) :
    Search.stepOver? size (entryIn find d k p N) c = some c.advance := by
  unfold entryIn
  split <;> rfl

/-- **The item at a position** of a pass over `visited`: a page that cannot
be had is reported at the first position visited on it. -/
def itemAt (view : Nat → PageView) (d : Direction) (k : Nat) (N : UInt64) (visited : List Nat)
    (p : Nat) : Option (Except QueryError Entry) :=
  match view (p / k + 1) with
  | .ok find => some (entryIn find d k p N)
  | .error e =>
      if visited.find? (fun q => q / k == p / k) = some p then some (.error (.fetch e)) else none

/-- The items of a pass over `visited`, in order. -/
def items (view : Nat → PageView) (d : Direction) (k : Nat) (N : UInt64) (visited : List Nat) :
    List (Except QueryError Entry) :=
  visited.filterMap (itemAt view d k N visited)

section Items

variable {view : Nat → PageView} {d : Direction} {k : Nat} {N : UInt64} {p : Nat} {ps : List Nat}

/-- A position on a page that can be had gives an item of its own and takes
no part in those of the others. -/
theorem items_cons_ok {find : String → Option Entry} (h : view (p / k + 1) = .ok find) :
    items view d k N (p :: ps) = entryIn find d k p N :: items view d k N ps := by
  have hp : itemAt view d k N (p :: ps) p = some (entryIn find d k p N) := by
    unfold itemAt
    rw [h]
  unfold items
  rw [List.filterMap_cons_some hp]
  congr 1
  apply List.filterMap_congr
  intro q _
  unfold itemAt
  cases hq : view (q / k + 1) with
  | ok find' => rfl
  | error e =>
      have hne : ¬(p / k == q / k) = true := by
        rw [beq_iff_eq]
        intro heq
        rw [heq, hq] at h
        exact absurd h (by simp)
      have hskip : (p :: ps).find? (fun r => r / k == q / k) = ps.find? fun r => r / k == q / k :=
        List.find?_cons_of_neg hne
      simp only [hskip]

/-- A page that cannot be had gives one item; the other positions on it are
passed over. -/
theorem items_cons_error {e : FetchError} (h : view (p / k + 1) = .error e)
    (hp : ∀ q ∈ ps, p < q) :
    items view d k N (p :: ps)
      = .error (.fetch e) :: items view d k N (ps.filter fun q => decide (q / k ≠ p / k)) := by
  have hfirst : itemAt view d k N (p :: ps) p = some (.error (.fetch e)) := by
    unfold itemAt
    rw [h]
    simp
  unfold items
  rw [List.filterMap_cons_some hfirst, List.filterMap_filter]
  congr 1
  apply List.filterMap_congr
  intro q hq
  by_cases hqp : q / k = p / k
  · -- The first position on the page of `q` is `p`, which is before `q`.
    have hlt := hp q hq
    simp only [itemAt, hqp, h, List.find?_cons, beq_self_eq_true, Option.some.injEq,
      show p ≠ q by omega, if_false, ne_eq, not_true_eq_false, decide_false, Bool.false_eq_true]
  · have hne : ¬(p / k == q / k) = true := by
      rw [beq_iff_eq]
      exact Ne.symm hqp
    have hfilter : (ps.filter fun q => decide (q / k ≠ p / k)).find? (fun r => r / k == q / k)
        = ps.find? fun r => r / k == q / k := by
      rw [List.find?_filter]
      congr 1
      funext r
      by_cases hr : r / k = q / k <;> simp [hr, hqp]
    have hskip : (p :: ps).find? (fun r => r / k == q / k) = ps.find? fun r => r / k == q / k :=
      List.find?_cons_of_neg hne
    simp only [hqp, ne_eq, not_false_eq_true, decide_true, if_true, itemAt, hskip, hfilter]

/-- **The item of the first position left**, and the positions that are left
after it. -/
inductive HeadItem (view : Nat → PageView) (d : Direction) (k : Nat) (N : UInt64) (p : Nat)
    (ps : List Nat) : Except QueryError Entry → List Nat → Prop
  /-- Its page can be had. -/
  | entry {find : String → Option Entry} (hview : view (p / k + 1) = .ok find) :
      HeadItem view d k N p ps (entryIn find d k p N) ps
  /-- Its page cannot be had, and the other positions on it are passed over. -/
  | missed {e : FetchError} (hview : view (p / k + 1) = .error e) :
      HeadItem view d k N p ps (.error (.fetch e)) (ps.filter fun q => decide (q / k ≠ p / k))

variable {item : Except QueryError Entry} {rest : List Nat}

theorem items_cons (h : HeadItem view d k N p ps item rest) (hp : ∀ q ∈ ps, p < q) :
    items view d k N (p :: ps) = item :: items view d k N rest := by
  cases h with
  | entry hview => exact items_cons_ok hview
  | missed hview => exact items_cons_error hview hp

theorem HeadItem.length_le (h : HeadItem view d k N p ps item rest) :
    rest.length ≤ ps.length := by
  cases h with
  | entry hview => exact Nat.le_refl _
  | missed hview => exact List.length_filter_le _ _

end Items

/-! ## §2. Ascending lists of pages. -/

/-- A page looked at first comes before those of the other positions; it is
requested if it is not in the store. -/
theorem ascending_cons (rank : Nat → Nat) {stored : Nat → Bool} {p : Nat} {ps pages : List Nat}
    (hle : ∀ q ∈ ps, rank p ≤ rank q) (hsorted : pages.Pairwise (· < ·))
    (hmem : ∀ n, n ∈ pages
      ↔ (∃ q ∈ ps, rank q = n) ∧ stored n = false ∧ n ≠ rank p) :
    ((if stored (rank p) then pages else rank p :: pages).Pairwise (· < ·))
      ∧ ∀ n, n ∈ (if stored (rank p) then pages else rank p :: pages)
          ↔ (∃ q ∈ p :: ps, rank q = n) ∧ stored n = false := by
  cases hs : stored (rank p) with
  | true =>
      refine ⟨hsorted, fun n => ?_⟩
      rw [if_pos rfl, hmem]
      constructor
      · rintro ⟨⟨q, hq, hn⟩, hfree, -⟩
        exact ⟨⟨q, List.mem_cons_of_mem _ hq, hn⟩, hfree⟩
      · rintro ⟨⟨q, hq, hn⟩, hfree⟩
        have hne : n ≠ rank p := by
          rintro rfl
          rw [hs] at hfree
          exact absurd hfree (by decide)
        rcases List.mem_cons.mp hq with rfl | hq
        · exact absurd hn.symm hne
        · exact ⟨⟨q, hq, hn⟩, hfree, hne⟩
  | false =>
      rw [if_neg (by decide)]
      constructor
      · rw [List.pairwise_cons]
        refine ⟨fun n hn => ?_, hsorted⟩
        obtain ⟨⟨q, hq, rfl⟩, -, hne⟩ := (hmem n).mp hn
        have := hle q hq
        omega
      · intro n
        rw [List.mem_cons, hmem]
        constructor
        · rintro (rfl | ⟨⟨q, hq, hn⟩, hfree, -⟩)
          · exact ⟨⟨p, List.mem_cons_self, rfl⟩, hs⟩
          · exact ⟨⟨q, List.mem_cons_of_mem _ hq, hn⟩, hfree⟩
        · rintro ⟨⟨q, hq, hn⟩, hfree⟩
          by_cases hne : n = rank p
          · exact Or.inl hne
          · rcases List.mem_cons.mp hq with rfl | hq
            · exact absurd hn.symm hne
            · exact Or.inr ⟨⟨q, hq, hn⟩, hfree, hne⟩

end MaterialSearch
