/-
  MaterialSearch.Proofs.Page.Numbering
  ────────────────────────────────
  **POSITIONS, PAGES AND RANKS.**

  A result is numbered three times: positions count its records from zero,
  ranks count them from one, and pages of `k` records are counted from one
  with the sign of the direction.  Here the words of 64 bits are tied to
  the whole numbers that they stand for; no page number below `2^63` wraps,
  and beyond it the ranks of pages of one record come down again.

  Main definitions:
    * `Direction.page`   — the number of the `n`-th page

  Main results:
    * `toInt_page`, `page_inj`, `page_natAbs` — page numbers as integers
    * `locate_page`      — the page that holds a position
    * `locate?_eq`, `locate?_of_lt` — which slots are worked out without an overflow
    * `toNat_rank_locate` — no sum or product wraps in the rank of its record
    * `rank_locate_cases`, `rank_locate` — this rank
-/
import Mathlib.Algebra.Group.Int.Defs
import Mathlib.Algebra.Group.Nat.Defs
import MaterialSearch.Page.Slot

namespace MaterialSearch

/-! ## §1. Page numbers. -/

/-- The number of the `n`-th page, counted from one, in a direction. -/
def Keyword.Direction.page (d : Keyword.Direction) (n : Nat) : Int64 :=
  Int64.ofNat n * d.sign

open Keyword Numeric

theorem toInt_page (d : Direction) {n : Nat} (h : n < 2 ^ 63) :
    (d.page n).toInt = d.sign.toInt * n := by
  cases d with
  | ascending =>
      show (Int64.ofNat n * 1).toInt = 1 * (n : Int)
      rw [Int64.mul_one, Int64.toInt_ofNat_of_lt h, Int.one_mul]
  | descending =>
      show (Int64.ofNat n * -1).toInt = -1 * (n : Int)
      rw [Int64.mul_neg, Int64.mul_one, Int64.toInt_neg_ofNat_of_le (by omega)]
      omega

/-- The sign of a page number is that of the direction. -/
theorem page_signed (d : Direction) {n : Nat} (hpos : 0 < n) (h : n < 2 ^ 63) :
    0 < (d.page n).toInt * d.sign.toInt := by
  rw [toInt_page d h]
  cases d with
  | ascending =>
      show 0 < 1 * (n : Int) * 1
      omega
  | descending =>
      show 0 < -1 * (n : Int) * -1
      omega

theorem page_natAbs (d : Direction) {n : Nat} (h : n < 2 ^ 63) :
    (d.page n).toInt.natAbs = n := by
  rw [toInt_page d h]
  cases d with
  | ascending =>
      show (1 * (n : Int)).natAbs = n
      omega
  | descending =>
      show (-1 * (n : Int)).natAbs = n
      omega

/-- The signed number that the number of a page is taken for. -/
theorem toInt_ofNat_cases {n : Nat} (h : n < 2 ^ 64) :
    (Int64.ofNat n).toInt = if n < 2 ^ 63 then (n : Int) else (n : Int) - 2 ^ 64 := by
  rw [← Int64.ofInt_eq_ofNat, Int64.toInt_ofInt, Int.bmod_def, show Int64.size = 2 ^ 64 from rfl]
  split <;> split <;> omega

/-- Beyond `2^63` the numbers of pages wrap, and come down again. -/
theorem page_natAbs_of_le (d : Direction) {n : Nat} (hle : 2 ^ 63 ≤ n) (h : n < 2 ^ 64) :
    (d.page n).toInt.natAbs = 2 ^ 64 - n := by
  have hword : (Int64.ofNat n).toInt = (n : Int) - 2 ^ 64 := by
    rw [toInt_ofNat_cases h, if_neg (Nat.not_lt.mpr hle)]
  cases d with
  | ascending =>
      show (Int64.ofNat n * 1).toInt.natAbs = 2 ^ 64 - n
      rw [Int64.mul_one, hword]
      omega
  | descending =>
      show (Int64.ofNat n * -1).toInt.natAbs = 2 ^ 64 - n
      rw [Int64.mul_neg, Int64.mul_one, Int64.toInt_neg, hword, Int.bmod_def]
      split <;> omega

/-- **The number of a page with its sign**: of all words one has no
opposite. -/
theorem mulSigned?_sign (d : Direction) {n : Nat} (h : n < 2 ^ 64) :
    mulSigned? (Int64.ofNat n) d.sign
      = if d = .descending ∧ n = 2 ^ 63 then none else some (d.page n) := by
  by_cases hlast : d = .descending ∧ n = 2 ^ 63
  · obtain ⟨rfl, rfl⟩ := hlast
    decide
  · rw [if_neg hlast, mulSigned?_eq_some_iff]
    cases d with
    | ascending =>
        show _ * 1 = (Int64.ofNat n * 1).toInt
        rw [Int64.mul_one, Int.mul_one]
    | descending =>
        have hother : n ≠ 2 ^ 63 := fun hn => hlast ⟨rfl, hn⟩
        show _ * -1 = (Int64.ofNat n * -1).toInt
        rw [Int64.mul_neg, Int64.mul_one, Int64.toInt_neg, Int.bmod_def, toInt_ofNat_cases h]
        split <;> split <;> omega

theorem page_inj (d : Direction) {m n : Nat} (hm : m < 2 ^ 63) (hn : n < 2 ^ 63)
    (h : d.page m = d.page n) : m = n := by
  rw [← page_natAbs d hm, ← page_natAbs d hn, h]

@[simp] theorem page_one (d : Direction) : d.page 1 = d.sign := by
  cases d <;> rfl

/-! ## §2. The slot of a position. -/

theorem toInt64_eq_ofNat (x : UInt64) : x.toInt64 = Int64.ofNat x.toNat := by
  apply Int64.toBitVec_inj.1
  simp

theorem max_one_of_pos {k : UInt64} (hk : 0 < k.toNat) : max k 1 = k := by
  show (if k ≤ 1 then 1 else k) = k
  split
  · next h =>
    have h1 : k.toNat ≤ 1 := UInt64.le_iff_toNat_le.mp h
    apply UInt64.toNat_inj.mp
    show 1 = k.toNat
    omega
  · rfl

/-- **The page that holds a position**, as long as its number is a word. -/
theorem locate_page (d : Direction) {p k : UInt64} (hk : 0 < k.toNat)
    (h : p.toNat / k.toNat + 1 < 2 ^ 64) :
    (Slot.locate p k d).page = d.page (p.toNat / k.toNat + 1) := by
  show (p / max k 1 + 1).toInt64 * d.sign = _
  rw [max_one_of_pos hk, toInt64_eq_ofNat, UInt64.toNat_add, UInt64.toNat_div]
  show Int64.ofNat ((p.toNat / k.toNat + 1) % 2 ^ 64) * d.sign = _
  rw [Nat.mod_eq_of_lt h]
  rfl

/-- A slot that is worked out is the slot of the position. -/
theorem eq_locate_of_locate? {d : Direction} {p k : UInt64} {slot : Slot}
    (h : Slot.locate? p k d = some slot) : slot = Slot.locate p k d := by
  obtain ⟨n, hn, h⟩ := Option.bind_eq_some_iff.mp h
  obtain ⟨page, hpage, rfl⟩ := Option.map_eq_some_iff.mp h
  obtain rfl := eq_of_addChecked? hn
  obtain rfl := eq_of_mulSigned? hpage
  rfl

/-- **Which slots the program works out**: all whose page has a number that
is a word, but for the page in descending order whose number, taken as a
signed one, has no opposite. -/
theorem locate?_eq (d : Direction) {p k : UInt64} (hk : 0 < k.toNat)
    (h : p.toNat / k.toNat + 1 < 2 ^ 64) :
    Slot.locate? p k d
      = if d = .descending ∧ p.toNat / k.toNat + 1 = 2 ^ 63 then none
        else some (Slot.locate p k d) := by
  have hsum : (p / k + 1).toNat = p.toNat / k.toNat + 1 := by
    rw [UInt64.toNat_add, UInt64.toNat_div]
    exact Nat.mod_eq_of_lt h
  have hnumber : addChecked? (p / k) 1 = some (p / k + 1) :=
    addChecked?_eq_some_iff.mpr (by rw [hsum, UInt64.toNat_div]; rfl)
  unfold Slot.locate? Slot.locate
  simp only [max_one_of_pos hk, hnumber, Option.bind_some, toInt64_eq_ofNat, hsum, mulSigned?_sign d h]
  split <;> rfl

theorem locate?_eq_none_iff {d : Direction} {p k : UInt64} (hk : 0 < k.toNat)
    (h : p.toNat / k.toNat + 1 < 2 ^ 64) :
    Slot.locate? p k d = none ↔ d = .descending ∧ p.toNat / k.toNat + 1 = 2 ^ 63 := by
  rw [locate?_eq d hk h]
  split
  · next hlast => exact ⟨fun _ => hlast, fun _ => rfl⟩
  · next hother => exact ⟨fun hnone => absurd hnone (by simp), fun hlast => absurd hlast hother⟩

/-- **A slot whose page has a signed number** is worked out. -/
theorem locate?_of_lt (d : Direction) {p k : UInt64} (hk : 0 < k.toNat)
    (h : p.toNat / k.toNat + 1 < 2 ^ 63) :
    Slot.locate? p k d = some (Slot.locate p k d) := by
  rw [locate?_eq d hk (by omega), if_neg (fun hlast => by omega)]

theorem locate_offset (d : Direction) {p k : UInt64} (hk : 0 < k.toNat) :
    (Slot.locate p k d).offset.toNat = p.toNat % k.toNat := by
  show (p % max k 1).toNat = _
  rw [max_one_of_pos hk, UInt64.toNat_mod]

theorem toNat_ofNat_succ_sub_one {n : Nat} (h : n + 1 < 2 ^ 64) :
    (UInt64.ofNat (n + 1) - 1).toNat = n := by
  have hn : (UInt64.ofNat (n + 1)).toNat = n + 1 := UInt64.toNat_ofNat_of_lt' h
  have hle : (1 : UInt64) ≤ UInt64.ofNat (n + 1) := by
    rw [UInt64.le_iff_toNat_le, hn]
    show 1 ≤ n + 1
    omega
  rw [UInt64.toNat_sub_of_le _ _ hle, hn]
  rfl

/-- **No sum or product wraps** in the rank of a record. -/
theorem toNat_rank_locate (d : Direction) {p k : UInt64} (hk : 0 < k.toNat)
    (hp : p.toNat + 1 < 2 ^ 64) :
    ((Slot.locate p k d).rank k).toNat
      = k.toNat * ((Slot.locate p k d).page.toInt.natAbs - 1)
        + (Slot.locate p k d).offset.toNat + 1 := by
  have hdiv : p.toNat / k.toNat ≤ p.toNat := Nat.div_le_self _ _
  have hsplit : k.toNat * (p.toNat / k.toNat) + p.toNat % k.toNat = p.toNat :=
    Nat.div_add_mod _ _
  obtain ⟨n, hpage, hle⟩ : ∃ n, (Slot.locate p k d).page.toInt.natAbs = n + 1
      ∧ n ≤ p.toNat / k.toNat := by
    rw [locate_page d hk (by omega)]
    by_cases hsmall : p.toNat / k.toNat + 1 < 2 ^ 63
    · exact ⟨p.toNat / k.toNat, page_natAbs d hsmall, Nat.le_refl _⟩
    · refine ⟨2 ^ 64 - (p.toNat / k.toNat + 1) - 1, ?_, by omega⟩
      rw [page_natAbs_of_le d] <;> omega
  -- Wrapped or not, the number of the page is no greater than it should be.
  have hmul := Nat.mul_le_mul_left k.toNat hle
  unfold Slot.rank
  rw [max_one_of_pos hk, UInt64.toNat_add, UInt64.toNat_add, UInt64.toNat_mul, hpage,
    toNat_ofNat_succ_sub_one (show n + 1 < 2 ^ 64 by omega), locate_offset d hk]
  show ((k.toNat * n % 2 ^ 64 + p.toNat % k.toNat) % 2 ^ 64 + 1) % 2 ^ 64 = _
  rw [Nat.mod_eq_of_lt (a := k.toNat * n) (by omega),
    Nat.mod_eq_of_lt (a := k.toNat * n + p.toNat % k.toNat) (by omega),
    Nat.mod_eq_of_lt (by omega)]
  rfl

/-- **The rank of the record at a position**: ranks count from one as long
as the number of the page is no more than `2^63`, and down again beyond. -/
theorem rank_locate_cases (d : Direction) {p k : UInt64} (hk : 0 < k.toNat)
    (hp : p.toNat + 1 < 2 ^ 64) :
    ((Slot.locate p k d).rank k).toNat
      = if p.toNat / k.toNat < 2 ^ 63 then p.toNat + 1 else 2 ^ 64 - (p.toNat + 1) := by
  have hdiv : p.toNat / k.toNat ≤ p.toNat := Nat.div_le_self _ _
  have hsplit : k.toNat * (p.toNat / k.toNat) + p.toNat % k.toNat = p.toNat :=
    Nat.div_add_mod _ _
  rw [toNat_rank_locate d hk hp, locate_offset d hk, locate_page d hk (by omega)]
  split
  · next hsmall =>
    have hpage : (d.page (p.toNat / k.toNat + 1)).toInt.natAbs = p.toNat / k.toNat + 1 := by
      by_cases hlast : p.toNat / k.toNat + 1 < 2 ^ 63
      · exact page_natAbs d hlast
      · rw [page_natAbs_of_le d] <;> omega
    rw [hpage, Nat.add_sub_cancel, hsplit]
  · next hlarge =>
    -- So many pages have one record each.
    have hone : k.toNat = 1 := by
      have hmul := Nat.mul_le_mul_left k.toNat (Nat.le_of_not_lt hlarge)
      omega
    rw [hone, Nat.div_one] at hlarge ⊢
    rw [page_natAbs_of_le d] <;> omega

/-- Ranks count from one. -/
theorem rank_locate (d : Direction) {p k : UInt64} (hk : 0 < k.toNat)
    (hp : p.toNat + 1 < 2 ^ 63) :
    ((Slot.locate p k d).rank k).toNat = p.toNat + 1 := by
  have hdiv : p.toNat / k.toNat ≤ p.toNat := Nat.div_le_self _ _
  rw [rank_locate_cases d hk (by omega), if_pos (by omega)]

end MaterialSearch
