/-
  MaterialSearch.Proofs.Page.Coordinates
  ────────────────────────────────
  **EVERY POSITION HAS A SLOT OF ITS OWN.**

  A position is found by the number of its page and its place on that page.
  As long as its rank is a word and the number of its page a signed one,
  nothing wraps on the way there or back: positions and slots correspond one
  to one, for either direction and every page size.  So do positions and
  record keys, which tell the rank and the total as they are.

  Main definitions:
    * `Ranked`        — the positions in range
    * `Slot.Regular`  — the slots in range

  Main results:
    * `Ranked.regular`, `Ranked.rank_eq`   — the slot of a position, and its rank
    * `Ranked.locate?_eq`                  — it is worked out without an overflow
    * `Slot.Regular.toNat_rank`            — the rank of a slot, without a wrap
    * `Slot.Regular.ranked`, `Slot.Regular.locate_rank` — back to the position
    * `recordKey_inj`                      — a key tells its rank and its total
    * `coordinates_bijective`              — **positions, slots and keys**
-/
import MaterialSearch.Proofs.Page.Numbering
import MaterialSearch.Proofs.Page.RecordKey

namespace MaterialSearch

open Keyword Text

/-! ## §1. What is in range. -/

/-- **A position in range**: its rank is a word, and the number of its page
is a signed one. -/
structure Ranked (k p : UInt64) : Prop where
  rank_lt : p.toNat + 1 < 2 ^ 64
  page_lt : p.toNat / (max k 1).toNat + 1 < 2 ^ 63

/-- **A slot in range**: the place is one of the page, the number of the page
has the sign of the direction, and the rank is a word. -/
structure Slot.Regular (k : UInt64) (d : Direction) (s : Slot) : Prop where
  offset_lt : s.offset.toNat < (max k 1).toNat
  signed : 0 < s.page.toInt * d.sign.toInt
  page_lt : s.page.toInt.natAbs < 2 ^ 63
  rank_lt : (max k 1).toNat * (s.page.toInt.natAbs - 1) + s.offset.toNat + 1 < 2 ^ 64

section Slots

variable {k p q : UInt64} {d : Direction} {s : Slot}

theorem max_one_pos (k : UInt64) : 0 < (max k 1).toNat := by
  show 0 < (if k ≤ 1 then 1 else k).toNat
  split
  · exact Nat.one_pos
  · next h =>
    have hk : ¬ k.toNat ≤ 1 := fun hle => h (UInt64.le_iff_toNat_le.mpr hle)
    omega

/-- Pages of no records count as pages of one. -/
theorem locate_max_one (p k : UInt64) (d : Direction) :
    Slot.locate p (max k 1) d = Slot.locate p k d := by
  simp only [Slot.locate, max_one_of_pos (max_one_pos k)]

theorem locate?_max_one (p k : UInt64) (d : Direction) :
    Slot.locate? p (max k 1) d = Slot.locate? p k d := by
  simp only [Slot.locate?, max_one_of_pos (max_one_pos k)]

theorem rank_max_one (s : Slot) (k : UInt64) : s.rank (max k 1) = s.rank k := by
  simp only [Slot.rank, max_one_of_pos (max_one_pos k)]

/-! ## §2. From a position to its slot. -/

/-- The slot of a position in range is worked out without an overflow. -/
theorem Ranked.locate?_eq (h : Ranked k p) :
    Slot.locate? p k d = some (Slot.locate p k d) := by
  rw [← locate?_max_one, locate?_of_lt d (max_one_pos k) h.page_lt, locate_max_one]

theorem Ranked.page_eq (h : Ranked k p) :
    (Slot.locate p k d).page = d.page (p.toNat / (max k 1).toNat + 1) := by
  have hfits := h.page_lt
  rw [← locate_max_one, locate_page d (max_one_pos k) (by omega)]

theorem Ranked.natAbs_page (h : Ranked k p) :
    (Slot.locate p k d).page.toInt.natAbs = p.toNat / (max k 1).toNat + 1 := by
  rw [h.page_eq, page_natAbs d h.page_lt]

theorem toNat_offset_locate (p k : UInt64) (d : Direction) :
    (Slot.locate p k d).offset.toNat = p.toNat % (max k 1).toNat := by
  rw [← locate_max_one, locate_offset d (max_one_pos k)]

/-- **The rank of the slot of a position** is one more than the position. -/
theorem Ranked.rank_eq (h : Ranked k p) :
    ((Slot.locate p k d).rank k).toNat = p.toNat + 1 := by
  have hfits := h.page_lt
  rw [← locate_max_one, ← rank_max_one, rank_locate_cases d (max_one_pos k) h.rank_lt,
    if_pos (by omega)]

/-- **The slot of a position in range** is in range. -/
theorem Ranked.regular (h : Ranked k p) : (Slot.locate p k d).Regular k d where
  offset_lt := by
    rw [toNat_offset_locate]
    exact Nat.mod_lt _ (max_one_pos k)
  signed := by
    rw [h.page_eq]
    exact page_signed d (Nat.succ_pos _) h.page_lt
  page_lt := by
    rw [h.natAbs_page]
    exact h.page_lt
  rank_lt := by
    have hsplit := Nat.div_add_mod p.toNat (max k 1).toNat
    have hrank := h.rank_lt
    rw [h.natAbs_page, toNat_offset_locate, Nat.add_sub_cancel]
    omega

/-! ## §3. From a slot back to its position. -/

/-- The number of a page of the direction is that of the `n`-th page. -/
theorem Slot.Regular.page_eq (h : s.Regular k d) : s.page = d.page s.page.toInt.natAbs := by
  have hsigned := h.signed
  apply Int64.toInt_inj.mp
  rw [toInt_page d h.page_lt]
  cases d with
  | ascending =>
      replace hsigned : 0 < s.page.toInt * 1 := hsigned
      show s.page.toInt = 1 * (s.page.toInt.natAbs : Int)
      omega
  | descending =>
      replace hsigned : 0 < s.page.toInt * -1 := hsigned
      show s.page.toInt = -1 * (s.page.toInt.natAbs : Int)
      omega

/-- No page has the number zero. -/
theorem Slot.Regular.page_pos (h : s.Regular k d) : 0 < s.page.toInt.natAbs := by
  have hsigned := h.signed
  apply Nat.pos_of_ne_zero
  intro hzero
  rw [Int.natAbs_eq_zero.mp hzero, Int.zero_mul] at hsigned
  exact absurd hsigned (Int.lt_irrefl 0)

/-- **No sum or product wraps** in the rank of a slot in range, and nothing
is taken from zero. -/
theorem Slot.Regular.toNat_rank (h : s.Regular k d) :
    (s.rank k).toNat
      = (max k 1).toNat * (s.page.toInt.natAbs - 1) + s.offset.toNat + 1 := by
  obtain ⟨n, hn⟩ : ∃ n, s.page.toInt.natAbs = n + 1 :=
    Nat.exists_eq_succ_of_ne_zero (Nat.ne_of_gt h.page_pos)
  have hpage := h.page_lt
  have hrank := h.rank_lt
  rw [hn, Nat.add_sub_cancel] at hrank
  unfold Slot.rank
  rw [UInt64.toNat_add, UInt64.toNat_add, UInt64.toNat_mul, hn,
    toNat_ofNat_succ_sub_one (by omega), Nat.add_sub_cancel]
  show (((max k 1).toNat * n % 2 ^ 64 + s.offset.toNat) % 2 ^ 64 + 1) % 2 ^ 64 = _
  rw [Nat.mod_eq_of_lt (a := (max k 1).toNat * n) (by omega),
    Nat.mod_eq_of_lt (a := (max k 1).toNat * n + s.offset.toNat) (by omega),
    Nat.mod_eq_of_lt hrank]

/-- The position that a slot in range belongs to. -/
theorem Slot.Regular.toNat_position (h : s.Regular k d) :
    (s.rank k - 1).toNat
      = (max k 1).toNat * (s.page.toInt.natAbs - 1) + s.offset.toNat := by
  have hle : (1 : UInt64) ≤ s.rank k := by
    rw [UInt64.le_iff_toNat_le, h.toNat_rank]
    exact Nat.le_add_left 1 _
  rw [UInt64.toNat_sub_of_le _ _ hle, h.toNat_rank]
  rfl

theorem Slot.Regular.position_div (h : s.Regular k d) :
    (s.rank k - 1).toNat / (max k 1).toNat + 1 = s.page.toInt.natAbs := by
  have hpos := h.page_pos
  rw [h.toNat_position, Nat.mul_add_div (max_one_pos k), Nat.div_eq_of_lt h.offset_lt]
  omega

/-- **The position of a slot in range** is in range. -/
theorem Slot.Regular.ranked (h : s.Regular k d) : Ranked k (s.rank k - 1) where
  rank_lt := by
    have hrank := h.rank_lt
    rw [h.toNat_position]
    omega
  page_lt := by
    rw [h.position_div]
    exact h.page_lt

/-- **A slot in range is the slot of its position.** -/
theorem Slot.Regular.locate_rank (h : s.Regular k d) :
    Slot.locate (s.rank k - 1) k d = s := by
  have hpage : (Slot.locate (s.rank k - 1) k d).page = s.page := by
    rw [h.ranked.page_eq, h.position_div, ← h.page_eq]
  have hoffset : (Slot.locate (s.rank k - 1) k d).offset = s.offset := by
    apply UInt64.toNat_inj.mp
    rw [toNat_offset_locate, h.toNat_position, Nat.mul_add_mod, Nat.mod_eq_of_lt h.offset_lt]
  calc Slot.locate (s.rank k - 1) k d
      = ⟨(Slot.locate (s.rank k - 1) k d).page, (Slot.locate (s.rank k - 1) k d).offset⟩ := rfl
    _ = ⟨s.page, s.offset⟩ := by rw [hpage, hoffset]

/-- Positions of the same rank are the same. -/
theorem Ranked.eq_of_rank_eq (hp : Ranked k p) (hq : Ranked k q)
    (h : (Slot.locate p k d).rank k = (Slot.locate q k d).rank k) : p = q := by
  have hsame : p.toNat + 1 = q.toNat + 1 := by rw [← hp.rank_eq, h, hq.rank_eq]
  apply UInt64.toNat_inj.mp
  omega

end Slots

/-! ## §4. Keys. -/

/-- **A plain key tells its rank and its total.** -/
theorem recordKey_inj {i j N M : UInt64} (h : recordKey i N = recordKey j M) : i = j ∧ N = M := by
  have hread := readRecordKey?_recordKey i N
  rw [h, readRecordKey?_recordKey] at hread
  obtain ⟨hrank, htotal⟩ := Prod.mk.inj (Option.some.inj hread)
  constructor
  · have hi := readUInt64?_toDigits i
    rw [← hrank, readUInt64?_toDigits] at hi
    exact (Option.some.inj hi).symm
  · have hN := readUInt64?_toDigits N
    rw [← htotal, readUInt64?_toDigits] at hN
    exact (Option.some.inj hN).symm

/-- **POSITIONS, SLOTS AND KEYS** correspond one to one, for every page size
and both directions; pages of no records count as pages of one.

  * A position in range has a slot in range, on the page of its number and at
    the place that is left over, which is worked out without an overflow.  The
    rank of this slot is one more than the position, and nothing wraps in it.
  * Positions with the same slot are the same.
  * A slot in range has a rank, in which nothing wraps.  The position before
    it is in range, and its slot is the one given.
  * The key of a slot is read as a record key, and what is read are its rank
    and the total, whatever they are.  A page with this key tells the total.
  * Positions with the same key are the same, and so are the totals. -/
theorem coordinates_bijective (k : UInt64) (d : Direction) :
    (∀ p, Ranked k p →
      (Slot.locate p k d).Regular k d
        ∧ Slot.locate? p k d = some (Slot.locate p k d)
        ∧ (Slot.locate p k d).page.toInt = d.sign.toInt * (p.toNat / (max k 1).toNat + 1 : Nat)
        ∧ (Slot.locate p k d).offset.toNat = p.toNat % (max k 1).toNat
        ∧ ((Slot.locate p k d).rank k).toNat = p.toNat + 1)
    ∧ (∀ p q, Ranked k p → Ranked k q → Slot.locate p k d = Slot.locate q k d → p = q)
    ∧ (∀ s : Slot, s.Regular k d →
      (s.rank k).toNat = (max k 1).toNat * (s.page.toInt.natAbs - 1) + s.offset.toNat + 1
        ∧ Ranked k (s.rank k - 1) ∧ Slot.locate (s.rank k - 1) k d = s)
    ∧ (∀ (s : Slot) (N : UInt64), ∃ rank total,
      readRecordKey? (s.key k N).toList = some (rank, total)
        ∧ readUInt64? rank = some (s.rank k) ∧ readUInt64? total = some N
        ∧ ∀ record url, Page.total [(s.key k N, record)] url = .ok N)
    ∧ (∀ p q N M, Ranked k p → Ranked k q →
      (Slot.locate p k d).key k N = (Slot.locate q k d).key k M → p = q ∧ N = M) := by
  refine ⟨?_, ?_, ?_, ?_, ?_⟩
  · intro p hp
    refine ⟨hp.regular, hp.locate?_eq, ?_, toNat_offset_locate p k d, hp.rank_eq⟩
    rw [hp.page_eq, toInt_page d hp.page_lt]
  · intro p q hp hq hslot
    exact hp.eq_of_rank_eq hq (by rw [hslot])
  · intro s hs
    exact ⟨hs.toNat_rank, hs.ranked, hs.locate_rank⟩
  · intro s N
    refine ⟨_, _, readRecordKey?_recordKey (s.rank k) N, readUInt64?_toDigits _,
      readUInt64?_toDigits N, ?_⟩
    intro record url
    apply total_of_plainKeys url (List.cons_ne_nil _ _)
    intro m hm
    exact ⟨s.rank k, by rw [List.mem_singleton.mp hm]; rfl⟩
  · intro p q N M hp hq hkey
    obtain ⟨hrank, htotal⟩ := recordKey_inj hkey
    exact ⟨hp.eq_of_rank_eq hq hrank, htotal⟩

/-- The last page of two records whose number is a signed one, in descending
order: its first position, the slot of its second one, and the key of the
first against that of the first position of all. -/
theorem coordinates_bijective_lastPage :
    Ranked 2 18446744073709551612 ∧ Ranked 2 0
      ∧ ((Slot.locate 18446744073709551612 2 .descending).rank 2).toNat = 18446744073709551613
      ∧ Slot.locate 18446744073709551612 2 .descending ≠ Slot.locate 0 2 .descending
      ∧ Slot.Regular 2 .descending ⟨-9223372036854775807, 1⟩
      ∧ Slot.locate (Slot.rank ⟨-9223372036854775807, 1⟩ 2 - 1) 2 .descending
        = ⟨-9223372036854775807, 1⟩
      ∧ (Slot.locate 18446744073709551612 2 .descending).key 2 7
        ≠ (Slot.locate 0 2 .descending).key 2 7 := by
  have hlast : Ranked 2 18446744073709551612 := ⟨by decide, by decide⟩
  have hfirst : Ranked 2 0 := ⟨by decide, by decide⟩
  have hslot : Slot.Regular 2 .descending ⟨-9223372036854775807, 1⟩ :=
    ⟨by decide, by decide, by decide, by decide⟩
  obtain ⟨hto, hslots, hback, -, hkeys⟩ := coordinates_bijective 2 .descending
  obtain ⟨-, -, -, -, hrank⟩ := hto _ hlast
  obtain ⟨-, -, hlocate⟩ := hback _ hslot
  refine ⟨hlast, hfirst, hrank, ?_, hslot, hlocate, ?_⟩
  · intro hsame
    exact absurd (hslots _ _ hlast hfirst hsame) (by decide)
  · intro hsame
    exact absurd (hkeys _ _ 7 7 hlast hfirst hsame).1 (by decide)

end MaterialSearch
