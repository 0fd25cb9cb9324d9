/-
  MaterialSearch.Proofs.Page.RecordKey
  ────────────────────────────────
  **READING PLAIN RECORD KEYS.**

  The reader of record keys takes blanks and digits of many kinds; here it
  is shown that it reads the plain keys as they were written, and that a
  page with such keys alone tells the number of records in them.

  Main results:
    * `readRecordKey?_recordKey` — both numbers of a plain key
    * `total_of_plainKeys`       — the total that a page of such keys tells
-/
import MaterialSearch.Page.Basic
import MaterialSearch.Text.Numeral

namespace MaterialSearch

open Text

/-! ## §1. Runs of digits. -/

/-- The characters of a plain key. -/
theorem toList_recordKey (i N : UInt64) :
    (recordKey i N).toList
      = Nat.toDigits 10 i.toNat ++ (' ' :: 'o' :: 'f' :: ' ' :: Nat.toDigits 10 N.toNat) := by
  have hrepr : ∀ n : Nat, (toString n).toList = Nat.toDigits 10 n := fun n => by
    show (Nat.repr n).toList = _
    simp [Nat.repr]
  unfold recordKey
  rw [String.toList_append, String.toList_append, hrepr, hrepr, List.append_assoc]
  rfl

theorem isDecimalDigit_of_mem_toDigits {n : Nat} {c : Char} (hc : c ∈ Nat.toDigits 10 n) :
    isDecimalDigit c = true :=
  isDecimalDigit_of_isDigit (Nat.isDigit_of_mem_toDigits (by omega) (by omega) hc)

theorem isBlank_eq_false_of_isDigit {c : Char} (h : c.isDigit = true) : isBlank c = false := by
  simp only [Char.isDigit, Bool.and_eq_true, decide_eq_true_eq] at h
  have hlo : 48 ≤ c.toNat := UInt32.le_iff_toNat_le.mp h.1
  have hhi : c.toNat ≤ 57 := UInt32.le_iff_toNat_le.mp h.2
  simp only [isBlank, blankRanges, List.any_cons, List.any_nil, Bool.or_false,
    Bool.or_eq_false_iff, Bool.and_eq_false_iff, decide_eq_false_iff_not]
  omega

/-- No blank stands before a written number. -/
theorem dropWhile_isBlank_toDigits (n : Nat) (cs : List Char) :
    (Nat.toDigits 10 n ++ cs).dropWhile isBlank = Nat.toDigits 10 n ++ cs := by
  cases hd : Nat.toDigits 10 n with
  | nil => exact absurd hd Nat.toDigits_ne_nil
  | cons d ds =>
      have hmem : d ∈ Nat.toDigits 10 n := by
        rw [hd]
        exact List.mem_cons_self
      have hblank : isBlank d = false :=
        isBlank_eq_false_of_isDigit (Nat.isDigit_of_mem_toDigits (by omega) (by omega) hmem)
      rw [List.cons_append, List.dropWhile_cons, hblank]
      rfl

/-- A written number is cut off whole when no digit follows it. -/
theorem takeDigits?_toDigits (n : Nat) {cs : List Char}
    (h : cs.takeWhile isDecimalDigit = []) :
    takeDigits? (Nat.toDigits 10 n ++ cs) = some (Nat.toDigits 10 n, cs) := by
  have hall : ∀ c ∈ Nat.toDigits 10 n, isDecimalDigit c = true :=
    fun c hc => isDecimalDigit_of_mem_toDigits hc
  have hrest : cs.dropWhile isDecimalDigit = cs := by
    have hcut := List.takeWhile_append_dropWhile (p := isDecimalDigit) (l := cs)
    rwa [h, List.nil_append] at hcut
  have hne : (Nat.toDigits 10 n).isEmpty = false := by
    simp [Nat.toDigits_ne_nil]
  unfold takeDigits?
  rw [List.takeWhile_append_of_pos hall, List.dropWhile_append_of_pos hall, h, hrest,
    List.append_nil]
  simp only [hne, Bool.false_eq_true, if_false]

/-! ## §2. Plain keys. -/

/-- **A plain key is read as it was written.** -/
theorem readRecordKey?_recordKey (i N : UInt64) :
    readRecordKey? (recordKey i N).toList
      = some (Nat.toDigits 10 i.toNat, Nat.toDigits 10 N.toNat) := by
  let total := Nat.toDigits 10 N.toNat
  have hspace : (' ' :: 'o' :: 'f' :: ' ' :: total).takeWhile isDecimalDigit = [] := by
    rw [List.takeWhile_cons]
    rfl
  have hbefore : dropBlanks? (' ' :: 'o' :: 'f' :: ' ' :: total)
      = some ('o' :: 'f' :: ' ' :: total) := by
    show some (('o' :: 'f' :: ' ' :: total).dropWhile isBlank) = _
    rw [List.dropWhile_cons]
    rfl
  have hword : dropOf? ('o' :: 'f' :: ' ' :: total) = some (' ' :: total) := rfl
  have hafter : dropBlanks? (' ' :: total) = some total := by
    have hblank := dropWhile_isBlank_toDigits N.toNat []
    rw [List.append_nil] at hblank
    show some (total.dropWhile isBlank) = _
    rw [hblank]
  have hend : takeDigits? total = some (total, []) := by
    have hcut : takeDigits? (total ++ []) = some (total, []) :=
      takeDigits?_toDigits N.toNat rfl
    rwa [List.append_nil] at hcut
  unfold readRecordKey?
  rw [toList_recordKey, dropWhile_isBlank_toDigits, takeDigits?_toDigits _ hspace]
  simp only [Option.bind_some, hbefore, hword, hafter, hend, List.dropWhile_nil,
    List.isEmpty_nil, if_true]
  rfl

/-- **A page with plain keys alone tells the total in them.** -/
theorem total_of_plainKeys {page : Page} {N : UInt64} (url : String) (hne : page ≠ [])
    (hkeys : ∀ m ∈ page, ∃ i, m.1 = recordKey i N) : page.total url = .ok N := by
  cases page with
  | nil => exact absurd rfl hne
  | cons first rest =>
      obtain ⟨i, hi⟩ := hkeys first List.mem_cons_self
      have hdigits : Page.totalDigits? (first :: rest) = some (Nat.toDigits 10 N.toNat) := by
        unfold Page.totalDigits?
        rw [List.findSome?_cons, hi, readRecordKey?_recordKey]
        rfl
      unfold Page.total
      simp only [hdigits, Option.bind_some, readUInt64?_toDigits]

end MaterialSearch
