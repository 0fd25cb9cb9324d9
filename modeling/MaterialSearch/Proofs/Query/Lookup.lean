/-
  MaterialSearch.Proofs.Query.Lookup
  ────────────────────────────────
  **UNDER WHICH KEY A RECORD IS LOOKED UP.**

  The number of records is read from keys of many spellings: with blanks
  of any kind, leading zeros, digits of any script.  A record is looked up
  under one key only, the plain one, and under its own rank only as long
  as the number of its page is no more than `2^63`.  So a page may tell the
  number of its records and yet lack each of them.  In descending order the
  page of number `2^63` is not looked at at all.

  Main definitions:
    * `digitsValue`   — the number that digits of any script write
    * `recordNamed?`  — the rank and the total that a key names

  Main results:
    * `recordNamed?_recordKey` — a plain key names its record
    * `key_locate`             — the key that is looked up
    * `recordAt_looked_up`     — what is found under it
    * `recordAt_named`         — **which records are found**
    * `recordAt_zeroPadded`    — a record that is not
-/
import MaterialSearch.Proofs.Page.Numbering
import MaterialSearch.Proofs.Page.RecordKey
import MaterialSearch.Proofs.Query.Served
import MaterialSearch.Transport.Canned

namespace MaterialSearch

open Keyword Text

/-! ## §1. Digits of any script. -/

namespace Text

/-- The value of a decimal digit. -/
def digitValue (c : Char) : Nat :=
  match digitZeros.find? fun z => decide (z ≤ c.toNat) && decide (c.toNat < z + 10) with
  | some z => c.toNat - z
  | none => 0

/-- **The number that digits write.** -/
def digitsValue (cs : List Char) : Nat := cs.foldl (fun n c => 10 * n + digitValue c) 0

theorem digitValue_of_isDigit {c : Char} (h : c.isDigit = true) :
    digitValue c = c.toNat - '0'.toNat := by
  simp only [Char.isDigit, Bool.and_eq_true, decide_eq_true_eq] at h
  have hlo : 48 ≤ c.toNat := UInt32.le_iff_toNat_le.mp h.1
  have hhi : c.toNat ≤ 57 := UInt32.le_iff_toNat_le.mp h.2
  have hfirst : (decide (0x30 ≤ c.toNat) && decide (c.toNat < 0x30 + 10)) = true := by
    simp only [Bool.and_eq_true, decide_eq_true_eq]
    omega
  have hzeros : digitZeros = 0x30 :: digitZeros.tail := rfl
  unfold digitValue
  rw [hzeros, List.find?_cons, hfirst]
  rfl

/-- The digits of ASCII write what they always do. -/
theorem digitsValue_eq {cs : List Char} (h : cs.all Char.isDigit = true) :
    digitsValue cs = Nat.ofDigitChars 10 cs 0 := by
  have hfrom : ∀ n : Nat, cs.foldl (fun n c => 10 * n + digitValue c) n = Nat.ofDigitChars 10 cs n := by
    induction cs with
    | nil => exact fun n => rfl
    | cons c cs ih =>
        rw [List.all_cons, Bool.and_eq_true] at h
        intro n
        rw [List.foldl_cons, digitValue_of_isDigit h.1, ih h.2]
        rfl
  exact hfrom 0

theorem digitsValue_toDigits (n : Nat) : digitsValue (Nat.toDigits 10 n) = n := by
  rw [digitsValue_eq (all_isDigit_toDigits n), Nat.ofDigitChars_ten_toDigits]

example : digitsValue "007".toList = 7 ∧ digitsValue "\u0663\u0664".toList = 34 := by decide

end Text

/-! ## §2. Keys and the records that they name. -/

/-- **The rank and the total that a key names**, in any spelling. -/
def recordNamed? (key : String) : Option (Nat × Nat) :=
  (readRecordKey? key.toList).map fun digits => (digitsValue digits.1, digitsValue digits.2)

theorem recordNamed?_recordKey (rank total : UInt64) :
    recordNamed? (recordKey rank total) = some (rank.toNat, total.toNat) := by
  unfold recordNamed?
  rw [readRecordKey?_recordKey, Option.map_some, digitsValue_toDigits, digitsValue_toDigits]

/-! ## §3. What is looked up. -/

/-- **The key that is looked up** for the record of a rank. -/
theorem key_locate (d : Direction) {k N : UInt64} {rank : Nat} (hk : 0 < k.toNat)
    (hpos : 1 ≤ rank) (h : rank < 2 ^ 64) :
    (Slot.locate (UInt64.ofNat (rank - 1)) k d).key k N
      = recordKey (UInt64.ofNat (if (rank - 1) / k.toNat < 2 ^ 63 then rank else 2 ^ 64 - rank)) N := by
  have hposition : (UInt64.ofNat (rank - 1)).toNat = rank - 1 :=
    UInt64.toNat_ofNat_of_lt' (show rank - 1 < 2 ^ 64 by omega)
  have hrank := rank_locate_cases d (p := UInt64.ofNat (rank - 1)) hk (by omega)
  rw [hposition, show rank - 1 + 1 = rank by omega] at hrank
  unfold Slot.key
  rw [← hrank, UInt64.ofNat_toNat]

namespace Search

variable {t : Transport} {s : Search} {position N : UInt64} {slot : Slot} {body : Page}

/-- **What is looked up on a page that is in the store**: an object under the
key is the record, and without one the record is missing. -/
theorem recordAt_looked_up {key : String}
    (hslot : Slot.locate? position s.query.pageSize s.query.direction = some slot)
    (hbody : s.cache.page? slot.page = some body) (hN : s.cache.total = some N)
    (hkey : slot.key s.query.pageSize N = key) :
    (∀ record, body.lookup key = some (.obj record) →
        s.recordAt t position = (.ok (Entry.ofRecord record), s))
      ∧ ((∀ record, body.lookup key ≠ some (.obj record)) →
        s.recordAt t position = (.error (.missingRecord key slot.page), s)) := by
  rw [recordAt_stored hslot (PageCache.contains_of_page? hbody)]
  unfold stored
  simp only [hN, hbody, Option.getD_some, Option.bind_some, hkey]
  constructor
  · intro record hrecord
    unfold entryAt?
    rw [hrecord]
  · intro hnone
    have habsent : entryAt? body key = none := by
      unfold entryAt?
      split
      · next record hrecord => exact absurd hrecord (hnone record)
      · rfl
    rw [habsent]

end Search

/-- **WHICH RECORDS ARE FOUND** on a page that is in the store.  As long as
the number of the page is no more than `2^63` it is the plain key of the
record that is looked up: an object under it is the record, and without one
the record is missing, whatever other keys of the page name it.  Beyond
that the key that is looked up names another record, so that no spelling of
its own helps.  In descending order the number `2^63` has no opposite, and
the program breaks off. -/
theorem recordAt_named (t : Transport) (s : Search) (body : Page) (N : UInt64) (rank : Nat)
    (hpos : 1 ≤ rank) (hle : rank ≤ N.toNat)
    (hbody : s.cache.page? (Slot.locate (UInt64.ofNat (rank - 1)) s.query.pageSize
      s.query.direction).page = some body)
    (hN : s.cache.total = some N) :
    let position := UInt64.ofNat (rank - 1)
    let n := (rank - 1) / s.query.pageSize.toNat + 1
    let page := (Slot.locate position s.query.pageSize s.query.direction).page
    let plain := recordKey (UInt64.ofNat rank) N
    let other := recordKey (UInt64.ofNat (2 ^ 64 - rank)) N
    (n < 2 ^ 63 ∨ (n = 2 ^ 63 ∧ s.query.direction = .ascending) →
      recordNamed? plain = some (rank, N.toNat)
      ∧ (∀ record, body.lookup plain = some (.obj record) →
          s.recordAt t position = (.ok (Entry.ofRecord record), s))
      ∧ ((∀ key record, recordNamed? key = some (rank, N.toNat) →
            body.lookup key = some (.obj record) → key ≠ plain) →
          s.recordAt t position = (.error (.missingRecord plain page), s)))
    ∧ (n = 2 ^ 63 ∧ s.query.direction = .descending →
      s.recordAt t position = (.error .overflow, s))
    ∧ (2 ^ 63 < n →
      recordNamed? other ≠ some (rank, N.toNat)
      ∧ (∀ record, body.lookup other = some (.obj record) →
          s.recordAt t position = (.ok (Entry.ofRecord record), s))
      ∧ ((∀ record, body.lookup other ≠ some (.obj record)) →
          s.recordAt t position = (.error (.missingRecord other page), s))) := by
  intro position n page plain other
  have hword : rank < 2 ^ 64 := Nat.lt_of_le_of_lt hle N.toNat_lt
  have hposition : position.toNat = rank - 1 :=
    UInt64.toNat_ofNat_of_lt' (show rank - 1 < 2 ^ 64 by omega)
  have hdiv := Nat.div_le_self (rank - 1) s.query.pageSize.toNat
  have hn : n = (rank - 1) / s.query.pageSize.toNat + 1 := rfl
  have hlocate := locate?_eq s.query.direction (p := position) s.query.pageSize_pos
    (show position.toNat / s.query.pageSize.toNat + 1 < 2 ^ 64 by
      rw [hposition]
      omega)
  rw [hposition, ← hn] at hlocate
  have hkey : (Slot.locate position s.query.pageSize s.query.direction).key s.query.pageSize N = _ :=
    key_locate s.query.direction s.query.pageSize_pos hpos hword
  refine ⟨?_, ?_, ?_⟩
  · intro hplainly
    have hslot : Slot.locate? position s.query.pageSize s.query.direction
        = some (Slot.locate position s.query.pageSize s.query.direction) := by
      rw [hlocate, if_neg]
      intro hnoslot
      obtain ⟨hdescending, hlast⟩ := hnoslot
      rcases hplainly with hsmall | ⟨-, hascending⟩
      · omega
      · exact absurd (hascending.symm.trans hdescending) (by decide)
    rw [if_pos (show (rank - 1) / s.query.pageSize.toNat < 2 ^ 63 by omega)] at hkey
    have hplain : recordNamed? plain = some (rank, N.toNat) := by
      rw [recordNamed?_recordKey, UInt64.toNat_ofNat_of_lt' hword]
    obtain ⟨hpresent, habsent⟩ := Search.recordAt_looked_up (t := t) hslot hbody hN hkey
    exact ⟨hplain, hpresent, fun hothers => habsent fun record hrecord =>
      hothers plain record hplain hrecord rfl⟩
  · intro hlast
    rw [if_pos ⟨hlast.2, hlast.1⟩] at hlocate
    exact Search.recordAt_unlocated hlocate
  · intro hlarge
    have hslot : Slot.locate? position s.query.pageSize s.query.direction
        = some (Slot.locate position s.query.pageSize s.query.direction) := by
      rw [hlocate, if_neg (fun hlast => by omega)]
    rw [if_neg (show ¬(rank - 1) / s.query.pageSize.toNat < 2 ^ 63 by omega)] at hkey
    -- So late a page has as many records before it, so that the two ranks differ.
    have hrank : 2 ^ 63 < rank := by omega
    refine ⟨?_, Search.recordAt_looked_up hslot hbody hN hkey⟩
    rw [recordNamed?_recordKey, UInt64.toNat_ofNat_of_lt' (show 2 ^ 64 - rank < 2 ^ 64 by omega)]
    intro hsame
    have hsame := (Prod.mk.inj (Option.some.inj hsame)).1
    omega

/-- A query whose only page has been handed in. -/
def Sample.handedIn (batchSize : UInt64) (number : Int64) (page : Page) : Search :=
  ((Search.start { Config.standard with batchSize := batchSize }).insertPage number page).2

/-- A page of two records, the key of the first with a zero in front. -/
def Sample.zeroPadded : Page :=
  [("01 of 2", .obj [("auid", .str "a")]), ("2 of 2", .obj [("auid", .str "b")])]

/-- A page of one record, the first one beyond `2^63`. -/
def Sample.farRecord : Page :=
  [("9223372036854775809 of 18446744073709551615", .obj [("auid", .str "x")])]

/-- No response at all. -/
def Sample.offline : Transport := Canned.transport Canned.empty

/-- A record under its plain key, and one beyond `2^63`, which is missing. -/
theorem recordAt_named_far :
    (Sample.handedIn 2 1 Sample.zeroPadded).recordAt Sample.offline 1
        = (.ok (Entry.ofRecord [("auid", .str "b")]), Sample.handedIn 2 1 Sample.zeroPadded)
      ∧ (Sample.handedIn 1 (-9223372036854775807) Sample.farRecord).recordAt Sample.offline
          9223372036854775808
        = (.error (.missingRecord "9223372036854775807 of 18446744073709551615"
            (-9223372036854775807)),
          Sample.handedIn 1 (-9223372036854775807) Sample.farRecord) := by
  constructor
  · obtain ⟨hplain, -⟩ := recordAt_named Sample.offline (Sample.handedIn 2 1 Sample.zeroPadded)
      Sample.zeroPadded 2 2 (by decide) (by decide) (by rfl) (by rfl)
    exact (hplain (.inl (by decide))).2.1 _ (by rfl)
  · obtain ⟨-, -, hother⟩ := recordAt_named Sample.offline
      (Sample.handedIn 1 (-9223372036854775807) Sample.farRecord) Sample.farRecord
      18446744073709551615 9223372036854775809 (by decide) (by decide) (by rfl) (by rfl)
    refine (hother (by decide)).2.2 ?_
    intro record hrecord
    have hnone : Sample.farRecord.lookup "9223372036854775807 of 18446744073709551615" = none := by
      decide
    rw [show recordKey _ _ = "9223372036854775807 of 18446744073709551615" by decide, hnone]
      at hrecord
    exact absurd hrecord (by simp)

/-- **A record that is missing under another spelling of its key**: the page
tells two records on account of it, and reads it as that of the first. -/
theorem recordAt_zeroPadded :
    Page.total Sample.zeroPadded "" = .ok 2
      ∧ recordNamed? "01 of 2" = some (1, 2)
      ∧ Sample.zeroPadded.lookup "01 of 2" = some (.obj [("auid", .str "a")])
      ∧ (Sample.handedIn 2 1 Sample.zeroPadded).recordAt Sample.offline 0
        = (.error (.missingRecord "1 of 2" 1), Sample.handedIn 2 1 Sample.zeroPadded) := by
  exact ⟨by decide, by decide, by rfl, by decide +kernel⟩

end MaterialSearch
