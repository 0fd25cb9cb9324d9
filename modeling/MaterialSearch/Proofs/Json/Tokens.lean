/-
  MaterialSearch.Proofs.Json.Tokens
  ────────────────────────────────
  **THE TOKENS OF WRITTEN JSON.**

  A compact text is cut into tokens as it was put together.  What is read
  of a part does not depend on what follows, except that a name or a number
  goes on until a character that belongs to neither; in a compact text that
  is the mark after it, or the end.

  Main definitions:
    * `unitOf`    — how a character of a string is written
    * `wholeText` — how a whole number is written
    * `Scans`     — the characters that are cut into some tokens

  Main results:
    * `scanFrom?_escapeChar`, `stringOfUnits?_unitOf`  — **strings**
    * `Scans.string`, `Scans.run`, `Scans.whole`       — single tokens
    * `Scans.mark`, `Scans.list`                       — tokens one after the other
    * `readNumberText?_toString`, `value?_wholeText_int` — **whole numbers**
-/
import MaterialSearch.Json.Basic
import MaterialSearch.Json.Reader
import Mathlib.Data.List.Forall2

namespace MaterialSearch.Json

open Numeric Text

/-! ## §1. Strings. -/

/-- **How a character is written**: a control character without a short escape by
its number. -/
def unitOf (c : Char) : TextUnit :=
  if c.toNat < 0x20 ∧ c ∉ ['\x08', '\t', '\n', '\x0c', '\r'] then .unit c.toNat else .char c

/-- One character, and what goes on after it. -/
theorem scanFrom?_step {rev ts : List Token} {p next : Pending} {c : Char} {cs : List Char}
    (h : p.step? c = some (ts, next)) :
    Token.scanFrom? rev p (c :: cs) = Token.scanFrom? (ts.reverse ++ rev) next cs := by
  rw [Token.scanFrom?, h]

theorem scanFrom?_none {rev : List Token} {p : Pending} {c : Char} {cs : List Char}
    (h : p.step? c = none) : Token.scanFrom? rev p (c :: cs) = none := by
  rw [Token.scanFrom?, h]

theorem hexValue?_digitChar : ∀ n < 16, hexValue? (Nat.digitChar n) = some n := by decide

/-- **A character is read as it was written.** -/
theorem scanFrom?_escapeChar (rev : List Token) (units : List TextUnit) (c : Char)
    (cs : List Char) : Token.scanFrom? rev (.text units) (escapeChar c ++ cs)
      = Token.scanFrom? rev (.text (unitOf c :: units)) cs := by
  by_cases hshort : c ∈ ['"', '\\', '\x08', '\x0c', '\n', '\r', '\t']
  · simp only [List.mem_cons, List.not_mem_nil, or_false] at hshort
    rcases hshort with rfl | rfl | rfl | rfl | rfl | rfl | rfl <;> rfl
  simp only [List.mem_cons, List.not_mem_nil, or_false, not_or] at hshort
  obtain ⟨hquote, hback, hb, hf, hn, hr, ht⟩ := hshort
  unfold escapeChar
  rw [if_neg hquote, if_neg hback, if_neg hb, if_neg hf, if_neg hn, if_neg hr, if_neg ht]
  by_cases hcontrol : c.toNat < 0x20
  · -- By its number: two digits that are zero, and the two that count.
    have hunit : unitOf c = .unit c.toNat := if_pos ⟨hcontrol, by simp [hb, hf, hn, hr, ht]⟩
    have hhigh : (Pending.unit units 1 0).step? (Nat.digitChar (c.toNat / 16))
        = some ([], .unit units 0 (c.toNat / 16)) := by
      simp [Pending.step?, hexValue?_digitChar _ (show c.toNat / 16 < 16 by omega)]
    have hlow : (Pending.unit units 0 (c.toNat / 16)).step? (Nat.digitChar (c.toNat % 16))
        = some ([], .text (.unit c.toNat :: units)) := by
      simp [Pending.step?, hexValue?_digitChar _ (show c.toNat % 16 < 16 by omega),
        Nat.div_add_mod]
    rw [if_pos hcontrol, hunit]
    show Token.scanFrom? rev (.unit units 1 0) (_ :: _ :: cs) = _
    rw [scanFrom?_step hhigh, scanFrom?_step hlow]
    rfl
  · have hunit : unitOf c = .char c := if_neg fun h => hcontrol h.1
    have hself : (Pending.text units).step? c = some ([], .text (.char c :: units)) := by
      simp [Pending.step?, hquote, hback, hcontrol]
    rw [if_neg hcontrol, hunit, List.singleton_append, scanFrom?_step hself]
    rfl

/-- The characters of a string are read one after the other. -/
theorem scanFrom?_escaped (rev : List Token) (units : List TextUnit) (cs rest : List Char) :
    Token.scanFrom? rev (.text units) (cs.flatMap escapeChar ++ rest)
      = Token.scanFrom? rev (.text ((cs.map unitOf).reverse ++ units)) rest := by
  induction cs generalizing units with
  | nil => rfl
  | cons c cs ih =>
    rw [List.flatMap_cons, List.append_assoc, scanFrom?_escapeChar, ih, List.map_cons,
      List.reverse_cons, List.append_assoc, List.singleton_append]

theorem textOfUnits?_unit {code : Nat} (us : List TextUnit) (h : code < 0xD800 ∨ 0xDFFF < code) :
    textOfUnits? (.unit code :: us) = (textOfUnits? us).map (Char.ofNat code :: ·) := by
  rw [textOfUnits?.eq_def]
  exact if_pos h

/-- The characters that are read are those that were written. -/
theorem textOfUnits?_unitOf (cs : List Char) : textOfUnits? (cs.map unitOf) = some cs := by
  induction cs with
  | nil => rfl
  | cons c cs ih =>
    rw [List.map_cons]
    by_cases hcontrol : c.toNat < 0x20 ∧ c ∉ ['\x08', '\t', '\n', '\x0c', '\r']
    · rw [unitOf, if_pos hcontrol, textOfUnits?_unit _ (Or.inl (by omega)), ih, Option.map_some,
        Char.ofNat_toNat]
    · rw [unitOf, if_neg hcontrol, textOfUnits?, ih]
      rfl

/-- **A string is read as it was written.** -/
theorem stringOfUnits?_unitOf (s : String) : stringOfUnits? (s.toList.map unitOf) = some s := by
  rw [stringOfUnits?, textOfUnits?_unitOf, Option.map_some, String.ofList_toList]

/-! ## §2. Tokens one after the other. -/

/-- No name and no number goes on here. -/
def Ended (rest : List Char) : Prop := ∀ c ∈ rest.head?, isRunChar c = false

/-- **The characters are cut into the tokens**, whatever stands behind the end of
the last of them. -/
def Scans (cs : List Char) (ts : List Token) : Prop :=
  ∀ rev rest, Ended rest →
    Token.scanFrom? rev .idle (cs ++ rest) = Token.scanFrom? (ts.reverse ++ rev) .idle rest

/-- A character that is a token of its own and ends what stands before it. -/
structure IsMark (c : Char) (t : Token) : Prop where
  begins : begin? c = some ([t], .idle)
  ends : isRunChar c = false

theorem Scans.nil : Scans [] [] := fun _ _ _ => rfl

/-- **Two parts with a mark between them.** -/
theorem Scans.mark {cs ds : List Char} {ts us : List Token} {c : Char} {t : Token}
    (hcs : Scans cs ts) (hc : IsMark c t) (hds : Scans ds us) :
    Scans (cs ++ c :: ds) (ts ++ t :: us) := by
  intro rev rest hrest
  have hmark : Ended (c :: (ds ++ rest)) := by
    intro d hd
    rw [← Option.some.inj hd]
    exact hc.ends
  have hstep : Pending.idle.step? c = some ([t], .idle) := hc.begins
  rw [List.append_assoc, List.cons_append, hcs rev _ hmark, scanFrom?_step hstep,
    hds _ _ hrest]
  simp

/-- A string between its quotes. -/
theorem Scans.string (s : String) :
    Scans (stringText s).toList [.string (s.toList.map unitOf)] := by
  intro rev rest _
  rw [stringText, String.toList_ofList, List.cons_append, List.append_assoc,
    scanFrom?_step (show Pending.idle.step? '"' = some ([], .text []) from rfl),
    scanFrom?_escaped, List.append_nil]
  have hquote : (Pending.text (s.toList.map unitOf).reverse).step? '"'
      = some ([.string (s.toList.map unitOf)], .idle) := by
    simp [Pending.step?]
  exact scanFrom?_step hquote

/-- A name or a number goes on as long as its characters do. -/
theorem scanFrom?_run (rev : List Token) (run cs rest : List Char)
    (h : ∀ c ∈ cs, isRunChar c = true) :
    Token.scanFrom? rev (.run run) (cs ++ rest)
      = Token.scanFrom? rev (.run (cs.reverse ++ run)) rest := by
  induction cs generalizing run with
  | nil => rfl
  | cons c cs ih =>
    have hstep : (Pending.run run).step? c = some ([], .run (c :: run)) :=
      if_pos (h c List.mem_cons_self)
    rw [List.cons_append, scanFrom?_step hstep, List.reverse_cons, List.append_assoc]
    exact ih (c :: run) fun d hd => h d (List.mem_cons_of_mem c hd)

/-- Characters of names and numbers have no other meaning where a token begins. -/
theorem begin?_of_isRunChar {c : Char} (h : isRunChar c = true) :
    begin? c = some ([], .run [c]) := by
  have hne : ∀ d, isRunChar d = false → c ≠ d := by
    rintro d hd rfl
    exact absurd h (by simp [hd])
  have hspace : isSpace c = false := by
    simp [isSpace, hne ' ' rfl, hne '\t' rfl, hne '\n' rfl, hne '\r' rfl]
  simp [begin?, hspace, hne '"' rfl, hne '[' rfl, hne ']' rfl, hne '\x7b' rfl, hne '\x7d' rfl,
    hne ':' rfl, hne ',' rfl, h]

/-- **A name or a number.** -/
theorem Scans.run {cs : List Char} {t : Token} (hne : cs ≠ [])
    (hcs : cs.all isRunChar = true) (ht : readRun? cs = some t) : Scans cs [t] := by
  intro rev rest hrest
  obtain ⟨c, cs, rfl⟩ := List.exists_cons_of_ne_nil hne
  rw [List.all_eq_true] at hcs
  have hbegin : Pending.idle.step? c = some ([], .run [c]) :=
    begin?_of_isRunChar (hcs c List.mem_cons_self)
  rw [List.cons_append, scanFrom?_step hbegin, List.reverse_nil, List.nil_append,
    scanFrom?_run rev [c] cs rest fun d hd => hcs d (List.mem_cons_of_mem c hd)]
  have hread : readRun? (cs.reverse ++ [c]).reverse = some t := by
    rw [List.reverse_append, List.reverse_reverse]
    exact ht
  cases rest with
  | nil =>
    rw [Token.scanFrom?, Pending.finish?, hread]
    rfl
  | cons d rest =>
    -- What ends the run is looked at as if nothing were pending.
    have hd : isRunChar d = false := hrest d rfl
    have hstep : (Pending.run (cs.reverse ++ [c])).step? d
        = (begin? d).map fun next => (t :: next.1, next.2) := by
      rw [Pending.step?, hd, if_neg (by decide), hread, Option.bind_some]
    have hidle : Pending.idle.step? d = begin? d := rfl
    cases hnext : begin? d with
    | none =>
      rw [hnext] at hstep hidle
      rw [scanFrom?_none hstep, scanFrom?_none hidle]
    | some next =>
      rw [hnext] at hstep hidle
      rw [scanFrom?_step hstep, scanFrom?_step hidle]
      simp

/-- **Parts with commas between them.** -/
theorem Scans.list {css : List (List Char)} {tss : List (List Token)}
    (h : List.Forall₂ Scans css tss) :
    Scans (List.intercalate [','] css) (List.intercalate [.comma] tss) := by
  have hcomma : IsMark ',' .comma := ⟨rfl, rfl⟩
  induction h with
  | nil => exact Scans.nil
  | @cons cs ts css tss hcs hrest ih =>
    cases hrest with
    | nil => simpa using hcs
    | cons hnext hrest =>
      rw [List.intercalate_cons_cons, List.intercalate_cons_cons, List.append_assoc,
        List.append_assoc]
      exact hcs.mark hcomma ih

/-! ## §3. Whole numbers. -/

/-- A whole number as it is written. -/
def wholeText (negative : Bool) (n : Nat) : NumberText :=
  ⟨negative, Nat.toDigits 10 n, [], true, false, []⟩

/-- The digits of a number do not begin with zero, unless the number is zero. -/
theorem head?_toDigits {n : Nat} (h : 0 < n) : ∀ c ∈ (Nat.toDigits 10 n).head?, c ≠ '0' := by
  induction n using Nat.strongRecOn with
  | ind n ih =>
    obtain hsmall | hgreat := Nat.lt_or_ge n 10
    · have hdigit : ∀ d < 10, 0 < d → Nat.digitChar d ≠ '0' := by decide
      rw [Nat.toDigits_of_lt_base hsmall]
      intro c hc
      rw [← Option.some.inj hc]
      exact hdigit n hsmall h
    · rw [Nat.toDigits_of_base_le (by omega) hgreat,
        List.head?_append_of_ne_nil _ Nat.toDigits_ne_nil]
      exact ih (n / 10) (by omega) (by omega)

theorem isWholeText_toDigits (n : Nat) : isWholeText (Nat.toDigits 10 n) = true := by
  obtain rfl | hpos := Nat.eq_zero_or_pos n
  · rfl
  · have hall := all_isDigit_toDigits n
    have hhead := head?_toDigits hpos
    cases hdigits : Nat.toDigits 10 n with
    | nil => exact absurd hdigits Nat.toDigits_ne_nil
    | cons c cs =>
      rw [hdigits] at hall hhead
      have hc : c ≠ '0' := hhead c rfl
      rw [List.all_cons, Bool.and_eq_true] at hall
      rw [isWholeText.eq_3 c cs fun h _ => hc h]
      simp [hall.1, hall.2, hc]

theorem readUnsigned?_toDigits (negative : Bool) (n : Nat) :
    readUnsigned? negative (Nat.toDigits 10 n) = some (wholeText negative n) := by
  have hall := List.all_eq_true.mp (all_isDigit_toDigits n)
  have htake : (Nat.toDigits 10 n ++ []).takeWhile Char.isDigit = Nat.toDigits 10 n ++ [] :=
    List.takeWhile_append_of_pos hall
  have hdrop : (Nat.toDigits 10 n ++ []).dropWhile Char.isDigit = [] :=
    List.dropWhile_append_of_pos hall
  rw [List.append_nil] at htake hdrop
  simp only [readUnsigned?, htake, hdrop, isWholeText_toDigits]
  rfl

/-- **A whole number is read as it was written.** -/
theorem readNumberText?_toString (n : Int) :
    readNumberText? (toString n).toList = some (wholeText (decide (n < 0)) n.natAbs) := by
  rw [toList_toString_int]
  by_cases hneg : n < 0
  · rw [if_pos hneg, decide_eq_true hneg]
    exact readUnsigned?_toDigits true _
  · rw [if_neg hneg, decide_eq_false hneg, List.nil_append, readNumberText?.eq_2,
      readUnsigned?_toDigits]
    intro cs hcs
    have hminus := List.all_eq_true.mp (all_isDigit_toDigits n.natAbs) '-'
    exact absurd (hminus (hcs ▸ List.mem_cons_self)) (by decide)

/-- No name is a number. -/
theorem readRun?_of_readNumberText? {cs : List Char} {t : NumberText}
    (h : readNumberText? cs = some t) : readRun? cs = some (.scalar (.number t)) := by
  have hne : ∀ name, readNumberText? name.toList = none → String.ofList cs ≠ name := by
    rintro name hname rfl
    rw [String.toList_ofList, h] at hname
    exact absurd hname (Option.some_ne_none t)
  simp only [readRun?, hne "null" rfl, hne "true" rfl, hne "false" rfl, if_false, h]
  rfl

/-- **A whole number is one token.** -/
theorem Scans.whole (n : Int) :
    Scans (toString n).toList [.scalar (.number (wholeText (decide (n < 0)) n.natAbs))] := by
  apply Scans.run
  · rw [toList_toString_int]
    simp [Nat.toDigits_ne_nil]
  · rw [List.all_eq_true]
    intro c hc
    rw [toList_toString_int, List.mem_append] at hc
    rcases hc with hc | hc
    · split at hc
      · rw [List.mem_singleton.mp hc]
        rfl
      · exact absurd hc List.not_mem_nil
    · have hdigit := List.all_eq_true.mp (all_isDigit_toDigits _) c hc
      simp [isRunChar, Char.isAlphanum, hdigit]
  · exact readRun?_of_readNumberText? (readNumberText?_toString n)

theorem value?_wholeText_int (n : Int64) :
    (wholeText (decide (n.toInt < 0)) n.toInt.natAbs).value? = some (.int n) := by
  have hlo := n.le_toInt
  have hhi := n.toInt_lt
  simp only [NumberText.value?, wholeText, Nat.ofDigitChars_ten_toDigits]
  by_cases hneg : n.toInt < 0
  · rw [decide_eq_true hneg, if_neg (by decide), if_pos rfl, if_pos (by omega),
      show -(n.toInt.natAbs : Int) = n.toInt by omega, Int64.ofInt_toInt]
  · rw [decide_eq_false hneg, if_neg (by decide), if_neg (by decide), if_pos (by omega),
      show (n.toInt.natAbs : Int) = n.toInt by omega, Int64.ofInt_toInt]

theorem value?_wholeText_nat (n : UInt64) (h : 0x8000000000000000 ≤ n.toNat) :
    (wholeText false n.toNat).value? = some (.nat n) := by
  have hn := n.toNat_lt
  simp only [NumberText.value?, wholeText, Nat.ofDigitChars_ten_toDigits]
  rw [if_neg (by decide), if_neg (by decide), if_neg (by omega), if_pos (by omega),
    UInt64.ofNat_toNat]

end MaterialSearch.Json
