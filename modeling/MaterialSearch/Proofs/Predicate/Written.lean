/-
  MaterialSearch.Proofs.Predicate.Written
  ────────────────────────────────
  **WRITTEN OPERANDS.**

  A number and a truth value are written without any character that has a
  meaning in search terms.  A text stands between apostrophes, where no
  character has one, so only an apostrophe of its own could end it early.

  Main definitions:
    * `Operand.Plain` — no apostrophe in a text

  Main results:
    * `isWord_numberText`       — how numbers are written
    * `Operand.isWord_written`  — and truth values
    * `Operand.atomic_written`  — no pass takes a written operand apart
    * `Operand.head?_written`, `Operand.getLast?_written` — at its ends only
      an apostrophe has a meaning
    * `Operand.hasMark_written` — or finds a mark in it
-/
import MaterialSearch.Proofs.Predicate.Scanning

namespace MaterialSearch.Predicate

open MaterialSearch.Numeric

/-! ## §1. Numbers. -/

theorem isMarkup_of_isDigit {c : Char} (h : c.isDigit = true) : isMarkup c = false := by
  rcases hm : isMarkup c with - | -
  · rfl
  · have hcases : c = '\'' ∨ c = '!' ∨ c = '*' ∨ c = '(' ∨ c = ')' ∨ c = ',' ∨ c = ':' := by
      simpa [isMarkup, isSeparator, or_assoc] using hm
    rcases hcases with rfl | rfl | rfl | rfl | rfl | rfl | rfl <;> exact absurd h (by decide)

theorem isWord_toDigits (n : Nat) : IsWord (Nat.toDigits 10 n) := fun _ hc =>
  isMarkup_of_isDigit (Nat.isDigit_of_mem_toDigits (by decide) (by decide) hc)

theorem isWord_toString_nat (n : Nat) : IsWord (toString n).toList := by
  rw [Nat.toString_eq_repr, Nat.toList_repr]
  exact isWord_toDigits n

theorem isWord_toString_int (n : Int) : IsWord (toString n).toList := by
  cases n with
  | ofNat m => exact isWord_toString_nat m
  | negSucc m =>
    show IsWord ("-" ++ toString (m + 1)).toList
    rw [String.toList_append]
    exact IsWord.append (by decide) (isWord_toString_nat (m + 1))

theorem isWord_signText (negative : Bool) : IsWord (signText negative).toList := by
  cases negative <;> decide

theorem isWord_replicate_zero (n : Nat) : IsWord (List.replicate n '0') := by
  intro c hc
  rw [List.eq_of_mem_replicate hc]
  decide

theorem isWord_positional {digits : List Char} (h : IsWord digits) (exponent : Int) :
    IsWord (positional digits exponent) := by
  unfold positional
  split
  · exact h.append (isWord_replicate_zero _)
  · simp only
    have hpoint : IsWord ['.'] := by decide
    split
    · exact IsWord.append (fun c hc => h c (List.mem_of_mem_take hc))
        (hpoint.append fun c hc => h c (List.mem_of_mem_drop hc))
    · exact IsWord.append (a := ['0', '.']) (by decide)
        ((isWord_replicate_zero _).append h)

theorem isWord_decimal (d : Decimal) : IsWord (Style.plain.decimal d).toList := by
  show IsWord (String.ofList (positional (Nat.toDigits 10 d.digits) d.exponent)
    ++ (if 0 ≤ d.exponent then "" else "")).toList
  rw [ite_self, String.append_empty, String.toList_ofList]
  exact isWord_positional (isWord_toDigits _) _

theorem isWord_floatText (x : Float) : IsWord (floatText .plain x).toList := by
  unfold floatText
  split
  · decide
  · rw [String.toList_append]
    exact (isWord_signText _).append (by decide)
  · rw [String.toList_append, String.toList_append]
    exact ((isWord_signText _).append (by decide)).append (by decide)
  · rw [String.toList_append]
    exact (isWord_signText _).append (isWord_decimal _)

/-- **A number is written in plain characters**, also when it is not finite. -/
theorem isWord_numberText (n : Number) : IsWord n.text.toList := by
  cases n with
  | int n => exact isWord_toString_int n.toInt
  | nat n => exact isWord_toString_nat n.toNat
  | float x => exact isWord_floatText x

/-! ## §2. Operands. -/

/-- The operand has no apostrophe that would end its quotes early. -/
def Operand.Plain : Operand → Prop
  | .text s => '\'' ∉ s.toList
  | _ => True

instance (v : Operand) : Decidable v.Plain :=
  match v with
  | .text s => inferInstanceAs (Decidable ('\'' ∉ s.toList))
  | .number _ => inferInstanceAs (Decidable True)
  | .bool _ => inferInstanceAs (Decidable True)

theorem Operand.toList_written_text (s : String) :
    (Operand.text s).written.toList = '\'' :: (s.toList ++ ['\'']) := by
  simp [Operand.written]

/-- **Operands that are not texts are written in plain characters.** -/
theorem Operand.isWord_written {v : Operand} (h : v.isText = false) :
    IsWord v.written.toList := by
  cases v with
  | text _ => cases h
  | number n => exact isWord_numberText n
  | bool b => cases b <;> decide

/-- **No pass takes a written operand apart.** -/
theorem Operand.atomic_written {v : Operand} (h : v.Plain) : Atomic v.written.toList := by
  cases v with
  | text s =>
    rw [toList_written_text]
    exact atomic_quoted h
  | number n => exact (isWord_written rfl).atomic
  | bool b => exact (isWord_written rfl).atomic

/-- **No mark of a written operand counts.** -/
theorem Operand.hasMark_written {v : Operand} (h : v.Plain) :
    hasMark false v.written.toList = false := by
  cases v with
  | text s =>
    rw [toList_written_text]
    exact hasMark_quoted h
  | number n => exact (isWord_written rfl).hasMark_eq false
  | bool b => exact (isWord_written rfl).hasMark_eq false

theorem IsWord.head?_ne {cs : List Char} {c : Char} (h : IsWord cs) (hc : isMarkup c = true) :
    cs.head? ≠ some c := by
  intro hhead
  rw [h c (List.mem_of_head? hhead)] at hc
  cases hc

theorem IsWord.getLast?_ne {cs : List Char} {c : Char} (h : IsWord cs)
    (hc : isMarkup c = true) : cs.getLast? ≠ some c := by
  intro hlast
  rw [h c (List.mem_of_getLast? hlast)] at hc
  cases hc

/-- No other character with a meaning than an apostrophe comes first. -/
theorem Operand.head?_written (v : Operand) {c : Char} (hc : isMarkup c = true)
    (hq : c ≠ '\'') : v.written.toList.head? ≠ some c := by
  cases v with
  | text s =>
    rw [toList_written_text]
    simpa using hq.symm
  | number n => exact (isWord_written rfl).head?_ne hc
  | bool b => exact (isWord_written rfl).head?_ne hc

/-- And none comes last. -/
theorem Operand.getLast?_written (v : Operand) {c : Char} (hc : isMarkup c = true)
    (hq : c ≠ '\'') : v.written.toList.getLast? ≠ some c := by
  cases v with
  | text s =>
    rw [toList_written_text, ← List.cons_append, List.getLast?_concat]
    simpa using hq.symm
  | number n => exact (isWord_written rfl).getLast?_ne hc
  | bool b => exact (isWord_written rfl).getLast?_ne hc

end MaterialSearch.Predicate
