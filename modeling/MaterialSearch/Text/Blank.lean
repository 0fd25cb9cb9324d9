/-
  MaterialSearch.Text.Blank
  ────────────────────────────────
  **BLANK CHARACTERS AND TRIMMING.**

  A character is blank when it has the Unicode property `White_Space`.
  Record keys may be written with any blanks around their parts, and a
  value read from a record loses the blanks at both of its ends.

  Main definitions:
    * `isBlank`   — the 25 characters of the property
    * `trimChars` — a text without the blanks at its two ends
    * `trim`      — the same on strings
    * `Unpadded`  — a text with no blank at either end

  Main results:
    * `exists_trimChars`    — a text loses blanks only
    * `trimChars_append_blank_left`, `trimChars_append_blank_right`
      — blanks at the ends do not matter
    * `Unpadded.trimChars_eq` — a text without them is left as it is
    * `trimChars_trimChars`, `trimChars_eq_nil_iff` — trimming once is enough
-/

namespace MaterialSearch.Text

/-! ## §1. The property. -/

/-- The ranges of code points with the property `White_Space`, both ends
included, in ascending order. -/
def blankRanges : List (Nat × Nat) :=
  [(0x9, 0xD), (0x20, 0x20), (0x85, 0x85), (0xA0, 0xA0), (0x1680, 0x1680),
   (0x2000, 0x200A), (0x2028, 0x2029), (0x202F, 0x202F), (0x205F, 0x205F),
   (0x3000, 0x3000)]

/-- A blank character: one with the property `White_Space`. -/
def isBlank (c : Char) : Bool :=
  blankRanges.any fun r => decide (r.1 ≤ c.toNat) && decide (c.toNat ≤ r.2)

/-! ## §2. Trimming. -/

/-- The text without its trailing blanks. -/
def trimEnd (cs : List Char) : List Char :=
  (cs.reverse.dropWhile isBlank).reverse

/-- The text without the blanks at its two ends. -/
def trimChars (cs : List Char) : List Char :=
  trimEnd (cs.dropWhile isBlank)

/-- The string without the blanks at its two ends. -/
def trim (s : String) : String :=
  String.ofList (trimChars s.toList)

@[simp] theorem trimChars_nil : trimChars [] = [] := rfl

theorem toList_trim (s : String) : (trim s).toList = trimChars s.toList := by
  simp [trim]

/-! ## §3. What trimming takes away. -/

theorem trimChars_append_blank_left {before cs : List Char}
    (h : ∀ c ∈ before, isBlank c = true) : trimChars (before ++ cs) = trimChars cs := by
  unfold trimChars
  rw [List.dropWhile_append_of_pos h]

theorem trimEnd_append_blank {cs after : List Char} (h : ∀ c ∈ after, isBlank c = true) :
    trimEnd (cs ++ after) = trimEnd cs := by
  unfold trimEnd
  rw [List.reverse_append, List.dropWhile_append_of_pos]
  intro c hc
  exact h c (List.mem_reverse.mp hc)

theorem trimChars_append_blank_right {cs after : List Char}
    (h : ∀ c ∈ after, isBlank c = true) : trimChars (cs ++ after) = trimChars cs := by
  unfold trimChars
  rw [List.dropWhile_append]
  split
  · next hall =>
    have hafter : after.dropWhile isBlank = [] := by
      rw [← List.append_nil after, List.dropWhile_append_of_pos h]
      rfl
    rw [hafter, List.isEmpty_iff.mp hall]
  · exact trimEnd_append_blank h

/-- A text loses blanks only, at its two ends. -/
theorem exists_trimChars (cs : List Char) :
    ∃ before after, cs = before ++ trimChars cs ++ after
      ∧ (∀ c ∈ before, isBlank c = true) ∧ ∀ c ∈ after, isBlank c = true := by
  refine ⟨cs.takeWhile isBlank, ((cs.dropWhile isBlank).reverse.takeWhile isBlank).reverse,
    ?_, ?_, ?_⟩
  · unfold trimChars trimEnd
    rw [List.append_assoc, ← List.reverse_append, List.takeWhile_append_dropWhile,
      List.reverse_reverse, List.takeWhile_append_dropWhile]
  · intro c hc
    exact List.all_eq_true.mp List.all_takeWhile c hc
  · intro c hc
    exact List.all_eq_true.mp List.all_takeWhile c (List.mem_reverse.mp hc)

/-- **No blank at either end.** -/
def Unpadded (cs : List Char) : Prop :=
  (∀ c ∈ cs.head?, isBlank c = false) ∧ ∀ c ∈ cs.getLast?, isBlank c = false

theorem trimEnd_eq_self {cs : List Char} (h : ∀ c ∈ cs.getLast?, isBlank c = false) :
    trimEnd cs = cs := by
  unfold trimEnd
  rw [← List.head?_reverse] at h
  cases hcs : cs.reverse with
  | nil => rw [List.reverse_eq_nil_iff.mp hcs]; rfl
  | cons c rest =>
    rw [hcs] at h
    have hc : isBlank c = false := h c rfl
    rw [List.dropWhile_cons, hc, if_neg Bool.false_ne_true, ← hcs, List.reverse_reverse]

theorem Unpadded.trimChars_eq {cs : List Char} (h : Unpadded cs) : trimChars cs = cs := by
  unfold trimChars
  cases cs with
  | nil => rfl
  | cons c cs =>
    have hc : isBlank c = false := h.1 c rfl
    rw [List.dropWhile_cons, hc, if_neg Bool.false_ne_true, trimEnd_eq_self h.2]

theorem trimEnd_cons {c : Char} (hc : isBlank c = false) (cs : List Char) :
    trimEnd (c :: cs) = c :: trimEnd cs := by
  have hlast : [c].dropWhile isBlank = [c] := by
    rw [List.dropWhile_cons, hc, if_neg Bool.false_ne_true]
  unfold trimEnd
  rw [List.reverse_cons, List.dropWhile_append]
  split
  · next hempty =>
    rw [hlast, List.isEmpty_iff.mp hempty]
    rfl
  · rw [List.reverse_append]
    rfl

theorem unpadded_trimChars (cs : List Char) : Unpadded (trimChars cs) := by
  constructor
  · have hfirst := List.head?_dropWhile_not isBlank cs
    unfold trimChars
    cases hcs : cs.dropWhile isBlank with
    | nil => exact fun c hc => absurd hc (by simp [trimEnd])
    | cons d ds =>
      rw [hcs] at hfirst
      rw [trimEnd_cons (by simpa using hfirst)]
      intro c hc
      obtain rfl := Option.some.inj hc
      simpa using hfirst
  · intro c hc
    unfold trimChars trimEnd at hc
    rw [List.getLast?_reverse] at hc
    have hlast := List.head?_dropWhile_not isBlank (cs.dropWhile isBlank).reverse
    rw [Option.mem_def.mp hc] at hlast
    simpa using hlast

/-- **Trimming once is enough.** -/
theorem trimChars_trimChars (cs : List Char) : trimChars (trimChars cs) = trimChars cs :=
  (unpadded_trimChars cs).trimChars_eq

/-- Nothing is left of blanks, and of nothing else. -/
theorem trimChars_eq_nil_iff {cs : List Char} :
    trimChars cs = [] ↔ ∀ c ∈ cs, isBlank c = true := by
  constructor
  · intro h
    obtain ⟨before, after, hcs, hbefore, hafter⟩ := exists_trimChars cs
    rw [h, List.append_nil] at hcs
    rw [hcs]
    intro c hc
    exact (List.mem_append.mp hc).elim (hbefore c) (hafter c)
  · intro h
    rw [← List.append_nil cs, trimChars_append_blank_left h, trimChars_nil]

/-! ## §4. Examples. -/

example : trim " \t a b \n" = "a b" := by decide
example : (blankRanges.map fun r => r.2 + 1 - r.1).sum = 25 := by decide

end MaterialSearch.Text
