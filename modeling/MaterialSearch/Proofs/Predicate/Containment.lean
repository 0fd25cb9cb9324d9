/-
  MaterialSearch.Proofs.Predicate.Containment
  ────────────────────────────────
  **TEXTS IN QUOTES.**

  A text is written between apostrophes and not changed otherwise.  A
  reader lets each apostrophe switch quoting on or off, so the text stays
  inside its quotes exactly when its own apostrophes come in pairs and no
  pair has syntax between its two.  Such a text is never taken for a
  combination of comparisons, because a combination has its connective
  outside quotes.

  A text with a lone apostrophe leaves the reader inside quotes, and one
  with apostrophes around syntax reads as something else altogether.

  Main definitions:
    * `bare`        — the syntax outside quotes
    * `Harmless`    — the texts that stay inside quotes
    * `Parted`      — the texts with a connective outside quotes

  Main results:
    * `bare_eq_nil_iff`, `foldl_quotedAfter_eq` — reading by quotes
    * `dropMarks_toggle`       — toggling changes marks only
    * `Built.divided`          — what has been combined is parted
    * `contained_iff_harmless` — **which texts stay inside their quotes**
    * `text_leaves_quotes`     — a text that does not
-/
import MaterialSearch.Proofs.Predicate.Texts

namespace MaterialSearch.Predicate

open MaterialSearch.Keyword

/-! ## §1. Syntax outside quotes. -/

/-- A mark, a parenthesis or a separator. -/
def isSyntax (c : Char) : Bool := c == '!' || c == '(' || c == ')' || isSeparator c

/-- **The syntax that stands outside quotes**, in order. -/
def bare (quoted : Bool) : List Char → List Char
  | [] => []
  | c :: cs =>
      if !quoted && isSyntax c then c :: bare (quotedAfter quoted c) cs
      else bare (quotedAfter quoted c) cs

section Bare

variable {q : Bool} {a b cs : List Char}

theorem bare_append (q : Bool) (a b : List Char) :
    bare q (a ++ b) = bare q a ++ bare (a.foldl quotedAfter q) b := by
  induction a generalizing q with
  | nil => rfl
  | cons c cs ih =>
    simp only [List.cons_append, bare, List.foldl_cons, ih]
    split <;> rfl

theorem Closes.bare_append (h : Closes a) (b : List Char) :
    bare false (a ++ b) = bare false a ++ bare false b := by
  rw [Predicate.bare_append, h]

/-- The state after a text is the one before, turned round if the text has
an odd number of apostrophes. -/
theorem foldl_quotedAfter_eq (q : Bool) (cs : List Char) :
    cs.foldl quotedAfter q = (q ^^ decide (cs.count '\'' % 2 = 1)) := by
  induction cs generalizing q with
  | nil => simp
  | cons c cs ih =>
    rw [List.foldl_cons, ih, quotedAfter, List.count_cons]
    by_cases hc : c = '\''
    · have hflip : decide ((cs.count '\'' + 1) % 2 = 1) = !decide (cs.count '\'' % 2 = 1) := by
        by_cases hodd : cs.count '\'' % 2 = 1
        · have heven : ¬(cs.count '\'' + 1) % 2 = 1 := by omega
          simp [hodd, heven]
        · have hodd' : (cs.count '\'' + 1) % 2 = 1 := by omega
          simp [hodd, hodd']
      simp [hc, hflip]
    · simp [hc]

/-- No syntax stands outside quotes when every character that is reached
there is none. -/
theorem bare_eq_nil_iff : bare q cs = [] ↔ ∀ pre c post, cs = pre ++ c :: post →
    pre.foldl quotedAfter q = false → isSyntax c = false := by
  induction cs generalizing q with
  | nil =>
    constructor
    · intro _ pre c post hsplit
      exact absurd hsplit.symm (by simp)
    · intro _
      rfl
  | cons d cs ih =>
    have hhead : bare q (d :: cs) = []
        ↔ (q = false → isSyntax d = false) ∧ bare (quotedAfter q d) cs = [] := by
      rw [bare]
      cases q <;> cases isSyntax d <;> simp
    rw [hhead, ih]
    constructor
    · rintro ⟨hd, hrest⟩ pre c post hsplit hstate
      -- The character is the first one, or it stands in the rest.
      cases pre with
      | nil =>
        obtain ⟨rfl, -⟩ := List.cons.inj hsplit
        exact hd hstate
      | cons e pre =>
        obtain ⟨rfl, hafter⟩ := List.cons.inj hsplit
        exact hrest pre c post hafter hstate
    · intro h
      refine ⟨fun hq => h [] d cs rfl hq, ?_⟩
      intro pre c post hsplit hstate
      exact h (d :: pre) c post (by rw [hsplit]; rfl) hstate

end Bare

/-! ## §2. Texts that stay inside quotes. -/

/-- **A text that stays inside quotes**: its apostrophes come in pairs, and
behind an odd number of them there is no syntax. -/
structure Harmless (cs : List Char) : Prop where
  paired : cs.count '\'' % 2 = 0
  silent : ∀ pre c post, cs = pre ++ c :: post → pre.count '\'' % 2 = 1 → isSyntax c = false

section Harmless

variable {cs : List Char}

/-- Read inside quotes, the text ends there and leaves no syntax outside. -/
theorem harmless_iff :
    Harmless cs ↔ cs.foldl quotedAfter true = true ∧ bare true cs = [] := by
  have hstate : ∀ pre : List Char, pre.foldl quotedAfter true = false
      ↔ pre.count '\'' % 2 = 1 := by
    intro pre
    rw [foldl_quotedAfter_eq]
    simp
  have hend : cs.foldl quotedAfter true = true ↔ cs.count '\'' % 2 = 0 := by
    rw [foldl_quotedAfter_eq]
    simp
  rw [hend, bare_eq_nil_iff]
  simp only [hstate]
  constructor
  · intro h
    exact ⟨h.paired, h.silent⟩
  · rintro ⟨hpaired, hsilent⟩
    exact ⟨hpaired, hsilent⟩

instance (cs : List Char) : Decidable (Harmless cs) :=
  decidable_of_iff _ harmless_iff.symm

/-- Without apostrophes a text is harmless, whatever it holds. -/
theorem harmless_of_notMem (h : '\'' ∉ cs) : Harmless cs where
  paired := by rw [List.count_eq_zero.mpr h]
  silent := by
    intro pre c post hsplit hodd
    have hnone : pre.count '\'' = 0 := by
      apply List.count_eq_zero.mpr
      intro hmem
      exact h (by rw [hsplit]; exact List.mem_append_left _ hmem)
    omega

end Harmless

/-! ## §3. Comparisons with a text. -/

/-- The marks that a comparison has of its own. -/
def Comparison.marks (k : Comparison) : List Char := k.before.toList.filter (· == '!')

section Fragments

variable {k : Comparison} {s : String}

theorem Comparison.toList_fragment_text (k : Comparison) (s : String) :
    (k.fragment (.text s)).toList
      = k.before.toList ++ '\'' :: (s.toList ++ '\'' :: k.after.toList) := by
  rw [toList_fragment, Operand.toList_written_text]
  simp

/-- **The reader sees the marks of the comparison and then what the text
leaves outside quotes**; it ends as it has read the text. -/
theorem Comparison.read_fragment (k : Comparison) (s : String) :
    bare false (k.fragment (.text s)).toList = k.marks ++ bare true s.toList
      ∧ (k.fragment (.text s)).toList.foldl quotedAfter false
        = !(s.toList.foldl quotedAfter true) := by
  have hbefore : bare false k.before.toList = k.marks
      ∧ k.before.toList.foldl quotedAfter false = false := by cases k <;> decide
  have hafter : ∀ q, bare q k.after.toList = [] ∧ k.after.toList.foldl quotedAfter q = q := by
    intro q
    cases k <;> cases q <;> decide
  have hquote : ∀ q cs, bare q ('\'' :: cs) = bare (!q) cs := by
    intro q cs
    cases q <;> simp [bare, quotedAfter, isSyntax, isSeparator]
  rw [toList_fragment_text]
  constructor
  · rw [bare_append, hbefore.1, hbefore.2, hquote, bare_append, hquote, (hafter _).1]
    simp
  · rw [List.foldl_append, hbefore.2, List.foldl_cons, List.foldl_append, List.foldl_cons,
      (hafter _).2]
    rfl

/-- **The text stays inside its quotes exactly when it is harmless.** -/
theorem Comparison.contained_iff :
    (Closes (k.fragment (.text s)).toList
      ∧ bare false (k.fragment (.text s)).toList = k.marks) ↔ Harmless s.toList := by
  obtain ⟨hbare, hend⟩ := k.read_fragment s
  rw [harmless_iff, Closes, hend, hbare]
  simp

theorem Comparison.count_fragment (k : Comparison) (s : String) :
    (k.fragment (.text s)).toList.count '\'' = s.toList.count '\'' + 2 := by
  have hbefore : k.before.toList.count '\'' = 0 := by cases k <;> decide
  have hafter : k.after.toList.count '\'' = 0 := by cases k <;> decide
  rw [toList_fragment_text]
  simp only [List.count_append, List.count_cons_self, hbefore, hafter]
  omega

/-- What a comparison has of its own is no separator. -/
theorem Comparison.notMem_marks (k : Comparison) {c : Char} (hc : isSeparator c = true) :
    c ∉ k.marks := by
  intro hmem
  have hmark := (List.mem_filter.mp hmem).2
  rw [beq_iff_eq.mp hmark] at hc
  exact absurd hc (by decide)

end Fragments

/-! ## §4. Toggling changes marks only. -/

section Marks

variable {q : Bool} {cs : List Char}

theorem dropMarks_dropMarks (q : Bool) (cs : List Char) :
    dropMarks q (dropMarks q cs) = dropMarks q cs := by
  induction cs generalizing q with
  | nil => rfl
  | cons c cs ih =>
    by_cases hc : (!q && c == '!') = true
    · have hstate : quotedAfter q c = q := by
        have hmark : c = '!' := by simpa using (Bool.and_eq_true_iff.mp hc).2
        simp [quotedAfter, hmark]
      rw [dropMarks, if_pos hc, hstate]
      exact ih q
    · have hstep : dropMarks q (c :: cs) = c :: dropMarks (quotedAfter q c) cs := by
        rw [dropMarks, if_neg hc]
      rw [hstep, dropMarks, if_neg hc, ih]

theorem dropMarks_markOpening? {cs' : List Char} (h : markOpening? q cs = some cs') :
    dropMarks q cs' = dropMarks q cs := by
  induction cs generalizing q cs' with
  | nil => cases h
  | cons c cs ih =>
    rw [markOpening?] at h
    split at h
    · next hopen =>
      obtain rfl := Option.some.inj h
      obtain ⟨hq, hc⟩ := Bool.and_eq_true_iff.mp hopen
      obtain rfl : c = '(' := by simpa using hc
      obtain rfl : q = false := by simpa using hq
      simp [dropMarks, quotedAfter]
    · obtain ⟨rest, hrest, rfl⟩ := Option.map_eq_some_iff.mp h
      simp only [dropMarks, ih hrest]

/-- **Toggling changes marks only**, and no mark inside quotes. -/
theorem dropMarks_toggle (cs : List Char) : dropMarks false (toggle cs) = dropMarks false cs := by
  rw [toggle]
  split
  · exact dropMarks_dropMarks false cs
  · cases hopen : markOpening? false cs with
    | some cs' => exact dropMarks_markOpening? hopen
    | none => simp [dropMarks, quotedAfter]

/-! What does not depend on marks. -/

theorem foldl_dropMarks (q : Bool) (cs : List Char) :
    (dropMarks q cs).foldl quotedAfter q = cs.foldl quotedAfter q := by
  induction cs generalizing q with
  | nil => rfl
  | cons c cs ih =>
    by_cases hc : (!q && c == '!') = true
    · have hmark : c = '!' := by simpa using (Bool.and_eq_true_iff.mp hc).2
      have hstate : quotedAfter q c = q := by simp [quotedAfter, hmark]
      rw [dropMarks, if_pos hc, List.foldl_cons, hstate]
      exact ih q
    · rw [dropMarks, if_neg hc, List.foldl_cons, List.foldl_cons, ih]

theorem count_dropMarks (q : Bool) (cs : List Char) :
    (dropMarks q cs).count '\'' = cs.count '\'' := by
  induction cs generalizing q with
  | nil => rfl
  | cons c cs ih =>
    by_cases hc : (!q && c == '!') = true
    · have hmark : c = '!' := by simpa using (Bool.and_eq_true_iff.mp hc).2
      rw [dropMarks, if_pos hc, ih, hmark, List.count_cons_of_ne (by decide)]
    · rw [dropMarks, if_neg hc, List.count_cons, List.count_cons, ih]

theorem bare_dropMarks (q : Bool) (cs : List Char) :
    bare q (dropMarks q cs) = (bare q cs).filter (· ≠ '!') := by
  induction cs generalizing q with
  | nil => rfl
  | cons c cs ih =>
    by_cases hc : (!q && c == '!') = true
    · obtain ⟨hq, hmark⟩ := Bool.and_eq_true_iff.mp hc
      obtain rfl : c = '!' := by simpa using hmark
      have hstate : quotedAfter q '!' = q := by simp [quotedAfter]
      have hsyntax : (!q && isSyntax '!') = true := by rw [hq]; rfl
      rw [dropMarks, if_pos hc, bare, if_pos hsyntax, hstate, ih]
      simp
    · rw [dropMarks, if_neg hc, bare, bare, ih]
      split
      · next hsyntax =>
        have hne : c ≠ '!' := by
          rintro rfl
          obtain ⟨hq, -⟩ := Bool.and_eq_true_iff.mp hsyntax
          exact hc (by rw [hq]; rfl)
        simp [hne]
      · rfl

end Marks

/-! ## §5. What has been combined has a connective outside quotes. -/

/-- **A text with a connective outside quotes**, and every quote closed. -/
structure Parted (cs : List Char) : Prop where
  closes : Closes cs
  cut : ∃ c ∈ bare false cs, isSeparator c = true

/-- The text has more apostrophes than the two around a text. -/
def Loud (cs : List Char) : Prop := 3 ≤ cs.count '\''

section Texts

variable {a b cs : List Char}

theorem Closes.parted_combined (ha : Closes a) (hb : Closes b) (c : Connective) :
    Parted (a ++ c.token :: b) where
  closes := by
    have hc : Closes [c.token] := by cases c <;> rfl
    exact ha.append (hc.append hb)
  cut := by
    refine ⟨c.token, ?_, c.isSeparator_token⟩
    have hbare : bare false (c.token :: b)
        = c.token :: bare (quotedAfter false c.token) b := by cases c <;> rfl
    rw [ha.bare_append, hbare]
    exact List.mem_append_right _ List.mem_cons_self

theorem Closes.toggle (h : Closes cs) : Closes (toggle cs) := by
  rw [Closes, ← foldl_dropMarks, dropMarks_toggle, foldl_dropMarks]
  exact h

theorem Parted.toggle (h : Parted cs) : Parted (toggle cs) where
  closes := h.closes.toggle
  cut := by
    obtain ⟨c, hc, hs⟩ := h.cut
    have hne : c ≠ '!' := by
      rintro rfl
      exact absurd hs (by decide)
    -- The connective is there without the marks, before and after.
    have hkept : c ∈ bare false (dropMarks false cs) := by
      rw [bare_dropMarks]
      exact List.mem_filter.mpr ⟨hc, by simpa using hne⟩
    rw [← dropMarks_toggle, bare_dropMarks] at hkept
    exact ⟨c, (List.mem_filter.mp hkept).1, hs⟩

theorem Loud.toggle (h : Loud cs) : Loud (toggle cs) := by
  rw [Loud, ← count_dropMarks, dropMarks_toggle, count_dropMarks]
  exact h

theorem Loud.append_left (h : Loud a) (b : List Char) : Loud (a ++ b) := by
  unfold Loud at h ⊢
  rw [List.count_append]
  omega

theorem Loud.append_right (a : List Char) (h : Loud b) : Loud (a ++ b) := by
  unfold Loud at h ⊢
  rw [List.count_append]
  omega

end Texts

/-- The operand stays inside its quotes, if it has any. -/
def Operand.Harmless : Operand → Prop
  | .text s => Predicate.Harmless s.toList
  | _ => True

instance (v : Operand) : Decidable v.Harmless :=
  match v with
  | .text s => inferInstanceAs (Decidable (Predicate.Harmless s.toList))
  | .number _ => inferInstanceAs (Decidable True)
  | .bool _ => inferInstanceAs (Decidable True)

theorem Operand.closes_fragment {v : Operand} (h : v.Harmless) (k : Comparison) :
    Closes (k.fragment v).toList := by
  have hword : ∀ {v : Operand}, IsWord v.written.toList → Closes (k.fragment v).toList := by
    intro v hv
    have hbefore : Closes k.before.toList := by cases k <;> rfl
    have hafter : Closes k.after.toList := by cases k <;> rfl
    rw [Comparison.toList_fragment]
    exact (hbefore.append hv.closes).append hafter
  cases v with
  | text s => exact (Comparison.contained_iff.mpr h).1
  | number n => exact hword (isWord_written rfl)
  | bool b => exact hword (isWord_written rfl)

theorem Operand.loud_fragment {v : Operand} (h : ¬v.Harmless) (k : Comparison) :
    Loud (k.fragment v).toList := by
  cases v with
  | text s =>
    by_cases hmem : '\'' ∈ s.toList
    · have hpos := List.count_pos_iff.mpr hmem
      unfold Loud
      rw [Comparison.count_fragment]
      omega
    · exact absurd (harmless_of_notMem hmem) h
  | number n => exact absurd trivial h
  | bool b => exact absurd trivial h

/-- **What texts over one keyword are like**: a pending one closes its
quotes, and a complete one is parted.  With operands that are not harmless a
text may be loud instead.  Of texts over several keywords nothing is said. -/
def TextKind.divided (wild : Prop) : TextKind where
  pending cs := Closes cs ∨ (wild ∧ Loud cs)
  complete cs := Parted cs ∨ (wild ∧ Loud cs)
  part cs := Closes cs ∨ (wild ∧ Loud cs)
  row _ := True

theorem closed_divided (wild : Prop) :
    (TextKind.divided wild).Closed (fun _ => True) (fun _ _ v => v.Harmless ∨ wild) where
  compared := by
    intro _ k v hv
    by_cases hharmless : v.Harmless
    · exact .inl (Operand.closes_fragment hharmless k)
    · exact .inr ⟨hv.resolve_left hharmless, Operand.loud_fragment hharmless k⟩
  pending_toggle h := h.imp Closes.toggle (And.imp_right Loud.toggle)
  complete_toggle h := h.imp Parted.toggle (And.imp_right Loud.toggle)
  part_of_pending h := h
  part_of_complete h := h.imp_left Parted.closes
  part_group := by
    rintro a (ha | ⟨hw, ha⟩)
    · exact .inl ha.parenthesized
    · exact .inr ⟨hw, (ha.append_left [')']).append_right ['(']⟩
  complete_combined := by
    rintro a b c (ha | ⟨hw, ha⟩) (hb | ⟨hw, hb⟩)
    · exact .inl (ha.parted_combined hb c)
    · exact .inr ⟨hw, (Loud.append_right [c.token] hb).append_right a⟩
    · exact .inr ⟨hw, ha.append_left _⟩
    · exact .inr ⟨hw, ha.append_left _⟩
  row_bound _ _ := trivial
  row_of_pending _ := trivial
  row_combined _ _ _ := trivial
  row_negate _ := trivial

/-- **The texts of every run are so**, from any keywords. -/
theorem Built.divided {wild : Prop} {e : Expression}
    (h : Built (fun _ => True) (fun _ _ v => v.Harmless ∨ wild) e) :
    (TextKind.divided wild).Of e := h.of_kind (closed_divided wild)

/-! ## §6. What is rendered. -/

theorem closes_predicateText_iff {name : String} {cs : List Char} (hn : IsWord name.toList) :
    Closes (predicateText name cs) ↔ Closes cs := by
  have hsame : (predicateText name cs).foldl quotedAfter false
      = cs.foldl quotedAfter false := by
    rw [predicateText, List.foldl_append, hn.closes, parenthesized, List.foldl_cons,
      List.foldl_append]
    simp [quotedAfter]
  rw [Closes, hsame, Closes]

/-- What a comparison with a text is rendered as. -/
theorem render_comparison (f : Field) (k : Comparison) (v : Operand) :
    ((Expression.ofField f).compare k v).render
      = .ok (String.ofList (predicateText f.name (k.fragment v).toList)) := by
  rw [ofList_predicateText, String.ofList_toList]
  rfl

/-- What has been combined on one keyword is rendered with a complete text. -/
theorem parted_of_render {wild : Prop} {e : Expression} {name : String} {cs : List Char}
    (h : (TextKind.divided wild).Of e) (hname : e.keywords = [name])
    (hcombined : e.resolved ≠ [])
    (hrender : e.render = .ok (String.ofList (predicateText name cs))) :
    Parted cs ∨ (wild ∧ Loud cs) := by
  rcases Expression.render_cases hrender with hbare | ⟨t, ht, htext⟩
  · -- A bare name is shorter than a bound text.
    rw [hname] at hbare
    have hlength := congrArg String.length (List.cons.inj hbare).1
    simp only [String.length_ofList, predicateText, parenthesized, List.length_append,
      List.length_cons, String.length_toList] at hlength
    omega
  · have hresolved : e.resolved = [t] := by
      rcases ht with ⟨-, hr⟩ | ⟨-, hr⟩
      · exact absurd hr hcombined
      · exact hr
    have hsame : predicateText name cs = predicateText name t.toList := by
      rw [← Expression.toList_bound_single hname, ← htext, String.toList_ofList]
    have hcs : cs = t.toList := parenthesized_inj (List.append_cancel_left hsame)
    rw [hcs]
    exact h.completes name hname t (by simp [hresolved])

/-- **WHICH TEXTS STAY INSIDE THEIR QUOTES.**  A comparison with a text is
rendered as `name(fragment)`.  Read by quotes it ends outside of them, and
has no syntax there but the mark of the comparison, exactly when the text is
harmless.  A comparison with a harmless text is not rendered as anything
combined from harmless operands on that keyword; and with a text that has no
apostrophe at all, as nothing combined from any operands. -/
theorem contained_iff_harmless (f : Field) (k : Comparison) (s : String)
    (hf : IsWord f.name.toList) :
    ∃ text, ((Expression.ofField f).compare k (.text s)).render = .ok text
      ∧ text.toList = predicateText f.name (k.fragment (.text s)).toList
      ∧ ((Closes text.toList ∧ bare false (k.fragment (.text s)).toList = k.marks)
          ↔ Harmless s.toList)
      ∧ (Harmless s.toList →
          ∀ e, Built (fun _ => True) (fun _ _ v => v.Harmless) e → e.keywords = [f.name] →
            e.resolved ≠ [] → e.render ≠ .ok text)
      ∧ ('\'' ∉ s.toList → Harmless s.toList
          ∧ ∀ e, Built (fun _ => True) (fun _ _ _ => True) e → e.keywords = [f.name] →
            e.resolved ≠ [] → e.render ≠ .ok text) := by
  have hnot : Harmless s.toList → ¬Parted (k.fragment (.text s)).toList := by
    intro hharmless hparted
    obtain ⟨c, hc, hs⟩ := hparted.cut
    rw [(Comparison.contained_iff.mpr hharmless).2] at hc
    exact k.notMem_marks hs hc
  refine ⟨_, render_comparison f k (.text s), String.toList_ofList, ?_, ?_, ?_⟩
  · rw [String.toList_ofList, closes_predicateText_iff hf]
    exact Comparison.contained_iff
  · intro hharmless e he hname hcombined hrender
    have hdivided : (TextKind.divided False).Of e := Built.divided (by simpa using he)
    rcases parted_of_render hdivided hname hcombined hrender with hparted | ⟨hfalse, -⟩
    · exact hnot hharmless hparted
    · exact hfalse
  · intro hnone
    have hharmless := harmless_of_notMem hnone
    refine ⟨hharmless, ?_⟩
    intro e he hname hcombined hrender
    have hdivided : (TextKind.divided True).Of e := Built.divided (by simpa using he)
    rcases parted_of_render hdivided hname hcombined hrender with hparted | ⟨-, hloud⟩
    · exact hnot hharmless hparted
    · unfold Loud at hloud
      rw [Comparison.count_fragment, List.count_eq_zero.mpr hnone] at hloud
      omega

/-- Two comparisons on one keyword, with texts of these. -/
def Sample.texts (x y : String) : Combination Clause :=
  .both .and (.single ⟨.auid, .eq, .text x⟩) (.single ⟨.auid, .eq, .text y⟩)

/-- A text with two apostrophes side by side, and one with syntax only. -/
theorem contained_iff_harmless_paired :
    IsWord Field.auid.name.toList
    ∧ (∃ text, ((Expression.ofField .auid).compare .ne (.text "it''s),(")).render = .ok text
      ∧ text.toList = "auid(!'it''s),(')".toList ∧ Closes text.toList
      ∧ Harmless "it''s),(".toList
      ∧ ∃ e, (Sample.texts "a" "b").build = .ok e ∧ e.keywords = ["auid"] ∧ e.resolved ≠ []
        ∧ Built (fun _ => True) (fun _ _ v => v.Harmless) e ∧ e.render ≠ .ok text)
    ∧ ∃ text, ((Expression.ofField .auid).compare .lt (.text ",:!")).render = .ok text
      ∧ '\'' ∉ ",:!".toList
      ∧ ∃ e, (Sample.texts "a'" "b'").build = .ok e ∧ e.keywords = ["auid"] ∧ e.resolved ≠ []
        ∧ Built (fun _ => True) (fun _ _ _ => True) e ∧ e.render ≠ .ok text := by
  have hname : IsWord Field.auid.name.toList := by decide
  obtain ⟨text, hrender, htext, hcontained, hharmless, -⟩ :=
    contained_iff_harmless .auid .ne "it''s),(" hname
  obtain ⟨text', hrender', -, -, -, hplain⟩ := contained_iff_harmless .auid .lt ",:!" hname
  have hquiet : Harmless "it''s),(".toList := by decide
  have hnone : '\'' ∉ ",:!".toList := by decide
  have hpair : (Sample.texts "a" "b").build = .ok ⟨["auid"], [], ["'a','b'"]⟩ := by cbv
  have hbuilt : Built (fun _ => True) (fun _ _ v => v.Harmless) ⟨["auid"], [], ["'a','b'"]⟩ :=
    built_build (fun _ _ => trivial) (by decide) hpair
  have hloud : (Sample.texts "a'" "b'").build = .ok ⟨["auid"], [], ["'a'','b''"]⟩ := by cbv
  have hany : Built (fun _ => True) (fun _ _ _ => True) ⟨["auid"], [], ["'a'','b''"]⟩ :=
    built_build (fun _ _ => trivial) (fun _ _ => trivial) hloud
  have hfragment : text.toList = "auid(!'it''s),(')".toList := htext.trans (by decide)
  refine ⟨hname, ⟨text, hrender, hfragment, (hcontained.mpr hquiet).1, hquiet, _, hpair, rfl,
    by decide, hbuilt, ?_⟩, ⟨text', hrender', hnone, _, hloud, rfl, by decide, hany, ?_⟩⟩
  · exact hharmless hquiet _ hbuilt rfl (by decide)
  · exact (hplain hnone).2 _ hany rfl (by decide)

/-- **A text that leaves its quotes**: with apostrophes around a separator it
is rendered as two comparisons are, and one apostrophe leaves the reader
inside quotes. -/
theorem text_leaves_quotes :
    (((Expression.ofField .auid).compare .eq (.text "a','b")).render = .ok "auid('a','b')"
      ∧ bare false (Comparison.eq.fragment (.text "a','b")).toList = [',']
      ∧ ∃ e, (Sample.texts "a" "b").build = .ok e ∧ e.render = .ok "auid('a','b')")
    ∧ ((Expression.ofField .auid).compare .eq (.text "O'Brien")).render = .ok "auid('O'Brien')"
      ∧ ¬Closes "auid('O'Brien')".toList :=
  ⟨⟨by cbv, by decide, _, rfl, by cbv⟩, by cbv, by unfold Closes; decide⟩

end MaterialSearch.Predicate
