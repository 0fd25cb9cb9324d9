/-
  MaterialSearch.Proofs.Predicate.Settling
  ────────────────────────────────
  **WHERE REPEATED NEGATION SETTLES.**

  Negation edits marks and nothing else.  A fragment loses all its marks or
  gets one, so from the first negation on it goes to and fro between two
  texts, and the text that it started from is one of them when it had no
  mark, or one at the place where marks are put.

  A row is cut into terms anew for every negation.  Marks do not count for
  the cutting, so the terms stay where they are.  Within a term they count
  once: a term that ends with a mark is a fragment as a whole, and may be a
  predicate `name(fragment)` when the mark is gone.  The fragment is then read
  as if the quotes before it were closed.  If they are, it has no marks left,
  and if they are not, it may have some.

  Main definitions:
    * `Lacks`      — a character does not stand outside quotes
    * `Restorable` — the fragments that two negations give back
    * `Settles`    — the terms that the third negation leaves as the first
    * `within?`    — how the pass for terms goes through one term

  Main results:
    * `toggle_toggle_toggle`, `toggle_toggle_eq_self_iff` — fragments
    * `terms_negateTerms`   — the terms of a negated row
    * `negateTerm_thrice_iff`, `negateTerms_thrice_iff` — terms and rows
    * `negation_settles`    — **negating again and again**
    * `negation_unsettled`  — a row that is never given back
-/
import MaterialSearch.Proofs.Predicate.Containment
import MaterialSearch.Proofs.Predicate.Distribution

namespace MaterialSearch.Predicate

open MaterialSearch.Keyword

/-! ## §1. Characters outside quotes. -/

/-- **The character does not stand outside quotes** in a text that is read
from the state `q` on. -/
def Lacks (q : Bool) (c : Char) (cs : List Char) : Prop :=
  ∀ pre post, cs = pre ++ c :: post → pre.foldl quotedAfter q = true

section Outside

variable {q : Bool} {a b cs : List Char}

theorem lacks_nil (q : Bool) (c : Char) : Lacks q c [] :=
  fun _ _ hsplit => absurd hsplit.symm (by simp)

theorem lacks_cons {c d : Char} :
    Lacks q c (d :: cs) ↔ (d = c → q = true) ∧ Lacks (quotedAfter q d) c cs := by
  constructor
  · intro h
    refine ⟨fun hd => h [] cs (by rw [hd]; rfl), ?_⟩
    intro pre post hsplit
    exact h (d :: pre) post (by rw [hsplit]; rfl)
  · rintro ⟨hd, hrest⟩ pre post hsplit
    cases pre with
    | nil => exact hd (List.cons.inj hsplit).1
    | cons e pre =>
      obtain ⟨rfl, hafter⟩ := List.cons.inj hsplit
      exact hrest pre post hafter

theorem hasMark_eq_false_iff : hasMark q cs = false ↔ Lacks q '!' cs := by
  induction cs generalizing q with
  | nil => exact iff_of_true rfl (lacks_nil q '!')
  | cons c cs ih =>
    rw [lacks_cons, ← ih, hasMark]
    cases q <;> simp

theorem markOpening?_eq_none_iff : markOpening? q cs = none ↔ Lacks q '(' cs := by
  induction cs generalizing q with
  | nil => exact iff_of_true rfl (lacks_nil q '(')
  | cons c cs ih =>
    rw [lacks_cons, ← ih, markOpening?]
    cases q
    · by_cases hc : c = '(' <;> simp [hc]
    · simp

/-- **The mark stands behind the first parenthesis** outside quotes. -/
theorem markOpening?_eq_some_iff {cs' : List Char} : markOpening? q cs = some cs'
    ↔ ∃ a b, cs = a ++ '(' :: b ∧ cs' = a ++ '(' :: '!' :: b
        ∧ a.foldl quotedAfter q = false ∧ Lacks q '(' a := by
  constructor
  · intro h
    induction cs generalizing q cs' with
    | nil => exact absurd h (by simp [markOpening?])
    | cons c cs ih =>
      rw [markOpening?] at h
      split at h
      · next hopen =>
        obtain ⟨hq, hc⟩ := Bool.and_eq_true_iff.mp hopen
        obtain rfl : c = '(' := by simpa using hc
        exact ⟨[], cs, rfl, (Option.some.inj h).symm, by simpa using hq, lacks_nil q '('⟩
      · next hopen =>
        obtain ⟨rest, hrest, rfl⟩ := Option.map_eq_some_iff.mp h
        obtain ⟨a, b, rfl, rfl, hstate, hlacks⟩ := ih hrest
        refine ⟨c :: a, b, rfl, rfl, hstate, lacks_cons.mpr ⟨?_, hlacks⟩⟩
        rintro rfl
        simpa using hopen
  · rintro ⟨a, b, rfl, rfl, hstate, hlacks⟩
    rw [markOpening?_append, markOpening?_eq_none_iff.mpr hlacks, hstate]
    rfl

end Outside

/-! ## §2. Fragments. -/

/-- **A fragment that two negations give back**: it has no mark outside
quotes, or exactly one, and that stands behind the first parenthesis that
opens outside quotes or, if there is none, in front. -/
inductive Restorable : List Char → Prop where
  | unmarked {cs : List Char} (h : Lacks false '!' cs) : Restorable cs
  | opened {a b : List Char} (hstate : a.foldl quotedAfter false = false)
      (hfirst : Lacks false '(' a) (h : Lacks false '!' (a ++ '(' :: b)) :
      Restorable (a ++ '(' :: '!' :: b)
  | front {cs : List Char} (hopen : Lacks false '(' cs) (h : Lacks false '!' cs) :
      Restorable ('!' :: cs)

section Fragments

variable {cs : List Char}

/-- A fragment with a mark put in. -/
def withMark (cs : List Char) : List Char := (markOpening? false cs).getD ('!' :: cs)

theorem toggle_of_hasMark (h : hasMark false cs = true) : toggle cs = dropMarks false cs := by
  rw [toggle, if_pos h]

theorem toggle_of_unmarked (h : hasMark false cs = false) : toggle cs = withMark cs := by
  rw [toggle, h]
  rfl

/-- Where the mark is put. -/
theorem withMark_cases (cs : List Char) :
    (∃ a b, cs = a ++ '(' :: b ∧ withMark cs = a ++ '(' :: '!' :: b
        ∧ a.foldl quotedAfter false = false ∧ Lacks false '(' a)
      ∨ withMark cs = '!' :: cs ∧ Lacks false '(' cs := by
  unfold withMark
  cases hopen : markOpening? false cs with
  | none => exact .inr ⟨rfl, markOpening?_eq_none_iff.mp hopen⟩
  | some cs' =>
    obtain ⟨a, b, hcs, rfl, hstate, hlacks⟩ := markOpening?_eq_some_iff.mp hopen
    exact .inl ⟨a, b, hcs, rfl, hstate, hlacks⟩

theorem hasMark_withMark (cs : List Char) : hasMark false (withMark cs) = true := by
  obtain ⟨a, b, -, hmarked, hstate, -⟩ | ⟨hmarked, -⟩ := withMark_cases cs
  · rw [hmarked, hasMark_append, hstate]
    simp [hasMark, quotedAfter]
  · rw [hmarked]
    simp [hasMark]

theorem dropMarks_withMark (cs : List Char) :
    dropMarks false (withMark cs) = dropMarks false cs := by
  obtain ⟨a, b, rfl, hmarked, hstate, -⟩ | ⟨hmarked, -⟩ := withMark_cases cs
  · rw [hmarked, dropMarks_append, dropMarks_append, hstate]
    simp [dropMarks, quotedAfter]
  · rw [hmarked]
    simp [dropMarks, quotedAfter]

theorem hasMark_dropMarks (q : Bool) (cs : List Char) : hasMark q (dropMarks q cs) = false := by
  induction cs generalizing q with
  | nil => rfl
  | cons c cs ih =>
    by_cases hc : (!q && c == '!') = true
    · have hmark : c = '!' := by simpa using (Bool.and_eq_true_iff.mp hc).2
      have hstate : quotedAfter q c = q := by simp [quotedAfter, hmark]
      rw [dropMarks, if_pos hc, hstate]
      exact ih q
    · rw [dropMarks, if_neg hc, hasMark, ih, Bool.or_false]
      simpa using hc

/-- A fragment without marks is given back. -/
theorem toggle_toggle_of_unmarked (h : hasMark false cs = false) : toggle (toggle cs) = cs := by
  rw [toggle_of_unmarked h, toggle_of_hasMark (hasMark_withMark cs), dropMarks_withMark,
    dropMarks_eq_self h]

/-- A fragment with marks is given back with one. -/
theorem toggle_toggle_of_hasMark (h : hasMark false cs = true) :
    toggle (toggle cs) = withMark (dropMarks false cs) := by
  rw [toggle_of_hasMark h, toggle_of_unmarked (hasMark_dropMarks false cs)]

/-- **The third negation of a fragment is the first one.** -/
theorem toggle_toggle_toggle (cs : List Char) : toggle (toggle (toggle cs)) = toggle cs := by
  cases h : hasMark false cs with
  | false => rw [toggle_toggle_of_unmarked h]
  | true =>
    rw [toggle_of_hasMark h]
    exact toggle_toggle_of_unmarked (hasMark_dropMarks false cs)

/-- **The fragments that two negations give back.** -/
theorem toggle_toggle_eq_self_iff : toggle (toggle cs) = cs ↔ Restorable cs := by
  constructor
  · intro h
    cases hmark : hasMark false cs with
    | false => exact .unmarked (hasMark_eq_false_iff.mp hmark)
    | true =>
      rw [toggle_toggle_of_hasMark hmark] at h
      have hnone := hasMark_eq_false_iff.mp (hasMark_dropMarks false cs)
      -- The text is its own unmarked text with one mark put in.
      obtain ⟨a, b, hplain, hmarked, hstate, hlacks⟩ | ⟨hmarked, hlacks⟩ :=
        withMark_cases (dropMarks false cs)
      · rw [← h, hmarked]
        exact .opened hstate hlacks (hplain ▸ hnone)
      · rw [← h, hmarked]
        exact .front hlacks hnone
  · intro h
    cases h with
    | unmarked h => exact toggle_toggle_of_unmarked (hasMark_eq_false_iff.mpr h)
    | @opened a b hstate hfirst h =>
      have hunmarked := hasMark_eq_false_iff.mpr h
      have hput : toggle (a ++ '(' :: b) = a ++ '(' :: '!' :: b := by
        rw [toggle_of_unmarked hunmarked, withMark,
          markOpening?_eq_some_iff.mpr ⟨a, b, rfl, rfl, hstate, hfirst⟩]
        rfl
      rw [← hput, toggle_toggle_toggle]
    | @front cs hopen h =>
      have hunmarked := hasMark_eq_false_iff.mpr h
      have hput : toggle cs = '!' :: cs := by
        rw [toggle_of_unmarked hunmarked, withMark, markOpening?_eq_none_iff.mpr hopen]
        rfl
      rw [← hput, toggle_toggle_toggle]

instance (cs : List Char) : Decidable (Restorable cs) :=
  decidable_of_iff _ toggle_toggle_eq_self_iff

/-- A mark more or all marks less: a toggled fragment is another text. -/
theorem toggle_ne_self (cs : List Char) : toggle cs ≠ cs := by
  intro h
  cases hmark : hasMark false cs with
  | false =>
    rw [toggle_of_unmarked hmark] at h
    rw [← h, hasMark_withMark] at hmark
    exact absurd hmark (by decide)
  | true =>
    rw [toggle_of_hasMark hmark] at h
    rw [← h, hasMark_dropMarks] at hmark
    exact absurd hmark (by decide)

end Fragments

/-! ## §3. Cutting a row. -/

/-- The pass for terms cuts at this character. -/
def cutsAt (quoted : Bool) (depth : Nat) (c : Char) : Bool :=
  !quoted && depth == 0 && isSeparator c

/-- The depth after a character at which the pass does not cut. -/
def depthAfter (quoted : Bool) (depth : Nat) (c : Char) : Nat :=
  if !quoted && c == '(' then depth + 1
  else if !quoted && c == ')' then depth - 1
  else depth

/-- **The way of the pass through a text that it does not cut**: the state
and the depth at the end. -/
def within? (quoted : Bool) (depth : Nat) : List Char → Option (Bool × Nat)
  | [] => some (quoted, depth)
  | c :: cs =>
      if cutsAt quoted depth c then none
      else within? (quotedAfter quoted c) (depthAfter quoted depth c) cs

/-- **A row as the pass cuts it**: no term is cut, and before each separator
the pass is outside quotes and parentheses. -/
inductive Laid : Bool → Nat → List Char × List (Char × List Char) → Prop where
  | last {q : Bool} {d : Nat} {t : List Char} {state : Bool × Nat}
      (h : within? q d t = some state) : Laid q d (t, [])
  | cut {q : Bool} {d : Nat} {t t' : List Char} {s : Char} {rest : List (Char × List Char)}
      (h : within? q d t = some (false, 0)) (hs : isSeparator s = true)
      (hrest : Laid false 0 (t', rest)) : Laid q d (t, (s, t') :: rest)

/-- A row with every term changed. -/
def mapTerms (f : List Char → List Char) (row : List Char × List (Char × List Char)) :
    List Char × List (Char × List Char) :=
  (f row.1, row.2.map fun t => (t.1, f t.2))

/-- The terms of a row, without the separators. -/
def termsOf (cs : List Char) : List (List Char) :=
  (terms false 0 cs).1 :: (terms false 0 cs).2.map Prod.snd

section Rows

variable {q : Bool} {d : Nat} {c : Char} {cs t : List Char}
  {row : List Char × List (Char × List Char)}

theorem terms_cut (h : cutsAt q d c = true) (cs : List Char) :
    terms q d (c :: cs) = ([], (c, (terms q d cs).1) :: (terms q d cs).2) := by
  have hcut : (!q && d == 0 && isSeparator c) = true := h
  rw [terms, if_pos hcut]

theorem terms_uncut (h : cutsAt q d c = false) (cs : List Char) :
    terms q d (c :: cs) = (c :: (terms (quotedAfter q c) (depthAfter q d c) cs).1,
      (terms (quotedAfter q c) (depthAfter q d c) cs).2) := by
  have hcut : ¬(!q && d == 0 && isSeparator c) = true := by
    rw [show (!q && d == 0 && isSeparator c) = false from h]
    decide
  rw [terms, if_neg hcut]
  rfl

theorem within?_cons (h : cutsAt q d c = false) (cs : List Char) :
    within? q d (c :: cs) = within? (quotedAfter q c) (depthAfter q d c) cs := by
  rw [within?, h, if_neg Bool.false_ne_true]

/-- At a cut the pass is outside quotes and parentheses. -/
theorem cutsAt_eq_true_iff : cutsAt q d c = true ↔ q = false ∧ d = 0 ∧ isSeparator c = true := by
  cases q <;> simp [cutsAt]

theorem terms_of_within? {state : Bool × Nat} (h : within? q d t = some state)
    (rest : List Char) : terms q d (t ++ rest)
      = (t ++ (terms state.1 state.2 rest).1, (terms state.1 state.2 rest).2) := by
  induction t generalizing q d with
  | nil =>
    obtain rfl := Option.some.inj h
    rfl
  | cons c t ih =>
    cases hcut : cutsAt q d c with
    | true => exact absurd h (by simp [within?, hcut])
    | false =>
      rw [within?_cons hcut] at h
      rw [List.cons_append, terms_uncut hcut, ih h]
      rfl

/-- The terms of a text are laid out. -/
theorem laid_terms (q : Bool) (d : Nat) (cs : List Char) : Laid q d (terms q d cs) := by
  induction cs generalizing q d with
  | nil => exact .last rfl
  | cons c cs ih =>
    cases hcut : cutsAt q d c with
    | true =>
      obtain ⟨rfl, rfl, hs⟩ := cutsAt_eq_true_iff.mp hcut
      rw [terms_cut hcut]
      exact .cut rfl hs (ih false 0)
    | false =>
      rw [terms_uncut hcut]
      have hrow := ih (quotedAfter q c) (depthAfter q d c)
      cases hrest : terms (quotedAfter q c) (depthAfter q d c) cs with
      | mk t ts =>
        rw [hrest] at hrow
        cases hrow with
        | last h => exact .last ((within?_cons hcut t).trans h)
        | cut h hs hrow => exact .cut ((within?_cons hcut t).trans h) hs hrow

/-- **A row that is laid out is cut into its terms.** -/
theorem Laid.terms_rejoin (h : Laid q d row) : terms q d (rejoin row) = row := by
  induction h with
  | @last q d t state h =>
    have hend := terms_of_within? h []
    rw [List.append_nil] at hend
    rw [show rejoin (t, []) = t from List.append_nil t, hend]
    exact Prod.ext (List.append_nil t) rfl
  | @cut q d t t' s rest h hs hrest ih =>
    have hcut : cutsAt false 0 s = true := cutsAt_eq_true_iff.mpr ⟨rfl, rfl, hs⟩
    rw [show rejoin (t, (s, t') :: rest) = t ++ s :: rejoin (t', rest) from rfl,
      terms_of_within? h, terms_cut hcut, ih, List.append_nil]

/-- **Marks do not count** for the way of the pass. -/
theorem within?_filter (q : Bool) (d : Nat) (t : List Char) :
    within? q d (t.filter (· ≠ '!')) = within? q d t := by
  induction t generalizing q d with
  | nil => rfl
  | cons c t ih =>
    by_cases hmark : c = '!'
    · have hcut : cutsAt q d c = false := by simp [cutsAt, hmark, isSeparator]
      have hstate : quotedAfter q c = q := by simp [quotedAfter, hmark]
      have hdepth : depthAfter q d c = d := by simp [depthAfter, hmark]
      rw [within?_cons hcut, hstate, hdepth, List.filter_cons_of_neg (by simp [hmark]), ih]
    · rw [List.filter_cons_of_pos (by simpa using hmark), within?, within?, ih]

/-- **A change of marks leaves the terms in their places.** -/
theorem Laid.mapTerms {f : List Char → List Char}
    (hf : ∀ t, (f t).filter (· ≠ '!') = t.filter (· ≠ '!')) (h : Laid q d row) :
    Laid q d (mapTerms f row) := by
  have hwithin : ∀ q d t, within? q d (f t) = within? q d t := by
    intro q d t
    rw [← within?_filter q d (f t), hf, within?_filter]
  induction h with
  | last h => exact .last ((hwithin _ _ _).trans h)
  | cut h hs _ ih => exact .cut ((hwithin _ _ _).trans h) hs ih

end Rows

/-! ## §4. Negating a row. -/

section Negating

variable {cs t : List Char}

theorem filter_dropMarks (q : Bool) (cs : List Char) :
    (dropMarks q cs).filter (· ≠ '!') = cs.filter (· ≠ '!') := by
  induction cs generalizing q with
  | nil => rfl
  | cons c cs ih =>
    rw [dropMarks]
    split
    · next hmark =>
      obtain rfl : c = '!' := by simpa using (Bool.and_eq_true_iff.mp hmark).2
      rw [ih, List.filter_cons_of_neg (by simp)]
    · rw [List.filter_cons, List.filter_cons, ih]

theorem filter_toggle (cs : List Char) :
    (toggle cs).filter (· ≠ '!') = cs.filter (· ≠ '!') := by
  rw [← filter_dropMarks false, dropMarks_toggle, filter_dropMarks]

/-- A term without a parenthesis that opens, or without one at its end, is
toggled as a whole. -/
theorem negateTerm_of_fragment (h : '(' ∉ t ∨ t.getLast? ≠ some ')') :
    negateTerm t = toggle t := by
  unfold negateTerm
  split
  · next c rest hdrop hlast =>
    rcases h with hopen | hnot
    · have hall : ∀ c ∈ t, decide (c ≠ '(') = true := by
        intro c hc
        simpa using fun h : c = '(' => hopen (h ▸ hc)
      have hnone : t.dropWhile (· ≠ '(') = [] := by
        rw [← List.append_nil t, List.dropWhile_append_of_pos hall]
        rfl
      rw [hnone] at hdrop
      exact absurd hdrop (by simp)
    · exact absurd hlast hnot
  · rfl

/-- **A term is a predicate `name(fragment)` or a fragment as a whole.** -/
theorem term_cases (t : List Char) :
    (∃ name inner, '(' ∉ name ∧ t = name ++ '(' :: (inner ++ [')']))
      ∨ ('(' ∉ t ∨ t.getLast? ≠ some ')') := by
  by_cases hopen : '(' ∈ t
  · by_cases hlast : t.getLast? = some ')'
    · obtain ⟨name, rest, rfl, hname⟩ := List.eq_append_cons_of_mem hopen
      refine .inl ⟨name, rest.dropLast, hname, ?_⟩
      rw [List.getLast?_append, List.getLast?_cons] at hlast
      have hrest : rest.getLast? = some ')' := by
        cases hr : rest.getLast? with
        | none => simp [hr] at hlast
        | some c => simpa [hr] using hlast
      obtain ⟨inner, rfl⟩ := List.getLast?_eq_some_iff.mp hrest
      rw [List.dropLast_concat]
    · exact .inr (.inr hlast)
  · exact .inr (.inl hopen)

theorem filter_negateTerm (t : List Char) :
    (negateTerm t).filter (· ≠ '!') = t.filter (· ≠ '!') := by
  obtain ⟨name, inner, hname, rfl⟩ | hfragment := term_cases t
  · rw [negateTerm_of_predicate hname]
    simp only [List.filter_append, List.filter_cons, filter_toggle]
  · rw [negateTerm_of_fragment hfragment, filter_toggle]

/-- A negated term is another text. -/
theorem negateTerm_ne_self (t : List Char) : negateTerm t ≠ t := by
  obtain ⟨name, inner, hname, rfl⟩ | hfragment := term_cases t
  · rw [negateTerm_of_predicate hname]
    intro h
    have hinner := List.append_cancel_right (List.cons.inj (List.append_cancel_left h)).2
    exact toggle_ne_self inner hinner
  · rw [negateTerm_of_fragment hfragment]
    exact toggle_ne_self t

theorem negateTerms_eq (cs : List Char) :
    negateTerms cs = rejoin (mapTerms negateTerm (terms false 0 cs)) := rfl

/-- **The terms of a negated row** are the negated terms. -/
theorem terms_negateTerms (cs : List Char) :
    terms false 0 (negateTerms cs) = mapTerms negateTerm (terms false 0 cs) := by
  rw [negateTerms_eq]
  exact ((laid_terms false 0 cs).mapTerms filter_negateTerm).terms_rejoin

end Negating

/-! ## §5. Negating again and again. -/

/-- **The third negation leaves the term as the first did.**  This can only
fail for a term that ends with marks and is a predicate without them. -/
def Settles (t : List Char) : Prop :=
  t.getLast? ≠ some ')' → ∀ name inner, '(' ∉ name →
    dropMarks false t = name ++ '(' :: (inner ++ [')']) → Restorable inner

section Again

variable {cs t : List Char}

/-- A mark that is put in does not bring a parenthesis to the end. -/
theorem getLast?_withMark (h : t.getLast? ≠ some ')') : (withMark t).getLast? ≠ some ')' := by
  obtain ⟨a, b, rfl, hmarked, -, -⟩ | ⟨hmarked, -⟩ := withMark_cases t
  · rw [hmarked]
    rw [List.getLast?_append, List.getLast?_cons] at h ⊢
    cases hb : b.getLast? with
    | none => simp [List.getLast?_cons, hb]
    | some c => simpa [List.getLast?_cons, hb] using h
  · rw [hmarked]
    exact getLast?_cons_ne (by decide) h

theorem mem_toggle_iff : '(' ∈ toggle t ↔ '(' ∈ t := by
  have hfilter : ∀ cs : List Char, '(' ∈ cs ↔ '(' ∈ cs.filter (· ≠ '!') := by
    intro cs
    simp [List.mem_filter]
  rw [hfilter, filter_toggle, ← hfilter]

theorem getLast?_predicate (name inner : List Char) :
    (name ++ '(' :: (inner ++ [')'])).getLast? = some ')' := by
  rw [← List.cons_append, ← List.append_assoc, List.getLast?_concat]

/-- A toggled term is a fragment as a whole, or it is a predicate and the
term has lost its marks at the end. -/
theorem toggle_predicate {name inner : List Char} (h : '(' ∉ t ∨ t.getLast? ≠ some ')')
    (htoggled : toggle t = name ++ '(' :: (inner ++ [')'])) :
    t.getLast? ≠ some ')' ∧ toggle t = dropMarks false t := by
  have hopen : '(' ∈ t := mem_toggle_iff.mp (by rw [htoggled]; simp)
  have hlast : t.getLast? ≠ some ')' := h.resolve_left fun hnot => hnot hopen
  refine ⟨hlast, ?_⟩
  cases hmark : hasMark false t with
  | true => exact toggle_of_hasMark hmark
  | false =>
    have hends := getLast?_withMark hlast
    rw [← toggle_of_unmarked hmark, htoggled, getLast?_predicate] at hends
    exact absurd rfl hends

/-- Toggled twice, a term that is a fragment and stays one is a fragment
still. -/
theorem fragment_toggle_toggle (h : '(' ∉ t ∨ t.getLast? ≠ some ')')
    (htoggled : '(' ∉ toggle t ∨ (toggle t).getLast? ≠ some ')') :
    '(' ∉ toggle (toggle t) ∨ (toggle (toggle t)).getLast? ≠ some ')' := by
  cases hmark : hasMark false t with
  | false => rwa [toggle_toggle_of_unmarked hmark]
  | true =>
    rcases htoggled with hopen | hlast
    · exact .inl fun hmem => hopen (mem_toggle_iff.mp hmem)
    · rw [toggle_of_hasMark hmark] at hlast
      rw [toggle_toggle_of_hasMark hmark]
      exact .inr (getLast?_withMark hlast)

/-- **Three negations of a term.** -/
theorem negateTerm_thrice_iff :
    negateTerm (negateTerm (negateTerm t)) = negateTerm t ↔ Settles t := by
  obtain ⟨name, inner, hname, rfl⟩ | hfragment := term_cases t
  · rw [negateTerm_of_predicate hname, negateTerm_of_predicate hname,
      negateTerm_of_predicate hname, toggle_toggle_toggle]
    exact iff_of_true rfl fun h => absurd (getLast?_predicate name inner) h
  · rw [negateTerm_of_fragment hfragment]
    obtain ⟨name, inner, hname, htoggled⟩ | hagain := term_cases (toggle t)
    · -- Without its marks the term is a predicate, and is read as one from now on.
      obtain ⟨hlast, hplain⟩ := toggle_predicate hfragment htoggled
      have htwice : ∀ name inner, '(' ∉ name → dropMarks false t = name ++ '(' :: (inner ++ [')']) →
          (negateTerm (negateTerm (toggle t)) = toggle t ↔ Restorable inner) := by
        intro name inner hname hdropped
        rw [hplain, hdropped, negateTerm_of_predicate hname, negateTerm_of_predicate hname,
          ← toggle_toggle_eq_self_iff, List.append_cancel_left_eq, List.cons_inj_right,
          List.append_cancel_right_eq]
      constructor
      · intro h _ name inner hname hdropped
        exact (htwice name inner hname hdropped).mp h
      · intro h
        have hdropped := hplain ▸ htoggled
        exact (htwice name inner hname hdropped).mpr (h hlast name inner hname hdropped)
    · -- The term is a fragment all the time.
      rw [negateTerm_of_fragment hagain,
        negateTerm_of_fragment (fragment_toggle_toggle hfragment hagain), toggle_toggle_toggle]
      refine iff_of_true rfl ?_
      intro hlast name inner _ hdropped
      cases hmark : hasMark false t with
      | false =>
        rw [dropMarks_eq_self hmark] at hdropped
        rw [hdropped, getLast?_predicate] at hlast
        exact absurd rfl hlast
      | true =>
        rw [toggle_of_hasMark hmark, hdropped, getLast?_predicate] at hagain
        rcases hagain with hopen | hends
        · exact absurd (by simp) hopen
        · exact absurd rfl hends

theorem rejoin_mapTerms_inj {f g : List Char → List Char}
    (hf : ∀ t, (f t).filter (· ≠ '!') = t.filter (· ≠ '!'))
    (hg : ∀ t, (g t).filter (· ≠ '!') = t.filter (· ≠ '!')) :
    rejoin (mapTerms f (terms false 0 cs)) = rejoin (mapTerms g (terms false 0 cs))
      ↔ ∀ t ∈ termsOf cs, f t = g t := by
  have hlaid := laid_terms false 0 cs
  constructor
  · intro h
    -- Both texts are cut into their terms again.
    have hrows : mapTerms f (terms false 0 cs) = mapTerms g (terms false 0 cs) := by
      rw [← (hlaid.mapTerms hf).terms_rejoin, ← (hlaid.mapTerms hg).terms_rejoin, h]
    obtain ⟨hfirst, hrest⟩ := Prod.mk.inj hrows
    intro t ht
    rcases List.mem_cons.mp ht with rfl | ht
    · exact hfirst
    · obtain ⟨p, hp, rfl⟩ := List.mem_map.mp ht
      exact (Prod.mk.inj (List.map_inj_left.mp hrest p hp)).2
  · intro h
    have hrows : mapTerms f (terms false 0 cs) = mapTerms g (terms false 0 cs) := by
      refine Prod.ext (h _ List.mem_cons_self) (List.map_inj_left.mpr ?_)
      intro p hp
      exact Prod.ext rfl (h _ (List.mem_cons_of_mem _ (List.mem_map.mpr ⟨p, hp, rfl⟩)))
    rw [hrows]

/-- Negating again negates the terms again. -/
theorem negateTerms_mapTerms {f : List Char → List Char}
    (hf : ∀ t, (f t).filter (· ≠ '!') = t.filter (· ≠ '!')) :
    negateTerms (rejoin (mapTerms f (terms false 0 cs)))
      = rejoin (mapTerms (fun t => negateTerm (f t)) (terms false 0 cs)) := by
  rw [negateTerms_eq, ((laid_terms false 0 cs).mapTerms hf).terms_rejoin]
  simp [mapTerms, Function.comp_def]

/-- **Three negations of a row.** -/
theorem negateTerms_thrice_iff : negateTerms (negateTerms (negateTerms cs)) = negateTerms cs
    ↔ ∀ t ∈ termsOf cs, Settles t := by
  have htwice : ∀ t, (negateTerm (negateTerm t)).filter (· ≠ '!') = t.filter (· ≠ '!') :=
    fun t => (filter_negateTerm _).trans (filter_negateTerm t)
  have hthrice : ∀ t, (negateTerm (negateTerm (negateTerm t))).filter (· ≠ '!')
      = t.filter (· ≠ '!') := fun t => (filter_negateTerm _).trans (htwice t)
  rw [negateTerms_eq cs, negateTerms_mapTerms filter_negateTerm, negateTerms_mapTerms htwice,
    rejoin_mapTerms_inj hthrice filter_negateTerm]
  simp only [negateTerm_thrice_iff]

/-- A negated row is another text. -/
theorem negateTerms_ne_self (cs : List Char) : negateTerms cs ≠ cs := by
  intro h
  have hkept : mapTerms id (terms false 0 cs) = terms false 0 cs := by simp [mapTerms]
  have hsame : rejoin (mapTerms negateTerm (terms false 0 cs))
      = rejoin (mapTerms id (terms false 0 cs)) := by
    rw [← negateTerms_eq, h, hkept, rejoin_terms]
  have hterms := (rejoin_mapTerms_inj filter_negateTerm fun _ => rfl).mp hsame
  exact negateTerm_ne_self _ (hterms _ List.mem_cons_self)

end Again

/-! ## §6. Rows of plain operands. -/

section Plain

variable {cs : List Char}

theorem termsOf_append {a b : List Char} {s : Char} (ha : Separable a)
    (hs : isSeparator s = true) : termsOf (a ++ s :: b) = termsOf a ++ termsOf b := by
  simp [termsOf, ha s b hs, joinRows]

/-- Predicates end with a parenthesis, and comparisons never do. -/
theorem IsRow.settles (h : IsRow cs) : ∀ t ∈ termsOf cs, Settles t := by
  induction h with
  | @predicate name cs hn h =>
    intro t ht hlast
    rw [termsOf, (h.solid_predicateText hn).terms_eq, List.map_nil, List.mem_singleton] at ht
    rw [ht] at hlast
    exact absurd (getLast?_predicate name.toList cs) hlast
  | @stray cs h =>
    intro t ht _ name inner _ hdropped
    rw [termsOf, (h.atomic.solid 0).terms_eq, List.map_nil, List.mem_singleton] at ht
    obtain rfl : t = cs := ht
    have hends := h.dropMarks.getLast?_ne
    rw [hdropped, getLast?_predicate] at hends
    exact absurd rfl hends
  | combined c ha _ iha ihb =>
    intro t ht
    rw [termsOf_append ha.separable c.isSeparator_token, List.mem_append] at ht
    exact ht.elim (iha t) (ihb t)

end Plain

/-! ## §7. Expressions. -/

namespace Expression

/-- The text of the expression is negated as one fragment. -/
def OneFragment (e : Expression) : Prop := e.resolved = [] ∨ e.keywords.length ≤ 1

instance (e : Expression) : Decidable e.OneFragment := inferInstanceAs (Decidable (_ ∨ _))

/-- How the text of the expression is negated. -/
def negateText (e : Expression) (cs : List Char) : List Char :=
  if e.OneFragment then toggle cs else negateTerms cs

/-- The expression with another text in the place of its only one. -/
def withText (e : Expression) (cs : List Char) : Expression :=
  if e.resolved = [] then { e with pending := [String.ofList cs] }
  else { e with resolved := [String.ofList cs] }

section Only

variable {e : Expression} {s : String} {cs cs' : List Char}

theorem IsOnly.withText_self (h : e.IsOnly s) : e.withText s.toList = e := by
  obtain ⟨ks, ps, rs⟩ := e
  rcases h with ⟨rfl, rfl⟩ | ⟨rfl, rfl⟩ <;> simp [withText]

theorem IsOnly.withText (h : e.IsOnly s) (cs : List Char) :
    (e.withText cs).IsOnly (String.ofList cs) := by
  rcases h with ⟨hp, hr⟩ | ⟨hp, hr⟩
  · exact .inl (by simp [Expression.withText, hr])
  · exact .inr (by simp [Expression.withText, hp, hr])

/-- The number of texts and their places are the same. -/
theorem IsOnly.withText_lengths (h : e.IsOnly s) (cs : List Char) :
    (e.withText cs).keywords = e.keywords
      ∧ (e.withText cs).pending.length = e.pending.length
      ∧ (e.withText cs).resolved.length = e.resolved.length := by
  rcases h with ⟨hp, hr⟩ | ⟨hp, hr⟩ <;> simp [Expression.withText, hp, hr]

theorem withText_inj : e.withText cs = e.withText cs' ↔ cs = cs' := by
  constructor
  · intro h
    unfold withText at h
    split at h
    · exact String.ofList_injective (List.singleton_inj.mp (congrArg Expression.pending h))
    · exact String.ofList_injective (List.singleton_inj.mp (congrArg Expression.resolved h))
  · intro h
    rw [h]

/-- **Negating the only text.** -/
theorem IsOnly.negate_eq (h : e.IsOnly s) :
    e.negate = .ok (e.withText (e.negateText s.toList)) := by
  obtain ⟨ks, ps, rs⟩ := e
  rcases h with ⟨rfl, rfl⟩ | ⟨rfl, rfl⟩
  · simp [negate, Expression.withText, negateText, OneFragment]
  · by_cases hone : ks.length ≤ 1
    · simp [negate, Expression.withText, negateText, OneFragment, hone, Nat.not_lt.mpr hone]
    · simp [negate, Expression.withText, negateText, OneFragment, hone, Nat.lt_of_not_le hone]

/-- Negating the text that was put in the place of the only one. -/
theorem IsOnly.negate_withText (h : e.IsOnly s) (cs : List Char) :
    (e.withText cs).negate = .ok (e.withText (e.negateText cs)) := by
  have honly := h.withText cs
  rw [honly.negate_eq, String.toList_ofList]
  obtain ⟨ks, ps, rs⟩ := e
  rcases h with ⟨rfl, rfl⟩ | ⟨rfl, rfl⟩ <;>
    simp [Expression.withText, negateText, OneFragment]

theorem negate_of_length_ne (h : e.pending.length + e.resolved.length ≠ 1) :
    e.negate = .error (e.malformed .negate) := by
  unfold negate
  split
  · next hp hr => exact absurd (by rw [hp, hr]; rfl) h
  · next hp hr => exact absurd (by rw [hp, hr]; rfl) h
  · rfl

theorem exists_negate_iff :
    (∃ e₁, e.negate = .ok e₁) ↔ e.pending.length + e.resolved.length = 1 := by
  constructor
  · rintro ⟨e₁, h⟩
    refine Decidable.byContradiction fun hsum => ?_
    rw [negate_of_length_ne hsum] at h
    exact nomatch h
  · intro hsum
    obtain ⟨s, hs⟩ := exists_isOnly_iff.mpr hsum
    exact ⟨_, hs.negate_eq⟩

/-- **Negating fails** on any other number of texts. -/
theorem negate_eq_error_iff {err : PredicateError} : e.negate = .error err
    ↔ e.pending.length + e.resolved.length ≠ 1 ∧ err = e.malformed .negate := by
  constructor
  · intro h
    have hsum : e.pending.length + e.resolved.length ≠ 1 := by
      intro hsum
      obtain ⟨e₁, h₁⟩ := exists_negate_iff.mpr hsum
      rw [h₁] at h
      exact nomatch h
    rw [negate_of_length_ne hsum] at h
    exact ⟨hsum, (Except.error.inj h).symm⟩
  · rintro ⟨hsum, rfl⟩
    exact negate_of_length_ne hsum

theorem negateText_ne_self (e : Expression) (cs : List Char) : e.negateText cs ≠ cs := by
  unfold negateText
  split
  · exact toggle_ne_self cs
  · exact negateTerms_ne_self cs

/-- Two negations of a fragment. -/
theorem IsOnly.twice_iff (h : e.IsOnly s) (hone : e.OneFragment) :
    e.withText (e.negateText (e.negateText s.toList)) = e ↔ Restorable s.toList := by
  have htoggle : e.negateText = toggle := funext fun cs => if_pos hone
  rw [htoggle, ← toggle_toggle_eq_self_iff]
  calc e.withText (toggle (toggle s.toList)) = e
      ↔ e.withText (toggle (toggle s.toList)) = e.withText s.toList := by rw [h.withText_self]
    _ ↔ toggle (toggle s.toList) = s.toList := withText_inj

theorem withText_thrice (hone : e.OneFragment) (cs : List Char) :
    e.withText (e.negateText (e.negateText (e.negateText cs))) = e.withText (e.negateText cs) := by
  have htoggle : e.negateText = toggle := funext fun cs => if_pos hone
  rw [htoggle, toggle_toggle_toggle]

theorem withText_thrice_iff (hrow : ¬ e.OneFragment) (cs : List Char) :
    e.withText (e.negateText (e.negateText (e.negateText cs))) = e.withText (e.negateText cs)
      ↔ ∀ t ∈ termsOf cs, Settles t := by
  have hterms : e.negateText = negateTerms := funext fun cs => if_neg hrow
  rw [hterms, withText_inj, negateTerms_thrice_iff]

/-- **With plain operands every text goes to and fro.** -/
theorem IsOnly.settles (h : e.IsOnly s) (he : Reachable e) (hrow : ¬ e.OneFragment) :
    ∀ t ∈ termsOf s.toList, Settles t := by
  have hseveral : ∀ name, e.keywords ≠ [name] := by
    intro name hname
    exact hrow (.inr (by rw [hname]; exact Nat.le_refl 1))
  exact (he.laid.row closed_laid hseveral h.mem).settles

end Only

end Expression

/-- **NEGATING AGAIN AND AGAIN.**  An expression can be negated exactly when
it has one text.  Its keywords and the place of the text stay the same, and
the text changes every time.  A text that is one fragment goes to and fro
from the first negation on, and two negations give it back exactly when it
has no mark outside quotes, or one that stands where marks are put.  A text
over several keywords goes to and fro exactly when all of its terms settle,
and so it does in every run whose operands have no apostrophes. -/
theorem negation_settles (e : Expression) :
    ((∃ e₁, e.negate = .ok e₁) ↔ e.pending.length + e.resolved.length = 1)
    ∧ (∀ err, e.negate = .error err
      ↔ e.pending.length + e.resolved.length ≠ 1
        ∧ err = .malformed .negate e.pending.length e.resolved.length)
    ∧ ∀ s, e.IsOnly s → ∃ e₁ e₂ e₃ s₁, e.negate = .ok e₁ ∧ e₁.negate = .ok e₂
      ∧ e₂.negate = .ok e₃
      ∧ e₁.keywords = e.keywords ∧ e₁.pending.length = e.pending.length
      ∧ e₁.resolved.length = e.resolved.length ∧ e₁.IsOnly s₁ ∧ s₁ ≠ s
      ∧ (e.OneFragment → e₃ = e₁ ∧ (e₂ = e ↔ Restorable s.toList))
      ∧ (¬ e.OneFragment → (e₃ = e₁ ↔ ∀ t ∈ termsOf s.toList, Settles t))
      ∧ (Reachable e → e₃ = e₁) := by
  refine ⟨Expression.exists_negate_iff, fun err => Expression.negate_eq_error_iff, ?_⟩
  intro s hs
  obtain ⟨hkeywords, hpending, hresolved⟩ := hs.withText_lengths (e.negateText s.toList)
  refine ⟨_, _, _, _, hs.negate_eq, hs.negate_withText _, hs.negate_withText _, hkeywords,
    hpending, hresolved, hs.withText _, ?_, ?_, ?_, ?_⟩
  · intro h
    have htext := congrArg String.toList h
    rw [String.toList_ofList] at htext
    exact e.negateText_ne_self s.toList htext
  · intro hone
    exact ⟨Expression.withText_thrice hone _, hs.twice_iff hone⟩
  · intro hrow
    exact Expression.withText_thrice_iff hrow _
  · intro he
    by_cases hone : e.OneFragment
    · exact Expression.withText_thrice hone _
    · exact (Expression.withText_thrice_iff hone _).mpr (hs.settles he hone)

/-- A fold loses a mark for good, and a row of plain operands goes to and
fro. -/
theorem negation_settles_folded :
    let a : Expression := ⟨["auid"], [], ["!1,!2"]⟩
    let e : Expression := ⟨["auid", "aurl"], [], ["aurl(!'x),(',*'a!('*):auid(!*'!')"]⟩
    (a.IsOnly "!1,!2" ∧ a.OneFragment ∧ ¬ Restorable "!1,!2".toList
      ∧ ∃ a₁ a₂ a₃, a.negate = .ok a₁ ∧ a₁.negate = .ok a₂ ∧ a₂.negate = .ok a₃ ∧ a₃ = a₁
        ∧ a₂ ≠ a)
    ∧ Reachable e ∧ e.IsOnly "aurl(!'x),(',*'a!('*):auid(!*'!')" ∧ ¬ e.OneFragment
      ∧ ∃ e₁ e₂ e₃, e.negate = .ok e₁ ∧ e₁.negate = .ok e₂ ∧ e₂.negate = .ok e₃ ∧ e₃ = e₁ := by
  intro a e
  have ha : a.IsOnly "!1,!2" := .inr ⟨rfl, rfl⟩
  have hone : a.OneFragment := by decide
  have hlost : ¬ Restorable "!1,!2".toList := by decide
  obtain ⟨-, -, hfragment⟩ := negation_settles a
  obtain ⟨a₁, a₂, a₃, -, h₁, h₂, h₃, -, -, -, -, -, hcycle, -, -⟩ := hfragment _ ha
  have hbuild : (Combination.both .or Sample.foldedPair
      (.single ⟨.auid, .gt, .text "!"⟩)).build = .ok e := by cbv
  have hreach : Reachable e := built_build (by decide) (by decide) hbuild
  have he : e.IsOnly "aurl(!'x),(',*'a!('*):auid(!*'!')" := .inr ⟨rfl, rfl⟩
  obtain ⟨-, -, hrow⟩ := negation_settles e
  obtain ⟨e₁, e₂, e₃, -, g₁, g₂, g₃, -, -, -, -, -, -, -, hplain⟩ := hrow _ he
  refine ⟨⟨ha, hone, hlost, a₁, a₂, a₃, h₁, h₂, h₃, (hcycle hone).1, ?_⟩, hreach, he, by decide,
    e₁, e₂, e₃, g₁, g₂, g₃, hplain hreach⟩
  exact fun hback => hlost ((hcycle hone).2.mp hback)

/-- Two comparisons, of which one has an operand with apostrophes that end
its quotes. -/
def Sample.quoteEnding : Combination Clause :=
  .both .and (.single ⟨.auid, .eq, .text "'),'(!!')!,x('"⟩) (.single ⟨.aurl, .eq, .number (.int 5)⟩)

/-- **A row that is never given back.**  Its second term `'(!!')!` loses the
mark at its end and is a predicate then, with two marks that the quotes in
front of it had hidden. -/
theorem negation_unsettled :
    ∃ e e₁ e₂ e₃, Sample.quoteEnding.build = .ok e
      ∧ Built (fun f => f ∈ catalog) (fun _ _ _ => True) e
      ∧ e.negate = .ok e₁ ∧ e₁.negate = .ok e₂ ∧ e₂.negate = .ok e₃
      ∧ e.resolved = ["auid(''),'(!!')!,x(''),aurl(5)"]
      ∧ e₁.resolved = ["auid(!''),'(!!'),x(!''),aurl(!5)"]
      ∧ e₂.resolved = ["auid(''),'('),x(''),aurl(5)"]
      ∧ e₃.resolved = ["auid(!''),'(!'),x(!''),aurl(!5)"]
      ∧ e₃ ≠ e₁ := by
  let row (s : String) : Expression := ⟨["auid", "aurl"], [], [s]⟩
  have hbuild : Sample.quoteEnding.build = .ok (row "auid(''),'(!!')!,x(''),aurl(5)") := by cbv
  have hnegate : ∀ s s' : String, negateTerms s.toList = s'.toList →
      (row s).negate = .ok (row s') := by
    intro s s' h
    show Except.ok (Expression.mk _ _ [String.ofList (negateTerms s.toList)]) = _
    rw [h, String.ofList_toList]
  refine ⟨_, _, _, _, hbuild, built_build (by decide) (fun _ _ => trivial) hbuild,
    hnegate _ "auid(!''),'(!!'),x(!''),aurl(!5)" (by decide),
    hnegate _ "auid(''),'('),x(''),aurl(5)" (by decide),
    hnegate _ "auid(!''),'(!'),x(!''),aurl(!5)" (by decide), rfl, rfl, rfl, rfl, by decide⟩

end MaterialSearch.Predicate
