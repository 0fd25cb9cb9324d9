/-
  MaterialSearch.Proofs.Predicate.Distribution
  ────────────────────────────────
  **NEGATION ACROSS KEYWORDS.**

  An expression over several keywords is one text, and negation has to cut
  that text into the parts it was put together from.  It does: every text
  over several keywords is a row of parts, each of which the pass for terms
  takes as one, whatever folds and quotes it holds.  So negating a
  combination is combining the negations, and negating twice gives back
  what was there wherever it does for the parts.

  A part is a predicate `name(fragment)`, or a comparison made on an
  emptied expression over several keywords, which is not bound to any.

  Main definitions:
    * `IsRow`                — the texts over several keywords
    * `TextKind.laid`        — what the texts of all runs are like
    * `Comparison.opposite`  — what a negated comparison is
    * `Combination.Crossing` — trees in which nothing is folded

  Main results:
    * `IsRow.negateTerms`, `Built.laid` — rows stay rows in every run
    * `negate_bound`           — a bound text is negated as a row
    * `Comparison.toggle_fragment` — a comparison becomes its opposite
    * `negate_distributes`     — **negation goes through a combination**
-/
import MaterialSearch.Proofs.Predicate.Joining
import MaterialSearch.Proofs.Predicate.Rendering
import MaterialSearch.Proofs.Predicate.Texts

namespace MaterialSearch.Predicate

open MaterialSearch.Keyword

/-! ## §1. Comparisons that nothing binds. -/

section Comparisons

variable {g : Dialect} {cs : List Char}

theorem getLast?_cons_ne {c : Char} (hc : c ≠ ')') (h : cs.getLast? ≠ some ')') :
    (c :: cs).getLast? ≠ some ')' := by
  cases cs with
  | nil => simpa using hc
  | cons d cs => simpa using h

/-- **A comparison does not end with a parenthesis**, so that it is never
taken for a predicate. -/
theorem IsComparison.getLast?_ne (h : IsComparison g cs) : cs.getLast? ≠ some ')' := by
  have hwritten (v : Operand) : v.written.toList.getLast? ≠ some ')' :=
    v.getLast?_written (by decide) (by decide)
  induction h with
  | @upTo v _ => exact getLast?_cons_ne (by decide) (hwritten v)
  | onward _ => simp
  | @exactly v _ => exact hwritten v
  | @other v _ => exact getLast?_cons_ne (by decide) (hwritten v)
  | containing _ _ => exact getLast?_cons_ne (by decide) (by simp)
  | negated _ ih => exact getLast?_cons_ne (by decide) ih

theorem IsComparison.negateTerm_eq (h : IsComparison g cs) : negateTerm cs = toggle cs := by
  unfold negateTerm
  split
  · next hlast => exact absurd hlast h.getLast?_ne
  · rfl

/-- A toggled comparison is a comparison. -/
theorem IsComparison.toggle (h : IsComparison g cs) : IsComparison g (toggle cs) := by
  unfold Predicate.toggle
  split
  · exact h.dropMarks
  · -- Without a parenthesis the mark goes in front.
    rw [h.atomic.unopened]
    exact h.negated

end Comparisons

/-! ## §2. Rows of parts. -/

/-- **The texts over several keywords**: predicates and comparisons that
nothing binds, with separators between them. -/
inductive IsRow : List Char → Prop where
  | predicate {name : String} {cs : List Char} (hn : IsWord name.toList)
      (h : Derives .widest cs) : IsRow (predicateText name cs)
  | stray {cs : List Char} (h : IsComparison .widest cs) : IsRow cs
  | combined {a b : List Char} (c : Connective) (ha : IsRow a) (hb : IsRow b) :
      IsRow (a ++ c.token :: b)

section Rows

variable {cs : List Char}

theorem IsRow.separable (h : IsRow cs) : Separable cs := by
  induction h with
  | predicate hn h => exact (h.solid_predicateText hn).separable
  | stray h => exact (h.atomic.solid 0).separable
  | combined c _ _ iha ihb => exact iha.append ihb c.isSeparator_token

/-- The fragment of a predicate is toggled, and so is a comparison that
nothing binds. -/
theorem negateTerms_predicateText {name : String} (hn : IsWord name.toList)
    (h : Derives .widest cs) :
    negateTerms (predicateText name cs) = predicateText name (toggle cs) := by
  rw [(h.solid_predicateText hn).negateTerms_eq, predicateText, parenthesized,
    negateTerm_of_predicate hn.notMem_opening]
  rfl

theorem IsComparison.negateTerms_eq (h : IsComparison .widest cs) :
    negateTerms cs = Predicate.toggle cs := by
  rw [(h.atomic.solid 0).negateTerms_eq, h.negateTerm_eq]

/-- **A row is one after negation.** -/
theorem IsRow.negateTerms (h : IsRow cs) : IsRow (negateTerms cs) := by
  induction h with
  | predicate hn h =>
    rw [negateTerms_predicateText hn h]
    exact .predicate hn (h.toggle trivial)
  | stray h =>
    rw [h.negateTerms_eq]
    exact .stray h.toggle
  | combined c ha _ iha ihb =>
    rw [negateTerms_append ha.separable c.isSeparator_token]
    exact .combined c iha ihb

end Rows

/-! ## §3. What runs make. -/

/-- The expressions that runs make from keywords whose names are words and
operands without apostrophes. -/
abbrev Reachable (e : Expression) : Prop :=
  Built (fun f => IsWord f.name.toList) (fun _ _ v => v.Plain) e

/-- **What is pending is a comparison.**  A complete text is a fragment if
there is one keyword, and a row if there are several. -/
def TextKind.laid : TextKind where
  pending := IsComparison .widest
  complete := Derives .widest
  part := Derives .widest
  row := IsRow

theorem closed_laid :
    TextKind.laid.Closed (fun f => IsWord f.name.toList) (fun _ _ v => v.Plain) where
  compared hv := Comparison.isComparison_fragment hv fun _ => trivial
  pending_toggle h := h.toggle
  complete_toggle h := h.toggle trivial
  part_of_pending h := ⟨_, .comparison h⟩
  part_of_complete h := h
  part_group := fun ⟨_, hx⟩ => ⟨_, .group hx⟩
  complete_combined c := fun ⟨_, hx⟩ ⟨_, hy⟩ => ⟨_, .combined c hx hy⟩
  row_bound hn h := .predicate hn h
  row_of_pending h := .stray h
  row_combined c ha hb := .combined c ha hb
  row_negate h := h.negateTerms

/-- **The texts of every run are laid out so.** -/
theorem Built.laid {e : Expression} (h : Reachable e) : TextKind.laid.Of e :=
  h.of_kind closed_laid

/-! ## §4. Negating a combination. -/

section Combining

variable {a b e : Expression} {c : Connective} {s : String}

/-- **The only text is negated as a row when it is bound**: binding what
was negated is negating what was bound. -/
theorem negate_bound (ha : Reachable a) (hs : a.IsOnly s) :
    ∃ a' s', a.negate = .ok a' ∧ a'.keywords = a.keywords ∧ a'.IsOnly s'
      ∧ (a'.bound s').toList = negateTerms (a.bound s).toList := by
  have h := ha.laid
  -- Both forms of the negated text are the same as soon as it is bound.
  have hnegated : ∀ (a' : Expression) (s' : String), a'.keywords = a.keywords →
      (∀ name, a.keywords = [name] → s'.toList = toggle s.toList) →
      ((∀ name, a.keywords ≠ [name]) → s'.toList = negateTerms s.toList) →
      (a'.bound s').toList = negateTerms (a.bound s).toList := by
    intro a' s' hsame hsingle hseveral
    by_cases hone : ∃ name, a.keywords = [name]
    · obtain ⟨name, hname⟩ := hone
      have hmem : name ∈ a.keywords := by simp [hname]
      rw [Expression.toList_bound_single (hsame.trans hname), Expression.toList_bound_single hname,
        hsingle name hname, negateTerms_predicateText (ha.words name hmem)
          (h.part closed_laid hname hs.mem)]
    · have hne : ∀ name, a.keywords ≠ [name] := fun name hname => hone ⟨name, hname⟩
      rw [Expression.bound_several hne, Expression.bound_several fun name => hsame ▸ hne name]
      exact hseveral hne
  rcases hs with ⟨hp, hr⟩ | ⟨hp, hr⟩
  · refine ⟨{ a with pending := [String.ofList (toggle s.toList)] }, _, ?_, rfl, .inl ⟨rfl, hr⟩,
      hnegated _ _ rfl ?_ ?_⟩
    · rw [Expression.negate, hp, hr]
    · intro _ _
      rw [String.toList_ofList]
    · intro _
      have hstray : IsComparison .widest s.toList := h.waits s (by simp [hp])
      rw [String.toList_ofList, hstray.negateTerms_eq]
  · refine ⟨{ a with resolved := [String.ofList
        (if 1 < a.keywords.length then negateTerms s.toList else toggle s.toList)] }, _, ?_, rfl,
      .inr ⟨hp, rfl⟩, hnegated _ _ rfl ?_ ?_⟩
    · rw [Expression.negate, hp, hr]
    · intro name hname
      have hlength : ¬1 < a.keywords.length := by simp [hname]
      rw [String.toList_ofList, if_neg hlength]
    · intro hne
      have hlength : 1 < a.keywords.length := one_lt_length_of_several ha.named hne
      rw [String.toList_ofList, if_pos hlength]

/-- **Negating a combination is combining the negations**, unless the two
are folded on one keyword. -/
theorem negate_combine (ha : Reachable a) (hb : Reachable b)
    (hother : ∀ name, ¬(a.keywords = [name] ∧ b.keywords = [name]))
    (h : a.combine b c = .ok e) :
    ∃ a' b' e', a.negate = .ok a' ∧ b.negate = .ok b'
      ∧ a'.combine b' c = .ok e' ∧ e.negate = .ok e' := by
  rcases Expression.combine_cases h with ⟨name, s, hka, hkb, -, -⟩ | ⟨-, x, y, hx, hy, rfl⟩
  · exact absurd ⟨hka, hkb⟩ (hother name)
  · obtain ⟨s, hs, rfl⟩ := Expression.wrapped_cases hx
    obtain ⟨u, hu, rfl⟩ := Expression.wrapped_cases hy
    obtain ⟨a', s', hna, hka, hs', hbounda⟩ := negate_bound ha hs
    obtain ⟨b', u', hnb, hkb, hu', hboundb⟩ := negate_bound hb hu
    have hcombine := Expression.combine_of_wrapped (c := c)
      (fun name => hka ▸ hkb ▸ hother name) (hs'.wrapped _) (hu'.wrapped _)
    refine ⟨a', b', _, hna, hnb, hcombine, ?_⟩
    -- There are several names, so the text is cut into terms.
    have hlength : 1 < (mergeNames a.keywords b.keywords).length := by
      apply one_lt_length_of_several (Built.combine ha hb h).named
      exact mergeNames_ne_singleton ha.named ha.ascending hb.named hb.ascending hother
    have htext : (a.bound s ++ String.singleton c.token ++ b.bound u).toList
        = (a.bound s).toList ++ c.token :: (b.bound u).toList := by simp
    have hnegated : String.ofList (negateTerms
          (a.bound s ++ String.singleton c.token ++ b.bound u).toList)
        = a'.bound s' ++ String.singleton c.token ++ b'.bound u' := by
      have hrow : IsRow (a.bound s).toList := ha.laid.row_bound closed_laid ha hs
      rw [htext, negateTerms_append hrow.separable c.isSeparator_token, ← hbounda, ← hboundb, ofList_append_cons, String.ofList_toList,
        String.ofList_toList]
    simp only [Expression.negate, if_pos hlength, hnegated, hka, hkb]

end Combining

/-! ## §5. Negating a comparison. -/

/-- The comparison that holds when this one does not; searching for a text
has none. -/
def Comparison.opposite : Comparison → Comparison
  | .eq => .ne
  | .ne => .eq
  | .lt => .ge
  | .ge => .lt
  | .gt => .le
  | .le => .gt
  | .contains => .contains

/-- A text that no pass takes apart and that has no mark. -/
structure Unmarked (cs : List Char) : Prop where
  atomic : Atomic cs
  hasMark_eq : hasMark false cs = false

section Marks

variable {a b w : List Char} {k : Comparison} {v : Operand}

theorem Unmarked.append (ha : Unmarked a) (hb : Unmarked b) : Unmarked (a ++ b) where
  atomic := ha.atomic.append hb.atomic
  hasMark_eq := by
    rw [ha.atomic.closes.hasMark_append, ha.hasMark_eq, hb.hasMark_eq]
    rfl

theorem unmarked_star : Unmarked ['*'] := ⟨atomic_star, by decide⟩

theorem Operand.unmarked_written (hv : v.Plain) : Unmarked v.written.toList :=
  ⟨atomic_written hv, hasMark_written hv⟩

theorem Unmarked.toggle_eq (h : Unmarked w) : toggle w = '!' :: w := by
  have hno : ¬hasMark false w = true := by simp [h.hasMark_eq]
  rw [toggle, if_neg hno, h.atomic.unopened]
  rfl

theorem Unmarked.toggle_mark (h : Unmarked w) : toggle ('!' :: w) = w := by
  have hmark : hasMark false ('!' :: w) = true := by simp [hasMark]
  rw [toggle, if_pos hmark]
  show dropMarks false w = w
  exact dropMarks_eq_self h.hasMark_eq

/-- **Toggled twice a text is as it was**, with a mark in front or without
any. -/
theorem Unmarked.toggle_toggle (h : Unmarked w) :
    toggle (toggle w) = w ∧ toggle (toggle ('!' :: w)) = '!' :: w := by
  rw [h.toggle_eq, h.toggle_mark, h.toggle_eq]
  exact ⟨rfl, rfl⟩

/-- A comparison has a mark in front, or none at all. -/
theorem Comparison.fragment_cases (k : Comparison) (hv : v.Plain) :
    ∃ w, Unmarked w ∧ ((k.fragment v).toList = w ∨ (k.fragment v).toList = '!' :: w) := by
  have hw := Operand.unmarked_written hv
  rw [toList_fragment]
  cases k with
  | eq => exact ⟨_, hw, .inl (by simp [before, after])⟩
  | ne => exact ⟨_, hw, .inr (by simp [before, after])⟩
  | lt => exact ⟨_, hw.append unmarked_star, .inr (by simp [before, after])⟩
  | gt => exact ⟨_, unmarked_star.append hw, .inr (by simp [before, after])⟩
  | le => exact ⟨_, unmarked_star.append hw, .inl (by simp [before, after])⟩
  | ge => exact ⟨_, hw.append unmarked_star, .inl (by simp [before, after])⟩
  | contains =>
    exact ⟨_, (unmarked_star.append hw).append unmarked_star, .inl (by simp [before, after])⟩

theorem Comparison.toggle_toggle_fragment (k : Comparison) (hv : v.Plain) :
    toggle (toggle (k.fragment v).toList) = (k.fragment v).toList := by
  obtain ⟨w, hw, htext | htext⟩ := k.fragment_cases hv
  · rw [htext]
    exact hw.toggle_toggle.1
  · rw [htext]
    exact hw.toggle_toggle.2

/-- **A toggled comparison is the opposite one.** -/
theorem Comparison.toggle_fragment (hk : k ≠ .contains) (hv : v.Plain) :
    toggle (k.fragment v).toList = (k.opposite.fragment v).toList := by
  have hw := Operand.unmarked_written hv
  have hupto := unmarked_star.append hw
  have honward := hw.append unmarked_star
  simp only [toList_fragment]
  cases k with
  | eq => simpa [opposite, before, after] using hw.toggle_eq
  | ne => simpa [opposite, before, after] using hw.toggle_mark
  | lt => simpa [opposite, before, after] using honward.toggle_mark
  | gt => simpa [opposite, before, after] using hupto.toggle_mark
  | le => simpa [opposite, before, after] using hupto.toggle_eq
  | ge => simpa [opposite, before, after] using honward.toggle_eq
  | contains => exact absurd rfl hk

theorem Comparison.toggle_contains (hv : v.Plain) :
    toggle (contains.fragment v).toList = '!' :: (contains.fragment v).toList := by
  have hw := (unmarked_star.append (Operand.unmarked_written hv)).append unmarked_star
  rw [toList_fragment]
  exact hw.toggle_eq

end Marks

/-- A single comparison, negated. -/
theorem negate_compare {e : Expression} (he : e.isEmpty = true) (k : Comparison) (v : Operand) :
    (e.compare k v).negate
      = .ok { e with pending := [String.ofList (toggle (k.fragment v).toList)] } := by
  obtain ⟨ks, ps, rs⟩ := e
  simp only [Expression.isEmpty, Bool.and_eq_true, List.isEmpty_iff] at he
  obtain ⟨rfl, rfl⟩ := he
  rfl

/-! ## §6. Trees in which nothing is folded. -/

/-- **Every combination of the tree is across keywords**: its two sides are
not on one and the same keyword. -/
def Combination.Crossing : Combination Clause → Prop
  | single _ => True
  | both _ l r =>
      (∃ x ∈ l.leaves ++ r.leaves, ∃ y ∈ l.leaves ++ r.leaves, x.field.name ≠ y.field.name)
        ∧ l.Crossing ∧ r.Crossing

/-- The expression of such a tree: its names are those of the tree, and it
has one text. -/
structure Whole (t : Combination Clause) (e : Expression) : Prop where
  names : ∀ n, n ∈ e.keywords ↔ ∃ c ∈ t.leaves, n = c.field.name
  text : ∃ s, e.IsOnly s

section Trees

variable {l r t : Combination Clause} {a b e : Expression} {c : Connective}

theorem whole_single (c : Clause) : Whole (.single c) c.expression where
  names := mem_keywords_single c
  text := ⟨_, .inl ⟨rfl, rfl⟩⟩

theorem Combination.Crossing.other (h : (both c l r).Crossing) (ha : Whole l a)
    (hb : Whole r b) (name : String) : ¬(a.keywords = [name] ∧ b.keywords = [name]) := by
  rintro ⟨hka, hkb⟩
  obtain ⟨⟨x, hx, y, hy, hne⟩, -, -⟩ := h
  -- Every leaf would have this name.
  have hall : ∀ z ∈ l.leaves ++ r.leaves, z.field.name = name := by
    intro z hz
    rcases List.mem_append.mp hz with hz | hz
    · have := (ha.names z.field.name).mpr ⟨z, hz, rfl⟩
      rwa [hka, List.mem_singleton] at this
    · have := (hb.names z.field.name).mpr ⟨z, hz, rfl⟩
      rwa [hkb, List.mem_singleton] at this
  exact hne ((hall x hx).trans (hall y hy).symm)

theorem Whole.combine (h : (Combination.both c l r).Crossing) (ha : Whole l a)
    (hb : Whole r b) : ∃ e, a.combine b c = .ok e ∧ Whole (.both c l r) e := by
  obtain ⟨s, hs⟩ := ha.text
  obtain ⟨u, hu⟩ := hb.text
  exact ⟨_, Expression.combine_of_wrapped (h.other ha hb) (hs.wrapped _) (hu.wrapped _),
    mem_mergeNames_leaves c ha.names hb.names, ⟨_, .inr ⟨rfl, rfl⟩⟩⟩

/-- What such a tree is built into. -/
theorem whole_build (h : t.Crossing) : ∃ e, t.build = .ok e ∧ Whole t e := by
  induction t with
  | single c => exact ⟨_, rfl, whole_single c⟩
  | both c l r ihl ihr =>
    obtain ⟨a, hal, ha⟩ := ihl h.2.1
    obtain ⟨b, hbr, hb⟩ := ihr h.2.2
    obtain ⟨e, he, hwhole⟩ := ha.combine h hb
    exact ⟨e, (Combination.build_both c hal hbr).trans he, hwhole⟩

/-- **Negating twice gives the expression back**, by the law for
combinations at every node of the tree. -/
theorem negate_negate_build (h : t.Crossing) (hw : ∀ c ∈ t.leaves, IsWord c.field.name.toList)
    (hv : ∀ c ∈ t.leaves, c.operand.Plain) :
    ∀ e, t.build = .ok e → ∃ n, e.negate = .ok n ∧ n.negate = .ok e := by
  induction t with
  | single c =>
    intro e he
    injection he with he
    subst he
    have hplain := hv c (List.mem_singleton_self c)
    refine ⟨_, negate_compare rfl _ _, ?_⟩
    simp only [Expression.negate, String.toList_ofList, Expression.ofField,
      Comparison.toggle_toggle_fragment c.comparison hplain, String.ofList_toList]
    rfl
  | both c l r ihl ihr =>
    intro e he
    have hwl := fun x hx => hw x (List.mem_append_left r.leaves hx)
    have hwr := fun x hx => hw x (List.mem_append_right l.leaves hx)
    have hvl := fun x hx => hv x (List.mem_append_left r.leaves hx)
    have hvr := fun x hx => hv x (List.mem_append_right l.leaves hx)
    obtain ⟨a, hal, hwholea⟩ := whole_build h.2.1
    obtain ⟨b, hbr, hwholeb⟩ := whole_build h.2.2
    rw [Combination.build_both c hal hbr] at he
    have ha : Reachable a := built_build hwl hvl hal
    have hb : Reachable b := built_build hwr hvr hbr
    have hother := h.other hwholea hwholeb
    obtain ⟨a₁, b₁, e₁, hna, hnb, hcombine, hne⟩ := negate_combine ha hb hother he
    obtain ⟨a₂, ha₂, hback⟩ := ihl h.2.1 hwl hvl a hal
    obtain ⟨b₂, hb₂, hbackb⟩ := ihr h.2.2 hwr hvr b hbr
    obtain rfl : a₂ = a₁ := Except.ok.inj (ha₂.symm.trans hna)
    obtain rfl : b₂ = b₁ := Except.ok.inj (hb₂.symm.trans hnb)
    -- The negated sides are on the same keywords, so the law applies again.
    have hother₁ : ∀ name, ¬(a₂.keywords = [name] ∧ b₂.keywords = [name]) := by
      rw [keywords_of_negate hna, keywords_of_negate hnb]
      exact hother
    obtain ⟨a₃, b₃, e₂, hna₂, hnb₂, hcombine₂, hne₂⟩ :=
      negate_combine (.negate ha hna) (.negate hb hnb) hother₁ hcombine
    obtain rfl : a = a₃ := Except.ok.inj (hback.symm.trans hna₂)
    obtain rfl : b = b₃ := Except.ok.inj (hbackb.symm.trans hnb₂)
    obtain rfl : e = e₂ := Except.ok.inj (he.symm.trans hcombine₂)
    exact ⟨e₁, hne, hne₂⟩

end Trees

/-- **NEGATION GOES THROUGH A COMBINATION ACROSS KEYWORDS.**  Whatever runs
of operations have made of the two sides, negating their combination is
combining their negations.  A single comparison becomes its opposite with
the same operand, and a search for a text is marked.  So a tree of
comparisons, of any shape, in which every combination is across keywords is
given back when it is negated twice. -/
theorem negate_distributes :
    (∀ a b e c, Reachable a → Reachable b →
      (∀ name, ¬(a.keywords = [name] ∧ b.keywords = [name])) → a.combine b c = .ok e →
      ∃ a' b' e', a.negate = .ok a' ∧ b.negate = .ok b'
        ∧ a'.combine b' c = .ok e' ∧ e.negate = .ok e')
    ∧ (∀ (e : Expression) v, e.isEmpty = true → v.Plain →
      (∀ k, k ≠ .contains → (e.compare k v).negate = .ok (e.compare k.opposite v))
      ∧ (e.compare .contains v).negate
          = .ok { e with pending := ["!" ++ Comparison.contains.fragment v] })
    ∧ ∀ t : Combination Clause, t.Crossing → (∀ c ∈ t.leaves, IsWord c.field.name.toList) →
      (∀ c ∈ t.leaves, c.operand.Plain) →
      ∃ e n, t.build = .ok e ∧ e.negate = .ok n ∧ n.negate = .ok e := by
  refine ⟨?_, ?_, ?_⟩
  · intro a b e c ha hb hother h
    exact negate_combine ha hb hother h
  · intro e v he hv
    have hempty := he
    simp only [Expression.isEmpty, Bool.and_eq_true, List.isEmpty_iff] at hempty
    constructor
    · intro k hk
      rw [negate_compare he, Comparison.toggle_fragment hk hv, String.ofList_toList,
        Expression.compare, hempty.1]
      rfl
    · have htext : String.ofList ('!' :: (Comparison.contains.fragment v).toList)
          = "!" ++ Comparison.contains.fragment v := String.toList_inj.mp (by simp)
      rw [negate_compare he, Comparison.toggle_contains hv, htext]
  · intro t h hw hv
    obtain ⟨e, he, -⟩ := whole_build h
    obtain ⟨n, hn, hback⟩ := negate_negate_build h hw hv e he
    exact ⟨e, n, he, hn, hback⟩

/-- A mark inside a fold is not given back: both comparisons lose their
marks, and the first one gets the only one. -/
example : toggle (toggle "1,!2".toList) = "!1,2".toList := by decide

/-- Two comparisons on one keyword, with markup inside their quotes. -/
def Sample.foldedPair : Combination Clause :=
  .both .and (.single ⟨.aurl, .ne, .text "x),("⟩) (.single ⟨.aurl, .contains, .text "a!("⟩)

/-- A fold and a comparison on another keyword are negated side by side. -/
theorem negate_distributes_folded :
    let a : Expression := ⟨["aurl"], [], ["!'x),(',*'a!('*"]⟩
    let b : Expression := ⟨["auid"], ["!*'!'"], []⟩
    let e : Expression := ⟨["auid", "aurl"], [], ["aurl(!'x),(',*'a!('*):auid(!*'!')"]⟩
    (Reachable a ∧ Reachable b ∧ (∀ name, ¬(a.keywords = [name] ∧ b.keywords = [name]))
      ∧ a.combine b .or = .ok e
      ∧ ∃ a' b' e', a.negate = .ok a' ∧ b.negate = .ok b' ∧ a'.combine b' .or = .ok e'
        ∧ e.negate = .ok e' ∧ e'.resolved = ["aurl('x),(',*'a!('*):auid(*'!')"])
    ∧ ((Expression.ofField .auid).isEmpty = true ∧ (Operand.text "!").Plain
      ∧ b.negate = .ok ((Expression.ofField .auid).compare .le (.text "!")))
    ∧ ((Sample.leftFirst .or .and).Crossing
      ∧ ∃ e n, (Sample.leftFirst .or .and).build = .ok e ∧ e.negate = .ok n
        ∧ n.negate = .ok e) := by
  intro a b e
  obtain ⟨hcombine, hcompare, htree⟩ := negate_distributes
  have ha : Reachable a :=
    built_build (t := Sample.foldedPair) (by decide) (by decide) (by cbv)
  have hb : Reachable b :=
    built_build (t := .single ⟨.auid, .gt, .text "!"⟩) (by decide) (by decide) (by cbv)
  have hother : ∀ name, ¬(a.keywords = [name] ∧ b.keywords = [name]) := by
    rintro name ⟨hka, hkb⟩
    exact absurd (hka.trans hkb.symm) (by decide)
  have he : a.combine b .or = .ok e := by cbv
  obtain ⟨a', b', e', hna, hnb, hjoined, hne⟩ := hcombine a b e .or ha hb hother he
  have hterms : negateTerms "aurl(!'x),(',*'a!('*):auid(!*'!')".toList
      = "aurl('x),(',*'a!('*):auid(*'!')".toList := by decide
  have hresolved : e.negate
      = .ok ⟨["auid", "aurl"], [], ["aurl('x),(',*'a!('*):auid(*'!')"]⟩ := by
    show Except.ok (Expression.mk _ _ [String.ofList (negateTerms _)]) = _
    rw [hterms, String.ofList_toList]
  obtain rfl := Except.ok.inj (hne.symm.trans hresolved)
  have hempty : (Expression.ofField .auid).isEmpty = true := rfl
  have hcross : (Sample.leftFirst .or .and).Crossing := by
    refine ⟨⟨⟨.auid, .eq, .text "a"⟩, by decide, ⟨.files, .ne, .number (.int (-1))⟩, by decide,
      by decide⟩, ⟨⟨⟨.auid, .eq, .text "a"⟩, by decide, ⟨.aurl, .contains, .text "),("⟩, by decide,
      by decide⟩, trivial, trivial⟩, trivial⟩
  have hacross := Sample.across_leftFirst .or .and
  refine ⟨⟨ha, hb, hother, he, a', b', _, hna, hnb, hjoined, hne, rfl⟩,
    ⟨hempty, by decide, ?_⟩, hcross, htree _ hcross hacross.words hacross.plain⟩
  exact (hcompare (.ofField .auid) (.text "!") hempty (by decide)).1 .gt (by decide)

end MaterialSearch.Predicate
