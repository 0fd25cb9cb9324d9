/-
  MaterialSearch.Proofs.Predicate.Grammar
  ────────────────────────────────
  **THE GRAMMAR OF FRAGMENTS.**

      fragment    comparison | fragment ',' fragment | fragment ':' fragment
                  | '(' fragment ')'
      comparison  '*' v | v '*' | v | '!' v | '*' needle '*' | '!' comparison

  The grammar gives no precedence, so a text with several separators in a
  row can be read in several ways.  A separator between two texts that
  have none of their own on the outermost level leaves no choice.

  Three dialects are in use: the documented one, one that also admits a
  mark in front of a parenthesis, and one with any operand between two
  stars besides.

  Main definitions:
    * `Dialect`, with `documented`, `lenient` and `widest`
    * `IsComparison` — the texts of comparisons
    * `Reading`      — what a fragment may be read as
    * `Parses`       — the readings of a text
    * `Derives`      — the texts that have one

  Main results:
    * `not_isComparison_contains` — what the documented dialect does not
      admit between two stars
    * `Parses.mono`             — a wider dialect has the readings of a narrow one
    * `Parses.solid`, `Parses.separable` — how the pass for terms sees fragments
    * `Parses.of_combined`      — the readings across a separator
    * `Parses.of_parenthesized` — of a text in parentheses
    * `Parses.of_comparison`    — of a comparison
-/
import MaterialSearch.Proofs.Predicate.Combination

namespace MaterialSearch.Predicate

/-! ## §1. Dialects and comparisons. -/

/-- What the dialects of the grammar differ in. -/
structure Dialect where
  /-- What may stand between two stars. -/
  needle : Operand → Prop
  /-- Whether a mark may stand in front of a parenthesis. -/
  marksGroups : Prop

/-- The documented grammar: needles are texts, marks belong to
comparisons. -/
def Dialect.documented : Dialect := ⟨fun v => v.isText = true, False⟩

/-- The documented grammar with marks in front of parentheses. -/
def Dialect.lenient : Dialect := ⟨fun v => v.isText = true, True⟩

/-- The dialect in which every operand may stand between two stars and
groups may be marked. -/
def Dialect.widest : Dialect := ⟨fun _ => True, True⟩

/-- The text of a comparison. -/
inductive IsComparison (g : Dialect) : List Char → Prop where
  | upTo {v : Operand} (hv : v.Plain) : IsComparison g ('*' :: v.written.toList)
  | onward {v : Operand} (hv : v.Plain) : IsComparison g (v.written.toList ++ ['*'])
  | exactly {v : Operand} (hv : v.Plain) : IsComparison g v.written.toList
  | other {v : Operand} (hv : v.Plain) : IsComparison g ('!' :: v.written.toList)
  | containing {v : Operand} (hv : v.Plain) (hn : g.needle v) :
      IsComparison g ('*' :: (v.written.toList ++ ['*']))
  | negated {cs : List Char} (h : IsComparison g cs) : IsComparison g ('!' :: cs)

theorem Comparison.toList_fragment (c : Comparison) (v : Operand) :
    (c.fragment v).toList = c.before.toList ++ v.written.toList ++ c.after.toList := by
  simp [fragment]

/-- **What comparing writes is a comparison**, if needles are needles. -/
theorem Comparison.isComparison_fragment {g : Dialect} {c : Comparison} {v : Operand}
    (hv : v.Plain) (hn : c = .contains → g.needle v) :
    IsComparison g (c.fragment v).toList := by
  rw [toList_fragment]
  cases c with
  | eq => simpa [before, after] using IsComparison.exactly (g := g) hv
  | ne => simpa [before, after] using IsComparison.other (g := g) hv
  | lt => simpa [before, after] using IsComparison.negated (.onward (g := g) hv)
  | gt => simpa [before, after] using IsComparison.negated (.upTo (g := g) hv)
  | le => simpa [before, after] using IsComparison.upTo (g := g) hv
  | ge => simpa [before, after] using IsComparison.onward (g := g) hv
  | contains => simpa [before, after] using IsComparison.containing hv (hn rfl)

theorem IsComparison.atomic {g : Dialect} {cs : List Char} (h : IsComparison g cs) :
    Atomic cs := by
  induction h with
  | upTo hv => exact atomic_star.append (Operand.atomic_written hv)
  | onward hv => exact (Operand.atomic_written hv).append atomic_star
  | exactly hv => exact Operand.atomic_written hv
  | other hv => exact atomic_mark.append (Operand.atomic_written hv)
  | containing hv _ =>
    exact atomic_star.append ((Operand.atomic_written hv).append atomic_star)
  | negated _ ih => exact atomic_mark.append ih

theorem IsComparison.mono {g g' : Dialect} {cs : List Char}
    (hn : ∀ v, g.needle v → g'.needle v) (h : IsComparison g cs) : IsComparison g' cs := by
  induction h with
  | upTo hv => exact .upTo hv
  | onward hv => exact .onward hv
  | exactly hv => exact .exactly hv
  | other hv => exact .other hv
  | containing hv h => exact .containing hv (hn _ h)
  | negated _ ih => exact .negated ih

/-- What a fragment may be read as. -/
inductive Reading where
  /-- A comparison, as it is written. -/
  | comparison (cs : List Char)
  | combined (c : Connective) (l r : Reading)
  /-- The opposite of what stands in the parentheses. -/
  | marked (x : Reading)
  deriving Repr, DecidableEq

namespace Reading

/-- The comparisons from left to right. -/
def texts : Reading → List (List Char)
  | comparison cs => [cs]
  | combined _ l r => l.texts ++ r.texts
  | marked x => x.texts

/-- The truth value of the reading when its comparisons have these. -/
def holds (truth : List Char → Bool) : Reading → Bool
  | comparison cs => truth cs
  | combined c l r => c.apply (l.holds truth) (r.holds truth)
  | marked x => !x.holds truth

end Reading

/-- **The readings of a text as a fragment.** -/
inductive Parses (g : Dialect) : List Char → Reading → Prop where
  | comparison {cs : List Char} (h : IsComparison g cs) : Parses g cs (.comparison cs)
  | combined {a b : List Char} {x y : Reading} (c : Connective) (ha : Parses g a x)
      (hb : Parses g b y) : Parses g (a ++ c.token :: b) (.combined c x y)
  | group {a : List Char} {x : Reading} (h : Parses g a x) :
      Parses g (parenthesized a) x
  | marked {a : List Char} {x : Reading} (hg : g.marksGroups) (h : Parses g a x) :
      Parses g ('!' :: parenthesized a) (.marked x)

/-- The text is a fragment. -/
def Derives (g : Dialect) (cs : List Char) : Prop := ∃ x, Parses g cs x

section Fragments

variable {g : Dialect} {cs : List Char} {x : Reading}

/-- **A wider dialect has the readings of a narrow one.** -/
theorem Parses.mono {g' : Dialect} (hn : ∀ v, g.needle v → g'.needle v)
    (hm : g.marksGroups → g'.marksGroups) (h : Parses g cs x) : Parses g' cs x := by
  induction h with
  | comparison h => exact .comparison (h.mono hn)
  | combined c _ _ iha ihb => exact .combined c iha ihb
  | group _ ih => exact .group ih
  | marked hg _ ih => exact .marked (hm hg) ih

/-- **In parentheses a fragment lies within one term.** -/
theorem Parses.solid (h : Parses g cs x) (d : Nat) : Solid (d + 1) cs := by
  -- Every pair of parentheses leads one level further in.
  induction h generalizing d with
  | comparison h => exact h.atomic.solid (d + 1)
  | combined c _ _ iha ihb =>
    exact (iha d).append ((solid_separator d c.isSeparator_token).append (ihb d))
  | group _ ih => exact (ih (d + 1)).parenthesized
  | marked _ _ ih => exact (atomic_mark.solid (d + 1)).append (ih (d + 1)).parenthesized

theorem Parses.solid_parenthesized (h : Parses g cs x) : Solid 0 (parenthesized cs) :=
  (h.solid 0).parenthesized

/-- **A fragment can be cut off at a separator behind it.** -/
theorem Parses.separable (h : Parses g cs x) : Separable cs := by
  induction h with
  | comparison h => exact (h.atomic.solid 0).separable
  | combined c _ _ iha ihb => exact iha.append ihb c.isSeparator_token
  | group h _ => exact h.solid_parenthesized.separable
  | marked _ h _ => exact ((atomic_mark.solid 0).append h.solid_parenthesized).separable

theorem Parses.closes (h : Parses g cs x) : Closes cs := by
  induction h with
  | comparison h => exact h.atomic.closes
  | combined c _ _ iha ihb =>
    have hc : Closes [c.token] := by cases c <;> rfl
    exact iha.append (hc.append ihb)
  | group _ ih => exact ih.parenthesized
  | marked _ _ ih => exact atomic_mark.closes.append ih.parenthesized

end Fragments

/-! ## §3. The readings of a composed text. -/

section Composed

variable {g : Dialect} {a b cs : List Char} {x y : Reading}

/-- Only a text that combines two fragments is cut. -/
theorem Parses.solid_or_combined (h : Parses g cs x) :
    Solid 0 cs ∨ ∃ c u w y z, cs = u ++ Connective.token c :: w
      ∧ x = .combined c y z ∧ Parses g u y ∧ Parses g w z := by
  cases h with
  | comparison h => exact .inl (h.atomic.solid 0)
  | combined c hu hw => exact .inr ⟨c, _, _, _, _, rfl, rfl, hu, hw⟩
  | group h => exact .inl h.solid_parenthesized
  | marked _ h => exact .inl ((atomic_mark.solid 0).append h.solid_parenthesized)

theorem Parses.combined_not_solid {c : Connective} {u w : List Char} {y : Reading}
    (hu : Parses g u y) : ¬ Solid 0 (u ++ c.token :: w) := by
  intro h
  have hcut := h.terms_eq
  rw [hu.separable _ _ c.isSeparator_token] at hcut
  have := congrArg (fun row => row.2.length) hcut
  simp [joinRows] at this

/-- **Between two texts that are not cut the separator leaves no choice.** -/
theorem Parses.of_combined {c : Connective} (ha : Solid 0 a) (hb : Solid 0 b)
    (h : Parses g (a ++ c.token :: b) x) :
    ∃ y z, x = .combined c y z ∧ Parses g a y ∧ Parses g b z := by
  have hcut : terms false 0 (a ++ c.token :: b) = (a, [(c.token, b)]) := by
    rw [ha.separable _ _ c.isSeparator_token, ha.terms_eq, hb.terms_eq]
    rfl
  rcases h.solid_or_combined with hsolid | ⟨d, u, w, y, z, htext, rfl, hu, hw⟩
  · rw [hsolid.terms_eq] at hcut
    exact absurd (congrArg Prod.snd hcut) (by simp)
  · -- The row has one separator, so both parts of this reading are uncut.
    rw [htext, hu.separable _ _ d.isSeparator_token] at hcut
    obtain ⟨hfirst, hrest⟩ := Prod.mk.inj hcut
    have hlength := congrArg List.length hrest
    simp only [List.length_append, List.length_cons, List.length_nil] at hlength
    have hucut := terms_eq_of_uncut (List.eq_nil_of_length_eq_zero (by omega) :
      (terms false 0 u).2 = [])
    have hwcut := terms_eq_of_uncut (List.eq_nil_of_length_eq_zero (by omega) :
      (terms false 0 w).2 = [])
    rw [hucut] at hfirst hrest
    rw [hwcut] at hrest
    simp only [List.nil_append, List.cons.injEq, Prod.mk.injEq, and_true] at hrest
    obtain rfl : u = a := hfirst
    obtain rfl : w = b := hrest.2
    obtain rfl : d = c := Connective.token_inj hrest.1
    exact ⟨y, z, rfl, hu, hw⟩

theorem markOpening?_parenthesized (a : List Char) :
    markOpening? false (parenthesized a) = some ('(' :: '!' :: (a ++ [')'])) := rfl

/-- **Parentheses around a fragment add no reading.** -/
theorem Parses.of_parenthesized (ha : Parses g a y) (h : Parses g (parenthesized a) x) :
    Parses g a x := by
  generalize hw : parenthesized a = w at h
  have hsolid : Solid 0 w := hw ▸ ha.solid_parenthesized
  cases h with
  | comparison h =>
    -- A comparison has no parenthesis outside quotes.
    have := h.atomic.unopened
    rw [← hw, markOpening?_parenthesized] at this
    cases this
  | combined c hu _ => exact absurd hsolid hu.combined_not_solid
  | group h => exact parenthesized_inj hw ▸ h
  | marked _ _ => exact absurd (List.cons.inj hw).1 (by decide)

/-- A text that no pass takes apart is read as a comparison. -/
theorem Parses.of_atomic (ha : Atomic a) (h : Parses g a x) :
    IsComparison g a ∧ x = .comparison a := by
  cases h with
  | comparison h => exact ⟨h, rfl⟩
  | combined c hu _ => exact absurd (ha.solid 0) hu.combined_not_solid
  | group _ => exact absurd ha.unopened (by simp [markOpening?_parenthesized])
  | marked _ _ =>
    have := ha.unopened
    simp [markOpening?, parenthesized, quotedAfter] at this

/-- **A comparison is read as itself.** -/
theorem Parses.of_comparison (ha : IsComparison g a) (h : Parses g a x) :
    x = .comparison a := (h.of_atomic ha.atomic).2

end Composed

end MaterialSearch.Predicate
