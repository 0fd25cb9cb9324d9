/-
  MaterialSearch.Proofs.Predicate.Texts
  ────────────────────────────────
  **WHAT THE TEXTS OF AN EXPRESSION ARE LIKE.**

  An expression holds texts in three places: pending ones, complete ones
  over one keyword, and complete ones over several.  Operations put texts
  together, bind them and toggle them, and do nothing else.  A kind says
  what the texts in each place are like.  If every one of these steps leads
  from texts of a kind to texts of the kind, all runs keep to it.

  Main definitions:
    * `TextKind`        — what texts are like, place by place
    * `TextKind.Closed` — the steps do not lead out of the kind
    * `TextKind.Of`     — the texts of an expression are of the kind

  Main results:
    * `TextKind.Of.row_bound` — a bound text is a row
    * `Built.of_kind`         — **every run keeps to a closed kind**
-/
import MaterialSearch.Proofs.Predicate.Built

namespace MaterialSearch.Predicate

open MaterialSearch.Keyword

/-- **What texts are like**, by where they stand. -/
structure TextKind where
  /-- A text not combined with anything yet. -/
  pending : List Char → Prop
  /-- A complete text over one keyword. -/
  complete : List Char → Prop
  /-- What both of these are, so that it can be folded and bound. -/
  part : List Char → Prop
  /-- A complete text over several keywords. -/
  row : List Char → Prop

/-- **The steps of operations do not lead out of the kind**, for these
keywords and comparisons. -/
structure TextKind.Closed (κ : TextKind) (fields : Field → Prop)
    (allowed : Expression → Comparison → Operand → Prop) : Prop where
  compared : ∀ {e c v}, allowed e c v → κ.pending (c.fragment v).toList
  pending_toggle : ∀ {a}, κ.pending a → κ.pending (toggle a)
  complete_toggle : ∀ {a}, κ.complete a → κ.complete (toggle a)
  part_of_pending : ∀ {a}, κ.pending a → κ.part a
  part_of_complete : ∀ {a}, κ.complete a → κ.part a
  part_group : ∀ {a}, κ.part a → κ.part (parenthesized a)
  complete_combined : ∀ {a b} (c : Connective), κ.part a → κ.part b →
    κ.complete (a ++ c.token :: b)
  row_bound : ∀ {f a}, fields f → κ.part a → κ.row (predicateText f.name a)
  row_of_pending : ∀ {a}, κ.pending a → κ.row a
  row_combined : ∀ {a b} (c : Connective), κ.row a → κ.row b → κ.row (a ++ c.token :: b)
  row_negate : ∀ {a}, κ.row a → κ.row (negateTerms a)

/-- **The texts of the expression are of the kind.** -/
structure TextKind.Of (κ : TextKind) (e : Expression) : Prop where
  waits : ∀ p ∈ e.pending, κ.pending p.toList
  completes : ∀ name, e.keywords = [name] → ∀ r ∈ e.resolved, κ.complete r.toList
  rows : (∀ name, e.keywords ≠ [name]) → ∀ r ∈ e.resolved, κ.row r.toList

namespace TextKind

variable {κ : TextKind} {fields : Field → Prop}
  {allowed : Expression → Comparison → Operand → Prop} {a b e : Expression} {c : Connective}
  {s : String}

theorem of_isEmpty (hp : e.pending = []) (hr : e.resolved = []) : κ.Of e := by
  constructor
  · intro p hmem
    rw [hp] at hmem
    exact absurd hmem List.not_mem_nil
  · intro _ _ r hmem
    rw [hr] at hmem
    exact absurd hmem List.not_mem_nil
  · intro _ r hmem
    rw [hr] at hmem
    exact absurd hmem List.not_mem_nil

/-- With one keyword every text is a part. -/
theorem Of.part {name : String} (h : κ.Of e) (hκ : κ.Closed fields allowed)
    (hname : e.keywords = [name]) (hs : s ∈ e.pending ++ e.resolved) : κ.part s.toList := by
  rcases List.mem_append.mp hs with hs | hs
  · exact hκ.part_of_pending (h.waits s hs)
  · exact hκ.part_of_complete (h.completes name hname s hs)

/-- With several keywords every text is a row. -/
theorem Of.row (h : κ.Of e) (hκ : κ.Closed fields allowed) (hne : ∀ name, e.keywords ≠ [name])
    (hs : s ∈ e.pending ++ e.resolved) : κ.row s.toList := by
  rcases List.mem_append.mp hs with hs | hs
  · exact hκ.row_of_pending (h.waits s hs)
  · exact h.rows hne s hs

/-- **The only text, bound, is a row.** -/
theorem Of.row_bound (h : κ.Of e) (hκ : κ.Closed fields allowed) (he : Built fields allowed e)
    (hs : e.IsOnly s) : κ.row (e.bound s).toList := by
  by_cases hone : ∃ name, e.keywords = [name]
  · obtain ⟨name, hname⟩ := hone
    obtain ⟨f, hf, rfl⟩ := he.exists_field name (by simp [hname])
    rw [Expression.toList_bound_single hname]
    exact hκ.row_bound hf (h.part hκ hname hs.mem)
  · have hne : ∀ name, e.keywords ≠ [name] := fun name hname => hone ⟨name, hname⟩
    rw [Expression.bound_several hne]
    exact h.row hκ hne hs.mem

theorem Of.compare {k : Comparison} {v : Operand} (h : κ.Of e) (hκ : κ.Closed fields allowed)
    (hv : allowed e k v) : κ.Of (e.compare k v) where
  completes := h.completes
  rows := h.rows
  waits := by
    intro p hmem
    rcases List.mem_append.mp hmem with hmem | hmem
    · exact h.waits p hmem
    · rw [List.mem_singleton.mp hmem]
      exact hκ.compared hv

theorem Of.combine (hκ : κ.Closed fields allowed) (hka : κ.Of a) (hkb : κ.Of b)
    (ha : Built fields allowed a) (hb : Built fields allowed b) (h : a.combine b c = .ok e) :
    κ.Of e := by
  rcases Expression.combine_cases h with
    ⟨name, s, hna, hnb, hs, rfl⟩ | ⟨hother, x, y, hx, hy, rfl⟩
  · -- Folded on one keyword.
    refine ⟨fun _ hp => absurd hp List.not_mem_nil, ?_, fun hne => absurd rfl (hne name)⟩
    intro _ _ r hr
    rw [List.mem_singleton.mp hr]
    refine hs.of_parts (P := κ.part) (Q := κ.complete) (fun _ _ => hκ.complete_combined c)
      (fun _ => hκ.part_group) ?_ ?_
    · intro p hp
      rcases List.mem_append.mp hp with hp | hp
      · exact hka.part hκ hna (List.mem_append_left _ hp)
      · exact hkb.part hκ hnb (List.mem_append_left _ hp)
    · intro r hr
      rcases List.mem_append.mp hr with hr | hr
      · exact hka.part hκ hna (List.mem_append_right _ hr)
      · exact hkb.part hκ hnb (List.mem_append_right _ hr)
  · -- Side by side over several keywords.
    obtain ⟨s, hs, rfl⟩ := Expression.wrapped_cases hx
    obtain ⟨u, hu, rfl⟩ := Expression.wrapped_cases hy
    have hseveral := mergeNames_ne_singleton ha.named ha.ascending hb.named hb.ascending hother
    refine ⟨fun _ hp => absurd hp List.not_mem_nil, fun name hname => absurd hname (hseveral name),
      ?_⟩
    intro _ r hr
    have htext : r.toList = (a.bound s).toList ++ c.token :: (b.bound u).toList := by
      rw [List.mem_singleton.mp hr]
      simp
    rw [htext]
    exact hκ.row_combined c (hka.row_bound hκ ha hs) (hkb.row_bound hκ hb hu)

theorem Of.negate (hκ : κ.Closed fields allowed) (hka : κ.Of a) (hnamed : a.keywords ≠ [])
    (h : a.negate = .ok e) : κ.Of e := by
  rcases Expression.negate_cases h with ⟨p, hp, hr, rfl⟩ | ⟨r, hp, hr, rfl⟩
  · refine ⟨?_, hka.completes, hka.rows⟩
    intro q hq
    rw [List.mem_singleton.mp hq, String.toList_ofList]
    exact hκ.pending_toggle (hka.waits p (by simp [hp]))
  · have hmem : r ∈ a.resolved := by simp [hr]
    refine ⟨hka.waits, ?_, ?_⟩
    · intro name hname q hq
      have hlength : ¬1 < a.keywords.length := by
        have hone : a.keywords = [name] := hname
        simp [hone]
      rw [List.mem_singleton.mp hq, if_neg hlength, String.toList_ofList]
      exact hκ.complete_toggle (hka.completes name hname r hmem)
    · intro hne q hq
      have hlength : 1 < a.keywords.length := one_lt_length_of_several hnamed hne
      rw [List.mem_singleton.mp hq, if_pos hlength, String.toList_ofList]
      exact hκ.row_negate (hka.rows hne r hmem)

end TextKind

/-- **Every run keeps to a closed kind.** -/
theorem Built.of_kind {κ : TextKind} {fields : Field → Prop}
    {allowed : Expression → Comparison → Operand → Prop} {e : Expression}
    (hκ : κ.Closed fields allowed) (h : Built fields allowed e) : κ.Of e := by
  induction h with
  | ofField _ => exact TextKind.of_isEmpty rfl rfl
  | compare _ hv ih => exact ih.compare hκ hv
  | combine ha hb h iha ihb => exact .combine hκ iha ihb ha hb h
  | negate ha h ih => exact .negate hκ ih ha.named h
  | reset _ _ => exact TextKind.of_isEmpty rfl rfl

end MaterialSearch.Predicate
