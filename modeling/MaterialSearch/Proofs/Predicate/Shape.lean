/-
  MaterialSearch.Proofs.Predicate.Shape
  ────────────────────────────────
  **HOW MANY TEXTS AN EXPRESSION HOLDS.**

  Whether expressions can be combined and shown is settled by their keywords
  and by how many texts they hold, and by nothing in the texts.  Comparisons
  add pending texts without end; complete texts there is one at most,
  because whatever makes one leaves it alone.  The keywords are those of all
  expressions that went in, even of texts that were given up since.

  Main definitions:
    * `MadeFrom`                  — expressions and the keywords they were made from
    * `Expression.textCount`      — how many texts there are
    * `Expression.OnSameKeyword`  — two expressions on the same one keyword
    * `Expression.Folds`          — texts that fold together

  Main results:
    * `MadeFrom.mem_keywords`     — the keywords of an expression
    * `MadeFrom.resolved_le`      — one complete text at most
    * `exists_combine_iff`, `combine_eq_error_iff` — when combining succeeds, and how it fails
    * `exists_render_iff`, `display_of_render`     — when there is a search term
    * `expression_shape`          — **all of this**
-/
import Mathlib.Data.List.Basic
import MaterialSearch.Proofs.Predicate.Built

namespace MaterialSearch.Predicate

open MaterialSearch.Keyword

/-! ## §1. What an expression was made from. -/

/-- **Expressions that runs of operations make, and the keywords of all
expressions that went into them.** -/
inductive MadeFrom : List Field → Expression → Prop where
  | ofField (f : Field) : MadeFrom [f] (.ofField f)
  | compare {fs : List Field} {e : Expression} (h : MadeFrom fs e) (c : Comparison)
      (v : Operand) : MadeFrom fs (e.compare c v)
  | combine {fs gs : List Field} {a b e : Expression} {c : Connective} (ha : MadeFrom fs a)
      (hb : MadeFrom gs b) (h : a.combine b c = .ok e) : MadeFrom (fs ++ gs) e
  | negate {fs : List Field} {a e : Expression} (ha : MadeFrom fs a) (h : a.negate = .ok e) :
      MadeFrom fs e
  | reset {fs : List Field} {e : Expression} (h : MadeFrom fs e) : MadeFrom fs e.reset

section Made

variable {fs : List Field} {e : Expression}

/-- Such an expression is one that runs make from these keywords. -/
theorem MadeFrom.built (h : MadeFrom fs e) : Built (· ∈ fs) (fun _ _ _ => True) e := by
  -- With more keywords at hand a run can still do all it did.
  have hmore : ∀ {gs hs : List Field} {a : Expression}, (∀ f ∈ gs, f ∈ hs) →
      Built (· ∈ gs) (fun _ _ _ => True) a → Built (· ∈ hs) (fun _ _ _ => True) a := by
    intro gs hs a hsub ha
    induction ha with
    | ofField hf => exact .ofField (hsub _ hf)
    | compare _ hv ih => exact .compare ih hv
    | combine _ _ hc iha ihb => exact .combine iha ihb hc
    | negate _ hn ih => exact .negate ih hn
    | reset _ ih => exact .reset ih
  induction h with
  | ofField f => exact .ofField (List.mem_singleton_self f)
  | compare _ c v ih => exact .compare ih trivial
  | combine _ _ hc iha ihb =>
    exact .combine (hmore (fun f hf => List.mem_append_left _ hf) iha)
      (hmore (fun f hf => List.mem_append_right _ hf) ihb) hc
  | negate _ hn ih => exact .negate ih hn
  | reset _ ih => exact .reset ih

/-- No keyword that went in is lost. -/
theorem MadeFrom.name_mem (h : MadeFrom fs e) : ∀ f ∈ fs, f.name ∈ e.keywords := by
  induction h with
  | ofField f =>
    intro g hg
    rw [List.mem_singleton.mp hg]
    exact List.mem_singleton_self f.name
  | compare _ _ _ ih => exact ih
  | combine _ _ hc iha ihb =>
    intro f hf
    rcases Expression.combine_cases hc with ⟨name, s, ha, hb, -, rfl⟩ | ⟨-, x, y, -, -, rfl⟩
    · rcases List.mem_append.mp hf with hf | hf
      · exact ha ▸ iha f hf
      · exact hb ▸ ihb f hf
    · apply (mem_mergeNames f.name _ _).mpr
      exact (List.mem_append.mp hf).imp (iha f) (ihb f)
  | negate _ hn ih =>
    rw [keywords_of_negate hn]
    exact ih
  | reset _ ih => exact ih

/-- **The keywords of an expression** are those of all that went into it. -/
theorem MadeFrom.mem_keywords (h : MadeFrom fs e) (name : String) :
    name ∈ e.keywords ↔ ∃ f ∈ fs, f.name = name := by
  constructor
  · exact h.built.exists_field name
  · intro hname
    obtain ⟨f, hf, rfl⟩ := hname
    exact h.name_mem f hf

/-- Combining leaves one complete text and nothing else. -/
theorem texts_of_combine {a b : Expression} {c : Connective} (h : a.combine b c = .ok e) :
    e.pending = [] ∧ ∃ s, e.resolved = [s] := by
  rcases Expression.combine_cases h with ⟨name, s, -, -, -, rfl⟩ | ⟨-, x, y, -, -, rfl⟩
  · exact ⟨rfl, s, rfl⟩
  · exact ⟨rfl, _, rfl⟩

/-- **There is one complete text at most.** -/
theorem MadeFrom.resolved_le (h : MadeFrom fs e) : e.resolved.length ≤ 1 := by
  induction h with
  | ofField f => exact Nat.zero_le 1
  | compare _ _ _ ih => exact ih
  | combine _ _ hc _ _ =>
    obtain ⟨-, s, hs⟩ := texts_of_combine hc
    rw [hs]
    exact Nat.le_refl 1
  | negate _ hn ih =>
    rcases Expression.negate_cases hn with ⟨p, -, hr, rfl⟩ | ⟨r, -, -, rfl⟩
    · show List.length _ ≤ 1
      rw [hr]
      exact Nat.zero_le 1
    · exact Nat.le_refl 1
  | reset _ _ => exact Nat.zero_le 1

end Made

/-! ## §2. Counting texts. -/

namespace Expression

/-- **How many texts there are**, pending or complete. -/
def textCount (e : Expression) : Nat := e.pending.length + e.resolved.length

/-- Both expressions are on the same one keyword. -/
def OnSameKeyword (a b : Expression) : Prop := ∃ name, a.keywords = [name] ∧ b.keywords = [name]

/-- **The texts of both fold together**: two pending ones, a pending and a
complete one, or two complete ones. -/
def Folds (a b : Expression) : Prop :=
  (a.pending.length + b.pending.length = 2 ∧ a.resolved.length + b.resolved.length = 0)
    ∨ (a.pending.length + b.pending.length = 1 ∧ a.resolved.length + b.resolved.length = 1)
    ∨ (a.pending.length + b.pending.length = 0 ∧ a.resolved.length + b.resolved.length = 2)

section Counts

variable {a b e : Expression} {c : Connective} {attempt : Attempt} {err : PredicateError}
  {s : String}

theorem textCount_eq_one_iff : e.textCount = 1 ↔ ∃ s, e.IsOnly s := exists_isOnly_iff.symm

theorem isEmpty_iff : e.isEmpty = true ↔ e.textCount = 0 := by
  unfold isEmpty textCount
  rw [Bool.and_eq_true, List.isEmpty_iff, List.isEmpty_iff, Nat.add_eq_zero_iff,
    List.length_eq_zero_iff, List.length_eq_zero_iff]

/-- The condition that combining looks at. -/
theorem onSameKeyword_iff :
    a.OnSameKeyword b ↔ a.keywords.length = 1 ∧ a.keywords = b.keywords := by
  constructor
  · intro h
    obtain ⟨name, ha, hb⟩ := h
    rw [ha, hb]
    exact ⟨rfl, rfl⟩
  · intro h
    obtain ⟨name, hname⟩ := List.length_eq_one_iff.mp h.1
    exact ⟨name, hname, h.2 ▸ hname⟩

/-! ### Binding the only text. -/

theorem wrapped_of_textCount (h : e.textCount = 1) (attempt : Attempt) :
    ∃ s, e.wrapped attempt = .ok s := by
  obtain ⟨s, hs⟩ := textCount_eq_one_iff.mp h
  exact ⟨e.bound s, hs.wrapped attempt⟩

theorem wrapped_of_textCount_ne (h : e.textCount ≠ 1) (attempt : Attempt) :
    e.wrapped attempt = .error (e.malformed attempt) := by
  have honly : e.onlyText attempt = .error (e.malformed attempt) := by
    unfold onlyText
    split
    · next hp hr => exact absurd (by rw [textCount, hp, hr]; rfl) h
    · next hp hr => exact absurd (by rw [textCount, hp, hr]; rfl) h
    · rfl
  rw [wrapped, honly]
  rfl

theorem exists_wrapped_iff : (∃ s, e.wrapped attempt = .ok s) ↔ e.textCount = 1 := by
  constructor
  · intro h
    obtain ⟨s, hs⟩ := h
    by_contra hcount
    rw [wrapped_of_textCount_ne hcount] at hs
    exact nomatch hs
  · intro h
    exact wrapped_of_textCount h attempt

/-! ### Folding. -/

theorem exists_foldsTo_iff {ps rs : List String} : (∃ s, FoldsTo ps rs c s)
    ↔ (ps.length = 2 ∧ rs.length = 0) ∨ (ps.length = 1 ∧ rs.length = 1)
      ∨ (ps.length = 0 ∧ rs.length = 2) := by
  constructor
  · intro h
    obtain ⟨s, ⟨p, q, rfl, rfl, -⟩ | ⟨p, r, rfl, rfl, -⟩ | ⟨r, w, rfl, rfl, -⟩⟩ := h
    · exact .inl ⟨rfl, rfl⟩
    · exact .inr (.inl ⟨rfl, rfl⟩)
    · exact .inr (.inr ⟨rfl, rfl⟩)
  · intro h
    rcases h with ⟨hp, hr⟩ | ⟨hp, hr⟩ | ⟨hp, hr⟩
    · obtain ⟨p, q, rfl⟩ := List.length_eq_two.mp hp
      rw [List.length_eq_zero_iff.mp hr]
      exact ⟨_, .inl ⟨p, q, rfl, rfl, rfl⟩⟩
    · obtain ⟨p, rfl⟩ := List.length_eq_one_iff.mp hp
      obtain ⟨r, rfl⟩ := List.length_eq_one_iff.mp hr
      exact ⟨_, .inr (.inl ⟨p, r, rfl, rfl, rfl⟩)⟩
    · obtain ⟨r, w, rfl⟩ := List.length_eq_two.mp hr
      rw [List.length_eq_zero_iff.mp hp]
      exact ⟨_, .inr (.inr ⟨r, w, rfl, rfl, rfl⟩)⟩

theorem exists_fold_iff : (∃ e, fold a b c = .ok e) ↔ a.Folds b := by
  have htexts : (∃ e, fold a b c = .ok e)
      ↔ ∃ s, FoldsTo (a.pending ++ b.pending) (a.resolved ++ b.resolved) c s := by
    simp only [fold_eq_ok_iff]
    constructor
    · intro h
      obtain ⟨e, s, hs, -⟩ := h
      exact ⟨s, hs⟩
    · intro h
      obtain ⟨s, hs⟩ := h
      exact ⟨_, s, hs, rfl⟩
  rw [htexts, exists_foldsTo_iff]
  simp only [List.length_append, Folds]

/-- **Folding fails** with the counts of both sides together. -/
theorem fold_of_not_folds (h : ¬ a.Folds b) :
    fold a b c = .error (.malformed (.combine c) (a.pending.length + b.pending.length)
      (a.resolved.length + b.resolved.length)) := by
  cases hfold : fold a b c with
  | ok e => exact absurd (exists_fold_iff.mp ⟨e, hfold⟩) h
  | error err =>
      simp only [fold] at hfold
      split at hfold
      · cases hfold
      · cases hfold
      · cases hfold
      · rw [← Except.error.inj hfold, malformed, List.length_append, List.length_append]

/-! ### Joining. -/

/-- **Joining fails** with the counts of the left side, if that is not one
text, and with those of the right side otherwise. -/
theorem join_of_left (h : a.textCount ≠ 1) : join a b c = .error (a.malformed (.combine c)) := by
  simp only [join, wrapped_of_textCount_ne h]

theorem join_of_right (ha : a.textCount = 1) (hb : b.textCount ≠ 1) :
    join a b c = .error (b.malformed (.combine c)) := by
  obtain ⟨s, hs⟩ := wrapped_of_textCount ha (.combine c)
  simp only [join, hs, wrapped_of_textCount_ne hb]

theorem exists_join_iff : (∃ e, join a b c = .ok e) ↔ a.textCount = 1 ∧ b.textCount = 1 := by
  simp only [join_eq_ok_iff]
  constructor
  · intro h
    obtain ⟨e, x, y, hx, hy, -⟩ := h
    exact ⟨exists_wrapped_iff.mp ⟨x, hx⟩, exists_wrapped_iff.mp ⟨y, hy⟩⟩
  · intro h
    obtain ⟨x, hx⟩ := wrapped_of_textCount h.1 (.combine c)
    obtain ⟨y, hy⟩ := wrapped_of_textCount h.2 (.combine c)
    exact ⟨_, x, y, hx, hy, rfl⟩

/-! ### Combining. -/

theorem combine_of_same (h : a.OnSameKeyword b) : a.combine b c = fold a b c :=
  if_pos (onSameKeyword_iff.mp h)

theorem combine_of_other (h : ¬ a.OnSameKeyword b) : a.combine b c = join a b c :=
  if_neg (fun hsame => h (onSameKeyword_iff.mpr hsame))

/-- **When two expressions can be combined.** -/
theorem exists_combine_iff : (∃ e, a.combine b c = .ok e)
    ↔ (a.OnSameKeyword b ∧ a.Folds b)
      ∨ (¬ a.OnSameKeyword b ∧ a.textCount = 1 ∧ b.textCount = 1) := by
  by_cases h : a.OnSameKeyword b
  · rw [combine_of_same h, exists_fold_iff]
    simp [h]
  · rw [combine_of_other h, exists_join_iff]
    simp [h]

/-- **How combining fails**: on the same keyword with the counts of both
sides together, otherwise with those of the first side that is not one text. -/
theorem combine_eq_error_iff : a.combine b c = .error err
    ↔ (a.OnSameKeyword b ∧ ¬ a.Folds b
        ∧ err = .malformed (.combine c) (a.pending.length + b.pending.length)
          (a.resolved.length + b.resolved.length))
      ∨ (¬ a.OnSameKeyword b ∧ a.textCount ≠ 1
        ∧ err = .malformed (.combine c) a.pending.length a.resolved.length)
      ∨ (¬ a.OnSameKeyword b ∧ a.textCount = 1 ∧ b.textCount ≠ 1
        ∧ err = .malformed (.combine c) b.pending.length b.resolved.length) := by
  by_cases hsame : a.OnSameKeyword b
  · rw [combine_of_same hsame]
    by_cases hfolds : a.Folds b
    · obtain ⟨e, he⟩ := exists_fold_iff.mpr hfolds
      rw [he]
      simp [hsame, hfolds]
    · rw [fold_of_not_folds hfolds]
      simp [hsame, hfolds, eq_comm]
  · rw [combine_of_other hsame]
    by_cases ha : a.textCount = 1
    · by_cases hb : b.textCount = 1
      · obtain ⟨e, he⟩ := exists_join_iff.mpr ⟨ha, hb⟩
        rw [he]
        simp [hsame, ha, hb]
      · rw [join_of_right ha hb]
        simp [hsame, ha, hb, malformed, eq_comm]
    · rw [join_of_left ha]
      simp [hsame, ha, malformed, eq_comm]

/-! ### Showing. -/

/-- **When there is a search term.** -/
theorem exists_render_iff : (∃ s, e.render = .ok s)
    ↔ e.textCount = 1 ∨ (e.textCount = 0 ∧ ∃ name, e.keywords = [name]) := by
  unfold render
  by_cases hempty : e.isEmpty = true
  · have hnone : e.textCount = 0 := isEmpty_iff.mp hempty
    rw [if_pos hempty]
    cases hsingle : e.single? with
    | some name => simp [hnone, single?_eq_some_iff.mp hsingle]
    | none =>
        have hseveral : ¬ ∃ name, e.keywords = [name] := by
          intro h
          obtain ⟨name, hname⟩ := h
          rw [single?_eq_some_iff.mpr hname] at hsingle
          exact absurd hsingle (by simp)
        simp [hnone, hseveral]
  · have hsome : e.textCount ≠ 0 := fun h => hempty (isEmpty_iff.mpr h)
    rw [if_neg hempty, exists_wrapped_iff]
    simp [hsome]

/-- **The text that is always shown is the search term**, if there is one. -/
theorem display_of_render (h : e.render = .ok s) : e.display = s := by
  unfold render at h
  split at h
  · next hempty =>
    split at h
    · next name hname =>
      -- Without texts the names are shown, of which there is one.
      have hnone := isEmpty_iff.mp hempty
      have hp : e.pending = [] :=
        List.eq_nil_of_length_eq_zero (Nat.eq_zero_of_add_eq_zero_right hnone)
      have hr : e.resolved = [] :=
        List.eq_nil_of_length_eq_zero (Nat.eq_zero_of_add_eq_zero_left hnone)
      unfold display
      rw [hp, hr, single?_eq_some_iff.mp hname, ← Except.ok.inj h]
      rfl
    · exact nomatch h
  · obtain ⟨t, ⟨hp, hr⟩ | ⟨hp, hr⟩, rfl⟩ := wrapped_cases h
    · unfold display
      rw [hp, hr]
    · unfold display
      rw [hp, hr]

end Counts

end Expression

/-- **THE SHAPE OF EXPRESSIONS.**

  * An expression that runs make holds one complete text at most.  It is on
    one keyword or more, each there once, and these are the keywords of all
    expressions that it was made from.
  * Two expressions can be combined exactly when they are on the same one
    keyword and their texts fold, or are not and hold one text each.  The
    result holds one complete text and nothing else.
  * Combining fails with the connective, and with the counts of both sides
    together on the same keyword, and otherwise with those of the first side,
    the left before the right, that does not hold one text.
  * There is a search term exactly for an expression that holds one text, or
    none and is on one keyword, and then it is the text that is shown. -/
theorem expression_shape :
    (∀ fs e, MadeFrom fs e → e.resolved.length ≤ 1 ∧ e.keywords ≠ []
      ∧ e.keywords.Pairwise (· < ·) ∧ ∀ name, name ∈ e.keywords ↔ ∃ f ∈ fs, f.name = name)
    ∧ (∀ (a b : Expression) (c : Connective), (∃ e, a.combine b c = .ok e)
      ↔ (a.OnSameKeyword b ∧ a.Folds b)
        ∨ (¬ a.OnSameKeyword b ∧ a.textCount = 1 ∧ b.textCount = 1))
    ∧ (∀ (a b : Expression) (c : Connective) (e : Expression), a.combine b c = .ok e →
      e.pending = [] ∧ ∃ s, e.resolved = [s])
    ∧ (∀ (a b : Expression) (c : Connective) (err : PredicateError), a.combine b c = .error err
      ↔ (a.OnSameKeyword b ∧ ¬ a.Folds b
          ∧ err = .malformed (.combine c) (a.pending.length + b.pending.length)
            (a.resolved.length + b.resolved.length))
        ∨ (¬ a.OnSameKeyword b ∧ a.textCount ≠ 1
          ∧ err = .malformed (.combine c) a.pending.length a.resolved.length)
        ∨ (¬ a.OnSameKeyword b ∧ a.textCount = 1 ∧ b.textCount ≠ 1
          ∧ err = .malformed (.combine c) b.pending.length b.resolved.length))
    ∧ (∀ e : Expression, (∃ s, e.render = .ok s)
      ↔ e.textCount = 1 ∨ (e.textCount = 0 ∧ ∃ name, e.keywords = [name]))
    ∧ ∀ (e : Expression) (s : String), e.render = .ok s → e.display = s := by
  refine ⟨?_, fun a b c => Expression.exists_combine_iff, fun a b c e => texts_of_combine,
    fun a b c err => Expression.combine_eq_error_iff, fun e => Expression.exists_render_iff,
    fun e s => Expression.display_of_render⟩
  intro fs e h
  exact ⟨h.resolved_le, h.built.named, h.built.ascending, h.mem_keywords⟩

/-- A fold that was compared once more: one pending and one complete text,
which fold with nothing on another keyword. -/
theorem expression_shape_folded :
    let a := (Expression.ofField .auid).compare .eq (.number (.int 1))
    let b := (Expression.ofField .auid).compare .lt (.number (.int 7))
    let d := (Expression.ofField .aurl).compare .contains (.text "x")
    ∃ e, a.combine b .and = .ok e ∧ MadeFrom [.auid, .auid] e
      ∧ e.pending = [] ∧ (∃ s, e.resolved = [s])
      ∧ (∃ s, e.render = .ok s ∧ e.display = s)
      ∧ MadeFrom [.auid, .auid] (e.compare .eq (.number (.int 9)))
      ∧ (e.compare .eq (.number (.int 9))).resolved.length ≤ 1
      ∧ (e.compare .eq (.number (.int 9))).combine d .or = .error (.malformed (.combine .or) 1 1)
      ∧ ∃ w, e.combine d .or = .ok w
        ∧ ∀ name, name ∈ w.keywords ↔ ∃ f ∈ [Field.auid, .auid, .aurl], f.name = name := by
  intro a b d
  obtain ⟨hshape, hcombine, htexts, hfails, hrender, hdisplay⟩ := expression_shape
  have ha : MadeFrom [.auid] a := .compare (.ofField _) _ _
  have hb : MadeFrom [.auid] b := .compare (.ofField _) _ _
  have hd : MadeFrom [.aurl] d := .compare (.ofField _) _ _
  obtain ⟨e, he⟩ := (hcombine a b .and).mpr (.inl ⟨⟨"auid", rfl, rfl⟩, .inl ⟨rfl, rfl⟩⟩)
  have hmade : MadeFrom [.auid, .auid] e := .combine ha hb he
  obtain ⟨hpending, r, hresolved⟩ := htexts a b .and e he
  have hcount : e.textCount = 1 := by rw [Expression.textCount, hpending, hresolved]; rfl
  obtain ⟨s, hs⟩ := (hrender e).mpr (.inl hcount)
  have hmore : MadeFrom [.auid, .auid] (e.compare .eq (.number (.int 9))) := .compare hmade _ _
  -- The fold is on `auid`, and the other expression on `aurl`.
  have hother : ∀ a' : Expression, MadeFrom [.auid, .auid] a' → ¬ a'.OnSameKeyword d := by
    intro a' ha' hsame
    obtain ⟨name, hname, hnamed⟩ := hsame
    have hname' : name = "aurl" := (List.singleton_inj.mp hnamed).symm
    have hmem := (ha'.mem_keywords name).mp (by rw [hname]; exact List.mem_singleton_self name)
    rw [hname'] at hmem
    exact absurd hmem (by decide)
  obtain ⟨w, hw⟩ := (hcombine e d .or).mpr (.inr ⟨hother e hmade, hcount, rfl⟩)
  refine ⟨e, he, hmade, hpending, ⟨r, hresolved⟩, ⟨s, hs, hdisplay e s hs⟩, hmore,
    (hshape _ _ hmore).1, ?_, w, hw, (hshape _ w (.combine hmade hd hw)).2.2.2⟩
  refine (hfails _ d .or _).mpr (.inr (.inl ⟨hother _ hmore, ?_, ?_⟩))
  · rw [Expression.textCount, Expression.compare, hpending, hresolved]
    show 1 + 1 ≠ 1
    decide
  · rw [Expression.compare, hpending, hresolved]
    rfl

end MaterialSearch.Predicate
