/-
  MaterialSearch.Proofs.Predicate.Built
  ────────────────────────────────
  **WHAT RUNS OF OPERATIONS CAN MAKE.**

  An expression starts on a keyword and is compared, combined, negated and
  emptied in any order.  Each operation that can fail is described once:
  what it must have been given when it succeeds, and what it gives then.

  Main definitions:
    * `Built`             — the expressions that runs of operations make
    * `Expression.IsOnly` — the only text of an expression

  Main results:
    * `wrapped_cases`, `render_cases` — what is bound and shown
    * `combine_cases`, `negate_cases` — what the operations give
    * `FoldsTo.of_parts` — what a folded text has from its parts
    * `combine_of_foldsTo`, `combine_of_wrapped` — when combining succeeds
    * `Built.named`, `Built.ascending` — the names of what is built
    * `built_build`                    — trees of comparisons are built so
-/
import MaterialSearch.Proofs.Predicate.Binding

namespace MaterialSearch.Predicate

open MaterialSearch.Keyword

/-! ## §1. Runs of operations. -/

/-- **The expressions that runs of operations make**, from these keywords
and with these comparisons. -/
inductive Built (fields : Field → Prop) (allowed : Expression → Comparison → Operand → Prop) :
    Expression → Prop where
  | ofField {f : Field} (hf : fields f) : Built fields allowed (.ofField f)
  | compare {e : Expression} {c : Comparison} {v : Operand} (h : Built fields allowed e)
      (hv : allowed e c v) : Built fields allowed (e.compare c v)
  | combine {a b e : Expression} {c : Connective} (ha : Built fields allowed a)
      (hb : Built fields allowed b) (h : a.combine b c = .ok e) : Built fields allowed e
  | negate {a e : Expression} (ha : Built fields allowed a) (h : a.negate = .ok e) :
      Built fields allowed e
  | reset {e : Expression} (h : Built fields allowed e) : Built fields allowed e.reset

/-! ## §2. What the operations give. -/

namespace Expression

variable {a b e : Expression} {c : Connective} {attempt : Attempt} {s : String}

/-- The text is the only one of the expression. -/
def IsOnly (e : Expression) (s : String) : Prop :=
  (e.pending = [s] ∧ e.resolved = []) ∨ (e.pending = [] ∧ e.resolved = [s])

theorem single?_eq_some_iff {name : String} : e.single? = some name ↔ e.keywords = [name] := by
  unfold single?
  split
  · next n hn => rw [hn, Option.some.injEq, List.cons.injEq, and_iff_left rfl]
  · next hne =>
    constructor
    · intro h; cases h
    · intro h; exact absurd h (hne name)

theorem IsOnly.mem (h : e.IsOnly s) : s ∈ e.pending ++ e.resolved := by
  rcases h with ⟨hp, hr⟩ | ⟨hp, hr⟩ <;> simp [hp, hr]

/-- There is an only text exactly when there is one. -/
theorem exists_isOnly_iff : (∃ s, e.IsOnly s) ↔ e.pending.length + e.resolved.length = 1 := by
  constructor
  · intro h
    obtain ⟨s, ⟨hp, hr⟩ | ⟨hp, hr⟩⟩ := h
    · rw [hp, hr, List.length_singleton, List.length_nil]
    · rw [hp, hr, List.length_singleton, List.length_nil]
  · intro h
    cases hp : e.pending with
    | nil =>
      rw [hp, List.length_nil, Nat.zero_add] at h
      obtain ⟨s, hr⟩ := List.length_eq_one_iff.mp h
      exact ⟨s, .inr ⟨hp, hr⟩⟩
    | cons p ps =>
      rw [hp, List.length_cons] at h
      have hps : ps = [] := List.eq_nil_of_length_eq_zero (by omega)
      have hr : e.resolved = [] := List.eq_nil_of_length_eq_zero (by omega)
      exact ⟨p, .inl ⟨by rw [hp, hps], hr⟩⟩

/-- With one keyword a text is bound to it. -/
theorem toList_bound_single {name : String} (h : e.keywords = [name]) (s : String) :
    (e.bound s).toList = predicateText name s.toList := by
  have hsingle := single?_eq_some_iff.mpr h
  simp [bound, hsingle, predicateText, parenthesized]

/-- With several it is bound already. -/
theorem bound_several (h : ∀ name, e.keywords ≠ [name]) (s : String) : e.bound s = s := by
  cases hsingle : e.single? with
  | some name => exact absurd (single?_eq_some_iff.mp hsingle) (h name)
  | none => simp [bound, hsingle]

theorem onlyText_cases (h : e.onlyText attempt = .ok s) : e.IsOnly s := by
  unfold onlyText at h
  split at h
  · next hp hr => cases h; exact .inr ⟨hp, hr⟩
  · next hp hr => cases h; exact .inl ⟨hp, hr⟩
  · cases h

/-- Only the one text of an expression is bound. -/
theorem wrapped_cases (h : e.wrapped attempt = .ok s) : ∃ t, e.IsOnly t ∧ s = e.bound t := by
  unfold wrapped at h
  cases ht : e.onlyText attempt with
  | error err => rw [ht] at h; cases h
  | ok t =>
    rw [ht] at h
    cases h
    exact ⟨t, onlyText_cases ht, rfl⟩

/-- **What is shown** is the bare keyword or the one text, bound. -/
theorem render_cases (h : e.render = .ok s) :
    e.keywords = [s] ∨ ∃ t, e.IsOnly t ∧ s = e.bound t := by
  unfold render at h
  split at h
  · split at h
    · next name hname =>
      cases h
      exact .inl (single?_eq_some_iff.mp hname)
    · cases h
  · exact .inr (wrapped_cases h)

/-- The texts that folding puts together, and how. -/
def FoldsTo (ps rs : List String) (c : Connective) (s : String) : Prop :=
  (∃ p q, ps = [p, q] ∧ rs = [] ∧ s = p ++ String.singleton c.token ++ q)
    ∨ (∃ p r, ps = [p] ∧ rs = [r] ∧ s = p ++ String.singleton c.token ++ "(" ++ r ++ ")")
    ∨ ∃ r w, ps = [] ∧ rs = [r, w]
        ∧ s = "(" ++ r ++ ")" ++ String.singleton c.token ++ "(" ++ w ++ ")"

/-- **What passes from the parts to two of them with a connective between
them, and through parentheses, holds of a folded text.** -/
theorem FoldsTo.of_parts {P Q : List Char → Prop} {ps rs : List String}
    (hcombined : ∀ a b, P a → P b → Q (a ++ c.token :: b))
    (hgroup : ∀ a, P a → P (parenthesized a)) (h : FoldsTo ps rs c s)
    (hp : ∀ p ∈ ps, P p.toList) (hr : ∀ r ∈ rs, P r.toList) : Q s.toList := by
  rcases h with ⟨p, q, rfl, rfl, rfl⟩ | ⟨p, r, rfl, rfl, rfl⟩ | ⟨r, w, rfl, rfl, rfl⟩
  · have htext : (p ++ String.singleton c.token ++ q).toList
        = p.toList ++ c.token :: q.toList := by simp
    exact htext ▸ hcombined _ _ (hp p (by simp)) (hp q (by simp))
  · have htext : (p ++ String.singleton c.token ++ "(" ++ r ++ ")").toList
        = p.toList ++ c.token :: parenthesized r.toList := by simp [parenthesized]
    exact htext ▸ hcombined _ _ (hp p (by simp)) (hgroup _ (hr r (by simp)))
  · have htext : ("(" ++ r ++ ")" ++ String.singleton c.token ++ "(" ++ w ++ ")").toList
        = parenthesized r.toList ++ c.token :: parenthesized w.toList := by
      simp [parenthesized]
    exact htext ▸ hcombined _ _ (hgroup _ (hr r (by simp))) (hgroup _ (hr w (by simp)))

theorem fold_eq_ok_iff :
    fold a b c = .ok e ↔ ∃ s, FoldsTo (a.pending ++ b.pending) (a.resolved ++ b.resolved) c s
      ∧ e = ⟨a.keywords, [], [s]⟩ := by
  constructor
  · intro h
    simp only [fold] at h
    split at h
    · next p q hp hr => cases h; exact ⟨_, .inl ⟨p, q, hp, hr, rfl⟩, rfl⟩
    · next p r hp hr => cases h; exact ⟨_, .inr (.inl ⟨p, r, hp, hr, rfl⟩), rfl⟩
    · next r w hp hr => cases h; exact ⟨_, .inr (.inr ⟨r, w, hp, hr, rfl⟩), rfl⟩
    · cases h
  · rintro ⟨s, ⟨p, q, hp, hr, rfl⟩ | ⟨p, r, hp, hr, rfl⟩ | ⟨r, w, hp, hr, rfl⟩, rfl⟩ <;>
      simp only [fold, hp, hr]

theorem join_eq_ok_iff :
    join a b c = .ok e ↔ ∃ x y, a.wrapped (.combine c) = .ok x ∧ b.wrapped (.combine c) = .ok y
      ∧ e = ⟨mergeNames a.keywords b.keywords, [], [x ++ String.singleton c.token ++ y]⟩ := by
  constructor
  · intro h
    simp only [join] at h
    split at h
    · next x y hx hy => cases h; exact ⟨x, y, hx, hy, rfl⟩
    · cases h
    · cases h
  · rintro ⟨x, y, hx, hy, rfl⟩
    simp only [join, hx, hy]

/-- **What combining gives**: on one keyword a folded text, otherwise the
two bound texts side by side. -/
theorem combine_cases (h : a.combine b c = .ok e) :
    (∃ name s, a.keywords = [name] ∧ b.keywords = [name]
      ∧ FoldsTo (a.pending ++ b.pending) (a.resolved ++ b.resolved) c s
      ∧ e = ⟨[name], [], [s]⟩)
    ∨ ((∀ name, ¬(a.keywords = [name] ∧ b.keywords = [name]))
      ∧ ∃ x y, a.wrapped (.combine c) = .ok x ∧ b.wrapped (.combine c) = .ok y
        ∧ e = ⟨mergeNames a.keywords b.keywords, [],
            [x ++ String.singleton c.token ++ y]⟩) := by
  unfold combine at h
  split at h
  · next hsame =>
    obtain ⟨name, hname⟩ := List.length_eq_one_iff.mp hsame.1
    obtain ⟨s, hs, he⟩ := fold_eq_ok_iff.mp h
    exact .inl ⟨name, s, hname, hsame.2 ▸ hname, hs, hname ▸ he⟩
  · next hother =>
    refine .inr ⟨?_, join_eq_ok_iff.mp h⟩
    rintro name ⟨ha, hb⟩
    exact hother ⟨by rw [ha]; rfl, ha.trans hb.symm⟩

/-- Two expressions on one keyword whose texts fold. -/
theorem combine_of_foldsTo {name : String} (ha : a.keywords = [name])
    (hb : b.keywords = [name])
    (h : FoldsTo (a.pending ++ b.pending) (a.resolved ++ b.resolved) c s) :
    a.combine b c = .ok ⟨[name], [], [s]⟩ := by
  have hsame : a.keywords.length = 1 ∧ a.keywords = b.keywords := by rw [ha, hb]; exact ⟨rfl, rfl⟩
  rw [combine, if_pos hsame]
  exact fold_eq_ok_iff.mpr ⟨s, h, by rw [ha]⟩

/-- Two expressions, not on one keyword, that both can be bound. -/
theorem combine_of_wrapped {x y : String}
    (hother : ∀ name, ¬(a.keywords = [name] ∧ b.keywords = [name]))
    (hx : a.wrapped (.combine c) = .ok x) (hy : b.wrapped (.combine c) = .ok y) :
    a.combine b c = .ok ⟨mergeNames a.keywords b.keywords, [],
      [x ++ String.singleton c.token ++ y]⟩ := by
  rw [combine, if_neg]
  · exact join_eq_ok_iff.mpr ⟨x, y, hx, hy, rfl⟩
  · rintro ⟨hone, hsame⟩
    obtain ⟨name, hname⟩ := List.length_eq_one_iff.mp hone
    exact hother name ⟨hname, hsame ▸ hname⟩

/-- The one text of an expression can be bound, whatever it is for. -/
theorem IsOnly.wrapped {s : String} (h : e.IsOnly s) (attempt : Attempt) :
    e.wrapped attempt = .ok (e.bound s) := by
  have honly : e.onlyText attempt = .ok s := by
    unfold onlyText
    rcases h with ⟨hp, hr⟩ | ⟨hp, hr⟩ <;> rw [hp, hr]
  rw [Expression.wrapped, honly]
  rfl

/-- **What negating gives**: the one text, toggled as a fragment or term
by term. -/
theorem negate_cases (h : a.negate = .ok e) :
    (∃ p, a.pending = [p] ∧ a.resolved = []
      ∧ e = { a with pending := [String.ofList (toggle p.toList)] })
    ∨ ∃ r, a.pending = [] ∧ a.resolved = [r]
      ∧ e = { a with resolved := [String.ofList
          (if 1 < a.keywords.length then negateTerms r.toList else toggle r.toList)] } := by
  unfold negate at h
  split at h
  · next p hp hr => cases h; exact .inl ⟨p, hp, hr, rfl⟩
  · next r hp hr => cases h; exact .inr ⟨r, hp, hr, rfl⟩
  · cases h

end Expression

/-! ## §3. Names. -/

section Names

variable {fields : Field → Prop} {allowed : Expression → Comparison → Operand → Prop}
  {e : Expression}

theorem keywords_of_negate {a : Expression} (h : a.negate = .ok e) :
    e.keywords = a.keywords := by
  rcases Expression.negate_cases h with ⟨p, -, -, rfl⟩ | ⟨r, -, -, rfl⟩ <;> rfl

theorem Built.named (h : Built fields allowed e) : e.keywords ≠ [] := by
  induction h with
  | ofField _ => exact List.cons_ne_nil _ _
  | compare _ _ ih => exact ih
  | combine ha hb hc iha ihb =>
    rcases Expression.combine_cases hc with ⟨name, s, -, -, -, rfl⟩ | ⟨-, x, y, -, -, rfl⟩
    · exact List.cons_ne_nil _ _
    · obtain ⟨n, hn⟩ := List.exists_mem_of_ne_nil _ iha
      exact List.ne_nil_of_mem ((mem_mergeNames n _ _).mpr (.inl hn))
  | negate _ hn ih => rwa [keywords_of_negate hn]
  | reset _ ih => exact ih

/-- **The names are in ascending order**, and so each is there once. -/
theorem Built.ascending (h : Built fields allowed e) : e.keywords.Pairwise (· < ·) := by
  induction h with
  | ofField _ => exact List.pairwise_singleton _ _
  | compare _ _ ih => exact ih
  | combine ha hb hc iha ihb =>
    rcases Expression.combine_cases hc with ⟨name, s, -, -, -, rfl⟩ | ⟨-, x, y, -, -, rfl⟩
    · exact List.pairwise_singleton _ _
    · exact pairwise_mergeNames _ iha
  | negate _ hn ih => rwa [keywords_of_negate hn]
  | reset _ ih => exact ih

/-- Every name is the name of a keyword that the run started from. -/
theorem Built.exists_field (h : Built fields allowed e) :
    ∀ n ∈ e.keywords, ∃ f, fields f ∧ f.name = n := by
  induction h with
  | @ofField f hf =>
    intro n hn
    exact ⟨f, hf, (List.mem_singleton.mp hn).symm⟩
  | compare _ _ ih => exact ih
  | combine ha hb hc iha ihb =>
    rcases Expression.combine_cases hc with ⟨name, s, hname, -, -, rfl⟩ | ⟨-, x, y, -, -, rfl⟩
    · exact hname ▸ iha
    · intro n hn
      rcases (mem_mergeNames n _ _).mp hn with hn | hn
      · exact iha n hn
      · exact ihb n hn
  | negate _ hn ih => rwa [keywords_of_negate hn]
  | reset _ ih => exact ih

/-- Ascending names that are all the same are one name. -/
theorem eq_singleton_of_forall {ns : List String} {name : String} (hne : ns ≠ [])
    (hasc : ns.Pairwise (· < ·)) (h : ∀ n ∈ ns, n = name) : ns = [name] := by
  cases ns with
  | nil => exact absurd rfl hne
  | cons m ns =>
    obtain rfl := h m List.mem_cons_self
    cases ns with
    | nil => rfl
    | cons n ns =>
      have hlt : m < n := List.rel_of_pairwise_cons hasc List.mem_cons_self
      obtain rfl := h n (List.mem_cons_of_mem _ List.mem_cons_self)
      exact absurd hlt (String.lt_irrefl n)

/-- Names that are not none and not one are several. -/
theorem one_lt_length_of_several {ns : List String} (hne : ns ≠ [])
    (hone : ∀ name, ns ≠ [name]) : 1 < ns.length := by
  match ns with
  | [] => exact absurd rfl hne
  | [name] => exact absurd rfl (hone name)
  | _ :: _ :: _ => simp

/-- **Expressions on different keywords are on several together.** -/
theorem mergeNames_ne_singleton {ms ns : List String} (hms : ms ≠ [])
    (hmasc : ms.Pairwise (· < ·)) (hns : ns ≠ []) (hnasc : ns.Pairwise (· < ·))
    (h : ∀ name, ¬(ms = [name] ∧ ns = [name])) (name : String) :
    mergeNames ms ns ≠ [name] := by
  intro hmerge
  -- One name for both means that each has it, and nothing else.
  have hall : ∀ n, n ∈ ms ∨ n ∈ ns → n = name := by
    intro n hn
    have := (mem_mergeNames n ms ns).mpr hn
    rwa [hmerge, List.mem_singleton] at this
  exact h name ⟨eq_singleton_of_forall hms hmasc fun n hn => hall n (.inl hn),
    eq_singleton_of_forall hns hnasc fun n hn => hall n (.inr hn)⟩

/-- The name of a leaf is the name of its expression. -/
theorem mem_keywords_single (c : Clause) (n : String) :
    n ∈ c.expression.keywords ↔ ∃ x ∈ (Combination.single c).leaves, n = x.field.name := by
  simp [Clause.expression, Expression.compare, Expression.ofField, Combination.leaves]

/-- The names of two sides are the names of the leaves of both. -/
theorem mem_mergeNames_leaves {l r : Combination Clause} {ms ns : List String} (c : Connective)
    (hl : ∀ n, n ∈ ms ↔ ∃ x ∈ l.leaves, n = x.field.name)
    (hr : ∀ n, n ∈ ns ↔ ∃ x ∈ r.leaves, n = x.field.name) (n : String) :
    n ∈ mergeNames ms ns ↔ ∃ x ∈ (Combination.both c l r).leaves, n = x.field.name := by
  simp only [mem_mergeNames, hl, hr, Combination.leaves, List.mem_append]
  constructor
  · rintro (⟨z, hz, hn⟩ | ⟨z, hz, hn⟩)
    · exact ⟨z, .inl hz, hn⟩
    · exact ⟨z, .inr hz, hn⟩
  · rintro ⟨z, hz | hz, hn⟩
    · exact .inl ⟨z, hz, hn⟩
    · exact .inr ⟨z, hz, hn⟩

/-- What a tree is built into, a run makes. -/
theorem built_build {t : Combination Clause} (hf : ∀ c ∈ t.leaves, fields c.field)
    (hv : ∀ c ∈ t.leaves, allowed (.ofField c.field) c.comparison c.operand)
    (h : t.build = .ok e) : Built fields allowed e := by
  induction t generalizing e with
  | single c =>
    have hc : c ∈ (Combination.single c).leaves := List.mem_singleton_self c
    cases h
    exact .compare (.ofField (hf c hc)) (hv c hc)
  | both c l r ihl ihr =>
    cases hl : l.build with
    | error err => rw [Combination.build, hl] at h; cases h
    | ok a =>
      cases hr : r.build with
      | error err => rw [Combination.build, hl, hr] at h; cases h
      | ok b =>
        rw [Combination.build_both c hl hr] at h
        exact .combine
          (ihl (fun x hx => hf x (List.mem_append_left _ hx))
            (fun x hx => hv x (List.mem_append_left _ hx)) hl)
          (ihr (fun x hx => hf x (List.mem_append_right _ hx))
            (fun x hx => hv x (List.mem_append_right _ hx)) hr) h

end Names

end MaterialSearch.Predicate
