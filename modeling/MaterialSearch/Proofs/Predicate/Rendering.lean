/-
  MaterialSearch.Proofs.Predicate.Rendering
  ────────────────────────────────
  **WHAT IS RENDERED IS A SEARCH TERM.**

  A search term is a bare keyword, or predicates `name(fragment)` with
  separators between them.  Every run of operations keeps to it: the texts
  of an expression over one keyword are fragments, those of an expression
  over several are rows of predicates, and toggling leaves both so.

  Two things go beyond the documented grammar.  A comparison made on an
  emptied expression over several keywords has none to be bound to, and is
  shown as it stands; runs without such comparisons are called bound.  And
  a mark put behind the first parenthesis of a fragment may land in front
  of a second one, which the lenient dialect admits.

  Main definitions:
    * `IsTerm`   — rows of predicates over given keywords
    * `Bindable` — the comparisons that have a keyword to be bound to
    * `Sound`    — the invariant of runs

  Main results:
    * `IsTerm.negateTerms`     — a row is a row after negation
    * `Built.sound`            — every run keeps the invariant
    * `render_isTerm`          — **what is rendered is a search term**
    * `render_stray_comparison` — the exception with nothing to be bound to
-/
import MaterialSearch.Proofs.Predicate.Built
import MaterialSearch.Proofs.Predicate.Toggling

namespace MaterialSearch.Predicate

open MaterialSearch.Keyword

/-! ## §1. Rows of predicates. -/

/-- **A row of predicates** over keywords of these names. -/
inductive IsTerm (g : Dialect) (names : List String) : List Char → Prop where
  | predicate {name : String} {cs : List Char} (hn : name ∈ names) (h : Derives g cs) :
      IsTerm g names (predicateText name cs)
  | combined {a b : List Char} (c : Connective) (ha : IsTerm g names a)
      (hb : IsTerm g names b) : IsTerm g names (a ++ c.token :: b)

section Rows

variable {g : Dialect} {names : List String} {cs : List Char}

theorem IsTerm.mono {more : List String} (hsub : ∀ n ∈ names, n ∈ more)
    (h : IsTerm g names cs) : IsTerm g more cs := by
  induction h with
  | predicate hn h => exact .predicate (hsub _ hn) h
  | combined c _ _ iha ihb => exact .combined c iha ihb

theorem IsTerm.opens (h : IsTerm g names cs) : '(' ∈ cs := by
  induction h with
  | predicate _ _ => simp [predicateText, parenthesized]
  | combined c _ _ iha _ => exact List.mem_append_left _ iha

theorem Derives.solid_predicateText {name : String} (hn : IsWord name.toList)
    (h : Derives g cs) : Solid 0 (predicateText name cs) :=
  h.elim fun _ hx => Solid.predicateText hn (hx.solid 0)

theorem IsTerm.separable (hw : ∀ n ∈ names, IsWord n.toList) (h : IsTerm g names cs) :
    Separable cs := by
  induction h with
  | predicate hn h => exact (h.solid_predicateText (hw _ hn)).separable
  | combined c _ _ iha ihb => exact iha.append ihb c.isSeparator_token

theorem IsTerm.closes (hw : ∀ n ∈ names, IsWord n.toList) (h : IsTerm g names cs) :
    Closes cs := by
  induction h with
  | predicate hn h =>
    obtain ⟨_, hx⟩ := h
    exact (hw _ hn).closes.append hx.closes.parenthesized
  | combined c _ _ iha ihb =>
    exact iha.append ((closes_singleton c.token_plain.1).append ihb)

/-- **The fragment of a predicate is toggled.** -/
theorem negateTerm_of_predicate {name inner : List Char} (hname : '(' ∉ name) :
    negateTerm (name ++ '(' :: (inner ++ [')'])) = name ++ '(' :: (toggle inner ++ [')']) := by
  have hbefore : ∀ c ∈ name, decide (c ≠ '(') = true := by
    intro c hc
    simpa using fun h : c = '(' => hname (h ▸ hc)
  have htake : (name ++ '(' :: (inner ++ [')'])).takeWhile (· ≠ '(') = name := by
    rw [List.takeWhile_append_of_pos hbefore]
    simp
  have hdrop : (name ++ '(' :: (inner ++ [')'])).dropWhile (· ≠ '(')
      = '(' :: (inner ++ [')']) := by
    rw [List.dropWhile_append_of_pos hbefore]
    simp
  have hlast : (name ++ '(' :: (inner ++ [')'])).getLast? = some ')' := by
    rw [← List.cons_append, ← List.append_assoc, List.getLast?_concat]
  simp only [negateTerm, hdrop, hlast, htake, List.dropLast_concat]

/-- A name of plain characters has no parenthesis. -/
theorem IsWord.notMem_opening {cs : List Char} (h : IsWord cs) : '(' ∉ cs := fun hmem =>
  (not_isMarkup (h _ hmem)).2.2.2.1 rfl

/-- **A row of predicates is one after negation**, where groups may be
marked. -/
theorem IsTerm.negateTerms (hg : g.marksGroups) (hw : ∀ n ∈ names, IsWord n.toList)
    (h : IsTerm g names cs) : IsTerm g names (negateTerms cs) := by
  induction h with
  | predicate hn h =>
    rw [(h.solid_predicateText (hw _ hn)).negateTerms_eq, predicateText, parenthesized,
      negateTerm_of_predicate (hw _ hn).notMem_opening]
    exact .predicate hn (h.toggle hg)
  | combined c ha _ iha ihb =>
    rw [negateTerms_append (ha.separable hw) c.isSeparator_token]
    exact .combined c iha ihb

theorem hasGroupMark_predicateText {name : String} (hn : IsWord name.toList)
    (h : Closes cs) : hasGroupMark false (predicateText name cs) = hasGroupMark false cs := by
  rw [predicateText, hn.hasGroupMark_append, hasGroupMark_parenthesized h]

theorem IsTerm.hasGroupMark_eq (hg : ¬ g.marksGroups) (hw : ∀ n ∈ names, IsWord n.toList)
    (h : IsTerm g names cs) : hasGroupMark false cs = false := by
  induction h with
  | predicate hn h =>
    obtain ⟨_, hx⟩ := h
    rw [hasGroupMark_predicateText (hw _ hn) hx.closes]
    exact hx.hasGroupMark_eq hg
  | combined c ha _ iha ihb => rw [hasGroupMark_combined (ha.closes hw), iha, ihb]; rfl

/-- **A row is in the documented dialect exactly when no mark stands in
front of a parenthesis.** -/
theorem IsTerm.documented_iff (hw : ∀ n ∈ names, IsWord n.toList)
    (h : IsTerm .lenient names cs) :
    IsTerm .documented names cs ↔ hasGroupMark false cs = false := by
  refine ⟨fun hdoc => hdoc.hasGroupMark_eq id hw, fun hm => ?_⟩
  induction h with
  | @predicate name cs hn h =>
    have hcloses : Closes cs := h.elim fun _ hx => hx.closes
    rw [hasGroupMark_predicateText (hw _ hn) hcloses] at hm
    exact .predicate hn ((derives_documented_iff h).mpr hm)
  | combined c ha _ iha ihb =>
    rw [hasGroupMark_combined (ha.closes hw), Bool.or_eq_false_iff] at hm
    exact .combined c (iha hm.1) (ihb hm.2)

end Rows

/-! ## §2. The invariant. -/

/-- **The comparison has a keyword to be bound to**: its expression is on
one keyword, or holds something already.  Texts have no apostrophes, and
only texts are searched for. -/
def Bindable (e : Expression) (c : Comparison) (v : Operand) : Prop :=
  v.Plain ∧ (c = .contains → v.isText = true)
    ∧ (e.isEmpty = true → ∃ name, e.keywords = [name])

/-- **What every run keeps.**  The texts of an expression over one keyword
are fragments.  Over several keywords the complete ones are rows, and a
comparison never waits alone. -/
structure Sound (e : Expression) : Prop where
  fragments : ∀ name, e.keywords = [name] →
    (∀ p ∈ e.pending, Derives .lenient p.toList)
      ∧ ∀ r ∈ e.resolved, Derives .lenient r.toList
  rows : (∀ name, e.keywords ≠ [name]) →
    (e.pending ≠ [] → e.resolved ≠ [])
      ∧ ∀ r ∈ e.resolved, IsTerm .lenient e.keywords r.toList

section Steps

variable {a b e : Expression} {c : Connective}

theorem Sound.ofField (f : Field) : Sound (.ofField f) where
  fragments _ _ := ⟨fun _ h => absurd h List.not_mem_nil, fun _ h => absurd h List.not_mem_nil⟩
  rows hne := absurd rfl (hne f.name)

theorem sound_reset (e : Expression) : Sound e.reset where
  fragments _ _ := ⟨fun _ h => absurd h List.not_mem_nil, fun _ h => absurd h List.not_mem_nil⟩
  rows _ := ⟨fun h => absurd rfl h, fun _ h => absurd h List.not_mem_nil⟩

theorem Sound.compare {k : Comparison} {v : Operand} (h : Sound e) (hv : Bindable e k v) :
    Sound (e.compare k v) := by
  obtain ⟨hplain, hneedle, hbound⟩ := hv
  refine ⟨fun name hname => ?_, fun hne => ?_⟩
  · obtain ⟨hp, hr⟩ := h.fragments name hname
    refine ⟨fun p hmem => ?_, hr⟩
    rcases List.mem_append.mp hmem with hmem | hmem
    · exact hp p hmem
    · rw [List.mem_singleton.mp hmem]
      exact ⟨_, .comparison (Comparison.isComparison_fragment hplain hneedle)⟩
  · obtain ⟨hwait, hr⟩ := h.rows hne
    refine ⟨fun _ hnone => ?_, hr⟩
    -- Nothing complete is there, so the expression was empty before.
    have hpending : e.pending = [] := by
      by_cases hp : e.pending = []
      · exact hp
      · exact absurd hnone (hwait hp)
    have hnone' : e.resolved = [] := hnone
    obtain ⟨name, hname⟩ := hbound (by simp [Expression.isEmpty, hpending, hnone'])
    exact hne name hname

/-- **The only text, bound, is a row of predicates.** -/
theorem Sound.isTerm_bound {s : String} (h : Sound e) (hs : e.IsOnly s) :
    IsTerm .lenient e.keywords (e.bound s).toList := by
  by_cases hone : ∃ name, e.keywords = [name]
  · obtain ⟨name, hname⟩ := hone
    obtain ⟨hp, hr⟩ := h.fragments name hname
    have hderives : Derives .lenient s.toList := by
      rcases hs with ⟨hpending, -⟩ | ⟨-, hresolved⟩
      · exact hp s (hpending ▸ List.mem_singleton_self s)
      · exact hr s (hresolved ▸ List.mem_singleton_self s)
    rw [Expression.toList_bound_single hname]
    exact .predicate (hname ▸ List.mem_singleton_self name) hderives
  · have hne : ∀ name, e.keywords ≠ [name] := fun name hname => hone ⟨name, hname⟩
    obtain ⟨hwait, hr⟩ := h.rows hne
    rw [Expression.bound_several hne]
    rcases hs with ⟨hpending, hresolved⟩ | ⟨-, hresolved⟩
    · -- A waiting comparison would be shown unbound, but it does not wait alone.
      exact absurd hresolved (hwait (hpending ▸ List.cons_ne_nil s []))
    · exact hr s (hresolved ▸ List.mem_singleton_self s)

theorem Sound.isTerm_wrapped {attempt : Attempt} {s : String} (h : Sound e)
    (hs : e.wrapped attempt = .ok s) : IsTerm .lenient e.keywords s.toList := by
  obtain ⟨t, ht, rfl⟩ := Expression.wrapped_cases hs
  exact h.isTerm_bound ht

/-- Two fragments folded are a fragment. -/
theorem derives_foldsTo {g : Dialect} {ps rs : List String} {s : String}
    (h : Expression.FoldsTo ps rs c s) (hp : ∀ p ∈ ps, Derives g p.toList)
    (hr : ∀ r ∈ rs, Derives g r.toList) : Derives g s.toList := by
  refine h.of_parts ?_ ?_ hp hr
  · rintro a b ⟨x, hx⟩ ⟨y, hy⟩
    exact ⟨_, .combined c hx hy⟩
  · rintro a ⟨x, hx⟩
    exact ⟨_, .group hx⟩

/-- The folded text of two expressions on the same keyword. -/
theorem Sound.folded {name s : String} (ha : Sound a) (hb : Sound b)
    (hka : a.keywords = [name]) (hkb : b.keywords = [name])
    (hs : Expression.FoldsTo (a.pending ++ b.pending) (a.resolved ++ b.resolved) c s) :
    Sound ⟨[name], [], [s]⟩ := by
  obtain ⟨hpa, hra⟩ := ha.fragments name hka
  obtain ⟨hpb, hrb⟩ := hb.fragments name hkb
  have hp : ∀ p ∈ a.pending ++ b.pending, Derives .lenient p.toList := fun p hp =>
    (List.mem_append.mp hp).elim (hpa p) (hpb p)
  have hr : ∀ r ∈ a.resolved ++ b.resolved, Derives .lenient r.toList := fun r hr =>
    (List.mem_append.mp hr).elim (hra r) (hrb r)
  refine ⟨fun _ _ => ⟨fun _ h => absurd h List.not_mem_nil, fun r hmem => ?_⟩,
    fun hne => absurd rfl (hne name)⟩
  rw [List.mem_singleton.mp hmem]
  exact derives_foldsTo hs hp hr

/-- The bound texts of two expressions, side by side. -/
theorem Sound.joined {attempt : Attempt} {x y : String} (ha : Sound a) (hb : Sound b)
    (hx : a.wrapped attempt = .ok x) (hy : b.wrapped attempt = .ok y)
    (hseveral : ∀ name, mergeNames a.keywords b.keywords ≠ [name]) :
    Sound ⟨mergeNames a.keywords b.keywords, [], [x ++ String.singleton c.token ++ y]⟩ := by
  have htext : (x ++ String.singleton c.token ++ y).toList
      = x.toList ++ c.token :: y.toList := by simp
  refine ⟨fun name hname => absurd hname (hseveral name),
    fun _ => ⟨fun h => absurd rfl h, fun r hmem => ?_⟩⟩
  rw [List.mem_singleton.mp hmem, htext]
  exact .combined c
    ((ha.isTerm_wrapped hx).mono fun n hn => (mem_mergeNames n _ _).mpr (.inl hn))
    ((hb.isTerm_wrapped hy).mono fun n hn => (mem_mergeNames n _ _).mpr (.inr hn))

theorem Sound.negate (ha : Sound a) (hnamed : a.keywords ≠ [])
    (hw : ∀ n ∈ a.keywords, IsWord n.toList) (h : a.negate = .ok e) : Sound e := by
  rcases Expression.negate_cases h with ⟨p, hp, hr, rfl⟩ | ⟨r, hp, hr, rfl⟩
  · refine ⟨fun name hname => ?_, fun hne => ?_⟩
    · obtain ⟨hpa, hra⟩ := ha.fragments name hname
      refine ⟨fun q hq => ?_, hra⟩
      rw [List.mem_singleton.mp hq, String.toList_ofList]
      exact (hpa p (hp ▸ List.mem_singleton_self p)).toggle trivial
    · -- Over several keywords a comparison never waits alone.
      exact absurd hr ((ha.rows hne).1 (hp ▸ List.cons_ne_nil p []))
  · refine ⟨fun name hname => ?_, fun hne => ?_⟩
    · obtain ⟨hpa, hra⟩ := ha.fragments name hname
      have hlength : ¬ 1 < a.keywords.length := by
        have hone : a.keywords = [name] := hname
        simp [hone]
      refine ⟨hpa, fun q hq => ?_⟩
      rw [List.mem_singleton.mp hq, if_neg hlength, String.toList_ofList]
      exact (hra r (hr ▸ List.mem_singleton_self r)).toggle trivial
    · have hlength : 1 < a.keywords.length := one_lt_length_of_several hnamed hne
      obtain ⟨-, hrow⟩ := ha.rows hne
      refine ⟨fun hpending => absurd hp hpending, fun q hq => ?_⟩
      rw [List.mem_singleton.mp hq, if_pos hlength, String.toList_ofList]
      exact (hrow r (hr ▸ List.mem_singleton_self r)).negateTerms trivial hw

end Steps

/-- Runs that start from words have words for names. -/
theorem Built.words {allowed : Expression → Comparison → Operand → Prop} {e : Expression}
    (h : Built (fun f => IsWord f.name.toList) allowed e) :
    ∀ n ∈ e.keywords, IsWord n.toList := by
  intro n hn
  obtain ⟨f, hf, rfl⟩ := h.exists_field n hn
  exact hf

/-- **Every run with comparisons that can be bound keeps the invariant.** -/
theorem Built.sound {e : Expression}
    (h : Built (fun f => IsWord f.name.toList) Bindable e) : Sound e := by
  induction h with
  | ofField _ => exact .ofField _
  | compare _ hv ih => exact ih.compare hv
  | combine ha hb h iha ihb =>
    rcases Expression.combine_cases h with
      ⟨name, s, hka, hkb, hs, rfl⟩ | ⟨hother, x, y, hx, hy, rfl⟩
    · exact iha.folded ihb hka hkb hs
    · exact iha.joined ihb hx hy
        (mergeNames_ne_singleton ha.named ha.ascending hb.named hb.ascending hother)
  | negate ha h ih => exact ih.negate ha.named ha.words h
  | reset _ _ => exact sound_reset _

/-! ## §3. What is rendered. -/

/-- **WHAT IS RENDERED IS A SEARCH TERM.**  When a run makes only
comparisons that can be bound, what is rendered is a bare keyword or a row
of predicates over the keywords of the expression, and the row is in the
documented grammar exactly when no mark stands in front of a
parenthesis. -/
theorem render_isTerm {e : Expression} {s : String}
    (h : Built (fun f => IsWord f.name.toList) Bindable e) (hs : e.render = .ok s) :
    e.keywords = [s] ∨ (IsTerm .lenient e.keywords s.toList
      ∧ (IsTerm .documented e.keywords s.toList ↔ hasGroupMark false s.toList = false)) := by
  rcases Expression.render_cases hs with hbare | ⟨t, ht, rfl⟩
  · exact .inl hbare
  · have hterm := h.sound.isTerm_bound ht
    exact .inr ⟨hterm, hterm.documented_iff h.words⟩

/-- Six comparisons on one keyword in three pairs. -/
def Sample.threePairs : Combination Clause :=
  .both .or
    (.both .or
      (.both .and (.single ⟨.aurl, .eq, .number (.int 1)⟩)
        (.single ⟨.aurl, .eq, .number (.int 2)⟩))
      (.both .and (.single ⟨.aurl, .contains, .text "a!("⟩)
        (.single ⟨.aurl, .eq, .number (.int 4)⟩)))
    (.both .and (.single ⟨.aurl, .eq, .number (.int 5)⟩)
      (.single ⟨.aurl, .eq, .text "),"⟩))

/-- **The mark of a negated nest of parentheses** stands in front of the
second one: a search term, but not of the documented grammar. -/
theorem render_isTerm_nested :
    let e : Expression := ⟨["aurl"], [], ["(!(1,2):(*'a!('*,4)):(5,'),')"]⟩
    Built (fun f => IsWord f.name.toList) Bindable e
      ∧ e.render = .ok "aurl((!(1,2):(*'a!('*,4)):(5,'),'))"
      ∧ IsTerm .lenient ["aurl"] "aurl((!(1,2):(*'a!('*,4)):(5,'),'))".toList
      ∧ ¬IsTerm .documented ["aurl"] "aurl((!(1,2):(*'a!('*,4)):(5,'),'))".toList := by
  intro e
  have htree : Sample.threePairs.build
      = .ok ⟨["aurl"], [], ["((1,2):(*'a!('*,4)):(5,'),')"]⟩ := by cbv
  have hnegate : Expression.negate ⟨["aurl"], [], ["((1,2):(*'a!('*,4)):(5,'),')"]⟩
      = .ok e := by cbv
  have hleaves : ∀ c ∈ Sample.threePairs.leaves,
      c.operand.Plain ∧ (c.comparison = .contains → c.operand.isText = true) := by decide
  have hbuilt : Built (fun f => IsWord f.name.toList) Bindable e :=
    .negate (built_build (by decide)
      (fun c hc => ⟨(hleaves c hc).1, (hleaves c hc).2, fun _ => ⟨_, rfl⟩⟩) htree) hnegate
  have hrender : e.render = .ok "aurl((!(1,2):(*'a!('*,4)):(5,'),'))" := by cbv
  rcases render_isTerm hbuilt hrender with hbare | ⟨hterm, hdocumented⟩
  · exact absurd hbare (by decide)
  · exact ⟨hbuilt, hrender, hterm, fun h => absurd (hdocumented.mp h) (by decide)⟩

/-- **A comparison on an emptied expression over two keywords** is shown
without a keyword. -/
theorem render_stray_comparison :
    ∃ e, Built (fun f => IsWord f.name.toList)
        (fun _ c v => v.Plain ∧ (c = .contains → v.isText = true)) e
      ∧ e.render = .ok "5"
      ∧ ¬(e.keywords = ["5"] ∨ IsTerm .documented e.keywords "5".toList) := by
  have htree : (Combination.both .and (.single ⟨.auid, .gt, .number (.int 6)⟩)
      (.single ⟨.aurl, .lt, .number (.int 13)⟩)).build
      = .ok ⟨["auid", "aurl"], [], ["auid(!*6),aurl(!13*)"]⟩ := by cbv
  refine ⟨Expression.compare (Expression.reset _) .eq (.number (.int 5)),
    .compare (.reset (built_build ?_ ?_ htree)) ?_, by cbv, ?_⟩
  · decide
  · decide
  · decide
  · rintro (h | h)
    · exact absurd h (by decide)
    · exact absurd h.opens (by decide)

end MaterialSearch.Predicate
