/-
  MaterialSearch.Proofs.Query.Failures
  ────────────────────────────────
  **WHAT A FAILED ACTION LEAVES BEHIND.**

  One action may write the terms down, request the first page and then
  another one, and fail after any of these.  Whatever it did before it
  failed is whole: terms that cannot be written down stay as they were,
  each response is taken up whole or not at all, and no cursor moves but
  that of a step.

  Main definitions:
    * `Search.Spoilt`      — what a failed action could not take up
    * `Search.Aftermath`   — what a failed action leaves behind

  Main results:
    * `next_failed`, `stepOver?_forward` — a step that fails
    * `aftermath_of_read`, `aftermath_next`, `aftermath_insertPage` — the
      operations one by one
    * `perform_failed`     — a failed action on one query
    * `failed_leaves_whole` — **a failed action in any run**
-/
import MaterialSearch.Proofs.Query.Discipline
import MaterialSearch.Proofs.Query.Pass
import MaterialSearch.Proofs.Query.Responses

namespace MaterialSearch

open Numeric

namespace Search

/-! ## §1. A step that fails. -/

section Step

variable {t : Transport} {s : Search} {cause : QueryError}

/-- **A step that fails** did not learn the number of records, and the walk
is broken off; or it did not find its record, and goes on, unless the
program breaks off. -/
theorem next_failed (h : (s.next t).1 = some (.error cause)) :
    (s.length t).1 = .error cause ∧ (s.next t).2.query.cursor = s.query.cursor.halt
    ∨ ∃ N, (s.length t).1 = .ok N ∧ s.query.cursor.isExhausted N = false
      ∧ (s.Breaks t ∨ stepOver? s.query.pageSize (.error cause) s.query.cursor
        = some (s.next t).2.query.cursor) := by
  have hkept := persistent_keepsCursor.length t s
  rcases hlen : s.length t with ⟨total, s'⟩
  rw [hlen] at hkept
  cases total with
  | error e =>
      have hmax : s.query.cursor.isExhausted maxCount = false := by
        by_contra hmax
        rw [Bool.not_eq_false] at hmax
        rw [next_over hmax] at h
        exact absurd h (by simp)
      rw [next_of_length_error hlen hmax] at h ⊢
      injection h with h
      injection h with h
      subst h
      exact .inl ⟨rfl, congrArg Cursor.halt hkept.cursor_eq⟩
  | ok N =>
      cases hgoes : s.query.cursor.isExhausted N with
      | true =>
          rw [next_of_length_end hlen hgoes] at h
          exact absurd h (by simp)
      | false =>
          refine .inr ⟨N, rfl, hgoes, ?_⟩
          rcases (next_moves t s).2 with ⟨hnone, -⟩ | ⟨⟨e, he⟩, -⟩ | ⟨hover, -⟩
            | ⟨outcome, hitem, hstep⟩
          · rw [hnone] at h
            exact absurd h (by simp)
          · rw [hlen] at he
            exact absurd he (by simp)
          · exact .inl (next_eq_overflow_iff.mp hover)
          · rw [h] at hitem
            rw [← Option.some.inj hitem] at hstep
            exact .inr hstep

/-- **A record that is not found lies behind the cursor** afterwards, whether
its page could not be had or the record was missing from it. -/
theorem stepOver?_forward {c c' : Cursor} {k N : UInt64} {outcome : Except QueryError Entry}
    (hk : 0 < k.toNat) (hstep : 0 < c.step.toNat) (hgoes : c.isExhausted N = false)
    (h : stepOver? k outcome c = some c') :
    ∃ position, c.position < position ∧ c' = { c with position := position } := by
  have hposition := Cursor.position_lt hgoes
  have hword := N.toNat_lt
  exact ⟨c'.position, lt_stepOver? hstep hk (by omega) h, stepOver?_eq h⟩

end Step

/-! ## §2. A failed action on one query. -/

/-- **What a failed action left out**: the response to its last request could
not be taken up, or the page handed in could not be stored. -/
def Spoilt (t : Transport) (book : Matchbook) (a : Action) (ps : List Int64) (s : Search)
    (e : FetchError) : Prop :=
  (∃ before p, ps = before ++ [p]
      ∧ t.uptake s.query.config book (t.absorbAll s.query.config book before s.held) p = .error e)
    ∨ ∃ p body, a = .insertPage p body ∧ ps = []
      ∧ s.cache.store p body (s.query.config.address book p) = .error e

/-- **What a failed action leaves behind.** -/
structure Aftermath (t : Transport) (a : Action) (cause : QueryError) (s s' : Search) : Prop where
  config_eq : s'.query.config = s.query.config
  /-- Terms that cannot be written down are the cause, and stay as they were;
  nothing is requested or stored. -/
  unwritten : ∀ e, s.query.matchbook = .error e →
    cause = .predicate e ∧ s'.query.stage = s.query.stage ∧ s'.held = s.held
  /-- Other terms are as they were, or written down. -/
  written : ∀ book, s.query.matchbook = .ok book →
    s'.query.stage = s.query.stage ∨ s'.query.stage = .final book
  /-- The store has what the requests of this action have brought, and
  nothing of what was left out. -/
  received : ∀ book, s.query.matchbook = .ok book →
    ∃ ps, t.Brought s.query.config book ps s.held s'.held
      ∧ ∀ e, cause = .fetch e → s.Spoilt t book a ps e
  /-- The cursor is where it was, unless the action was a step. -/
  cursor_eq : a ≠ .next → s'.query.cursor = s.query.cursor
  /-- A step without the number of records is broken off. -/
  halted : a = .next → ∀ e, (s.length t).1 = .error e → s'.query.cursor = s.query.cursor.halt
  /-- A step that knows the number of records goes on, and does nothing else. -/
  forward : a = .next → ∀ N, (s.length t).1 = .ok N → N.toNat < 2 ^ 63 →
    ∃ position, s.query.cursor.position < position
      ∧ s'.query.cursor = { s.query.cursor with position := position }

section Perform

variable {t : Transport} {s s' : Search} {a : Action} {cause : QueryError} {book : Matchbook}

/-- An operation has brought what it has taken up. -/
theorem Spends.brought {Fails : FetchError → Prop} (h : s.Spends t book s' Fails)
    (hfails : ∀ e, cause = .fetch e → Fails e) :
    ∃ ps, t.Brought s.query.config book ps s.held s'.held
      ∧ ∀ e, cause = .fetch e → s.Spoilt t book a ps e := by
  obtain ⟨ps, hps, hlast⟩ := h
  refine ⟨ps, ?_, fun e he => .inl (hlast e (hfails e he))⟩
  rw [hps]
  exact Transport.brought_absorbAll t s.query.config book ps s.held

/-- **The aftermath of an action that is not a step**: it has to leave the
cursor alone, stop at once without a matchbook, and say what it has brought. -/
theorem aftermath_of_kept (hcursor : s.KeepsCursor s') (hterms : s.KeepsTerms s') (ha : a ≠ .next)
    (hunwritten : ∀ e, s.query.matchbook = .error e → cause = .predicate e ∧ s' = s)
    (hreceived : ∀ book, s.query.matchbook = .ok book →
      ∃ ps, t.Brought s.query.config book ps s.held s'.held
        ∧ ∀ e, cause = .fetch e → s.Spoilt t book a ps e) :
    s.Aftermath t a cause s' where
  config_eq := hcursor.config_eq
  unwritten := by
    intro e he
    obtain ⟨hcause, hsame⟩ := hunwritten e he
    rw [hsame]
    exact ⟨hcause, rfl, rfl⟩
  written := fun book hbook => hterms.stage_eq hbook
  received := hreceived
  cursor_eq := fun _ => hcursor.cursor_eq
  halted := fun h => absurd h ha
  forward := fun h => absurd h ha

/-- **The aftermath of a reading operation** that is not a step. -/
theorem aftermath_of_read {α : Type} {r : Except QueryError α × Search} (hr : r.1 = .error cause)
    (hcursor : s.KeepsCursor r.2) (hterms : s.KeepsTerms r.2) (ha : a ≠ .next)
    (hunwritten : ∀ e, s.query.matchbook = .error e → r = (.error (.predicate e), s))
    (hspends : ∀ book, s.query.matchbook = .ok book →
      s.Spends t book r.2 fun e => r.1 = .error (.fetch e)) :
    s.Aftermath t a cause r.2 := by
  apply aftermath_of_kept hcursor hterms ha
  · intro e he
    have hsame := hunwritten e he
    rw [hsame] at hr ⊢
    injection hr with hr
    exact ⟨hr.symm, rfl⟩
  · intro book hbook
    apply (hspends book hbook).brought
    intro e he
    rw [hr, he]

/-- **The aftermath of a step.** -/
theorem aftermath_next (hstep : 0 < s.query.cursor.step.toNat)
    (h : (s.next t).1 = some (.error cause)) : s.Aftermath t .next cause (s.next t).2 where
  config_eq := (next_moves t s).1
  unwritten := by
    intro e he
    cases hmax : s.query.cursor.isExhausted maxCount with
    | true =>
        rw [next_over hmax] at h
        exact absurd h (by simp)
    | false =>
        rw [next_of_length_error (length_error he) hmax] at h ⊢
        injection h with h
        injection h with h
        exact ⟨h.symm, rfl, rfl⟩
  written := fun book hbook =>
    (persistent_keepsTerms.next (fun _ _ => .inl rfl) t s).stage_eq hbook
  received := by
    intro book hbook
    apply (spends_next hbook t).brought
    intro e he
    rw [h, he]
  cursor_eq := fun h => absurd rfl h
  halted := by
    intro _ e he
    rcases next_failed h with ⟨-, hcursor⟩ | ⟨N, hN, -⟩
    · exact hcursor
    · rw [hN] at he
      exact absurd he (by simp)
  forward := by
    intro _ N hN hsmall
    rcases next_failed h with ⟨he, -⟩ | ⟨M, hM, hgoes, hcursor⟩
    · rw [hN] at he
      exact absurd he (by simp)
    · rcases hcursor with hbreaks | hcursor
      · exact absurd hbreaks (not_breaks_of_lt hN hsmall)
      · exact stepOver?_forward s.query.pageSize_pos hstep hgoes hcursor

/-- A change that is refused leaves everything as it was. -/
theorem aftermath_edit {change : Edit} (h : (s.edit change).1 = .error cause) :
    s.Aftermath t (.edit change) cause (s.edit change).2 := by
  unfold edit at h ⊢
  cases hstage : s.query.stage with
  | collecting terms =>
      rw [hstage] at h
      exact absurd h (by simp)
  | final book =>
      rw [hstage] at h
      injection h with h
      apply aftermath_of_kept (.refl s) (.inl rfl) (by simp)
      · intro e he
        rw [Query.matchbook_of_final hstage] at he
        exact absurd he (by simp)
      · intro book' _
        refine ⟨[], Transport.brought_absorbAll t s.query.config book' [] s.held, ?_⟩
        intro e he
        rw [← h] at he
        exact absurd he (by simp)

theorem aftermath_insertPage {p : Int64} {body : Page}
    (h : (s.insertPage p body).1 = .error cause) :
    s.Aftermath t (.insertPage p body) cause (s.insertPage p body).2 := by
  apply aftermath_of_kept (persistent_keepsCursor.insertPage p body s)
    (persistent_keepsTerms.insertPage p body s) (by simp)
  · intro e he
    rw [insertPage_error he] at h ⊢
    injection h with h
    exact ⟨h.symm, rfl⟩
  · intro book hbook
    rw [insertPage_fixed hbook, insertPage_final stage_fixed] at h ⊢
    cases hstore : (s.fixed book).cache.store p body ((s.fixed book).query.urlFor book p) with
    | error e =>
        -- The page handed in does not tell a total that is still unknown.
        rw [storePage_error hstore] at h ⊢
        injection h with h
        refine ⟨[], Transport.brought_absorbAll t s.query.config book [] s.held, ?_⟩
        intro e' he'
        rw [← h] at he'
        injection he' with he'
        exact .inr ⟨p, body, rfl, rfl, he' ▸ hstore⟩
    | ok cache =>
        rw [storePage_ok hstore] at h
        exact absurd h (by simp)

/-- What fails for want of terms has no matchbook. -/
theorem aftermath_of_unwritten {α : Type} {r : Except QueryError α × Search}
    (hr : r.1 = .error cause) (ha : a ≠ .next)
    (hunwritten : ∀ e, s.query.matchbook = .error e → r = (.error (.predicate e), s))
    (hwritten : ∀ book, s.query.matchbook = .ok book → ∃ x, r.1 = .ok x) :
    s.Aftermath t a cause r.2 := by
  cases hbook : s.query.matchbook with
  | error e =>
      have hsame := hunwritten e hbook
      rw [hsame] at hr ⊢
      injection hr with hr
      exact aftermath_of_kept (.refl s) (.inl rfl) ha
        (fun e' he' => ⟨by rw [← hr, Except.error.inj (hbook.symm.trans he')], rfl⟩)
        (fun book he' => absurd (hbook.symm.trans he') (by simp))
  | ok book =>
      obtain ⟨x, hx⟩ := hwritten book hbook
      rw [hx] at hr
      exact absurd hr (by simp)

/-- A result that is told as a failure is an error. -/
theorem error_of_failed {α : Type} {answer : α → Outcome} {r : Except QueryError α}
    (hanswer : ∀ x, answer x ≠ .failed cause) (h : Outcome.ofResult answer r = .failed cause) :
    r = .error cause := by
  cases r with
  | error e =>
      injection h with h
      rw [h]
  | ok x => exact absurd h (hanswer x)

theorem error_of_failed_next {r : Option (Except QueryError Entry)}
    (h : Outcome.ofNext r = .failed cause) : r = some (.error cause) := by
  cases r with
  | none => exact absurd h (by simp [Outcome.ofNext])
  | some answer =>
      cases answer with
      | ok entry => exact absurd h (by simp [Outcome.ofNext])
      | error e =>
          injection h with h
          rw [h]

/-- **A failed action** makes no copy, and leaves everything whole. -/
theorem perform_failed (hstep : 0 < s.query.cursor.step.toNat) (place : Nat)
    (h : (s.perform t place a).1 = .failed cause) :
    (s.perform t place a).2.2 = none ∧ s.Aftermath t a cause (s.perform t place a).2.1 := by
  cases a with
  | rewind => exact absurd h (by simp [perform])
  | edit change =>
      have hr : (s.edit change).1 = .error cause := error_of_failed (by simp) h
      exact ⟨rfl, aftermath_edit hr⟩
  | finalize =>
      have hr : s.finalize.1 = .error cause := error_of_failed (by simp) h
      refine ⟨rfl, aftermath_of_unwritten hr (by simp) (fun e he => finalize_error he) ?_⟩
      intro book hbook
      exact ⟨book, by rw [finalize_ok hbook]⟩
  | pageUrl p =>
      have hr : (s.pageUrl p).1 = .error cause := error_of_failed (by simp) h
      refine ⟨rfl, aftermath_of_unwritten hr (by simp) (fun e he => pageUrl_error he p) ?_⟩
      intro book hbook
      exact ⟨_, by rw [pageUrl_fixed hbook, pageUrl_final stage_fixed]⟩
  | fetchPage p =>
      have hr : (s.fetchPage t p).1 = .error cause := error_of_failed (by simp) h
      exact ⟨rfl, aftermath_of_read hr (persistent_keepsCursor.fetchPage t p s)
        (persistent_keepsTerms.fetchPage t p s) (by simp) (fun e he => fetchPage_error he p)
        (fun book hbook => spends_fetchPage hbook t p)⟩
  | insertPage p body =>
      have hr : (s.insertPage p body).1 = .error cause := error_of_failed (by simp) h
      exact ⟨rfl, aftermath_insertPage hr⟩
  | length =>
      have hr : (s.length t).1 = .error cause := error_of_failed (by simp) h
      exact ⟨rfl, aftermath_of_read hr (persistent_keepsCursor.length t s)
        (persistent_keepsTerms.length t s) (by simp) (fun e he => length_error he)
        (fun book hbook => spends_length hbook t)⟩
  | isEmpty =>
      have hr : (s.isEmpty t).1 = .error cause := error_of_failed (by simp) h
      exact ⟨rfl, aftermath_of_read hr (persistent_keepsCursor.isEmpty t s)
        (persistent_keepsTerms.isEmpty t s) (by simp) (fun e he => isEmpty_error he)
        (fun book hbook => spends_isEmpty hbook t)⟩
  | next => exact ⟨rfl, aftermath_next hstep (error_of_failed_next h)⟩
  | get index =>
      have hr : (s.get t index).1 = .error cause := error_of_failed (by simp) h
      exact ⟨rfl, aftermath_of_read hr (keepsCursor_get t index s) (keepsTerms_get t index s)
        (by simp) (fun e he => get_error he index) (fun book hbook => spends_get hbook t index)⟩
  | slice lower upper step =>
      have hr : (s.slice lower upper step).1 = .error cause := error_of_failed (by simp) h
      refine ⟨?_, aftermath_of_unwritten hr (by simp) (fun e he => fork_error he _) ?_⟩
      · show (s.slice lower upper step).1.toOption = none
        rw [hr]
        rfl
      · intro book hbook
        exact ⟨_, by rw [show s.slice lower upper step = _ from fork_ok hbook _]⟩

end Perform

end Search

/-! ## §3. A failed action in any run. -/

/-- **What a failed action leaves behind in any run** of a new query and its
copies, over any transport.  It was an action on the query at its place; all
other queries are as they were, and none is added.  Terms that could not be
written down are the same open terms as before.  The store has the pages and
the total that it had, and what the responses of this action have brought
that could be taken up, and the response for want of which it failed has
brought nothing.  The cursor is where it was; only a step may break its walk
off, if the number of records is not to be had, or else go forward. -/
theorem failed_leaves_whole (t : Transport) (config : Config) (acts : List (Nat × Action))
    (place : Nat) (a : Action) (cause : QueryError) (f' : Family)
    (hfail : ((Family.start config).run t acts).2.perform t place a = some (.failed cause, f')) :
    let f := ((Family.start config).run t acts).2
    ∃ q s', f.queries[place]? = some q ∧ f' = f.after place s' none
      ∧ Search.Aftermath t a cause ⟨q, f.cache, f.log⟩ s' := by
  intro f
  obtain ⟨q, hq, s', copy, hperform, hf'⟩ := perform_cases hfail
  have hstep := run_step_pos t config acts q (List.mem_of_getElem? hq)
  have houtcome : (Search.perform t f.queries.length ⟨q, f.cache, f.log⟩ a).1 = .failed cause := by
    rw [hperform]
  obtain ⟨hcopy, haftermath⟩ := Search.perform_failed hstep f.queries.length houtcome
  rw [hperform] at hcopy haftermath
  have hcopy : copy = none := hcopy
  rw [hcopy] at hf'
  exact ⟨q, s', hq, hf', haftermath⟩

/-- A step that is broken off, and a copy for the second record on. -/
def Sample.copiedAfterBreak : List (Nat × Action) :=
  [(0, .next), (0, .slice (.included 1) .unbounded 1)]

/-- The copy learns the number of records and receives both pages, of which
the second one does not have its record. -/
theorem failed_leaves_whole_missingRecord :
    let f := ((Family.start Sample.singles).run Sample.secondTry Sample.copiedAfterBreak).2
    ∃ f', f.perform Sample.secondTry 1 .next = some (.failed (.missingRecord "2 of 2" 2), f')
      ∧ f'.cursor? 0 = f.cursor? 0
      ∧ ∃ q s', f.queries[1]? = some q
        ∧ Search.Aftermath Sample.secondTry .next (.missingRecord "2 of 2" 2)
            ⟨q, f.cache, f.log⟩ s'
        ∧ q.cursor.position < s'.query.cursor.position := by
  intro f
  have hanswer : (f.perform Sample.secondTry 1 .next).map Prod.fst
      = some (.failed (.missingRecord "2 of 2" 2)) := by decide +kernel
  have hplaces : f.queries.length = 2 := by decide +kernel
  have hfirst : 0 < f.queries.length := by
    rw [hplaces]
    decide
  have htotal : (f.queries[1]?.map fun q =>
      (Search.length Sample.secondTry ⟨q, f.cache, f.log⟩).1) = some (.ok 2) := by decide +kernel
  obtain ⟨⟨outcome, f'⟩, hperform, houtcome⟩ := Option.map_eq_some_iff.mp hanswer
  have houtcome : outcome = .failed (.missingRecord "2 of 2" 2) := houtcome
  rw [houtcome] at hperform
  obtain ⟨q, s', hq, hf', haftermath⟩ := failed_leaves_whole Sample.secondTry Sample.singles
    Sample.copiedAfterBreak 1 .next _ f' hperform
  have hq : f.queries[1]? = some q := hq
  rw [hq] at htotal
  obtain ⟨position, hlt, hcursor⟩ := haftermath.forward rfl 2 (Option.some.inj htotal) (by decide)
  refine ⟨f', hperform, ?_, q, s', hq, haftermath, ?_⟩
  · rw [hf']
    exact cursor?_after_other (by decide) hfirst
  · rw [hcursor]
    exact hlt

end MaterialSearch
