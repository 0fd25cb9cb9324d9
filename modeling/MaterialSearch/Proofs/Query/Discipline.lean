/-
  MaterialSearch.Proofs.Query.Discipline
  ────────────────────────────────
  **WHAT IS REQUESTED ALONG A RUN.**

  A query starts with an empty store, and nothing is stored or requested
  while its terms are collected.  Once they are written down they are the
  same for all copies, and a store that has pages knows the number of
  records.  This is kept by every action other than a page asked for by its
  number, so that every request of a run is a permitted one, whatever the
  transport answers.

  Main definitions:
    * `Search.Follows`, `Family.Follows` — what an action requests and stores
    * `Family.Settled`   — a family whose terms are written down
    * `Family.Coherent`  — what is true of a family all along

  Main results:
    * `perform_settled`, `perform_collecting`, `perform_open` — one action
    * `run_settled`, `run_coherent`     — a whole run
    * `requests_disciplined`            — the requests of every run
-/
import MaterialSearch.Proofs.Query.Fetches
import MaterialSearch.Proofs.Query.Runs
import MaterialSearch.Transport.Canned

namespace MaterialSearch

/-! ## §1. One action on a query whose terms are written down. -/

/-- Whether an action asks for a page by its number. -/
def Action.isFetch : Action → Bool
  | .fetchPage _ => true
  | _ => false

/-- **What an action does to store and log**: it makes permitted requests,
or it requests nothing and keeps what is stored. -/
inductive Search.Follows (t : Transport) (book : Matchbook) (s s' : Search) : Prop
  | reads (h : s.Reads t book s')
  | keeps (hquery : s'.query = s.query) (hlog : s'.log = s.log)
      (hstored : ∀ p, s.cache.contains p = true → s'.cache.contains p = true)
      (hsettled : s'.cache.Settled)

namespace Search

variable {t : Transport} {book : Matchbook} {s : Search}

/-- A page handed in is stored or refused, and nothing is requested. -/
theorem follows_insertPage (h : s.query.stage = .final book) (hs : s.cache.Settled) (p : Int64)
    (body : Page) : s.Follows t book (s.insertPage p body).2 := by
  rw [insertPage_final h]
  unfold storePage
  cases hstore : s.cache.store p body (s.query.urlFor book p) with
  | error e => exact .keeps rfl rfl (fun _ hp => hp) hs
  | ok c => exact .keeps rfl rfl (fun _ hp => contains_store hstore hp) (settled_store hstore)

/-- **Copies** have the terms that were written down. -/
theorem copies_final (h : s.query.stage = .final book) (place : Nat) (a : Action) :
    ∀ q ∈ (s.perform t place a).2.2, q.config = s.query.config ∧ q.stage = .final book := by
  cases a with
  | slice lower upper step =>
      have hcopy : s.slice lower upper step = _ := fork_ok (Query.matchbook_of_final h) _
      unfold perform
      simp only [hcopy]
      intro q hq
      injection hq with hq
      rw [← hq]
      exact ⟨rfl, rfl⟩
  | _ =>
      -- Nothing else makes a copy.
      intro q hq
      exact absurd hq (by simp [perform])

/-- **One action** once the terms are written down. -/
theorem perform_final (h : s.query.stage = .final book) (hs : s.cache.Settled) (place : Nat)
    {a : Action} (ha : a.isFetch = false) : s.Follows t book (s.perform t place a).2.1 := by
  cases a with
  | fetchPage p => exact absurd ha (by simp [Action.isFetch])
  | edit change =>
      refine .reads ?_
      show s.Reads t book (s.edit change).2
      unfold edit
      rw [h]
      exact Reads.refl h
  | finalize =>
      refine .reads ?_
      show s.Reads t book s.finalize.2
      rw [finalize_final h]
      exact Reads.refl h
  | pageUrl p =>
      refine .reads ?_
      show s.Reads t book (s.pageUrl p).2
      rw [pageUrl_final h]
      exact Reads.refl h
  | insertPage p body => exact follows_insertPage h hs p body
  | length => exact .reads (reads_length h hs).1
  | isEmpty => exact .reads (reads_isEmpty h hs)
  | next => exact .reads (reads_next h hs)
  | get index => exact .reads (reads_get h hs index)
  | rewind => exact .reads ((Reads.refl h).moveCursor _)
  | slice lower upper step =>
      have hcopy : s.slice lower upper step = _ := fork_ok (Query.matchbook_of_final h) _
      unfold perform
      simp only [hcopy]
      refine .reads ?_
      rw [fixed_eq_self h]
      exact Reads.refl h

end Search

/-! ## §2. One action in a family whose terms are written down. -/

/-- **A family whose terms are written down**, the same for all. -/
structure Family.Settled (config : Config) (book : Matchbook) (f : Family) : Prop where
  queries : ∀ q ∈ f.queries, q.config = config ∧ q.stage = .final book
  cache : f.cache.Settled

/-- What an action in a family requests and stores. -/
def Family.Follows (t : Transport) (config : Config) (book : Matchbook) (f f' : Family) : Prop :=
  (f'.log = f.log ∧ ∀ p, f.cache.contains p = true → f'.cache.contains p = true)
    ∨ Fetches t config book f.cache f.log f'.cache f'.log

section Settled

variable {t : Transport} {config : Config} {book : Matchbook} {f f' f'' : Family} {place : Nat}
  {a : Action} {outcome : Outcome}

/-- **One action** in a family whose terms are written down. -/
theorem perform_settled (hf : f.Settled config book) (ha : a.isFetch = false)
    (hperform : f.perform t place a = some (outcome, f')) :
    f'.Settled config book ∧ f.Follows t config book f' := by
  obtain ⟨q, hq, s', copy, hr, rfl⟩ := perform_cases hperform
  obtain ⟨hconfig, hstage⟩ := hf.queries q (List.mem_of_getElem? hq)
  have hfollows := Search.perform_final (t := t) (s := ⟨q, f.cache, f.log⟩)
    hstage hf.cache f.queries.length ha
  have hcopy := Search.copies_final (t := t) (s := ⟨q, f.cache, f.log⟩) hstage f.queries.length a
  rw [hr] at hfollows hcopy
  have hcopy : ∀ q' ∈ copy, q'.config = config ∧ q'.stage = .final book := by
    intro q' hq'
    rw [← hconfig]
    exact hcopy q' hq'
  cases hfollows with
  | reads h =>
      have hfetches : Fetches t q.config book f.cache f.log s'.cache s'.log := h.fetches
      rw [hconfig] at hfetches
      have hs' : s'.query.config = config ∧ s'.query.stage = .final book :=
        ⟨h.config_eq.trans hconfig, h.final⟩
      exact ⟨⟨forall_after hf.queries hs' hcopy, hfetches.settled hf.cache⟩, Or.inr hfetches⟩
  | keeps hquery hlog hstored hsettled =>
      have hs' : s'.query.config = config ∧ s'.query.stage = .final book := by
        rw [hquery]
        exact ⟨hconfig, hstage⟩
      exact ⟨⟨forall_after hf.queries hs' hcopy, hsettled⟩, Or.inl ⟨hlog, hstored⟩⟩

theorem Family.Follows.contains (h : f.Follows t config book f') {p : Int64}
    (hc : f.cache.contains p = true) : f'.cache.contains p = true := by
  rcases h with ⟨-, hstored⟩ | hfetches
  · exact hstored p hc
  · exact hfetches.contains hc

/-- A page that is stored is not requested by the next action. -/
theorem Family.Follows.never_again (h : f.Follows t config book f') {p : Int64}
    (hc : f.cache.contains p = true) :
    ∃ urls, f'.log = f.log ++ urls ∧ config.address book p ∉ urls := by
  rcases h with ⟨hlog, -⟩ | hfetches
  · exact ⟨[], by rw [hlog, List.append_nil], List.not_mem_nil⟩
  · exact hfetches.never_again hc

/-- **A whole run** of a family whose terms are written down never requests
a page that was stored at its beginning. -/
theorem run_settled (acts : List (Nat × Action)) :
    ∀ f : Family, f.Settled config book → (∀ act ∈ acts, act.2.isFetch = false) →
      (f.run t acts).2.Settled config book
        ∧ ∀ p, f.cache.contains p = true →
            ∃ urls, (f.run t acts).2.log = f.log ++ urls ∧ config.address book p ∉ urls := by
  induction acts with
  | nil =>
      intro f hf _
      exact ⟨hf, fun p _ => ⟨[], (List.append_nil _).symm, List.not_mem_nil⟩⟩
  | cons act acts ih =>
      intro f hf hacts
      obtain ⟨place, a⟩ := act
      have hrest : ∀ act ∈ acts, act.2.isFetch = false :=
        fun act hact => hacts act (List.mem_cons_of_mem _ hact)
      cases hperform : f.perform t place a with
      | none =>
          rw [run_skip hperform]
          exact ih f hf hrest
      | some found =>
          obtain ⟨outcome, f'⟩ := found
          obtain ⟨hf', hfollows⟩ := perform_settled hf (hacts _ List.mem_cons_self) hperform
          obtain ⟨hlast, hnever⟩ := ih f' hf' hrest
          rw [run_step hperform]
          refine ⟨hlast, ?_⟩
          intro p hc
          -- The page stays in the store, so that the rest does not request it either.
          obtain ⟨urls, hlog, hnot⟩ := hfollows.never_again hc
          obtain ⟨urls', hlog', hnot'⟩ := hnever p (hfollows.contains hc)
          refine ⟨urls ++ urls', ?_, ?_⟩
          · show (f'.run t acts).2.log = _
            rw [hlog', hlog, List.append_assoc]
          · intro hmem
            rcases List.mem_append.mp hmem with hmem | hmem
            · exact hnot hmem
            · exact hnot' hmem

end Settled

/-! ## §3. While the terms are collected. -/

/-- **A query that is still open**: alone, with nothing stored or requested. -/
structure Family.Open (config : Config) (f : Family) : Prop where
  alone : ∃ terms c, f.queries = [⟨config, .collecting terms, c⟩]
  cache : f.cache = .empty
  log : f.log = []

/-- **What is true of a family all along.** -/
inductive Family.Coherent (config : Config) (f : Family) : Prop
  | collecting (h : f.Open config)
  | settled (book : Matchbook) (h : f.Settled config book)

section Open

variable {t : Transport} {config : Config} {f f' : Family} {place : Nat} {a : Action}
  {outcome : Outcome} {s : Search}

/-- An action without a search term for every filter is refused; it may
move the cursor. -/
theorem perform_refused {cause : Predicate.PredicateError}
    (hbook : s.query.matchbook = .error cause) (place : Nat)
    (hedit : ∀ change, a ≠ .edit change) :
    ∃ outcome move, s.perform t place a = (outcome, s.moveCursor move, none) := by
  unfold Search.perform
  cases a with
  | edit change => exact absurd rfl (hedit change)
  | finalize =>
      simp only [Search.finalize_error hbook]
      exact ⟨_, id, rfl⟩
  | pageUrl p =>
      simp only [Search.pageUrl_error hbook]
      exact ⟨_, id, rfl⟩
  | fetchPage p =>
      simp only [Search.fetchPage_error hbook]
      exact ⟨_, id, rfl⟩
  | insertPage p body =>
      simp only [Search.insertPage_error hbook]
      exact ⟨_, id, rfl⟩
  | length =>
      simp only [Search.length_error hbook]
      exact ⟨_, id, rfl⟩
  | isEmpty =>
      simp only [Search.isEmpty_error hbook]
      exact ⟨_, id, rfl⟩
  | next =>
      cases hmax : s.query.cursor.isExhausted Numeric.maxCount with
      | true =>
          simp only [Search.next_over hmax]
          exact ⟨_, id, rfl⟩
      | false =>
          simp only [Search.next_of_length_error (Search.length_error hbook) hmax]
          exact ⟨_, Cursor.halt, rfl⟩
  | get index =>
      simp only [Search.get_error hbook]
      exact ⟨_, id, rfl⟩
  | slice lower upper step =>
      have hcopy : s.slice lower upper step = _ := Search.fork_error hbook _
      simp only [hcopy]
      exact ⟨_, id, rfl⟩
  | rewind => exact ⟨_, Cursor.rewind, rfl⟩

/-- An action with a matchbook writes the terms down first, unless it only
moves the cursor. -/
theorem perform_fixed {book : Matchbook} (hbook : s.query.matchbook = .ok book) (place : Nat)
    (hedit : ∀ change, a ≠ .edit change) :
    (∃ outcome move, s.perform t place a = (outcome, s.moveCursor move, none))
      ∨ s.perform t place a = (s.fixed book).perform t place a := by
  unfold Search.perform
  cases a with
  | edit change => exact absurd rfl (hedit change)
  | finalize =>
      right
      simp only [Search.finalize_fixed hbook]
  | pageUrl p =>
      right
      simp only [Search.pageUrl_fixed hbook]
  | fetchPage p =>
      right
      simp only [Search.fetchPage_fixed hbook]
  | insertPage p body =>
      right
      simp only [Search.insertPage_fixed hbook]
  | length =>
      right
      simp only [Search.length_fixed hbook]
  | isEmpty =>
      right
      simp only [Search.isEmpty_fixed hbook]
  | next =>
      cases hmax : s.query.cursor.isExhausted Numeric.maxCount with
      | true =>
          left
          simp only [Search.next_over hmax]
          exact ⟨_, id, rfl⟩
      | false =>
          right
          have hnext := Search.next_fixed (t := t) hbook
          rw [hmax] at hnext
          simp only [hnext, Bool.false_eq_true, if_false]
  | get index =>
      right
      simp only [Search.get_fixed hbook]
  | slice lower upper step =>
      right
      have hcopy : s.slice lower upper step = (s.fixed book).slice lower upper step :=
        Search.fork_fixed hbook _
      simp only [hcopy]
  | rewind => exact Or.inl ⟨_, Cursor.rewind, rfl⟩

/-- An action that only moves the cursor leaves the family open. -/
theorem open_of_moved {terms : Terms} {c : Cursor} {move : Cursor → Cursor}
    (hf : f.Open config) :
    (f.after 0 ((⟨⟨config, .collecting terms, c⟩, f.cache, f.log⟩ : Search).moveCursor move)
      none).Open config := by
  obtain ⟨⟨terms', c', hqueries⟩, hcache, hlog⟩ := hf
  refine ⟨⟨terms, move c, ?_⟩, hcache, hlog⟩
  unfold Family.after
  rw [hqueries]
  rfl

/-- The first action that writes the terms down is the same as one after
they were written down. -/
theorem perform_fixedFamily {q : Query} {book : Matchbook} (hqueries : f.queries = [q])
    (hfixed : Search.perform t f.queries.length ⟨q, f.cache, f.log⟩ a
      = Search.perform t f.queries.length ⟨q.fix book, f.cache, f.log⟩ a) :
    f.perform t 0 a = Family.perform t 0 a { f with queries := [q.fix book] } := by
  have hq : f.queries[0]? = some q := by
    rw [hqueries]
    rfl
  rw [perform_eq hq, perform_eq (f := { f with queries := [q.fix book] }) rfl, hfixed, hqueries]
  unfold Family.after
  rw [hqueries]
  rfl

/-- **One action** while the terms are collected: they still are, or the
action is one in the same family with its terms written down. -/
theorem perform_collecting (hf : f.Open config)
    (hperform : f.perform t place a = some (outcome, f')) :
    (f'.Open config ∧ f'.log = f.log)
      ∨ ∃ book queries, Family.Settled config book { f with queries := queries }
          ∧ Family.perform t place a { f with queries := queries } = some (outcome, f') := by
  obtain ⟨terms, c, hqueries⟩ := hf.alone
  have hplace : place = 0 := by
    cases place with
    | zero => rfl
    | succ n =>
        have hnone : f.queries[n + 1]? = none := by
          rw [hqueries]
          rfl
        rw [perform_missing hnone] at hperform
        exact absurd hperform (by simp)
  subst hplace
  have hq : f.queries[0]? = some ⟨config, .collecting terms, c⟩ := by
    rw [hqueries]
    rfl
  by_cases hedit : ∃ change, a = .edit change
  · -- The total is forgotten, but there is none.
    obtain ⟨change, rfl⟩ := hedit
    rw [perform_eq hq] at hperform
    injection hperform with hperform
    injection hperform with _ hfamily
    subst hfamily
    refine Or.inl ⟨⟨⟨terms.apply change, c, ?_⟩, ?_, hf.log⟩, rfl⟩
    · unfold Family.after
      rw [hqueries]
      rfl
    · show f.cache.forgetTotal = _
      rw [hf.cache]
      rfl
  · have hedit : ∀ change, a ≠ .edit change := by
      intro change heq
      exact hedit ⟨change, heq⟩
    have hmoved : (∃ outcome move, Search.perform t f.queries.length
        ⟨⟨config, .collecting terms, c⟩, f.cache, f.log⟩ a
          = (outcome, Search.moveCursor move ⟨⟨config, .collecting terms, c⟩, f.cache, f.log⟩,
              none)) → f'.Open config ∧ f'.log = f.log := by
      intro hmove
      obtain ⟨outcome', move, hmove⟩ := hmove
      rw [perform_eq hq, hmove] at hperform
      injection hperform with hperform
      injection hperform with _ hfamily
      subst hfamily
      exact ⟨open_of_moved hf, rfl⟩
    cases hbook : Query.matchbook ⟨config, .collecting terms, c⟩ with
    | error cause => exact Or.inl (hmoved (perform_refused hbook _ hedit))
    | ok book =>
        rcases perform_fixed (t := t) (s := ⟨⟨config, .collecting terms, c⟩, f.cache, f.log⟩)
          hbook f.queries.length hedit with hmove | hfixed
        · exact Or.inl (hmoved hmove)
        · -- The terms may as well have been written down before.
          rw [perform_fixedFamily hqueries hfixed] at hperform
          refine Or.inr ⟨book, [Query.fix ⟨config, .collecting terms, c⟩ book], ⟨?_, ?_⟩, hperform⟩
          · intro q hq
            rw [List.mem_singleton.mp hq]
            exact ⟨rfl, rfl⟩
          · show f.cache.Settled
            rw [hf.cache]
            exact fun _ => rfl

/-- What is requested meanwhile. -/
theorem perform_open (hf : f.Open config) (ha : a.isFetch = false)
    (hperform : f.perform t place a = some (outcome, f')) :
    (f'.Open config ∧ f'.log = f.log)
      ∨ ∃ book, f'.Settled config book ∧ f.Follows t config book f' := by
  rcases perform_collecting hf hperform with hopen | ⟨book, queries, hsettled, hperform⟩
  · exact Or.inl hopen
  · obtain ⟨hf', hfollows⟩ := perform_settled hsettled ha hperform
    exact Or.inr ⟨book, hf', hfollows⟩

/-- **One action** in a coherent family. -/
theorem perform_coherent (hf : f.Coherent config) (ha : a.isFetch = false)
    (hperform : f.perform t place a = some (outcome, f')) :
    f'.Coherent config
      ∧ (f'.log = f.log ∨ ∃ book, (∀ q ∈ f'.queries, q.config = config ∧ q.stage = .final book)
        ∧ Fetches t config book f.cache f.log f'.cache f'.log) := by
  have hrequests : ∀ book, f'.Settled config book → f.Follows t config book f' →
      f'.log = f.log ∨ ∃ book, (∀ q ∈ f'.queries, q.config = config ∧ q.stage = .final book)
        ∧ Fetches t config book f.cache f.log f'.cache f'.log := by
    intro book hf' hfollows
    rcases hfollows with ⟨hlog, -⟩ | hfetches
    · exact Or.inl hlog
    · exact Or.inr ⟨book, hf'.queries, hfetches⟩
  cases hf with
  | collecting hopen =>
      rcases perform_open hopen ha hperform with ⟨hopen', hlog⟩ | ⟨book, hf', hfollows⟩
      · exact ⟨.collecting hopen', Or.inl hlog⟩
      · exact ⟨.settled book hf', hrequests book hf' hfollows⟩
  | settled book hf =>
      obtain ⟨hf', hfollows⟩ := perform_settled hf ha hperform
      exact ⟨.settled book hf', hrequests book hf' hfollows⟩

/-- **A family stays coherent** in every run. -/
theorem run_coherent (acts : List (Nat × Action)) :
    ∀ f : Family, f.Coherent config → (∀ act ∈ acts, act.2.isFetch = false) →
      (f.run t acts).2.Coherent config := by
  apply run_invariant (P := fun f => f.Coherent config) (A := fun a => a.isFetch = false)
  intro f f' place a outcome hf ha hperform
  exact (perform_coherent hf ha hperform).1

theorem coherent_start (config : Config) : (Family.start config).Coherent config :=
  .collecting ⟨⟨.empty, Cursor.startingAt 0, rfl⟩, rfl, rfl⟩

end Open

/-! ## §4. Whole runs. -/

/-- **The requests of every run.**  In a run of a new query and its copies,
with any actions other than pages asked for by their numbers, and over a
transport that may answer anything, each action makes permitted requests
only, for pages of the terms that all the queries share; and a page that is
in the store at some time is never requested again. -/
theorem requests_disciplined (t : Transport) (config : Config) (acts : List (Nat × Action))
    (hacts : ∀ act ∈ acts, act.2.isFetch = false) :
    (∀ before place a after, acts = before ++ (place, a) :: after →
      let f := ((Family.start config).run t before).2
      let f' := ((Family.start config).run t (before ++ [(place, a)])).2
      f'.log = f.log ∨ ∃ book, (∀ q ∈ f'.queries, q.config = config ∧ q.stage = .final book)
        ∧ Fetches t config book f.cache f.log f'.cache f'.log)
    ∧ ∀ before after, acts = before ++ after →
      let f := ((Family.start config).run t before).2
      let last := ((Family.start config).run t acts).2
      ∀ p, f.cache.contains p = true →
        ∃ book urls, (∀ q ∈ f.queries ++ last.queries, q.config = config ∧ q.stage = .final book)
          ∧ last.log = f.log ++ urls ∧ config.address book p ∉ urls := by
  have hcoherent : ∀ before after, acts = before ++ after →
      ((Family.start config).run t before).2.Coherent config := by
    intro before after hsplit
    apply run_coherent before _ (coherent_start config)
    intro act hact
    exact hacts act (by rw [hsplit]; exact List.mem_append_left _ hact)
  constructor
  · intro before place a after hsplit f f'
    have hf : f.Coherent config := hcoherent before _ hsplit
    have ha : a.isFetch = false := hacts (place, a) (by rw [hsplit]; simp)
    have hlast : f' = (f.run t [(place, a)]).2 := run_append t before _ _
    cases hperform : f.perform t place a with
    | none =>
        rw [hlast, run_skip hperform]
        exact Or.inl rfl
    | some found =>
        obtain ⟨outcome, g⟩ := found
        rw [hlast, run_step hperform]
        exact (perform_coherent hf ha hperform).2
  · intro before after hsplit f last p hc
    have hlast : last = (f.run t after).2 := by
      show ((Family.start config).run t acts).2 = _
      rw [hsplit]
      exact run_append t before after _
    have hafter : ∀ act ∈ after, act.2.isFetch = false := by
      intro act hact
      exact hacts act (by rw [hsplit]; exact List.mem_append_right _ hact)
    cases hcoherent before after hsplit with
    | collecting hopen =>
        -- Nothing is stored while the query is open.
        have hnot := PageCache.not_contains_empty (show f.cache.pages = [] by rw [hopen.cache]; rfl) p
        rw [hc] at hnot
        exact absurd hnot (by decide)
    | settled book hf =>
        obtain ⟨hsettled, hnever⟩ := run_settled (t := t) after f hf hafter
        obtain ⟨urls, hlog, hnot⟩ := hnever p hc
        refine ⟨book, urls, ?_, ?_, hnot⟩
        · intro q hq
          rcases List.mem_append.mp hq with hq | hq
          · exact hf.queries q hq
          · rw [hlast] at hq
            exact hsettled.queries q hq
        · rw [hlast]
          exact hlog

/-- A transport that fails once and then has the first page for everything. -/
def Sample.secondTry : Transport where
  answer log url :=
    match log with
    | [] => .error (.transport url "connection reset")
    | _ => .ok "\x7b\"1 of 2\":\x7b\x7d\x7d"

/-- Pages of one record. -/
def Sample.singles : Config := { Config.standard with batchSize := 1 }

/-- A walk that is broken off and taken up again. -/
def Sample.brokenOff : List (Nat × Action) := [(0, .next), (0, .rewind), (0, .next)]

theorem requests_disciplined_secondTry :
    (∃ book, (∀ q ∈ ((Family.start Sample.singles).run Sample.secondTry Sample.brokenOff).2.queries,
        q.config = Sample.singles ∧ q.stage = .final book)
      ∧ Fetches Sample.secondTry Sample.singles book
          ((Family.start Sample.singles).run Sample.secondTry [(0, .next), (0, .rewind)]).2.cache
          ((Family.start Sample.singles).run Sample.secondTry [(0, .next), (0, .rewind)]).2.log
          ((Family.start Sample.singles).run Sample.secondTry Sample.brokenOff).2.cache
          ((Family.start Sample.singles).run Sample.secondTry Sample.brokenOff).2.log)
    ∧ ∃ book urls,
        ((Family.start Sample.singles).run Sample.secondTry
            (Sample.brokenOff ++ [(0, .next), (0, .get 0)])).2.log
          = ((Family.start Sample.singles).run Sample.secondTry Sample.brokenOff).2.log ++ urls
        ∧ Sample.singles.address book 1 ∉ urls := by
  obtain ⟨heach, hnever⟩ := requests_disciplined Sample.secondTry Sample.singles
    (Sample.brokenOff ++ [(0, .next), (0, .get 0)]) (by decide)
  constructor
  · rcases heach [(0, .next), (0, .rewind)] 0 .next [(0, .next), (0, .get 0)] rfl with hlog | hread
    · have hbefore : ((Family.start Sample.singles).run Sample.secondTry
          [(0, .next), (0, .rewind)]).2.log
          = ["http://aflowlib.duke.edu/search/API/?,paging(1,1)"] := by decide +kernel
      have hafter : ((Family.start Sample.singles).run Sample.secondTry
          ([(0, .next), (0, .rewind)] ++ [(0, .next)])).2.log
          = ["http://aflowlib.duke.edu/search/API/?,paging(1,1)",
              "http://aflowlib.duke.edu/search/API/?,paging(1,1)"] := by decide +kernel
      rw [hbefore, hafter] at hlog
      exact absurd hlog (by simp)
    · exact hread
  · have hstored : ((Family.start Sample.singles).run Sample.secondTry
        Sample.brokenOff).2.cache.contains 1 = true := by decide +kernel
    obtain ⟨book, urls, -, hlog, hnot⟩ := hnever Sample.brokenOff _ rfl 1 hstored
    exact ⟨book, urls, hlog, hnot⟩

end MaterialSearch
