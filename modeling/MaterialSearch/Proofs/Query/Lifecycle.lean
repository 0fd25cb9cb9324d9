/-
  MaterialSearch.Proofs.Query.Lifecycle
  ────────────────────────────────
  **THE LIFE OF A QUERY AND ITS COPIES.**

  A query begins open, with nothing stored, and alone.  Once its terms are
  written down it is never open again, and neither is any copy: they all
  have the same terms, the same direction and the same addresses of pages.
  The store only grows from then on, so that a number of records that was
  told once is told to all of them for good.  Every operation takes part,
  pages asked for by their numbers included, and nothing is assumed of the
  transport.

  Main definitions:
    * `PageCache.Grows` — a store that has lost nothing
    * `Search.Upholds`  — what was written down and stored is still there

  Main results:
    * `perform_upholds`   — one action on a query
    * `Family.Settled.perform`, `Family.Coherent.perform` — one action in a family
    * `settled_run`, `coherent_run` — whole runs
    * `lifecycle`         — what holds along every run
-/
import MaterialSearch.Proofs.Query.Discipline
import MaterialSearch.Proofs.Query.Persistence

namespace MaterialSearch

/-! ## §1. Stores that only grow. -/

/-- **A store that has lost nothing**: the pages it had are there, and so is
the number of records. -/
structure PageCache.Grows (c c' : PageCache) : Prop where
  contains : ∀ p, c.contains p = true → c'.contains p = true
  total : ∀ N, c.total = some N → c'.total = some N
  settled : c.Settled → c'.Settled

namespace PageCache

variable {c c' c'' : PageCache}

theorem Grows.refl (c : PageCache) : c.Grows c :=
  ⟨fun _ h => h, fun _ h => h, fun h => h⟩

theorem Grows.trans (h : c.Grows c') (h' : c'.Grows c'') : c.Grows c'' where
  contains p hp := h'.contains p (h.contains p hp)
  total N hN := h'.total N (h.total N hN)
  settled hc := h'.settled (h.settled hc)

/-- A page that is stored may replace another; it does not change a number
of records that is known. -/
theorem grows_store {p : Int64} {body : Page} {url : String}
    (hstore : c.store p body url = .ok c') : c.Grows c' where
  contains _ hp := contains_store hstore hp
  settled _ := settled_store hstore
  total := by
    intro N hN
    rw [store_known hN] at hstore
    injection hstore with hstore
    rw [← hstore]

end PageCache

/-! ## §2. One action on a query. -/

/-- **What was written down and stored is still there.** -/
structure Search.Upholds (s s' : Search) : Prop where
  config_eq : s'.query.config = s.query.config
  final : ∀ book, s.query.stage = .final book → s'.query.stage = .final book
  cache : s.cache.Grows s'.cache

namespace Search

variable {t : Transport} {s s' s'' : Search} {book : Matchbook}

theorem Upholds.refl (s : Search) : s.Upholds s := ⟨rfl, fun _ h => h, .refl s.cache⟩

theorem Upholds.trans (h : s.Upholds s') (h' : s'.Upholds s'') : s.Upholds s'' where
  config_eq := h'.config_eq.trans h.config_eq
  final b hb := h'.final b (h.final b hb)
  cache := h.cache.trans h'.cache

theorem upholds_moveCursor (s : Search) (move : Cursor → Cursor) :
    s.Upholds (s.moveCursor move) := ⟨rfl, fun _ h => h, .refl s.cache⟩

/-- **The parts of the operations uphold it**, and so do the operations that
are put together from them. -/
theorem persistent_upholds : Persistent Upholds where
  refl := Upholds.refl
  trans := Upholds.trans
  logged := fun s _ => ⟨rfl, fun _ h => h, .refl s.cache⟩
  finalize := by
    intro s
    cases hbook : s.query.matchbook with
    | error cause =>
        rw [finalize_error hbook]
        exact .refl s
    | ok book =>
        rw [finalize_ok hbook]
        refine ⟨rfl, ?_, .refl s.cache⟩
        intro b hb
        -- Terms that are written down are written down once more, as they are.
        have hsame := (Query.matchbook_of_final hb).symm.trans hbook
        injection hsame with hsame
        rw [hsame]
        rfl
  storePage := by
    intro p body url s
    unfold storePage
    cases hstore : s.cache.store p body url with
    | error e => exact .refl s
    | ok c => exact ⟨rfl, fun _ h => h, PageCache.grows_store hstore⟩

/-- An index is read by a copy at the same store. -/
theorem upholds_get (t : Transport) (index : UInt64) (h : s.query.stage = .final book) :
    s.Upholds (s.get t index).2 := by
  have hnext := persistent_upholds.next upholds_moveCursor t
    (s.copied book (Cursor.startingAt index))
  rw [get_ok (Query.matchbook_of_final h)]
  refine ⟨rfl, ?_, hnext.cache⟩
  intro b hb
  rw [h] at hb
  injection hb with hb
  rw [← hb]
  rfl

/-- **One action** once the terms are written down: they stay, and nothing
that is stored is lost.  A change of the terms is refused. -/
theorem perform_upholds (h : s.query.stage = .final book) (t : Transport) (place : Nat)
    (a : Action) : s.Upholds (s.perform t place a).2.1 := by
  cases a with
  | edit change =>
      show s.Upholds (s.edit change).2
      unfold edit
      rw [h]
      exact .refl s
  | finalize => exact persistent_upholds.finalize s
  | pageUrl p => exact persistent_upholds.pageUrl p s
  | fetchPage p => exact persistent_upholds.fetchPage t p s
  | insertPage p body => exact persistent_upholds.insertPage p body s
  | length => exact persistent_upholds.length t s
  | isEmpty => exact persistent_upholds.isEmpty t s
  | next => exact persistent_upholds.next upholds_moveCursor t s
  | get index => exact upholds_get t index h
  | slice lower upper step => exact persistent_upholds.fork _ s
  | rewind => exact upholds_moveCursor s _

/-- **A number of records that is told** was written into the store, by the
same call if not before. -/
theorem total_of_length {N : UInt64} (hs : s.cache.Settled) (hlen : (s.length t).1 = .ok N) :
    (s.length t).2.cache.total = some N := by
  cases hbook : s.query.matchbook with
  | error cause =>
      unfold length at hlen
      rw [finalize_error hbook] at hlen
      exact absurd hlen (by simp)
  | ok book =>
      rw [length_fixed hbook] at hlen ⊢
      exact (reads_length (s := s.fixed book) stage_fixed hs).2 N hlen

end Search

/-! ## §3. One action in a family. -/

section Family

variable {t : Transport} {config : Config} {book : Matchbook} {f f' : Family} {place : Nat}
  {a : Action} {outcome : Outcome}

/-- **One action** in a family whose terms are written down. -/
theorem Family.Settled.perform (hf : f.Settled config book)
    (hperform : f.perform t place a = some (outcome, f')) :
    f'.Settled config book ∧ f.cache.Grows f'.cache
      ∧ f.queries.length ≤ f'.queries.length := by
  obtain ⟨q, hq, s, copy, hr, rfl⟩ := perform_cases hperform
  obtain ⟨hconfig, hstage⟩ := hf.queries q (List.mem_of_getElem? hq)
  have hupholds := Search.perform_upholds (s := ⟨q, f.cache, f.log⟩) hstage t f.queries.length a
  have hcopies := Search.copies_final (t := t) (s := ⟨q, f.cache, f.log⟩) hstage
    f.queries.length a
  rw [hr] at hupholds hcopies
  refine ⟨⟨forall_after hf.queries ?_ ?_, hupholds.cache.settled hf.cache⟩, hupholds.cache, ?_⟩
  · exact ⟨hupholds.config_eq.trans hconfig, hupholds.final book hstage⟩
  · intro q' hq'
    rw [← hconfig]
    exact hcopies q' hq'
  · rw [length_after]
    omega

/-- **One action** at any time: a family that is open stays so, or its terms
are written down for good. -/
theorem Family.Coherent.perform (hf : f.Coherent config)
    (hperform : f.perform t place a = some (outcome, f')) :
    f'.Coherent config ∧ f.cache.Grows f'.cache := by
  cases hf with
  | settled book hf =>
      obtain ⟨hf', hgrows, -⟩ := hf.perform hperform
      exact ⟨.settled book hf', hgrows⟩
  | collecting hopen =>
      rcases perform_collecting hopen hperform with
        ⟨hopen', -⟩ | ⟨book, queries, hsettled, hperform⟩
      · refine ⟨.collecting hopen', ?_⟩
        rw [hopen.cache, hopen'.cache]
        exact .refl _
      · obtain ⟨hf', hgrows, -⟩ := hsettled.perform hperform
        exact ⟨.settled book hf', hgrows⟩

/-! ## §4. Whole runs. -/

/-- **The terms stay written down**, and the store loses nothing. -/
theorem settled_run (t : Transport) (acts : List (Nat × Action)) (hf : f.Settled config book) :
    (f.run t acts).2.Settled config book ∧ f.cache.Grows (f.run t acts).2.cache
      ∧ f.queries.length ≤ (f.run t acts).2.queries.length := by
  refine run_invariant (A := fun _ => True)
    (P := fun g => g.Settled config book ∧ f.cache.Grows g.cache
      ∧ f.queries.length ≤ g.queries.length) t ?_ acts f
    ⟨hf, .refl _, Nat.le_refl _⟩ (fun _ _ => trivial)
  intro g g' place a outcome hg _ hperform
  obtain ⟨hsettled, hgrows, hlength⟩ := hg
  obtain ⟨hsettled', hgrows', hlength'⟩ := hsettled.perform hperform
  exact ⟨hsettled', hgrows.trans hgrows', Nat.le_trans hlength hlength'⟩

/-- **A family is coherent all along**, and the store loses nothing. -/
theorem coherent_run (t : Transport) (acts : List (Nat × Action)) (hf : f.Coherent config) :
    (f.run t acts).2.Coherent config ∧ f.cache.Grows (f.run t acts).2.cache := by
  refine run_invariant (A := fun _ => True)
    (P := fun g => g.Coherent config ∧ f.cache.Grows g.cache) t ?_ acts f
    ⟨hf, .refl _⟩ (fun _ _ => trivial)
  intro g g' place a outcome hg _ hperform
  obtain ⟨hcoherent, hgrows⟩ := hg
  obtain ⟨hcoherent', hgrows'⟩ := hcoherent.perform hperform
  exact ⟨hcoherent', hgrows.trans hgrows'⟩

/-! ## §5. What the stages of a life are like. -/

/-- A store that has pages knows the number of records. -/
theorem Family.Coherent.settled_cache (hf : f.Coherent config) : f.cache.Settled := by
  cases hf with
  | settled b hf => exact hf.cache
  | collecting h =>
      rw [h.cache]
      exact fun _ => rfl

/-- **An open query** is alone and has nothing stored. -/
theorem Family.Coherent.open_alone {q : Query} (hf : f.Coherent config) (hq : q ∈ f.queries)
    (hopen : q.isFinal = false) :
    f.queries = [q] ∧ f.cache.pages = [] ∧ f.cache.total = none := by
  cases hf with
  | settled book hf =>
      have hfinal : q.isFinal = true := by
        unfold Query.isFinal
        rw [(hf.queries q hq).2]
      rw [hfinal] at hopen
      exact absurd hopen (by decide)
  | collecting h =>
      obtain ⟨terms, c, hqueries⟩ := h.alone
      rw [hqueries] at hq
      rw [List.mem_singleton.mp hq, hqueries, h.cache]
      exact ⟨rfl, rfl, rfl⟩

/-- A family with one query whose terms are written down is settled. -/
theorem Family.Coherent.settled_of_final {q : Query} (hf : f.Coherent config)
    (hq : q ∈ f.queries) (hstage : q.stage = .final book) : f.Settled config book := by
  cases hf with
  | settled b hf =>
      have hsame := (hf.queries q hq).2.symm.trans hstage
      injection hsame with hsame
      exact hsame ▸ hf
  | collecting h =>
      obtain ⟨terms, c, hqueries⟩ := h.alone
      rw [hqueries] at hq
      rw [List.mem_singleton.mp hq] at hstage
      exact absurd hstage (by simp)

/-- **A query whose terms are written down**: the terms, the direction and
the addresses of all pages are those of the family, and asking for them
changes nothing. -/
theorem Family.Settled.answers {q : Query} (hf : f.Settled config book)
    (hq : f.queries[place]? = some q) :
    q.stage = .final book ∧ q.direction = book.direction
      ∧ f.perform t place .finalize = some (.book book, f)
      ∧ ∀ p, f.perform t place (.pageUrl p) = some (.url (config.address book p), f) := by
  obtain ⟨hconfig, hstage⟩ := hf.queries q (List.mem_of_getElem? hq)
  refine ⟨hstage, Query.direction_eq (Query.matchbook_of_final hstage), ?_, ?_⟩
  · have hfix : Search.finalize ⟨q, f.cache, f.log⟩ = _ := Search.finalize_final hstage
    apply perform_unchanged hq
    simp only [Search.perform, hfix, Outcome.ofResult]
  · intro p
    have hurl : Search.pageUrl p ⟨q, f.cache, f.log⟩ = _ := Search.pageUrl_final hstage p
    apply perform_unchanged hq
    simp only [Search.perform, hurl, urlFor_eq_address, hconfig, Outcome.ofResult]

/-- **A change of terms that are written down** is refused and leaves
everything as it is. -/
theorem perform_edit_final {q : Query} (hq : f.queries[place]? = some q)
    (hstage : q.stage = .final book) (change : Edit) :
    f.perform t place (.edit change) = some (.failed (.finalized change.kind), f) := by
  apply perform_unchanged hq
  simp only [Search.perform, Search.edit, hstage, Outcome.ofResult]

/-- **A number of records that is known** is told without a request. -/
theorem Family.Settled.perform_length {q : Query} {N : UInt64} (hf : f.Settled config book)
    (hN : f.cache.total = some N) (hq : f.queries[place]? = some q) :
    f.perform t place .length = some (.count N, f) := by
  have hlen : Search.length t ⟨q, f.cache, f.log⟩ = _ :=
    Search.length_known (hf.queries q (List.mem_of_getElem? hq)).2 hN
  apply perform_unchanged hq
  simp only [Search.perform, hlen, Outcome.ofResult]

/-- **After a number of records was told** the terms are written down, and
the number is in the store. -/
theorem Family.Coherent.told {N : UInt64} (hf : f.Coherent config)
    (hperform : f.perform t place .length = some (.count N, f')) :
    ∃ book, f'.Settled config book ∧ f'.cache.total = some N := by
  have hsettled : f.cache.Settled := hf.settled_cache
  obtain ⟨hf', -⟩ := hf.perform hperform
  obtain ⟨q, hq, s, copy, hr, rfl⟩ := perform_cases hperform
  have hlength : Search.perform t f.queries.length ⟨q, f.cache, f.log⟩ .length
      = (.ofResult .count (Search.length t ⟨q, f.cache, f.log⟩).1,
          (Search.length t ⟨q, f.cache, f.log⟩).2, none) := rfl
  rw [hlength] at hr
  injection hr with houtcome hr
  injection hr with hs hcopy
  have hlen : (Search.length t ⟨q, f.cache, f.log⟩).1 = .ok N := by
    cases hanswer : (Search.length t ⟨q, f.cache, f.log⟩).1 with
    | error e =>
        rw [hanswer] at houtcome
        exact absurd houtcome (by simp [Outcome.ofResult])
    | ok M =>
        rw [hanswer] at houtcome
        injection houtcome with hM
        rw [hM]
  have htotal := Search.total_of_length (s := ⟨q, f.cache, f.log⟩) hsettled hlen
  rw [hs] at htotal
  cases hf' with
  | settled book hf' => exact ⟨book, hf', htotal⟩
  | collecting h =>
      -- An open query knows no number of records.
      have hnone : s.cache = .empty := h.cache
      rw [hnone] at htotal
      exact absurd htotal (by simp [PageCache.empty])

end Family

/-- **What holds along every run** of a query and its copies, at any moment
of it and at any later one, over any transport.  While the query is open it
is alone and nothing is stored.  Once its terms are written down they are so
for good, with the same direction and the same addresses for all copies; a
change of the terms is refused and leaves everything as it is.  A number of
records that was told is told from then on to all, without a request.  A
page that was stored stays stored. -/
theorem lifecycle (t : Transport) (config : Config) (before later : List (Nat × Action)) :
    let f := ((Family.start config).run t before).2
    let last := ((Family.start config).run t (before ++ later)).2
    (∀ q ∈ f.queries, q.isFinal = false →
      f.queries = [q] ∧ f.cache.pages = [] ∧ f.cache.total = none)
    ∧ (∀ q ∈ f.queries, ∀ book, q.stage = .final book →
      f.queries.length ≤ last.queries.length
      ∧ ∀ place q', last.queries[place]? = some q' →
        q'.stage = .final book ∧ q'.direction = book.direction
          ∧ last.perform t place .finalize = some (.book book, last)
          ∧ ∀ p, last.perform t place (.pageUrl p) = some (.url (config.address book p), last))
    ∧ (∀ place q book, f.queries[place]? = some q → q.stage = .final book →
      ∀ change, f.perform t place (.edit change) = some (.failed (.finalized change.kind), f))
    ∧ (∀ place N told, f.perform t place .length = some (.count N, told) →
      let after := (told.run t later).2
      ∀ place' < after.queries.length,
        after.perform t place' .length = some (.count N, after))
    ∧ ∀ p, f.cache.contains p = true → last.cache.contains p = true := by
  intro f last
  have hf : f.Coherent config := (coherent_run t before (coherent_start config)).1
  have hlast : last = (f.run t later).2 := run_append t before later _
  refine ⟨fun q hq hopen => hf.open_alone hq hopen, ?_, ?_, ?_, ?_⟩
  · intro q hq book hstage
    obtain ⟨hsettled, -, hlength⟩ := settled_run t later (hf.settled_of_final hq hstage)
    rw [← hlast] at hsettled hlength
    exact ⟨hlength, fun place q' hq' => hsettled.answers hq'⟩
  · intro place q book hq hstage change
    exact perform_edit_final hq hstage change
  · intro place N told htold after place' hplace'
    obtain ⟨book, hsettled, htotal⟩ := hf.told htold
    obtain ⟨hsettled', hgrows, -⟩ := settled_run t later hsettled
    exact hsettled'.perform_length (hgrows.total N htotal) (List.getElem?_eq_getElem hplace')
  · intro p hp
    rw [hlast]
    exact (coherent_run t later hf).2.contains p hp

/-- A query that learns the number of records at its second try, and a copy. -/
def Sample.copiedAfterTry : List (Nat × Action) :=
  [(0, .next), (0, .length), (0, .slice .unbounded .unbounded 1)]

/-- A page handed to the copy that tells another number of records, a change
that comes too late, and a step of the copy. -/
def Sample.retold : List (Nat × Action) :=
  [(1, .insertPage 1 [("1 of 7", .obj [])]), (0, .edit (.select [])), (1, .next)]

/-- The query and its copy, at first and in the end. -/
def Sample.copiedFamily : Family :=
  ((Family.start Sample.singles).run Sample.secondTry Sample.copiedAfterTry).2

def Sample.retoldFamily : Family :=
  ((Family.start Sample.singles).run Sample.secondTry (Sample.copiedAfterTry ++ Sample.retold)).2

theorem lifecycle_retold :
    (Query.ofConfig Sample.singles ∈ (Family.start Sample.singles).queries
      ∧ (Query.ofConfig Sample.singles).isFinal = false
      ∧ (Family.start Sample.singles).queries = [Query.ofConfig Sample.singles])
    ∧ (∃ q book, Sample.copiedFamily.queries[1]? = some q ∧ q.stage = .final book
      ∧ (∃ q', Sample.retoldFamily.queries[0]? = some q'
        ∧ Sample.retoldFamily.perform Sample.secondTry 0 .finalize
          = some (.book book, Sample.retoldFamily))
      ∧ Sample.copiedFamily.perform Sample.secondTry 1 (.edit (.select []))
        = some (.failed (.finalized .select), Sample.copiedFamily))
    ∧ (∃ told, Sample.copiedFamily.perform Sample.secondTry 0 .length = some (.count 2, told)
      ∧ 1 < (told.run Sample.secondTry Sample.retold).2.queries.length
      ∧ (told.run Sample.secondTry Sample.retold).2.perform Sample.secondTry 1 .length
        = some (.count 2, (told.run Sample.secondTry Sample.retold).2))
    ∧ Sample.copiedFamily.cache.contains 1 = true
    ∧ Sample.retoldFamily.cache.contains 1 = true := by
  have hcopy : Sample.copiedFamily.queries[1]? = some ⟨Sample.singles,
      .final ⟨none, .ascending, [], [], []⟩, Cursor.between 0 none 1⟩ := by decide +kernel
  have hpage : Sample.copiedFamily.cache.contains 1 = true := by decide +kernel
  have htotal : Sample.copiedFamily.cache.total = some 2 := by decide +kernel
  have hfirst : Sample.retoldFamily.queries[0]?.isSome = true := by decide +kernel
  have hplaces : Sample.retoldFamily.queries.length = 2 := by decide +kernel
  obtain ⟨q', hq'⟩ := Option.isSome_iff_exists.mp hfirst
  have hlast : Sample.retoldFamily = (Sample.copiedFamily.run Sample.secondTry Sample.retold).2 :=
    run_append Sample.secondTry Sample.copiedAfterTry Sample.retold (Family.start Sample.singles)
  have hsettled : Sample.copiedFamily.Settled Sample.singles ⟨none, .ascending, [], [], []⟩ :=
    (coherent_run _ _ (coherent_start _)).1.settled_of_final (List.mem_of_getElem? hcopy) rfl
  have hown : Sample.copiedFamily.queries[0]?.isSome = true := by decide +kernel
  obtain ⟨q, hq⟩ := Option.isSome_iff_exists.mp hown
  have hcount := hsettled.perform_length (t := Sample.secondTry) htotal hq
  obtain ⟨halone, -⟩ := lifecycle Sample.secondTry Sample.singles [] []
  obtain ⟨-, hfinal, hrefused, htold, hstored⟩ := lifecycle Sample.secondTry Sample.singles
    Sample.copiedAfterTry Sample.retold
  rw [← Sample.copiedFamily] at hfinal hrefused htold hstored
  rw [← Sample.retoldFamily] at hfinal hstored
  have hbegin : Query.ofConfig Sample.singles ∈ (Family.start Sample.singles).queries :=
    List.mem_singleton.mpr rfl
  have hmem := List.mem_of_getElem? hcopy
  obtain ⟨-, hanswers⟩ := hfinal _ hmem _ rfl
  obtain ⟨-, -, hsame, -⟩ := hanswers 0 q' hq'
  have hlate := hrefused 1 _ _ hcopy rfl (.select [])
  have hafter : 1 < (Sample.copiedFamily.run Sample.secondTry Sample.retold).2.queries.length := by
    rw [← hlast, hplaces]
    decide
  have hkept := hstored 1 hpage
  have hagain := htold 0 2 _ hcount 1 hafter
  constructor
  · exact ⟨hbegin, rfl, (halone _ hbegin rfl).1⟩
  constructor
  · exact ⟨_, _, hcopy, rfl, ⟨q', hq', hsame⟩, hlate⟩
  constructor
  · exact ⟨_, hcount, hafter, hagain⟩
  · exact ⟨hpage, hkept⟩

end MaterialSearch
