/-
  MaterialSearch.Proofs.Query.Preloading
  ────────────────────────────────
  **PAGES STORED BEFORE THEY ARE NEEDED.**

  A page may be asked for by its number, or handed in, before any walk
  comes to it.  Over a steady transport whose pages all tell the same number
  of records this is not to be noticed: the number of records is the same
  whichever page told it first, a page is looked up as it would have been
  requested, and no cursor moves.  So a run with preloads and the run without
  them go through families that differ in store and log alone.

  Main definitions:
    * `Transport.Tells`  — all pages tell the same number of records
    * `Action.Preloads`  — an action that stores a page as the transport has it
    * `Family.Mirrors`   — two families with the same cursors

  Main results:
    * `perform_preload`  — a preload stores its page and moves no cursor
    * `Family.Mirrors.moved` — the same reading action in two such families
    * `history_preloads` — a run with preloads answers as the run without
    * `preloading_transparent` — **preloads are not noticed, and spare requests**
-/
import MaterialSearch.Proofs.Query.Independence
import MaterialSearch.Proofs.Query.Lifecycle

namespace MaterialSearch

/-! ## §1. Pages that tell the same. -/

/-- **All pages that the transport has tell the same number of records**,
and the first page is among them. -/
structure Transport.Tells (t : Transport) (q : Query) (book : Matchbook) (N : UInt64) : Prop where
  told : ∀ p body, t.pageFor q book p = .ok body → body.total (q.urlFor book p) = .ok N
  first : ∃ body, t.pageFor q book book.direction.sign = .ok body

/-- **A preload of a page**: it is asked for by its number, or handed in as
the transport has it. -/
inductive Action.Preloads (t : Transport) (q : Query) (book : Matchbook) (p : Int64) :
    Action → Prop
  | fetch : Preloads t q book p (.fetchPage p)
  | insert {body : Page} (h : t.pageFor q book p = .ok body) :
      Preloads t q book p (.insertPage p body)

section Stored

variable {t : Transport} {q : Query} {book : Matchbook} {N : UInt64} {p : Int64} {body : Page}
  {a : Action} {c : PageCache} {s : Search}

theorem Transport.Tells.totalOf_eq (h : t.Tells q book N) : t.totalOf q book = .ok N := by
  obtain ⟨body, hbody⟩ := h.first
  rw [Transport.totalOf_of_page hbody]
  exact h.told _ body hbody

theorem Action.Preloads.not_reading (h : a.Preloads t q book p) : a.isReading = false := by
  cases h <;> rfl

theorem Action.isFetch_of_reading (h : a.isReading = true) : a.isFetch = false := by
  cases a with
  | fetchPage p => exact absurd h (by simp [Action.isReading])
  | _ => rfl

/-- A store with one more page of the transport agrees with it. -/
theorem PageCache.Agrees.put (h : c.Agrees t q book) (hp : t.pageFor q book p = .ok body)
    (hN : t.totalOf q book = .ok N) :
    (PageCache.mk (Assoc.put p body c.pages) (some N)).Agrees t q book where
  stored := by
    intro p' body' hbody'
    obtain ⟨rfl, rfl⟩ | hbefore := PageCache.page?_put_cases hbody'
    · exact Transport.viewAt_of_page hp
    · exact h.stored p' body' hbefore
  total := by
    intro M hM
    injection hM with hM
    rw [← hM]
    exact hN

/-- **Any page of the transport can be stored**, and tells the number of
records that the first page would tell. -/
theorem storePage_told (htells : t.Tells q book N) (hs : s.Lined t q book)
    (hp : t.pageFor q book p = .ok body) :
    ∃ s', Search.storePage p body (s.query.urlFor book p) s = (.ok (), s')
      ∧ s'.Lined t q book ∧ s'.query = s.query ∧ s'.cache.contains p = true := by
  have hN := htells.totalOf_eq
  have hstore : s.cache.store p body (s.query.urlFor book p)
      = .ok ⟨Assoc.put p body s.cache.pages, some N⟩ := by
    cases hM : s.cache.total with
    | some M =>
        -- The number that is known is what the first page tells.
        have hsame := (hs.agrees.total M hM).symm.trans hN
        injection hsame with hsame
        rw [PageCache.store_known hM, hsame]
    | none =>
        -- No page was stored before, so that this one tells the number.
        rw [PageCache.store_unknown hM, hs.alike.urlFor_eq, htells.told p body hp]
        rfl
  exact ⟨_, Search.storePage_ok hstore, ⟨hs.alike, hs.agrees.put hp hN⟩, rfl,
    PageCache.contains_put.mpr (.inr rfl)⟩

/-- **A preload** leaves the query in line and its cursor where it is.  If
the transport has the page, it is stored. -/
theorem preload_lined (ht : t.Steady) (htells : t.Tells q book N) (hs : s.Lined t q book)
    (ha : a.Preloads t q book p) (place : Nat) :
    ∃ outcome s', s.perform t place a = (outcome, s', none) ∧ s'.Lined t q book
      ∧ s'.query.cursor = s.query.cursor
      ∧ ∀ body, t.pageFor q book p = .ok body →
          outcome = .done ∧ s'.cache.contains p = true := by
  have hw : (s.fixed book).Lined t q book := hs.fixed
  unfold Search.perform
  cases ha with
  | fetch =>
      simp only [Search.fetchPage_fixed hs.alike.matchbook_eq]
      have hanswer := answer_steady ht hw.alike p
      cases hpage : t.pageFor q book p with
      | error e =>
          rw [hpage] at hanswer
          simp only [Search.fetchPage_missed Search.stage_fixed hanswer]
          refine ⟨_, _, rfl, ⟨hw.alike, hw.agrees⟩, rfl, ?_⟩
          intro body hno
          exact absurd hno (by simp)
      | ok body =>
          rw [hpage] at hanswer
          obtain ⟨s', hstore, hs', hquery, hcontains⟩ :=
            storePage_told (s := (s.fixed book).asked book p) htells ⟨hw.alike, hw.agrees⟩ hpage
          have hfetch : (s.fixed book).fetchPage t p = (.ok (), s') := by
            rw [Search.fetchPage_answered Search.stage_fixed hanswer]
            exact hstore
          simp only [hfetch]
          refine ⟨_, s', rfl, hs', ?_, fun _ _ => ⟨rfl, hcontains⟩⟩
          rw [hquery]
          rfl
  | @insert body hpage =>
      simp only [Search.insertPage_fixed hs.alike.matchbook_eq,
        Search.insertPage_final Search.stage_fixed]
      obtain ⟨s', hstore, hs', hquery, hcontains⟩ := storePage_told htells hw hpage
      simp only [hstore]
      refine ⟨_, s', rfl, hs', ?_, fun _ _ => ⟨rfl, hcontains⟩⟩
      rw [hquery]
      rfl

end Stored

/-! ## §2. Families with the same cursors. -/

/-- **Two families with the same cursors**, both in line with the transport.
What they have stored and requested may differ. -/
structure Family.Mirrors (t : Transport) (q : Query) (book : Matchbook) (f g : Family) : Prop where
  left : f.Lined t q book
  right : g.Lined t q book
  cursor_eq : ∀ place, f.cursor? place = g.cursor? place

section Mirrored

variable {t : Transport} {q : Query} {book : Matchbook} {N : UInt64} {p : Int64} {a : Action}
  {f f' g g' : Family} {place : Nat} {c : Cursor} {outcome outcome' : Outcome}

theorem cursor?_eq_none_iff : f.cursor? place = none ↔ f.queries.length ≤ place := by
  unfold Family.cursor?
  rw [Option.map_eq_none_iff, List.getElem?_eq_none_iff]

theorem queries_of_cursor?_none (h : f.cursor? place = none) : f.queries[place]? = none :=
  List.getElem?_eq_none_iff.mpr (cursor?_eq_none_iff.mp h)

theorem Family.Mirrors.length_eq (h : f.Mirrors t q book g) :
    f.queries.length = g.queries.length := by
  apply Nat.le_antisymm
  · rw [← cursor?_eq_none_iff, h.cursor_eq, cursor?_eq_none_iff]
  · rw [← cursor?_eq_none_iff, ← h.cursor_eq, cursor?_eq_none_iff]

/-- **A preload in a family** is carried out, moves no cursor, and stores
the page that the transport has. -/
theorem perform_preload (ht : t.Steady) (htells : t.Tells q book N) (hf : f.Lined t q book)
    (ha : a.Preloads t q book p) (hc : f.cursor? place = some c) :
    ∃ outcome f', f.perform t place a = some (outcome, f') ∧ f'.Lined t q book
      ∧ (∀ n, f'.cursor? n = f.cursor? n)
      ∧ ∀ body, t.pageFor q book p = .ok body →
          outcome = .done ∧ f'.cache.contains p = true := by
  have hplace := lt_length_of_cursor? hc
  obtain ⟨q', hq', hcursor, hs⟩ := hf.lined_at hc
  obtain ⟨outcome, s', hperform, hs', hkept, hdone⟩ :=
    preload_lined ht htells hs ha f.queries.length
  rw [perform_eq hq', hperform]
  refine ⟨_, _, rfl, lined_after hf hs' (fun q'' hno => absurd hno (by simp)), ?_, hdone⟩
  intro n
  by_cases hn : n = place
  · rw [hn, cursor?_after_own hplace, hc, hkept, ← hcursor]
  · cases hfn : f.cursor? n with
    | some c' => rw [cursor?_after_other hn (lt_length_of_cursor? hfn), hfn]
    | none =>
        rw [cursor?_eq_none_iff, length_after]
        exact cursor?_eq_none_iff.mp hfn

/-- **An action of either kind**, a reading one or a preload, is carried out
and leaves the family in line. -/
theorem perform_either (ht : t.Steady) (htells : t.Tells q book N) (hf : f.Lined t q book)
    (ha : a.isReading = true ∨ ∃ p, a.Preloads t q book p) (hc : f.cursor? place = some c) :
    ∃ outcome f', f.perform t place a = some (outcome, f') ∧ f'.Lined t q book
      ∧ ∀ p, a.Preloads t q book p → ∀ body, t.pageFor q book p = .ok body →
          outcome = .done ∧ f'.cache.contains p = true := by
  rcases ha with ha | ⟨p', ha⟩
  · obtain ⟨outcome, f', hperform, hmoved⟩ := perform_moved ht hf ha hc
    refine ⟨outcome, f', hperform, hmoved.lined, fun p hno => ?_⟩
    rw [hno.not_reading] at ha
    exact absurd ha (by decide)
  · obtain ⟨outcome, f', hperform, hlined, -, hdone⟩ := perform_preload ht htells hf ha hc
    refine ⟨outcome, f', hperform, hlined, fun p hp => ?_⟩
    -- An action preloads one page only.
    have hsame : p = p' := by cases hp <;> cases ha <;> rfl
    rw [hsame]
    exact hdone

theorem ofResult_ne_copied {α : Type} {answer : α → Outcome} {n : Nat}
    (h : ∀ x, answer x ≠ .copied n) (r : Except QueryError α) :
    Outcome.ofResult answer r ≠ .copied n := by
  cases r with
  | error e => exact fun heq => Outcome.noConfusion heq
  | ok x => exact h x

theorem ofNext_ne_copied {n : Nat} (r : Option (Except QueryError Entry)) :
    Outcome.ofNext r ≠ .copied n := by
  cases r with
  | none => exact fun heq => Outcome.noConfusion heq
  | some answer => cases answer <;> exact fun heq => Outcome.noConfusion heq

/-- Only making a copy is answered by a place. -/
theorem reply_ne_copied (hslice : ∀ lower upper step, a ≠ .slice lower upper step) (n : Nat) :
    (t.reply q book c a).1 ≠ .copied n := by
  cases a with
  | slice lower upper step => exact absurd rfl (hslice lower upper step)
  | length => exact ofResult_ne_copied (fun _ heq => Outcome.noConfusion heq) _
  | isEmpty => exact ofResult_ne_copied (fun _ heq => Outcome.noConfusion heq) _
  | get index => exact ofResult_ne_copied (fun _ heq => Outcome.noConfusion heq) _
  | next => exact ofNext_ne_copied _
  | _ => exact fun heq => Outcome.noConfusion heq

/-- The answer to an action that makes no copy is the reply itself. -/
theorem Family.Moved.outcome_eq (h : f.Moved t q book place c a outcome f')
    (hslice : ∀ lower upper step, a ≠ .slice lower upper step) :
    outcome = (t.reply q book c a).1 := by
  rw [← h.answer]
  cases outcome with
  | copied n => exact absurd h.answer.symm (reply_ne_copied hslice 0)
  | _ => rfl

/-- **The same reading action in two families with the same cursors** is
answered alike and leaves the same cursors. -/
theorem Family.Mirrors.moved (hm : f.Mirrors t q book g)
    (hf : f.Moved t q book place c a outcome f') (hg : g.Moved t q book place c a outcome' g') :
    outcome = outcome' ∧ f'.Mirrors t q book g' := by
  have hlen := hm.length_eq
  -- Cursors that there were already are settled by the move itself.
  have hold : ∀ n c', f.cursor? n = some c' → f'.cursor? n = g'.cursor? n := by
    intro n c' hn
    by_cases hplace : n = place
    · rw [hplace, hf.own, hg.own]
    · rw [hf.others n c' hplace hn, hg.others n c' hplace (by rw [← hm.cursor_eq, hn])]
  rcases hf.copies with ⟨hflen, hslice⟩ | ⟨lower, upper, step, ha, hfout, hflen, hfcopy⟩
  · rcases hg.copies with ⟨hglen, -⟩ | ⟨lower, upper, step, ha, -⟩
    · refine ⟨(hf.outcome_eq hslice).trans (hg.outcome_eq hslice).symm, hf.lined, hg.lined, ?_⟩
      intro n
      cases hn : f.cursor? n with
      | some c' => exact hold n c' hn
      | none =>
          have hle := cursor?_eq_none_iff.mp hn
          rw [cursor?_eq_none_iff.mpr (by omega), cursor?_eq_none_iff.mpr (by omega)]
    · exact absurd ha (hslice lower upper step)
  · rcases hg.copies with ⟨-, hslice⟩ | ⟨lower', upper', step', ha', hgout, hglen, hgcopy⟩
    · exact absurd ha (hslice lower upper step)
    · obtain ⟨rfl, rfl, rfl⟩ := Action.slice.inj (ha.symm.trans ha')
      refine ⟨by rw [hfout, hgout, hlen], hf.lined, hg.lined, ?_⟩
      intro n
      cases hn : f.cursor? n with
      | some c' => exact hold n c' hn
      | none =>
          have hle := cursor?_eq_none_iff.mp hn
          -- The first free place is that of the copy; beyond it there is none.
          by_cases hnew : n = f.queries.length
          · rw [hnew, hfcopy, hlen, hgcopy]
          · rw [cursor?_eq_none_iff.mpr (by omega), cursor?_eq_none_iff.mpr (by omega)]

end Mirrored

/-! ## §3. Runs with preloads. -/

section Runs

variable {t : Transport} {q : Query} {book : Matchbook} {N : UInt64}

/-- **A run with preloads answers as the run without them.** -/
theorem history_preloads (ht : t.Steady) (htells : t.Tells q book N)
    (acts : List (Nat × Action)) :
    ∀ f g : Family, f.Mirrors t q book g →
      (∀ act ∈ acts, act.2.isReading = true ∨ ∃ p, act.2.Preloads t q book p) →
      ((f.history t acts).1.filter fun e => e.action.isReading)
        = (g.history t (acts.filter fun act => act.2.isReading)).1 := by
  induction acts with
  | nil => intro f g _ _; rfl
  | cons act acts ih =>
      intro f g hm hacts
      obtain ⟨place, a⟩ := act
      have hrest : ∀ act ∈ acts, act.2.isReading = true ∨ ∃ p, act.2.Preloads t q book p :=
        fun act hact => hacts act (List.mem_cons_of_mem _ hact)
      cases hc : f.cursor? place with
      | none =>
          -- There is no query at this place in either family.
          have hgc : g.cursor? place = none := by rw [← hm.cursor_eq, hc]
          rw [history_skip (perform_missing (queries_of_cursor?_none hc) a), ih f g hm hrest,
            List.filter_cons]
          split
          · rw [history_skip (perform_missing (queries_of_cursor?_none hgc) a)]
          · rfl
      | some c =>
          have ha : a.isReading = true ∨ ∃ p, a.Preloads t q book p := hacts _ List.mem_cons_self
          rcases ha with ha | ⟨p, ha⟩
          · have hgc : g.cursor? place = some c := by rw [← hm.cursor_eq, hc]
            obtain ⟨outcome, f', hf, hfmoved⟩ := perform_moved ht hm.left ha hc
            obtain ⟨outcome', g', hg, hgmoved⟩ := perform_moved ht hm.right ha hgc
            obtain ⟨rfl, hm'⟩ := hm.moved hfmoved hgmoved
            rw [history_step hf]
            simp only [List.filter_cons, ha, if_true]
            rw [history_step hg, ih f' g' hm' hrest]
          · -- The other family does nothing, and the cursors are the same still.
            obtain ⟨outcome, f', hf, hlined, hcursors, -⟩ :=
              perform_preload ht htells hm.left ha hc
            have hm' : f'.Mirrors t q book g :=
              ⟨hlined, hm.right, fun n => (hcursors n).trans (hm.cursor_eq n)⟩
            rw [history_step hf]
            simp only [List.filter_cons, ha.not_reading, Bool.false_eq_true, if_false]
            exact ih f' g hm' hrest

/-- **A page that was preloaded is stored** for the rest of the run. -/
theorem preloaded_stored (ht : t.Steady) (htells : t.Tells q book N)
    (acts : List (Nat × Action)) :
    ∀ f : Family, f.Lined t q book → f.Settled q.config book →
      (∀ act ∈ acts, act.2.isReading = true ∨ ∃ p, act.2.Preloads t q book p) →
      ∀ e ∈ (f.history t acts).1, ∀ p body, e.action.Preloads t q book p →
        t.pageFor q book p = .ok body →
        e.outcome = .done ∧ (f.history t acts).2.cache.contains p = true := by
  induction acts with
  | nil => intro f _ _ _ e he; exact absurd he List.not_mem_nil
  | cons act acts ih =>
      intro f hf hsettled hacts e he p body hp hbody
      obtain ⟨place, a⟩ := act
      have hrest : ∀ act ∈ acts, act.2.isReading = true ∨ ∃ p, act.2.Preloads t q book p :=
        fun act hact => hacts act (List.mem_cons_of_mem _ hact)
      cases hc : f.cursor? place with
      | none =>
          rw [history_skip (perform_missing (queries_of_cursor?_none hc) a)] at he ⊢
          exact ih f hf hsettled hrest e he p body hp hbody
      | some c =>
          have ha : a.isReading = true ∨ ∃ p, a.Preloads t q book p := hacts _ List.mem_cons_self
          obtain ⟨outcome, f', hperform, hlined, hdone⟩ := perform_either ht htells hf ha hc
          have hsettled' := (hsettled.perform hperform).1
          rw [history_step hperform] at he ⊢
          rcases List.mem_cons.mp he with rfl | he
          · -- It is stored at once, and later actions lose no page.
            obtain ⟨hout, hcontains⟩ := hdone p hp body hbody
            have hgrows := (settled_run t acts hsettled').2.1.contains p hcontains
            rw [run_eq_history] at hgrows
            exact ⟨hout, hgrows⟩
          · exact ih f' hlined hsettled' hrest e he p body hp hbody

end Runs

/-- **PRELOADS ARE NOT NOTICED, AND SPARE REQUESTS.**  Over a steady
transport that has the first page and whose pages all tell the same number
of records, take any run of a family whose terms are written down and whose
store agrees with the transport, such as a fresh query.  The run may ask for
pages by their numbers and hand in pages as the transport has them, at any
moment and at any place.

  * Without these preloads all other actions are carried out just the same,
    with the same answers.
  * A preload of a page that the transport has succeeds, and no later action
    other than another preload requests this page. -/
theorem preloading_transparent (t : Transport) (q : Query) (book : Matchbook) (N : UInt64)
    (f : Family) (acts : List (Nat × Action)) (ht : t.Steady) (htells : t.Tells q book N)
    (hlined : f.Lined t q book) (hsettled : f.Settled q.config book)
    (hacts : ∀ act ∈ acts, act.2.isReading = true ∨ ∃ p, act.2.Preloads t q book p) :
    ((f.history t acts).1.filter fun e => e.action.isReading)
        = (f.history t (acts.filter fun act => act.2.isReading)).1
      ∧ ∀ before place a after outcome f', acts = before ++ (place, a) :: after →
          a.isReading = true → (f.history t before).2.perform t place a = some (outcome, f') →
          ∀ e ∈ (f.history t before).1, ∀ p body, e.action.Preloads t q book p →
            t.pageFor q book p = .ok body →
            e.outcome = .done
              ∧ ∃ urls, f'.log = (f.history t before).2.log ++ urls ∧ q.urlFor book p ∉ urls := by
  refine ⟨history_preloads ht htells acts f f ⟨hlined, hlined, fun _ => rfl⟩ hacts, ?_⟩
  intro before place a after outcome f' hsplit ha hperform e he p body hp hbody
  have hbefore : ∀ act ∈ before, act.2.isReading = true ∨ ∃ p, act.2.Preloads t q book p := by
    intro act hact
    apply hacts act
    rw [hsplit]
    exact List.mem_append_left _ hact
  obtain ⟨hdone, hcontains⟩ :=
    preloaded_stored ht htells before f hlined hsettled hbefore e he p body hp hbody
  have hsettled' := (settled_run t before hsettled).1
  rw [run_eq_history] at hsettled'
  exact ⟨hdone, (perform_settled hsettled' (Action.isFetch_of_reading ha) hperform).2.never_again
    hcontains⟩

/-- A transport that has both of two records on every page. -/
def Sample.bothRecords : Transport :=
  ⟨fun _ _ => .ok "\x7b\"1 of 2\":\x7b\x7d,\"2 of 2\":\x7b\x7d\x7d"⟩

/-- The page that it has under every number. -/
def Sample.bothPage : Page := [("1 of 2", .obj []), ("2 of 2", .obj [])]

/-- A query for pages of one record, its terms written down. -/
def Sample.finalOneByOne : Query := Sample.oneByOne.fix ⟨none, .ascending, [], [], []⟩

/-- The second page is handed in before the walk begins, and the first one
asked for on a copy. -/
def Sample.secondHandedIn : List (Nat × Action) :=
  [(0, .insertPage 2 Sample.bothPage), (0, .slice .unbounded .unbounded 1), (1, .fetchPage 1),
    (0, .next), (0, .next), (1, .next)]

theorem Sample.read_both (url : String) :
    Page.read url "\x7b\"1 of 2\":\x7b\x7d,\"2 of 2\":\x7b\x7d\x7d" = .ok Sample.bothPage := by
  have hread : Json.read? "\x7b\"1 of 2\":\x7b\x7d,\"2 of 2\":\x7b\x7d\x7d"
      = some (.obj Sample.bothPage) := by decide +kernel
  unfold Page.read
  rw [hread]

theorem Sample.bothRecords_page (p : Int64) :
    Sample.bothRecords.pageFor Sample.finalOneByOne ⟨none, .ascending, [], [], []⟩ p
      = .ok Sample.bothPage := by
  unfold Transport.pageFor Sample.bothRecords Transport.pageOf
  dsimp only
  exact Sample.read_both _

theorem Sample.bothRecords_tells :
    Sample.bothRecords.Tells Sample.finalOneByOne ⟨none, .ascending, [], [], []⟩ 2 where
  told := by
    intro p body hbody
    rw [Sample.bothRecords_page] at hbody
    injection hbody with hbody
    have hdigits : (Page.totalDigits? Sample.bothPage).bind Text.readUInt64? = some 2 := by decide +kernel
    rw [← hbody]
    unfold Page.total Sample.bothPage
    dsimp only
    unfold Sample.bothPage at hdigits
    rw [hdigits]
  first := ⟨Sample.bothPage, Sample.bothRecords_page _⟩

/-- Both records are found as without the preloads, and the last step of the
first walk does not request the second page. -/
theorem preloading_transparent_secondHandedIn :
    let f := Family.alone Sample.finalOneByOne
    ((f.history Sample.bothRecords Sample.secondHandedIn).1.filter fun e => e.action.isReading)
        = (f.history Sample.bothRecords
            [(0, .slice .unbounded .unbounded 1), (0, .next), (0, .next), (1, .next)]).1
      ∧ ∃ outcome f' urls,
        (f.history Sample.bothRecords (Sample.secondHandedIn.take 4)).2.perform
            Sample.bothRecords 0 .next = some (outcome, f')
          ∧ f'.log = (f.history Sample.bothRecords (Sample.secondHandedIn.take 4)).2.log ++ urls
          ∧ Sample.finalOneByOne.urlFor ⟨none, .ascending, [], [], []⟩ 2 ∉ urls := by
  intro f
  have hsettled : f.Settled Sample.finalOneByOne.config ⟨none, .ascending, [], [], []⟩ := by
    refine ⟨?_, fun _ => rfl⟩
    intro q hq
    rw [List.mem_singleton.mp hq]
    exact ⟨rfl, rfl⟩
  have hacts : ∀ act ∈ Sample.secondHandedIn, act.2.isReading = true
      ∨ ∃ p, act.2.Preloads Sample.bothRecords Sample.finalOneByOne
          ⟨none, .ascending, [], [], []⟩ p := by
    intro act hact
    simp only [Sample.secondHandedIn, List.mem_cons, List.not_mem_nil, or_false] at hact
    rcases hact with rfl | rfl | rfl | rfl | rfl | rfl
    · exact .inr ⟨2, .insert (Sample.bothRecords_page 2)⟩
    · exact .inl rfl
    · exact .inr ⟨1, .fetch⟩
    · exact .inl rfl
    · exact .inl rfl
    · exact .inl rfl
  obtain ⟨hsame, hspared⟩ := preloading_transparent Sample.bothRecords Sample.finalOneByOne
    ⟨none, .ascending, [], [], []⟩ 2 f Sample.secondHandedIn (fun _ _ _ => rfl)
    Sample.bothRecords_tells (Family.lined_alone rfl) hsettled hacts
  have hmem : ⟨0, .insertPage 2 Sample.bothPage, .done⟩
      ∈ (f.history Sample.bothRecords (Sample.secondHandedIn.take 4)).1 := by
    apply List.mem_of_mem_head?
    decide +kernel
  have hsome : ((f.history Sample.bothRecords (Sample.secondHandedIn.take 4)).2.perform
      Sample.bothRecords 0 .next).isSome = true := by decide +kernel
  obtain ⟨⟨outcome, f'⟩, hperform⟩ := Option.isSome_iff_exists.mp hsome
  obtain ⟨-, urls, hlog, hnot⟩ := hspared (Sample.secondHandedIn.take 4) 0 .next [(1, .next)]
    outcome f' rfl rfl hperform _ hmem 2 Sample.bothPage (.insert (Sample.bothRecords_page 2))
    (Sample.bothRecords_page 2)
  exact ⟨hsame, outcome, f', urls, hperform, hlog, hnot⟩

end MaterialSearch
