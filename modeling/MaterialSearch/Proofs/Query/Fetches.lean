/-
  MaterialSearch.Proofs.Query.Fetches
  ────────────────────────────────
  **THE REQUESTS OF ONE ACTION.**

  An action may request a page, store what arrives, and request another.
  Each request is judged by the store as it is at that moment: the page
  must be one that is not stored, and one that holds records as far as the
  store can tell.  Nothing is assumed of the transport, which may answer
  anything at any time.

  Main definitions:
    * `Config.address` — the address of a page
    * `Permitted`      — a page that may be requested at a store
    * `Fetches`        — permitted requests, one after the other
    * `Search.Reads`   — an operation that makes such requests only

  Main results:
    * `address_inj`         — addresses tell pages apart
    * `Fetches.never_again` — a page that is stored is not requested
    * `reads_length`, `reads_recordAt`, `reads_next`, `reads_get`
-/
import MaterialSearch.Proofs.Page.Numbering
import MaterialSearch.Proofs.Query.Served

namespace MaterialSearch

open Keyword Numeric

/-! ## §1. Addresses. -/

/-- The address of a page: the server, the terms, and the directives. -/
def Config.address (config : Config) (book : Matchbook) (p : Int64) : String :=
  config.server ++ book.text ++ "," ++ directives config.catalogs ⟨p, config.pageSize⟩

theorem urlFor_eq_address (q : Query) (book : Matchbook) (p : Int64) :
    q.urlFor book p = q.config.address book p := rfl

theorem text_paging_inj {p p' : Int64} {k : UInt64}
    (h : Paging.text ⟨p, k⟩ = Paging.text ⟨p', k⟩) : p = p' := by
  unfold Paging.text at h
  have h := (String.append_left_inj ")").mp h
  have h := (String.append_left_inj (toString k.toNat)).mp h
  have h := (String.append_left_inj ",").mp h
  have h : toString p.toInt = toString p'.toInt := (String.append_right_inj "paging(").mp h
  -- A number can be read back, so its text tells it.
  have hread : some p = some p' := by
    rw [← Text.readInt64?_toString p, ← Text.readInt64?_toString p', h]
  exact Option.some.inj hread

theorem directives_inj {catalogs : List String} {p p' : Int64} {k : UInt64}
    (h : directives catalogs ⟨p, k⟩ = directives catalogs ⟨p', k⟩) : p = p' := by
  unfold directives at h
  split at h
  · exact text_paging_inj h
  · exact text_paging_inj ((String.append_right_inj _).mp h)

/-- **Every page has an address of its own**, so that a request tells the
page that it asks for. -/
theorem address_inj {config : Config} {book : Matchbook} {p p' : Int64}
    (h : config.address book p = config.address book p') : p = p' :=
  directives_inj ((String.append_right_inj _).mp h)

/-! ## §2. Permitted requests. -/

/-- **A page that may be requested** in a direction, with pages of `k`
records and what is in the store.  Every request is for a page on the side
of the direction: as long as the number of records is unknown, for the
first; afterwards, for one of the pages that this number of records takes.
Totals of `2^63` and more have pages whose numbers are no longer words. -/
structure Permitted (d : Direction) (k : Nat) (c : PageCache) (p : Int64) : Prop where
  unknown : c.total = none → 0 < p.toInt * d.sign.toInt ∧ p.toInt.natAbs = 1
  known : ∀ N, c.total = some N → N.toNat < 2 ^ 63 →
    0 < p.toInt * d.sign.toInt ∧ 1 ≤ p.toInt.natAbs ∧ p.toInt.natAbs ≤ (N.toNat + k - 1) / k
  fresh : c.contains p = false

/-- **Permitted requests, one after the other**, from one store and log to
another.  What arrives is stored if it can be, before the next request. -/
inductive Fetches (t : Transport) (config : Config) (book : Matchbook) :
    PageCache → RequestLog → PageCache → RequestLog → Prop
  /-- No further request. -/
  | done {c : PageCache} {log : RequestLog} : Fetches t config book c log c log
  /-- Nothing arrives that can be stored. -/
  | missed {c c' : PageCache} {log log' : RequestLog} {p : Int64}
      (hp : Permitted book.direction config.pageSize.toNat c p)
      (hmiss : ∀ body c₁,
        Transport.pageOf (config.address book p) (t.answer log (config.address book p)) = .ok body →
        c.store p body (config.address book p) ≠ .ok c₁)
      (rest : Fetches t config book c (log ++ [config.address book p]) c' log') :
      Fetches t config book c log c' log'
  /-- A page arrives and is stored. -/
  | received {c c₁ c' : PageCache} {log log' : RequestLog} {p : Int64} {body : Page}
      (hp : Permitted book.direction config.pageSize.toNat c p)
      (hbody : Transport.pageOf (config.address book p) (t.answer log (config.address book p))
        = .ok body)
      (hstore : c.store p body (config.address book p) = .ok c₁)
      (rest : Fetches t config book c₁ (log ++ [config.address book p]) c' log') :
      Fetches t config book c log c' log'

/-- A store that has pages knows the number of records. -/
def PageCache.Settled (c : PageCache) : Prop := c.total = none → c.pages = []

section Fetches

variable {t : Transport} {config : Config} {book : Matchbook} {c c₁ c' c'' : PageCache}
  {log log' log'' : RequestLog} {p : Int64}

/-- **What the store is after a page was stored**: it has the page, and a
total that was known before or that the page has told. -/
theorem store_cases {body : Page} {url : String} (hstore : c.store p body url = .ok c₁) :
    ∃ N, c₁ = ⟨Assoc.put p body c.pages, some N⟩
      ∧ (c.total = some N ∨ c.total = none ∧ body.total url = .ok N) := by
  cases hN : c.total with
  | some N =>
      rw [PageCache.store_known hN] at hstore
      injection hstore with hstore
      exact ⟨N, hstore.symm, .inl rfl⟩
  | none =>
      rw [PageCache.store_unknown hN] at hstore
      cases htotal : body.total url with
      | error e =>
          rw [htotal] at hstore
          exact absurd hstore (by simp [Except.map])
      | ok N =>
          rw [htotal] at hstore
          injection hstore with hstore
          exact ⟨N, hstore.symm, .inr ⟨rfl, rfl⟩⟩

theorem store_eq {body : Page} {url : String} (hstore : c.store p body url = .ok c₁) :
    ∃ N, c₁ = ⟨Assoc.put p body c.pages, some N⟩ := by
  obtain ⟨N, heq, -⟩ := store_cases hstore
  exact ⟨N, heq⟩

/-- What is stored stays stored when a page is. -/
theorem contains_store {p' : Int64} {body : Page} {url : String}
    (hstore : c.store p body url = .ok c₁) (hc : c.contains p' = true) :
    c₁.contains p' = true := by
  obtain ⟨N, rfl⟩ := store_eq hstore
  exact PageCache.contains_put.mpr (Or.inl hc)

/-- After a page was stored the number of records is known. -/
theorem settled_store {body : Page} {url : String} (hstore : c.store p body url = .ok c₁) :
    c₁.Settled := by
  obtain ⟨N, rfl⟩ := store_eq hstore
  intro hno
  exact absurd hno (Option.some_ne_none N)

/-- A permitted request is not for a page that is stored. -/
theorem address_ne {p' : Int64} {d : Direction} {k : Nat} (hp : Permitted d k c p')
    (hc : c.contains p = true) : config.address book p ≠ config.address book p' := by
  intro heq
  have hfresh := hp.fresh
  rw [← address_inj heq, hc] at hfresh
  exact absurd hfresh (by decide)

theorem Fetches.trans (h : Fetches t config book c log c' log')
    (h' : Fetches t config book c' log' c'' log'') : Fetches t config book c log c'' log'' := by
  induction h with
  | done => exact h'
  | missed hp hmiss _ ih => exact .missed hp hmiss (ih h')
  | received hp hbody hstore _ ih => exact .received hp hbody hstore (ih h')

theorem Fetches.settled (h : Fetches t config book c log c' log') (hc : c.Settled) :
    c'.Settled := by
  induction h with
  | done => exact hc
  | missed _ _ _ ih => exact ih hc
  | received _ _ hstore _ ih => exact ih (settled_store hstore)

theorem Fetches.contains (h : Fetches t config book c log c' log') (hc : c.contains p = true) :
    c'.contains p = true := by
  induction h with
  | done => exact hc
  | missed _ _ _ ih => exact ih hc
  | received _ _ hstore _ ih => exact ih (contains_store hstore hc)

/-- The number of records, once it is known, stays the same. -/
theorem Fetches.total_eq (h : Fetches t config book c log c' log') {N : UInt64}
    (hN : c.total = some N) : c'.total = some N := by
  induction h with
  | done => exact hN
  | missed _ _ _ ih => exact ih hN
  | received _ _ hstore _ ih =>
      rw [PageCache.store_known hN] at hstore
      injection hstore with hstore
      apply ih
      rw [← hstore]

theorem not_requested_cons {requested url : String} (hne : url ≠ requested)
    (h : ∃ urls, log' = log ++ [requested] ++ urls ∧ url ∉ urls) :
    ∃ urls, log' = log ++ urls ∧ url ∉ urls := by
  obtain ⟨urls, hlog, hnot⟩ := h
  refine ⟨requested :: urls, ?_, List.not_mem_cons_of_ne_of_not_mem hne hnot⟩
  rw [hlog, List.append_assoc]
  rfl

/-- **A page that is stored is not requested.** -/
theorem Fetches.never_again (h : Fetches t config book c log c' log')
    (hc : c.contains p = true) :
    ∃ urls, log' = log ++ urls ∧ config.address book p ∉ urls := by
  induction h with
  | done => exact ⟨[], (List.append_nil _).symm, List.not_mem_nil⟩
  | missed hp _ _ ih => exact not_requested_cons (address_ne hp hc) (ih hc)
  | received hp _ hstore _ ih =>
      exact not_requested_cons (address_ne hp hc) (ih (contains_store hstore hc))

end Fetches

/-! ## §3. Which pages are permitted. -/

theorem sign_signed (d : Direction) : 0 < d.sign.toInt * d.sign.toInt := by
  cases d <;> decide

/-- The first page may be requested from an empty store. -/
theorem permitted_first (d : Direction) (k : Nat) {c : PageCache} (hc : c.Settled)
    (hN : c.total = none) : Permitted d k c d.sign where
  unknown := by
    intro _
    refine ⟨sign_signed d, ?_⟩
    rw [← page_one, page_natAbs d (by decide)]
  known := by
    intro N hsome
    rw [hN] at hsome
    exact absurd hsome (by simp)
  fresh := PageCache.not_contains_empty (hc hN) _

/-- The page of a record may be requested if it is not stored. -/
theorem permitted_located (d : Direction) {c : PageCache} {k position N : UInt64}
    (hk : 0 < k.toNat) (hN : c.total = some N) (hposition : position.toNat < N.toNat)
    (hfresh : c.contains (Slot.locate position k d).page = false) :
    Permitted d k.toNat c (Slot.locate position k d).page where
  unknown := by
    intro hnone
    rw [hN] at hnone
    exact absurd hnone (by simp)
  known := by
    intro N' hsome hsmall
    rw [hN] at hsome
    injection hsome with hsome
    subst hsome
    have hle : position.toNat / k.toNat ≤ position.toNat := Nat.div_le_self _ _
    -- The page of a position below the total is one of those that it takes.
    have hceil : position.toNat / k.toNat + 1 ≤ (N.toNat + k.toNat - 1) / k.toNat := by
      rw [← Nat.add_div_right _ hk]
      exact Nat.div_le_div_right (by omega)
    rw [locate_page d hk (by omega), page_natAbs d (by omega)]
    exact ⟨page_signed d (Nat.succ_pos _) (by omega), Nat.succ_pos _, hceil⟩
  fresh := hfresh

/-! ## §4. Operations. -/

namespace Search

/-- **An operation that makes permitted requests only**, on a query whose
terms are written down. -/
structure Reads (t : Transport) (book : Matchbook) (s s' : Search) : Prop where
  config_eq : s'.query.config = s.query.config
  final : s'.query.stage = .final book
  fetches : Fetches t s.query.config book s.cache s.log s'.cache s'.log

variable {t : Transport} {book : Matchbook} {s s' s'' : Search}

theorem Reads.refl (h : s.query.stage = .final book) : Reads t book s s := ⟨rfl, h, .done⟩

theorem Reads.trans (h : Reads t book s s') (h' : Reads t book s' s'') : Reads t book s s'' where
  config_eq := h'.config_eq.trans h.config_eq
  final := h'.final
  fetches := by
    have hrest := h'.fetches
    rw [h.config_eq] at hrest
    exact h.fetches.trans hrest

theorem Reads.moveCursor (h : Reads t book s s') (move : Cursor → Cursor) :
    Reads t book s (s'.moveCursor move) := ⟨h.config_eq, h.final, h.fetches⟩

/-- A request that is answered with an error. -/
theorem reads_asked {p : Int64} {e : FetchError} (h : s.query.stage = .final book)
    (hp : Permitted book.direction s.query.pageSize.toNat s.cache p)
    (hanswer : s.answer t book p = .error e) : Reads t book s (s.asked book p) where
  config_eq := rfl
  final := h
  fetches := by
    refine .missed hp ?_ .done
    intro body c₁ hbody
    exact absurd (hanswer.symm.trans hbody) (by simp)

/-- A request that is answered with a page which does not tell the number
of records, when that is not known yet. -/
theorem reads_untold {p : Int64} {body : Page} {e : FetchError} (h : s.query.stage = .final book)
    (hp : Permitted book.direction s.query.pageSize.toNat s.cache p)
    (hanswer : s.answer t book p = .ok body) (hN : s.cache.total = none)
    (huntold : body.total (s.query.urlFor book p) = .error e) :
    Reads t book s (s.asked book p) where
  config_eq := rfl
  final := h
  fetches := by
    refine .missed hp ?_ .done
    intro body' c₁ hbody hstore
    have hsame := hanswer.symm.trans hbody
    injection hsame with hsame
    subst hsame
    rw [PageCache.store_unknown hN, ← urlFor_eq_address, huntold] at hstore
    exact absurd hstore (by simp [Except.map])

/-- A request that is answered with a page which is stored. -/
theorem reads_received {p : Int64} {body : Page} {N : UInt64} (h : s.query.stage = .final book)
    (hp : Permitted book.direction s.query.pageSize.toNat s.cache p)
    (hanswer : s.answer t book p = .ok body)
    (hstore : s.cache.store p body (s.query.urlFor book p)
      = .ok ⟨Assoc.put p body s.cache.pages, some N⟩) :
    Reads t book s (s.received book p body N) where
  config_eq := rfl
  final := h
  fetches := .received hp hanswer hstore .done

/-- **The number of records** takes the first page at most. -/
theorem reads_length (h : s.query.stage = .final book) (hs : s.cache.Settled) :
    Reads t book s (s.length t).2
      ∧ ∀ N, (s.length t).1 = .ok N → (s.length t).2.cache.total = some N := by
  cases hN : s.cache.total with
  | some N =>
      rw [length_known h hN]
      refine ⟨Reads.refl h, ?_⟩
      intro N' hN'
      injection hN' with hN'
      rw [← hN']
      exact hN
  | none =>
      -- An unknown total means that nothing is stored, the first page included.
      have hp := permitted_first book.direction s.query.pageSize.toNat hs hN
      cases hanswer : s.answer t book book.direction.sign with
      | error e =>
          rw [length_unanswered h hN hanswer]
          refine ⟨reads_asked h hp hanswer, ?_⟩
          intro N hno
          exact absurd hno (by simp)
      | ok body =>
          cases htotal : body.total (s.query.urlFor book book.direction.sign) with
          | error e =>
              rw [length_untold h hN hanswer htotal]
              refine ⟨reads_untold h hp hanswer hN htotal, ?_⟩
              intro N hno
              exact absurd hno (by simp)
          | ok N =>
              rw [length_told h hN hanswer htotal]
              refine ⟨reads_received h hp hanswer ?_, ?_⟩
              · rw [PageCache.store_unknown hN, htotal]
                rfl
              · intro N' hN'
                injection hN' with hN'
                rw [← hN']
                rfl

/-- **A record** takes its page at most. -/
theorem reads_recordAt {N position : UInt64} (h : s.query.stage = .final book)
    (hN : s.cache.total = some N) (hposition : position.toNat < N.toNat) :
    Reads t book s (s.recordAt t position).2 := by
  have hdir : s.query.direction = book.direction :=
    Query.direction_eq (Query.matchbook_of_final h)
  cases hslot : Slot.locate? position s.query.pageSize s.query.direction with
  | none =>
      rw [recordAt_unlocated hslot]
      exact Reads.refl h
  | some slot =>
      cases hc : s.cache.contains slot.page with
      | true =>
          rw [recordAt_stored hslot hc]
          exact Reads.refl h
      | false =>
          have hp : Permitted book.direction s.query.pageSize.toNat s.cache slot.page := by
            rw [hdir] at hslot
            rw [eq_locate_of_locate? hslot] at hc ⊢
            exact permitted_located book.direction s.query.pageSize_pos hN hposition hc
          cases hanswer : s.answer t book slot.page with
          | error e =>
              rw [recordAt_missed h hslot hc hanswer]
              exact reads_asked h hp hanswer
          | ok body =>
              rw [recordAt_received h hN hslot hc hanswer]
              exact reads_received h hp hanswer (PageCache.store_known hN _ _ _)

theorem reads_next_known {N : UInt64} (h : s.query.stage = .final book)
    (hN : s.cache.total = some N) : Reads t book s (s.next t).2 := by
  rw [next_known h hN]
  cases hend : s.query.cursor.isExhausted N with
  | true => exact Reads.refl h
  | false =>
      have hreads := reads_recordAt (t := t) h hN (Cursor.position_lt hend)
      rcases hr : s.recordAt t s.query.cursor.position with ⟨outcome, s'⟩
      rw [hr] at hreads
      obtain ⟨c, hgo⟩ := snd_goOn outcome s'
      show Reads t book s (s'.goOn outcome).2
      rw [hgo]
      exact hreads.moveCursor fun _ => c

/-- **A step** takes the first page, if need be, and the page of its record. -/
theorem reads_next (h : s.query.stage = .final book) (hs : s.cache.Settled) :
    Reads t book s (s.next t).2 := by
  cases hmax : s.query.cursor.isExhausted maxCount with
  | true =>
      rw [next_over hmax]
      exact Reads.refl h
  | false =>
      obtain ⟨hreads, htotal⟩ := reads_length (t := t) h hs
      cases hlen : (s.length t).1 with
      | error e =>
          rw [next_of_length_error (Prod.ext hlen rfl) hmax]
          exact hreads.moveCursor _
      | ok N =>
          -- The page of the record is requested when the total is known.
          have hN := htotal N hlen
          rw [next_unknown (Prod.ext hlen rfl) hreads.final hN hmax]
          exact hreads.trans (reads_next_known hreads.final hN)

/-- **An index** is read by a copy, which requests as the query would. -/
theorem reads_get (h : s.query.stage = .final book) (hs : s.cache.Settled) (index : UInt64) :
    Reads t book s (s.get t index).2 := by
  have hcopy : Reads t book (s.copied book (Cursor.startingAt index)) _ := reads_next rfl hs
  rw [get_ok (Query.matchbook_of_final h)]
  exact ⟨rfl, rfl, hcopy.fetches⟩

theorem reads_isEmpty (h : s.query.stage = .final book) (hs : s.cache.Settled) :
    Reads t book s (s.isEmpty t).2 := by
  have hreads := (reads_length (t := t) h hs).1
  unfold isEmpty
  rcases hlen : s.length t with ⟨answer, s'⟩
  rw [hlen] at hreads
  cases answer with
  | error e => exact hreads
  | ok N => exact hreads

end Search

end MaterialSearch
