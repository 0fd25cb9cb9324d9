/-
  MaterialSearch.Proofs.Query.Responses
  ────────────────────────────────
  **WHAT AN OPERATION TAKES UP.**

  An operation may make several requests, one after the other.  A response
  is taken up whole, as a page put into the store, or it leaves the store as
  it was.  What an operation has done to the store is therefore told by the
  pages that it requested, whether it came to an end or failed on the way;
  and if it failed for want of a page, it was the last one.

  Main definitions:
    * `Transport.uptake`   — the store with one response in it
    * `Transport.absorb`, `Transport.absorbAll` — responses, one by one
    * `Transport.Brought`  — what the requests for some pages have brought
    * `Search.KeepsTerms`  — terms as they were, or written down
    * `Search.Spends`      — an operation that does nothing else to the store

  Main results:
    * `absorb_spoilt`, `absorb_taken` — one response
    * `page?_absorbAll`, `total_absorbAll` — where pages and totals come from
    * `persistent_keepsTerms` — the operations write the terms down at most
    * `spends_fetchPage`, `spends_length`, `spends_recordAt`, `spends_next`,
      `spends_get`         — what each operation takes up
-/
import MaterialSearch.Proofs.Query.Fetches
import MaterialSearch.Proofs.Query.Moves

namespace MaterialSearch

/-! ## §1. Responses taken up one after the other. -/

/-- What is shared at some moment: the pages received and the requests. -/
abbrev Holdings := PageCache × RequestLog

/-- The holdings of a query. -/
def Search.held (s : Search) : Holdings := (s.cache, s.log)

namespace Transport

/-- **The store with the response to a request in it**, or why it cannot be
there: it is no page, or it does not tell a total that is still unknown. -/
def uptake (t : Transport) (config : Config) (book : Matchbook) (held : Holdings) (p : Int64) :
    Except FetchError PageCache :=
  match pageOf (config.address book p) (t.answer held.2 (config.address book p)) with
  | .error e => .error e
  | .ok body => held.1.store p body (config.address book p)

/-- One request: it is logged, and the response is taken up if it can be. -/
def absorb (t : Transport) (config : Config) (book : Matchbook) (held : Holdings) (p : Int64) :
    Holdings :=
  match t.uptake config book held p with
  | .error _ => (held.1, held.2 ++ [config.address book p])
  | .ok cache => (cache, held.2 ++ [config.address book p])

/-- Requests one after the other. -/
def absorbAll (t : Transport) (config : Config) (book : Matchbook) (ps : List Int64)
    (held : Holdings) : Holdings :=
  ps.foldl (t.absorb config book) held

section Absorb

variable {t : Transport} {config : Config} {book : Matchbook} {held : Holdings} {p : Int64}
  {ps : List Int64}

/-- **A response that cannot be taken up** leaves the store as it was. -/
theorem absorb_spoilt {e : FetchError} (h : t.uptake config book held p = .error e) :
    t.absorb config book held p = (held.1, held.2 ++ [config.address book p]) := by
  unfold absorb
  rw [h]

theorem absorb_taken {cache : PageCache} (h : t.uptake config book held p = .ok cache) :
    t.absorb config book held p = (cache, held.2 ++ [config.address book p]) := by
  unfold absorb
  rw [h]

/-- **A response that is taken up** is a page, stored whole. -/
theorem page_of_uptake {cache : PageCache} (h : t.uptake config book held p = .ok cache) :
    ∃ body, pageOf (config.address book p) (t.answer held.2 (config.address book p)) = .ok body
      ∧ held.1.store p body (config.address book p) = .ok cache := by
  unfold uptake at h
  cases hbody : pageOf (config.address book p) (t.answer held.2 (config.address book p)) with
  | error e =>
      rw [hbody] at h
      exact absurd h (by simp)
  | ok body =>
      rw [hbody] at h
      exact ⟨body, rfl, h⟩

theorem absorbAll_append (ps qs : List Int64) (held : Holdings) :
    t.absorbAll config book (ps ++ qs) held
      = t.absorbAll config book qs (t.absorbAll config book ps held) :=
  List.foldl_append

/-- The requests are logged in their order. -/
theorem log_absorbAll (ps : List Int64) :
    ∀ held : Holdings, (t.absorbAll config book ps held).2
      = held.2 ++ ps.map (config.address book) := by
  induction ps with
  | nil => intro held; exact (List.append_nil _).symm
  | cons p ps ih =>
      intro held
      have hlog : (t.absorb config book held p).2 = held.2 ++ [config.address book p] := by
        unfold absorb
        cases t.uptake config book held p <;> rfl
      have hrest := ih (t.absorb config book held p)
      rw [hlog, List.append_assoc] at hrest
      exact hrest

/-- **Where a page comes from**: it was there before, or a response to a
request for it brought it. -/
theorem page?_absorbAll {body : Page} (ps : List Int64) :
    ∀ held : Holdings, (t.absorbAll config book ps held).1.page? p = some body →
      held.1.page? p = some body
        ∨ p ∈ ps ∧ ∃ log, pageOf (config.address book p) (t.answer log (config.address book p))
            = .ok body := by
  induction ps with
  | nil => intro held h; exact .inl h
  | cons p' ps ih =>
      intro held h
      rcases ih (t.absorb config book held p') h with hfirst | ⟨hmem, hlater⟩
      · cases huptake : t.uptake config book held p' with
        | error e =>
            rw [absorb_spoilt huptake] at hfirst
            exact .inl hfirst
        | ok cache =>
            rw [absorb_taken huptake] at hfirst
            obtain ⟨body', hbody', hstore⟩ := page_of_uptake huptake
            obtain ⟨N, rfl⟩ := store_eq hstore
            -- The first response put one page into the store, and no other.
            obtain ⟨rfl, rfl⟩ | hbefore := PageCache.page?_put_cases hfirst
            · exact .inr ⟨List.mem_cons_self, held.2, hbody'⟩
            · exact .inl hbefore
      · exact .inr ⟨List.mem_cons_of_mem _ hmem, hlater⟩

/-- **Where a total comes from**: it was known before, or a page that was
received told it. -/
theorem total_absorbAll {N : UInt64} (ps : List Int64) :
    ∀ held : Holdings, (t.absorbAll config book ps held).1.total = some N →
      held.1.total = some N
        ∨ ∃ p ∈ ps, ∃ log body,
            pageOf (config.address book p) (t.answer log (config.address book p)) = .ok body
              ∧ body.total (config.address book p) = .ok N := by
  induction ps with
  | nil => intro held h; exact .inl h
  | cons p ps ih =>
      intro held h
      rcases ih (t.absorb config book held p) h with hfirst | ⟨p', hmem, hlater⟩
      · cases huptake : t.uptake config book held p with
        | error e =>
            rw [absorb_spoilt huptake] at hfirst
            exact .inl hfirst
        | ok cache =>
            rw [absorb_taken huptake] at hfirst
            obtain ⟨body, hbody, hstore⟩ := page_of_uptake huptake
            obtain ⟨M, rfl, hknown | ⟨-, htold⟩⟩ := store_cases hstore
            · -- A total that is known is not looked at again.
              exact .inl (hknown.trans hfirst)
            · injection hfirst with hfirst
              exact .inr ⟨p, List.mem_cons_self, held.2, body, hbody, hfirst ▸ htold⟩
      · exact .inr ⟨p', List.mem_cons_of_mem _ hmem, hlater⟩

/-- Whatever comes, a page that is stored stays stored. -/
theorem contains_absorbAll (ps : List Int64) :
    ∀ held : Holdings, held.1.contains p = true →
      (t.absorbAll config book ps held).1.contains p = true := by
  induction ps with
  | nil => intro held h; exact h
  | cons p' ps ih =>
      intro held h
      apply ih (t.absorb config book held p')
      cases huptake : t.uptake config book held p' with
      | error e =>
          rw [absorb_spoilt huptake]
          exact h
      | ok cache =>
          obtain ⟨body, -, hstore⟩ := page_of_uptake huptake
          rw [absorb_taken huptake]
          exact contains_store hstore h

end Absorb

/-- **What requests have brought**: what was there, and their responses taken
up one after the other.  So a page that is new, or is another one now, came
with a response to a request for it, and a total that is new came with a
page that tells it. -/
structure Brought (t : Transport) (config : Config) (book : Matchbook) (ps : List Int64)
    (held held' : Holdings) : Prop where
  eq_absorbAll : held' = t.absorbAll config book ps held
  log : held'.2 = held.2 ++ ps.map (config.address book)
  kept : ∀ p, held.1.contains p = true → held'.1.contains p = true
  pages : ∀ p body, held'.1.page? p = some body → held.1.page? p = some body
    ∨ p ∈ ps ∧ ∃ log, pageOf (config.address book p) (t.answer log (config.address book p))
        = .ok body
  total : ∀ N, held'.1.total = some N → held.1.total = some N
    ∨ ∃ p ∈ ps, ∃ log body,
        pageOf (config.address book p) (t.answer log (config.address book p)) = .ok body
          ∧ body.total (config.address book p) = .ok N

theorem brought_absorbAll (t : Transport) (config : Config) (book : Matchbook) (ps : List Int64)
    (held : Holdings) : t.Brought config book ps held (t.absorbAll config book ps held) where
  eq_absorbAll := rfl
  log := log_absorbAll ps held
  kept := fun _ h => contains_absorbAll ps held h
  pages := fun _ _ h => page?_absorbAll ps held h
  total := fun _ h => total_absorbAll ps held h

end Transport

/-! ## §2. Terms as they were, or written down. -/

namespace Search

/-- **Terms as they were**, or written down. -/
def KeepsTerms (s s' : Search) : Prop :=
  s'.query.stage = s.query.stage
    ∨ ∃ book, s.query.matchbook = .ok book ∧ s'.query.stage = .final book

section KeepsTerms

variable {s s' : Search} {book : Matchbook}

/-- Terms written down have the matchbook that they had before. -/
theorem KeepsTerms.matchbook_eq (h : s.KeepsTerms s') (hbook : s.query.matchbook = .ok book) :
    s'.query.matchbook = .ok book := by
  rcases h with h | ⟨book', hbook', h⟩
  · rw [← hbook]
    unfold Query.matchbook
    rw [h]
  · rw [← hbook, hbook']
    exact Query.matchbook_of_final h

theorem KeepsTerms.stage_eq (h : s.KeepsTerms s') (hbook : s.query.matchbook = .ok book) :
    s'.query.stage = s.query.stage ∨ s'.query.stage = .final book := by
  rcases h with h | ⟨book', hbook', h⟩
  · exact .inl h
  · have hsame := hbook'.symm.trans hbook
    injection hsame with hsame
    exact .inr (hsame ▸ h)

theorem keepsTerms_finalize (s : Search) : s.KeepsTerms s.finalize.2 := by
  cases hbook : s.query.matchbook with
  | error cause =>
      rw [finalize_error hbook]
      exact .inl rfl
  | ok book =>
      rw [finalize_ok hbook]
      exact .inr ⟨book, hbook, rfl⟩

/-- **The parts of the operations keep the terms so**, and so do the
operations that are put together from them. -/
theorem persistent_keepsTerms : Persistent KeepsTerms where
  refl := fun _ => .inl rfl
  finalize := keepsTerms_finalize
  logged := fun _ _ => .inl rfl
  trans := by
    intro s s' s'' h h'
    rcases h' with h' | ⟨book', hbook', h'⟩
    · rw [KeepsTerms, h']
      exact h
    · rcases h with h | ⟨book, hbook, h⟩
      · refine .inr ⟨book', ?_, h'⟩
        rw [← hbook']
        unfold Query.matchbook
        rw [h]
      · -- The terms are written down once; after that they stay.
        have hsame := (Query.matchbook_of_final h).symm.trans hbook'
        injection hsame with hsame
        exact .inr ⟨book, hbook, hsame ▸ h'⟩
  storePage := by
    intro p body url s
    unfold storePage
    cases s.cache.store p body url <;> exact .inl rfl

/-- An index is read by a copy, for which the terms are written down. -/
theorem keepsTerms_get (t : Transport) (index : UInt64) (s : Search) :
    s.KeepsTerms (s.get t index).2 := by
  cases hbook : s.query.matchbook with
  | error cause =>
      rw [get_error hbook]
      exact .inl rfl
  | ok book =>
      rw [get_ok hbook]
      exact .inr ⟨book, hbook, rfl⟩

end KeepsTerms

end Search

/-! ## §3. What an operation has taken up. -/

namespace Search

/-- **What an operation has taken up**: the responses to its requests, one
after the other.  If it failed for want of a page, then the last response
could not be taken up. -/
def Spends (t : Transport) (book : Matchbook) (s s' : Search) (Fails : FetchError → Prop) : Prop :=
  ∃ ps, s'.held = t.absorbAll s.query.config book ps s.held
    ∧ ∀ e, Fails e → ∃ before p, ps = before ++ [p]
      ∧ t.uptake s.query.config book (t.absorbAll s.query.config book before s.held) p = .error e

section Spends

variable {t : Transport} {book : Matchbook} {s s' s'' : Search} {Fails Fails' : FetchError → Prop}

/-- Nothing is requested, and nothing fails. -/
theorem spends_nothing (hheld : s'.held = s.held) (hfails : ∀ e, ¬ Fails e) :
    s.Spends t book s' Fails :=
  ⟨[], hheld, fun e he => absurd he (hfails e)⟩

/-- One operation after another that did not fail. -/
theorem Spends.trans (h : s.Spends t book s' Fails)
    (hconfig : s'.query.config = s.query.config) (h' : s'.Spends t book s'' Fails') :
    s.Spends t book s'' Fails' := by
  obtain ⟨ps, hps, -⟩ := h
  obtain ⟨qs, hqs, hlast⟩ := h'
  rw [hconfig, hps] at hqs hlast
  refine ⟨ps ++ qs, ?_, ?_⟩
  · rw [Transport.absorbAll_append]
    exact hqs
  · intro e he
    obtain ⟨before, p, rfl, hspoilt⟩ := hlast e he
    refine ⟨ps ++ before, p, (List.append_assoc ps before [p]).symm, ?_⟩
    rw [Transport.absorbAll_append]
    exact hspoilt

/-- What is shared is all that matters of the search afterwards. -/
theorem Spends.of_held (h : s.Spends t book s' Fails) (hheld : s''.held = s'.held)
    (hfails : ∀ e, Fails' e → Fails e) : s.Spends t book s'' Fails' := by
  obtain ⟨ps, hps, hlast⟩ := h
  exact ⟨ps, hheld.trans hps, fun e he => hlast e (hfails e he)⟩

/-- A page requested is a response taken up, or the reason why it is not. -/
theorem fetchPage_uptake {p : Int64} (h : s.query.stage = .final book) :
    s.fetchPage t p
      = match t.uptake s.query.config book s.held p with
        | .error e => (.error (.fetch e), s.asked book p)
        | .ok cache => (.ok (), { s.asked book p with cache := cache }) := by
  unfold Transport.uptake
  cases hanswer : s.answer t book p with
  | error e =>
      have hpage : Transport.pageOf (s.query.config.address book p)
          (t.answer s.held.2 (s.query.config.address book p)) = .error e := hanswer
      rw [fetchPage_missed h hanswer, hpage]
  | ok body =>
      have hpage : Transport.pageOf (s.query.config.address book p)
          (t.answer s.held.2 (s.query.config.address book p)) = .ok body := hanswer
      rw [fetchPage_answered h hanswer, hpage]
      dsimp only
      cases hstore : s.held.1.store p body (s.query.config.address book p) with
      | error e => exact storePage_error (s := s.asked book p) hstore
      | ok cache => exact storePage_ok (s := s.asked book p) hstore

/-- **One page requested** is one response, taken up or not. -/
theorem spends_fetchPage (h : s.query.matchbook = .ok book) (t : Transport) (p : Int64) :
    s.Spends t book (s.fetchPage t p).2 fun e => (s.fetchPage t p).1 = .error (.fetch e) := by
  have hfetch : (s.fixed book).fetchPage t p = _ := fetchPage_uptake stage_fixed
  have hsame : t.uptake (s.fixed book).query.config book (s.fixed book).held p
      = t.uptake s.query.config book s.held p := rfl
  rw [hsame] at hfetch
  rw [fetchPage_fixed h, hfetch]
  cases huptake : t.uptake s.query.config book s.held p with
  | error e =>
      refine ⟨[p], (Transport.absorb_spoilt huptake).symm, ?_⟩
      intro e' he'
      injection he' with he'
      injection he' with he'
      exact ⟨[], p, rfl, he' ▸ huptake⟩
  | ok cache =>
      refine ⟨[p], (Transport.absorb_taken huptake).symm, ?_⟩
      intro e' he'
      exact absurd he' (by simp)

/-- **The number of records** takes up the first page at most. -/
theorem spends_length (h : s.query.matchbook = .ok book) (t : Transport) :
    s.Spends t book (s.length t).2 fun e => (s.length t).1 = .error (.fetch e) := by
  have hstage : (s.fixed book).query.stage = .final book := stage_fixed
  rw [length_fixed h]
  cases hN : s.cache.total with
  | some N =>
      rw [length_known (s := s.fixed book) hstage hN]
      exact spends_nothing rfl (fun e he => absurd he (by simp))
  | none =>
      have hfirst := spends_fetchPage h t book.direction.sign
      rw [fetchPage_fixed h] at hfirst
      unfold length
      simp only [finalize_final hstage, show (s.fixed book).cache.total = none from hN,
        Query.direction_eq (Query.matchbook_of_final hstage)]
      rcases hf : (s.fixed book).fetchPage t book.direction.sign with ⟨outcome, s'⟩
      rw [hf] at hfirst
      cases outcome with
      | error cause => exact hfirst.of_held rfl (fun e he => by simpa using he)
      | ok u => exact hfirst.of_held rfl (fun e he => absurd he (by simp))

theorem spends_isEmpty (h : s.query.matchbook = .ok book) (t : Transport) :
    s.Spends t book (s.isEmpty t).2 fun e => (s.isEmpty t).1 = .error (.fetch e) := by
  have hlen := spends_length h t
  unfold isEmpty
  rcases hl : s.length t with ⟨answer, s'⟩
  rw [hl] at hlen
  cases answer with
  | error cause => exact hlen.of_held rfl (fun e he => by simpa using he)
  | ok N => exact hlen.of_held rfl (fun e he => absurd he (by simp))

/-- **A record** takes up its page at most; a record that is missing is not
for want of a page. -/
theorem spends_recordAt (h : s.query.matchbook = .ok book) (t : Transport) (position : UInt64) :
    s.Spends t book (s.recordAt t position).2
      fun e => (s.recordAt t position).1 = .error (.fetch e) := by
  have hstored : ∀ (slot : Slot) (s : Search) (e : FetchError), s.stored slot ≠ .error (.fetch e) := by
    intro slot s e
    unfold stored
    dsimp only
    split <;> simp
  unfold recordAt
  cases Slot.locate? position s.query.pageSize s.query.direction with
  | none => exact spends_nothing rfl (fun e he => absurd he (by simp))
  | some slot =>
      dsimp only
      split
      · exact spends_nothing rfl (fun e he => hstored _ _ e he)
      · have hfetch := spends_fetchPage h t slot.page
        rcases hf : s.fetchPage t slot.page with ⟨outcome, s'⟩
        rw [hf] at hfetch
        cases outcome with
        | error cause => exact hfetch.of_held rfl (fun e he => by simpa using he)
        | ok u => exact hfetch.of_held rfl (fun e he => absurd he (hstored _ _ e))

/-- **A step** takes up the first page and that of its record at most. -/
theorem spends_next (h : s.query.matchbook = .ok book) (t : Transport) :
    s.Spends t book (s.next t).2 fun e => (s.next t).1 = some (.error (.fetch e)) := by
  unfold next
  split
  · exact spends_nothing rfl (fun e he => absurd he (by simp))
  · have hlen := spends_length h t
    have hterms := persistent_keepsTerms.length t s
    have hcursor := persistent_keepsCursor.length t s
    rcases hl : s.length t with ⟨total, s'⟩
    rw [hl] at hlen hterms hcursor
    cases total with
    | error cause => exact hlen.of_held rfl (fun e he => by simpa using he)
    | ok N =>
        dsimp only
        split
        · exact hlen.of_held rfl (fun e he => absurd he (by simp))
        · have hrecord := spends_recordAt (hterms.matchbook_eq h) t s'.query.cursor.position
          have hboth := hlen.trans hcursor.config_eq hrecord
          rcases hr : s'.recordAt t s'.query.cursor.position with ⟨outcome, s''⟩
          rw [hr] at hboth
          -- An overflow is no answer for want of a page.
          rcases goOn_cases outcome s'' with ⟨c, -, hgo⟩ | ⟨-, hgo⟩
          · dsimp only
            rw [hgo]
            exact hboth.of_held rfl (fun e he => by simpa using he)
          · dsimp only
            rw [hgo]
            exact hboth.of_held rfl (fun e he => absurd he (by simp))

/-- **An index** takes up what a copy at the same store does. -/
theorem spends_get (h : s.query.matchbook = .ok book) (t : Transport) (index : UInt64) :
    s.Spends t book (s.get t index).2 fun e => (s.get t index).1 = .error (.fetch e) := by
  have hcopy := spends_next (s := s.copied book (Cursor.startingAt index)) rfl t
  rw [get_ok h]
  refine Spends.of_held (s := s) hcopy rfl ?_
  intro e he
  -- The answer of the copy is the answer about the index.
  cases hnext : ((s.copied book (Cursor.startingAt index)).next t).1 with
  | none =>
      rw [hnext] at he
      exact absurd he (by simp [indexed])
  | some answer =>
      rw [hnext] at he
      cases answer with
      | ok entry => exact absurd he (by simp [indexed])
      | error cause =>
          injection he with he
          rw [he]

end Spends

end Search

end MaterialSearch
