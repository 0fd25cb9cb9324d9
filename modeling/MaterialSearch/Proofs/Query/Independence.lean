/-
  MaterialSearch.Proofs.Query.Independence
  ────────────────────────────────
  **COPIES DO NOT DISTURB EACH OTHER.**

  A query and its copies share the pages received and the number of
  records.  Over a steady transport none of them can tell: what each is
  answered in a run of all of them is what it is answered when it is alone.

  Main definitions:
    * `Family.alone`                  — a fresh query without copies
    * `Family.Moved`, `Family.Ran`    — steps and runs as the cursors see them
    * `Transport.replies`             — the answers that a cursor sees

  Main results:
    * `Family.Ran.answers_eq_replies` — a place is answered as its cursor sees
    * `Family.Ran.answers_copy`       — a copy, from the start of its range on
    * `answers_independent`           — a run of all compared with runs alone
-/
import MaterialSearch.Proofs.Query.Runs
import MaterialSearch.Proofs.Query.Steady
import MaterialSearch.Transport.Canned

namespace MaterialSearch

/-! ## §1. Families in line with the transport. -/

/-- A fresh query without copies. -/
def Family.alone (q : Query) : Family := ⟨[q], .empty, []⟩

/-- **A family in line with the transport**: its queries differ in their
cursors at most, and the store agrees with the transport. -/
structure Family.Lined (t : Transport) (q : Query) (book : Matchbook) (f : Family) : Prop where
  alike : ∀ q' ∈ f.queries, q.Alike book q'
  agrees : f.cache.Agrees t q book

/-- **What an action does to the cursors**: its own moves on, the others
stay, and a copy gets one at the start of its range. -/
structure Family.Moved (t : Transport) (q : Query) (book : Matchbook) (place : Nat) (c : Cursor)
    (a : Action) (outcome : Outcome) (f f' : Family) : Prop where
  lined : f'.Lined t q book
  answer : outcome.unplaced = (t.reply q book c a).1
  own : f'.cursor? place = some (t.reply q book c a).2
  others : ∀ h c', h ≠ place → f.cursor? h = some c' → f'.cursor? h = some c'
  copies : (f'.queries.length = f.queries.length
      ∧ ∀ lower upper step, a ≠ .slice lower upper step)
    ∨ ∃ lower upper step, a = .slice lower upper step ∧ outcome = .copied f.queries.length
      ∧ f'.queries.length = f.queries.length + 1
      ∧ f'.cursor? f.queries.length = some (Cursor.between lower.first upper.limit step)

theorem unplaced_ofResult {α : Type} {answer : α → Outcome}
    (h : ∀ x, (answer x).unplaced = answer x) (r : Except QueryError α) :
    (Outcome.ofResult answer r).unplaced = Outcome.ofResult answer r := by
  cases r with
  | error e => rfl
  | ok x => exact h x

theorem unplaced_ofNext (r : Option (Except QueryError Entry)) :
    (Outcome.ofNext r).unplaced = Outcome.ofNext r := by
  cases r with
  | none => rfl
  | some answer => cases answer <;> rfl

section Family

variable {t : Transport} {q : Query} {book : Matchbook} {f f' last : Family} {place : Nat}
  {c : Cursor} {events : List Event}

theorem unplaced_reply (a : Action) :
    (t.reply q book c a).1.unplaced = (t.reply q book c a).1 := by
  cases a with
  | length => exact unplaced_ofResult (fun _ => rfl) _
  | isEmpty => exact unplaced_ofResult (fun _ => rfl) _
  | next => exact unplaced_ofNext _
  | get index => exact unplaced_ofResult (fun _ => rfl) _
  | _ => rfl

theorem Family.lined_alone (hbook : q.matchbook = .ok book) :
    (Family.alone q).Lined t q book where
  alike := by
    intro q' hq'
    rw [List.mem_singleton.mp hq']
    exact ⟨rfl, hbook⟩
  agrees := PageCache.agrees_empty

theorem lined_after {s : Search} {copy : Option Query} (hf : f.Lined t q book)
    (hs : s.Lined t q book) (hcopy : ∀ q' ∈ copy, q.Alike book q') :
    (f.after place s copy).Lined t q book where
  alike := forall_after hf.alike hs.alike hcopy
  agrees := hs.agrees

/-- Where there is a cursor there is a query in line with the transport. -/
theorem Family.Lined.lined_at (hf : f.Lined t q book) (hc : f.cursor? place = some c) :
    ∃ q', f.queries[place]? = some q' ∧ q'.cursor = c
      ∧ Search.Lined t q book ⟨q', f.cache, f.log⟩ := by
  unfold Family.cursor? at hc
  obtain ⟨q', hq', hcursor⟩ := Option.map_eq_some_iff.mp hc
  exact ⟨q', hq', hcursor, hf.alike q' (List.mem_of_getElem? hq'), hf.agrees⟩

/-- **One step of a run** answers as the cursor sees and leaves the family
in line. -/
theorem perform_moved (ht : t.Steady) (hf : f.Lined t q book) {a : Action}
    (ha : a.isReading = true) (hc : f.cursor? place = some c) :
    ∃ outcome f', f.perform t place a = some (outcome, f')
      ∧ f.Moved t q book place c a outcome f' := by
  have hplace := lt_length_of_cursor? hc
  obtain ⟨q', hq', rfl, hs⟩ := hf.lined_at hc
  rw [perform_eq hq']
  by_cases hslice : ∃ lower upper step, a = .slice lower upper step
  · -- A copy is added at the end, and no cursor moves.
    obtain ⟨lower, upper, step, rfl⟩ := hslice
    rw [perform_slice hs]
    refine ⟨_, _, rfl, ?_⟩
    exact
      { lined := lined_after hf hs.fixed (by
          intro copy hcopy
          injection hcopy with hcopy
          rw [← hcopy]
          exact hs.alike.copyAt _)
        answer := rfl
        own := cursor?_after_own hplace
        others := fun h c' hne hh => by
          rw [cursor?_after_other hne (lt_length_of_cursor? hh)]
          exact hh
        copies := Or.inr ⟨lower, upper, step, rfl, rfl, length_after, cursor?_after_copy⟩ }
  · have hslice : ∀ lower upper step, a ≠ .slice lower upper step := by
      intro lower upper step heq
      exact hslice ⟨lower, upper, step, heq⟩
    obtain ⟨s', hperform, hs', hcursor⟩ := perform_lined ht hs f.queries.length ha hslice
    rw [hperform]
    refine ⟨_, _, rfl, ?_⟩
    exact
      { lined := lined_after hf hs' (by
          intro copy hcopy
          exact absurd hcopy (by simp))
        answer := unplaced_reply a
        own := by rw [cursor?_after_own hplace, hcursor]
        others := fun h c' hne hh => by
          rw [cursor?_after_other hne (lt_length_of_cursor? hh)]
          exact hh
        copies := Or.inl ⟨length_after, hslice⟩ }

theorem Family.Moved.length_le {a : Action} {outcome : Outcome}
    (h : f.Moved t q book place c a outcome f') : f.queries.length ≤ f'.queries.length := by
  rcases h.copies with ⟨hlen, -⟩ | ⟨-, -, -, -, -, hlen, -⟩ <;> omega

/-- A copy is given the first place that is free. -/
theorem Family.Moved.copied {lower upper : RangeEnd} {step : UInt64} {h : Nat}
    (hmoved : f.Moved t q book place c (.slice lower upper step) (.copied h) f') :
    h = f.queries.length ∧ f'.cursor? h = some (Cursor.between lower.first upper.limit step) := by
  rcases hmoved.copies with ⟨-, hno⟩ | ⟨lower', upper', step', ha, hout, -, hcopy⟩
  · exact absurd rfl (hno lower upper step)
  · injection ha with hlower hupper hstep
    injection hout with hout
    subst hlower hupper hstep hout
    exact ⟨rfl, hcopy⟩

/-! ## §2. Runs as the cursors see them. -/

/-- **A run of reading actions**, step by step. -/
inductive Family.Ran (t : Transport) (q : Query) (book : Matchbook) :
    Family → List Event → Family → Prop
  | done {f : Family} : Ran t q book f [] f
  | step {f f' last : Family} {place : Nat} {c : Cursor} {a : Action} {outcome : Outcome}
      {events : List Event} (ha : a.isReading = true) (hc : f.cursor? place = some c)
      (hmoved : f.Moved t q book place c a outcome f') (rest : Ran t q book f' events last) :
      Ran t q book f (⟨place, a, outcome⟩ :: events) last

theorem ran_history (ht : t.Steady) (acts : List (Nat × Action)) :
    ∀ f : Family, f.Lined t q book → (∀ act ∈ acts, act.2.isReading = true) →
      Family.Ran t q book f (f.history t acts).1 (f.history t acts).2 := by
  induction acts with
  | nil => intro f _ _; exact .done
  | cons act acts ih =>
      intro f hf hacts
      obtain ⟨place, a⟩ := act
      have hrest : ∀ act ∈ acts, act.2.isReading = true :=
        fun act hact => hacts act (List.mem_cons_of_mem _ hact)
      cases hq : f.queries[place]? with
      | none =>
          rw [history_skip (perform_missing hq a)]
          exact ih f hf hrest
      | some q' =>
          have ha := hacts _ List.mem_cons_self
          have hc : f.cursor? place = some q'.cursor := by
            unfold Family.cursor?
            rw [hq]
            rfl
          obtain ⟨outcome, f', hperform, hmoved⟩ := perform_moved ht hf ha hc
          rw [history_step hperform]
          exact .step ha hc hmoved (ih f' hmoved.lined hrest)

/-- **The answers that a cursor sees** to one action after the other. -/
def Transport.replies (t : Transport) (q : Query) (book : Matchbook) :
    Cursor → List Action → List Outcome
  | _, [] => []
  | c, a :: as => (t.reply q book c a).1 :: replies t q book (t.reply q book c a).2 as

/-- **A place is answered as its cursor sees**, whatever is done at the
other places in between. -/
theorem Family.Ran.answers_eq_replies (h : Family.Ran t q book f events last) :
    ∀ c : Cursor, f.cursor? place = some c →
      answersAt place events = t.replies q book c (actionsAt place events) := by
  induction h with
  | done => intro c _; rfl
  | @step f f' last own c₀ a outcome events _ hown hmoved _ ih =>
      intro c hc
      -- An action elsewhere moves neither the cursor nor what it will see.
      by_cases hplace : own = place
      · subst hplace
        rw [hc] at hown
        injection hown with hown
        subst hown
        rw [answersAt_own ⟨own, a, outcome⟩, actionsAt_own ⟨own, a, outcome⟩, ih _ hmoved.own]
        show outcome.unplaced :: _ = (t.reply q book c a).1 :: _
        rw [hmoved.answer]
      · rw [answersAt_other (e := ⟨own, a, outcome⟩) hplace,
          actionsAt_other (e := ⟨own, a, outcome⟩) hplace]
        exact ih c (hmoved.others place c (Ne.symm hplace) hc)

/-- Copies are given places that are free. -/
theorem Family.Ran.length_le_of_copied (h : Family.Ran t q book f events last) {parent n : Nat}
    {lower upper : RangeEnd} {step : UInt64}
    (hmade : ⟨parent, .slice lower upper step, .copied n⟩ ∈ events) : f.queries.length ≤ n := by
  induction h with
  | done => exact absurd hmade List.not_mem_nil
  | step _ _ hmoved _ ih =>
      rcases List.mem_cons.mp hmade with hhead | htail
      · injection hhead with _ ha hout
        subst ha hout
        exact hmoved.copied.1.ge
      · exact hmoved.length_le.trans (ih htail)

/-- **A copy is answered as its own cursor sees**, from the start of its
range on. -/
theorem Family.Ran.answers_copy (h : Family.Ran t q book f events last) {parent n : Nat}
    {lower upper : RangeEnd} {step : UInt64}
    (hmade : ⟨parent, .slice lower upper step, .copied n⟩ ∈ events) :
    answersAt n events
      = t.replies q book (Cursor.between lower.first upper.limit step) (actionsAt n events) := by
  induction h with
  | done => exact absurd hmade List.not_mem_nil
  | @step f f' last own c₀ a outcome events ha hown hmoved rest ih =>
      -- The copy is not there yet, so that the first action is not its own.
      have hle := (Family.Ran.step ha hown hmoved rest).length_le_of_copied hmade
      have hlt := lt_length_of_cursor? hown
      have hne : own ≠ n := by omega
      rw [answersAt_other (e := ⟨own, a, outcome⟩) hne,
        actionsAt_other (e := ⟨own, a, outcome⟩) hne]
      rcases List.mem_cons.mp hmade with hhead | htail
      · injection hhead with _ haction hout
        subst haction hout
        exact rest.answers_eq_replies _ hmoved.copied.2
      · exact ih htail

/-- Every place that is new was given to a copy. -/
theorem Family.Ran.copied_of_new (h : Family.Ran t q book f events last) {n : Nat}
    (hle : f.queries.length ≤ n) (hlt : n < last.queries.length) :
    ∃ parent lower upper step, ⟨parent, .slice lower upper step, .copied n⟩ ∈ events := by
  induction h with
  | done => omega
  | @step f f' last own c₀ a outcome events _ _ hmoved _ ih =>
      -- The place is new after the first action, or that action made it.
      by_cases hnew : f'.queries.length ≤ n
      · obtain ⟨parent, lower, upper, step, hmade⟩ := ih hnew hlt
        exact ⟨parent, lower, upper, step, List.mem_cons_of_mem _ hmade⟩
      · rcases hmoved.copies with ⟨hlen, -⟩ | ⟨lower, upper, step, rfl, rfl, hlen, -⟩
        · omega
        · have hplace : n = f.queries.length := by omega
          subst hplace
          exact ⟨own, lower, upper, step, List.mem_cons_self⟩

theorem Family.Ran.reading_of_mem (h : Family.Ran t q book f events last) :
    ∀ e ∈ events, e.action.isReading = true := by
  induction h with
  | done => intro e he; exact absurd he List.not_mem_nil
  | step ha _ _ _ ih =>
      intro e he
      rcases List.mem_cons.mp he with rfl | he
      · exact ha
      · exact ih e he

theorem Family.Ran.reading (h : Family.Ran t q book f events last) :
    ∀ a ∈ actionsAt place events, a.isReading = true := by
  intro a ha
  obtain ⟨e, he, rfl⟩ := List.mem_map.mp ha
  exact h.reading_of_mem e (List.mem_filter.mp he).1

/-! ## §3. Runs of one place alone. -/

/-- A place that acts alone carries out all of its actions. -/
theorem actionsAt_alone (ht : t.Steady) (place : Nat) (as : List Action) :
    ∀ (f : Family) (c : Cursor), f.Lined t q book → (∀ a ∈ as, a.isReading = true) →
      f.cursor? place = some c →
      actionsAt place (f.history t (as.map fun a => (place, a))).1 = as := by
  induction as with
  | nil => intro f c _ _ _; rfl
  | cons a as ih =>
      intro f c hf has hc
      obtain ⟨outcome, f', hperform, hmoved⟩ := perform_moved ht hf (has a List.mem_cons_self) hc
      rw [List.map_cons, history_step hperform, actionsAt_own ⟨place, a, outcome⟩,
        ih f' _ hmoved.lined (fun a ha => has a (List.mem_cons_of_mem _ ha)) hmoved.own]

/-- What a place is answered alone. -/
theorem answersAt_alone (ht : t.Steady) (place : Nat) {as : List Action} (hf : f.Lined t q book)
    (has : ∀ a ∈ as, a.isReading = true) (hc : f.cursor? place = some c) :
    answersAt place (f.history t (as.map fun a => (place, a))).1 = t.replies q book c as := by
  have hreading : ∀ act ∈ as.map fun a => (place, a), act.2.isReading = true := by
    intro act hact
    obtain ⟨a, ha, rfl⟩ := List.mem_map.mp hact
    exact has a ha
  rw [(ran_history ht _ f hf hreading).answers_eq_replies c hc,
    actionsAt_alone ht place as f c hf has hc]

end Family

/-! ## §4. All together and each alone. -/

/-- **Copies that share a store do not influence each other.**  In a run of
reading actions on a fresh query and all its copies over a steady
transport, the first query is answered as if it were alone; each copy is
answered as the only copy of a fresh query, made for the same range; and
every further place belongs to a copy.  Moreover an index is read and a
copy is made alike wherever the cursor is, and the cursor stays there. -/
theorem answers_independent (t : Transport) (q : Query) (book : Matchbook)
    (acts : List (Nat × Action)) (ht : t.Steady) (hbook : q.matchbook = .ok book)
    (hacts : ∀ act ∈ acts, act.2.isReading = true) :
    let events := ((Family.alone q).history t acts).1
    let last := ((Family.alone q).history t acts).2
    answersAt 0 events
        = answersAt 0
            ((Family.alone q).history t ((actionsAt 0 events).map fun a => (0, a))).1
    ∧ (∀ place parent lower upper step,
        ⟨parent, .slice lower upper step, .copied place⟩ ∈ events →
        answersAt place events
          = answersAt 1 ((Family.alone q).history t
              ((0, .slice lower upper step)
                :: (actionsAt place events).map fun a => (1, a))).1)
    ∧ (∀ place, 0 < place → place < last.queries.length → ∃ parent lower upper step,
        ⟨parent, .slice lower upper step, .copied place⟩ ∈ events)
    ∧ ∀ (s : Search) (move : Cursor → Cursor),
        (∀ index, (s.moveCursor move).get t index
          = ((s.get t index).1, (s.get t index).2.moveCursor move))
        ∧ ∀ lower upper step, (s.moveCursor move).slice lower upper step
          = ((s.slice lower upper step).1, (s.slice lower upper step).2.moveCursor move) := by
  intro events last
  have hlined : (Family.alone q).Lined t q book := Family.lined_alone hbook
  have hfirst : (Family.alone q).cursor? 0 = some q.cursor := rfl
  have hran : Family.Ran t q book (Family.alone q) events last := ran_history ht acts _ hlined hacts
  refine ⟨?_, ?_, ?_, ?_⟩
  · rw [answersAt_alone ht 0 hlined hran.reading hfirst]
    exact hran.answers_eq_replies _ hfirst
  · intro place parent lower upper step hmade
    -- Alone, the copy is given the first place after that of the query.
    obtain ⟨outcome, f', hperform, hmoved⟩ :=
      perform_moved (a := .slice lower upper step) ht hlined rfl hfirst
    have hcopy : outcome = .copied 1 := by
      rcases hmoved.copies with ⟨-, hno⟩ | ⟨-, -, -, -, hout, -⟩
      · exact absurd rfl (hno lower upper step)
      · exact hout
    subst hcopy
    rw [history_step hperform, answersAt_other (show (0 : Nat) ≠ 1 by decide),
      answersAt_alone ht 1 hmoved.lined hran.reading hmoved.copied.2]
    exact hran.answers_copy hmade
  · intro place hpos hlt
    exact hran.copied_of_new hpos hlt
  · intro s move
    exact ⟨Search.get_moveCursor t move, fun lower upper step => Search.fork_moveCursor move _⟩

/-- A transport that has the first of two pages only. -/
def Sample.firstOfTwo : Transport :=
  Canned.transport
    { Canned.empty with
      pages := [(1, "\x7b\"1 of 2\":\x7b\x7d\x7d")] }

/-- A new query for pages of one record. -/
def Sample.oneByOne : Query := Query.ofConfig { Config.standard with batchSize := 1 }

/-- A query and a copy of it by turns. -/
def Sample.turns : List (Nat × Action) :=
  [(0, .slice (.included 1) .unbounded 1), (1, .next), (0, .next), (1, .next), (0, .get 1)]

theorem answers_independent_turns :
    answersAt 0 ((Family.alone Sample.oneByOne).history Sample.firstOfTwo Sample.turns).1
        = answersAt 0 ((Family.alone Sample.oneByOne).history Sample.firstOfTwo
            [(0, .slice (.included 1) .unbounded 1), (0, .next), (0, .get 1)]).1
      ∧ answersAt 1 ((Family.alone Sample.oneByOne).history Sample.firstOfTwo Sample.turns).1
        = answersAt 1 ((Family.alone Sample.oneByOne).history Sample.firstOfTwo
            [(0, .slice (.included 1) .unbounded 1), (1, .next), (1, .next)]).1 := by
  obtain ⟨hquery, hcopies, -⟩ := answers_independent Sample.firstOfTwo Sample.oneByOne
    ⟨none, .ascending, [], [], []⟩ Sample.turns (Canned.transport_steady _) rfl (by decide)
  have hmade : ⟨0, .slice (.included 1) .unbounded 1, .copied 1⟩
      ∈ ((Family.alone Sample.oneByOne).history Sample.firstOfTwo Sample.turns).1 := by
    apply List.mem_of_mem_head?
    decide +kernel
  have hcopy := hcopies 1 0 _ _ _ hmade
  have hzero : actionsAt 0
      ((Family.alone Sample.oneByOne).history Sample.firstOfTwo Sample.turns).1
        = [.slice (.included 1) .unbounded 1, .next, .get 1] := by decide +kernel
  have hone : actionsAt 1
      ((Family.alone Sample.oneByOne).history Sample.firstOfTwo Sample.turns).1
        = [.next, .next] := by decide +kernel
  rw [hzero] at hquery
  rw [hone] at hcopy
  exact ⟨hquery, hcopy⟩

end MaterialSearch
