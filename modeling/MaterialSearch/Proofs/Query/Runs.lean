/-
  MaterialSearch.Proofs.Query.Runs
  ────────────────────────────────
  **RUNS OF A FAMILY.**

  A run is taken apart action by action.  One action changes the query at
  its place, adds a copy at the end at most, and leaves the queries at all
  other places as they are.  A history is a run that keeps what was done
  where.

  Main definitions:
    * `Family.cursor?`, `Family.after` — the queries before and after an action
    * `Event`, `Family.history`        — a run with what was done where
    * `actionsAt`, `answersAt`         — the part of a history at one place

  Main results:
    * `perform_eq`, `perform_missing`, `perform_cases` — an action at a place
    * `run_append`, `run_eq_history`   — runs, taken apart and with events
    * `run_invariant`                  — what every action keeps, a run keeps
    * `run_forall`                     — an invariant of all queries
-/
import MaterialSearch.Query.Family

namespace MaterialSearch

/-! ## §1. One action. -/

/-- The cursor of the query at a place. -/
def Family.cursor? (f : Family) (place : Nat) : Option Cursor :=
  f.queries[place]?.map Query.cursor

/-- The family after an action, from the search after it. -/
def Family.after (f : Family) (place : Nat) (s : Search) (copy : Option Query) : Family :=
  { queries := f.queries.set place s.query ++ copy.toList
    cache := s.cache
    log := s.log }

section Action

variable {t : Transport} {f : Family} {place : Nat} {s : Search}

theorem lt_length_of_cursor? {c : Cursor} (h : f.cursor? place = some c) :
    place < f.queries.length := by
  unfold Family.cursor? at h
  rw [Option.map_eq_some_iff] at h
  obtain ⟨q, hq, -⟩ := h
  exact (List.getElem?_eq_some_iff.mp hq).1

/-- An action where there is a query is an action on that query. -/
theorem perform_eq {q : Query} (hq : f.queries[place]? = some q) (a : Action) :
    f.perform t place a
      = some (match Search.perform t f.queries.length ⟨q, f.cache, f.log⟩ a with
          | (outcome, s, copy) => (outcome, f.after place s copy)) := by
  unfold Family.perform Family.search?
  rw [hq]
  rfl

theorem perform_missing (h : f.queries[place]? = none) (a : Action) :
    f.perform t place a = none := by
  unfold Family.perform Family.search?
  rw [h]
  rfl

/-- **What was carried out** was an action on the query at its place. -/
theorem perform_cases {f' : Family} {a : Action} {outcome : Outcome}
    (h : f.perform t place a = some (outcome, f')) :
    ∃ q, f.queries[place]? = some q ∧ ∃ s copy,
      Search.perform t f.queries.length ⟨q, f.cache, f.log⟩ a = (outcome, s, copy)
        ∧ f' = f.after place s copy := by
  cases hq : f.queries[place]? with
  | none =>
      rw [perform_missing hq] at h
      exact absurd h (by simp)
  | some q =>
      rw [perform_eq hq] at h
      injection h with h
      injection h with houtcome hfamily
      subst houtcome hfamily
      exact ⟨q, rfl, _, _, rfl, rfl⟩

/-- An action that leaves query, store and log as they are leaves the
family as it is. -/
theorem perform_unchanged {q : Query} {a : Action} {outcome : Outcome}
    (hq : f.queries[place]? = some q)
    (h : Search.perform t f.queries.length ⟨q, f.cache, f.log⟩ a
      = (outcome, ⟨q, f.cache, f.log⟩, none)) :
    f.perform t place a = some (outcome, f) := by
  obtain ⟨hplace, hget⟩ := List.getElem?_eq_some_iff.mp hq
  have hset : f.queries.set place q = f.queries := by
    rw [← hget]
    exact List.set_getElem_self hplace
  rw [perform_eq hq, h]
  simp only [Family.after, hset, Option.toList_none, List.append_nil]

theorem cursor?_after_own {copy : Option Query} (hplace : place < f.queries.length) :
    (f.after place s copy).cursor? place = some s.query.cursor := by
  unfold Family.cursor? Family.after
  rw [List.getElem?_append_left (by rw [List.length_set]; exact hplace),
    List.getElem?_set_self hplace]
  rfl

theorem cursor?_after_other {copy : Option Query} {h : Nat} (hne : h ≠ place)
    (hh : h < f.queries.length) : (f.after place s copy).cursor? h = f.cursor? h := by
  unfold Family.cursor? Family.after
  rw [List.getElem?_append_left (by rw [List.length_set]; exact hh),
    List.getElem?_set_ne (Ne.symm hne)]

theorem cursor?_after_copy {copy : Query} :
    (f.after place s (some copy)).cursor? f.queries.length = some copy.cursor := by
  unfold Family.cursor? Family.after
  rw [List.getElem?_append_right (Nat.le_of_eq List.length_set), List.length_set, Nat.sub_self]
  rfl

theorem length_after {copy : Option Query} :
    (f.after place s copy).queries.length = f.queries.length + copy.toList.length := by
  unfold Family.after
  rw [List.length_append, List.length_set]

/-- What holds of every query before and of those that are new holds of
every query after. -/
theorem forall_after {P : Query → Prop} {copy : Option Query} (hf : ∀ q ∈ f.queries, P q)
    (hs : P s.query) (hcopy : ∀ q ∈ copy, P q) : ∀ q ∈ (f.after place s copy).queries, P q := by
  intro q hq
  rcases List.mem_append.mp hq with hq | hq
  · rcases List.mem_or_eq_of_mem_set hq with hq | rfl
    · exact hf q hq
    · exact hs
  · exact hcopy q (Option.mem_toList.mp hq)

end Action

/-! ## §2. Runs. -/

section Run

variable {t : Transport} {f f' : Family} {place : Nat} {a : Action} {outcome : Outcome}
  {acts : List (Nat × Action)}

theorem run_skip (h : f.perform t place a = none) :
    f.run t ((place, a) :: acts) = f.run t acts := by
  rw [Family.run, h]

theorem run_step (h : f.perform t place a = some (outcome, f')) :
    f.run t ((place, a) :: acts) = (outcome :: (f'.run t acts).1, (f'.run t acts).2) := by
  rw [Family.run, h]

/-- A run goes on from where its first part has come. -/
theorem run_append (t : Transport) (xs ys : List (Nat × Action)) :
    ∀ f : Family, (f.run t (xs ++ ys)).2 = ((f.run t xs).2.run t ys).2 := by
  induction xs with
  | nil => intro f; rfl
  | cons x xs ih =>
      intro f
      obtain ⟨place, a⟩ := x
      cases h : f.perform t place a with
      | none =>
          rw [List.cons_append, run_skip h, run_skip h]
          exact ih f
      | some found =>
          rw [List.cons_append, run_step h, run_step h]
          exact ih found.2

/-- **What every action keeps, a run keeps**, as long as it consists of
actions of the kind in question. -/
theorem run_invariant {P : Family → Prop} {A : Action → Prop} (t : Transport)
    (hstep : ∀ f f' place a outcome, P f → A a → f.perform t place a = some (outcome, f') → P f')
    (acts : List (Nat × Action)) :
    ∀ f : Family, P f → (∀ act ∈ acts, A act.2) → P (f.run t acts).2 := by
  induction acts with
  | nil => intro f hf _; exact hf
  | cons act acts ih =>
      intro f hf hacts
      obtain ⟨place, a⟩ := act
      have hrest : ∀ act ∈ acts, A act.2 :=
        fun act hact => hacts act (List.mem_cons_of_mem _ hact)
      cases hperform : f.perform t place a with
      | none =>
          rw [run_skip hperform]
          exact ih f hf hrest
      | some found =>
          obtain ⟨outcome, f'⟩ := found
          rw [run_step hperform]
          exact ih f' (hstep f f' place a outcome hf (hacts _ List.mem_cons_self) hperform) hrest

/-- **What every action keeps of its query, and gives its copy, holds of
every query of a run.** -/
theorem run_forall {P : Query → Prop} (t : Transport) (acts : List (Nat × Action)) (f : Family)
    (hf : ∀ q ∈ f.queries, P q)
    (hkeeps : ∀ (s : Search) place a, P s.query → P (s.perform t place a).2.1.query
      ∧ ∀ q ∈ (s.perform t place a).2.2, P q) :
    ∀ q ∈ (f.run t acts).2.queries, P q := by
  refine run_invariant (P := fun f => ∀ q ∈ f.queries, P q) (A := fun _ => True) t ?_ acts f hf
    (fun _ _ => trivial)
  intro f f' place a outcome hf _ hperform
  obtain ⟨q, hq, s, copy, hs, rfl⟩ := perform_cases hperform
  obtain ⟨hown, hcopy⟩ := hkeeps ⟨q, f.cache, f.log⟩ f.queries.length a
    (hf q (List.mem_of_getElem? hq))
  rw [hs] at hown hcopy
  exact forall_after hf hown hcopy

end Run

/-! ## §3. Histories. -/

/-- An action that was carried out, where it was, and its answer. -/
structure Event where
  place : Nat
  action : Action
  outcome : Outcome
  deriving Repr, DecidableEq

/-- **A run with its events**; an action on a place without a query is
passed over. -/
def Family.history (t : Transport) : List (Nat × Action) → Family → List Event × Family
  | [], f => ([], f)
  | (place, a) :: rest, f =>
      match f.perform t place a with
      | none => history t rest f
      | some (outcome, f) =>
          match history t rest f with
          | (events, f) => (⟨place, a, outcome⟩ :: events, f)

/-- An answer that leaves out the place given to a copy. -/
def Outcome.unplaced : Outcome → Outcome
  | .copied _ => .copied 0
  | outcome => outcome

/-- The actions carried out at a place, in order. -/
def actionsAt (place : Nat) (events : List Event) : List Action :=
  (events.filter fun e => e.place == place).map Event.action

/-- The answers given at a place, in order. -/
def answersAt (place : Nat) (events : List Event) : List Outcome :=
  (events.filter fun e => e.place == place).map fun e => e.outcome.unplaced

section History

variable {t : Transport} {f f' : Family} {place : Nat} {a : Action} {outcome : Outcome}
  {acts : List (Nat × Action)} {e : Event}

theorem history_skip (h : f.perform t place a = none) :
    f.history t ((place, a) :: acts) = f.history t acts := by
  rw [Family.history, h]

theorem history_step (h : f.perform t place a = some (outcome, f')) :
    f.history t ((place, a) :: acts)
      = (⟨place, a, outcome⟩ :: (f'.history t acts).1, (f'.history t acts).2) := by
  rw [Family.history, h]

/-- The events of a run are its answers and where they belong. -/
theorem run_eq_history (t : Transport) (acts : List (Nat × Action)) :
    ∀ f : Family, f.run t acts
      = ((f.history t acts).1.map Event.outcome, (f.history t acts).2) := by
  induction acts with
  | nil => intro f; rfl
  | cons act acts ih =>
      intro f
      obtain ⟨place, a⟩ := act
      cases h : f.perform t place a with
      | none =>
          rw [run_skip h, history_skip h]
          exact ih f
      | some found =>
          rw [run_step h, history_step h, ih found.2]
          rfl

theorem actionsAt_own (e : Event) (events : List Event) :
    actionsAt e.place (e :: events) = e.action :: actionsAt e.place events := by
  unfold actionsAt
  rw [List.filter_cons_of_pos (by simp)]
  rfl

theorem answersAt_own (e : Event) (events : List Event) :
    answersAt e.place (e :: events) = e.outcome.unplaced :: answersAt e.place events := by
  unfold answersAt
  rw [List.filter_cons_of_pos (by simp)]
  rfl

theorem actionsAt_other (hne : e.place ≠ place) (events : List Event) :
    actionsAt place (e :: events) = actionsAt place events := by
  unfold actionsAt
  rw [List.filter_cons_of_neg (by simp [hne])]

theorem answersAt_other (hne : e.place ≠ place) (events : List Event) :
    answersAt place (e :: events) = answersAt place events := by
  unfold answersAt
  rw [List.filter_cons_of_neg (by simp [hne])]

end History

end MaterialSearch
