/-
  MaterialSearch.Proofs.Query.Selection
  ────────────────────────────────
  **WHICH SELECTED KEYWORDS ARE REQUESTED.**

  Two changes have to do with each other.  Selecting passes over the
  keyword that the results are sorted by, which is requested anyhow, and
  sorting takes its keyword out of the selected ones.  Each relies on the
  ordering to stay.  When another ordering replaces it, nothing brings the
  keyword back: it is requested again only once it is named again.

  Main definitions:
    * `Terms.collect`      — the terms after some changes
    * `Edit.named`         — the keywords that a change selects or sorts by
    * `Terms.Requests`     — whether the keyword leads the matchbook
    * `Displaced`          — an ordering by the keyword was replaced

  Main results:
    * `requests_apply_iff`      — one change
    * `requests_collect_iff`    — the changes of a whole run
    * `select_requested_iff`    — **a selected keyword is requested unless
      an ordering by it was replaced**
    * `select_displaced`        — the shortest such run
-/
import Mathlib.Data.List.Basic
import Mathlib.Data.List.Induction
import Mathlib.Tactic.Tauto
import MaterialSearch.Query.Basic

namespace MaterialSearch

open Keyword

/-! ## §1. Runs of changes. -/

/-- The terms after some changes, the first of them first. -/
def Terms.collect (changes : List Edit) : Terms := changes.foldl Terms.apply .empty

/-- The keyword to sort by. -/
def Terms.sortKey (t : Terms) : Option Field := t.sorting.map Sorting.field

/-- The search after some changes. -/
def Search.edits (changes : List Edit) (s : Search) : Search :=
  changes.foldl (fun s change => (s.edit change).2) s

/-- The keywords that a change selects. -/
def Edit.selected : Edit → List Field
  | .select fs => fs
  | _ => []

/-- The keywords that a change selects or sorts by. -/
def Edit.named : Edit → List Field
  | .select fs => fs
  | .orderBy s => [s.field]
  | _ => []

/-- Whether a change sorts by another keyword. -/
def Edit.Replaces (f : Field) : Edit → Prop
  | .orderBy s => s.field ≠ f
  | _ => False

/-- **The keyword leads the matchbook**: results are sorted by it, or it is
among the selected ones. -/
def Terms.Requests (f : Field) (t : Terms) : Prop :=
  t.sortKey = some f ∨ f ∈ t.selects

/-- **An ordering by the keyword was replaced**, and the keyword was not
named since. -/
def Displaced (f : Field) (changes : List Edit) : Prop :=
  ∃ before c after, changes = before ++ c :: after
    ∧ (Terms.collect before).sortKey = some f ∧ c.Replaces f ∧ ∀ d ∈ after, f ∉ d.named

section Changes

variable {f : Field} {c : Edit} {changes : List Edit} {t : Terms}

theorem collect_append (changes : List Edit) (c : Edit) :
    Terms.collect (changes ++ [c]) = (Terms.collect changes).apply c := by
  unfold Terms.collect
  rw [List.foldl_append]
  rfl

theorem Edit.mem_named_of_selected (h : f ∈ c.selected) : f ∈ c.named := by
  cases c with
  | select fs => exact h
  | _ => exact absurd h List.not_mem_nil

/-- A change that sorts by another keyword does not name this one. -/
theorem Edit.Replaces.not_named (h : c.Replaces f) : f ∉ c.named := by
  cases c with
  | orderBy s => exact fun hmem => h (List.mem_singleton.mp hmem).symm
  | _ => exact h.elim

/-! ## §2. One change. -/

/-- The keyword to sort by is never among the selected ones. -/
theorem sortKey_not_selected (changes : List Edit) :
    ∀ f, (Terms.collect changes).sortKey = some f → f ∉ (Terms.collect changes).selects := by
  induction changes using List.reverseRecOn with
  | nil =>
    intro f h
    exact absurd h (by simp [Terms.collect, Terms.empty, Terms.sortKey])
  | append_singleton changes c ih =>
    intro f
    rw [collect_append]
    cases c with
    | filter e => exact ih f
    | exclude fs => exact ih f
    | select fs =>
      intro hkey hmem
      rcases List.mem_append.mp hmem with hmem | hmem
      · exact ih f hkey hmem
      · -- A keyword that is passed over does not get in.
        have hne := of_decide_eq_true (List.mem_filter.mp hmem).2
        exact hne hkey.symm
    | orderBy s =>
      intro hkey hmem
      have hfield : s.field = f := Option.some.inj hkey
      have hne := of_decide_eq_true (List.mem_filter.mp hmem).2
      exact hne hfield.symm

/-- **One change.**  A keyword that it names is requested afterwards; any
other one stays requested unless it was the one to sort by and another one
takes its place. -/
theorem requests_apply_iff (hkey : t.sortKey = some f → f ∉ t.selects) :
    (t.apply c).Requests f
      ↔ f ∈ c.named ∨ (t.Requests f ∧ ¬ (t.sortKey = some f ∧ c.Replaces f)) := by
  cases c with
  | filter e =>
    show t.Requests f ↔ f ∈ [] ∨ (t.Requests f ∧ ¬ (t.sortKey = some f ∧ False))
    simp
  | exclude fs =>
    show t.Requests f ↔ f ∈ [] ∨ (t.Requests f ∧ ¬ (t.sortKey = some f ∧ False))
    simp
  | select fs =>
    have hsort : some f ≠ t.sorting.map Sorting.field ↔ ¬ t.sortKey = some f :=
      not_congr eq_comm
    show (t.sortKey = some f
        ∨ f ∈ t.selects ++ fs.filter fun g => some g ≠ t.sorting.map Sorting.field)
      ↔ f ∈ fs ∨ ((t.sortKey = some f ∨ f ∈ t.selects) ∧ ¬ (t.sortKey = some f ∧ False))
    simp only [List.mem_append, List.mem_filter, decide_eq_true_eq, hsort]
    tauto
  | orderBy s =>
    show (some s.field = some f ∨ f ∈ t.selects.filter fun g => g ≠ s.field)
      ↔ f ∈ [s.field] ∨ ((t.sortKey = some f ∨ f ∈ t.selects)
          ∧ ¬ (t.sortKey = some f ∧ s.field ≠ f))
    simp only [Option.some.injEq, List.mem_filter, decide_eq_true_eq, List.mem_singleton]
    by_cases hs : s.field = f
    · simp [hs]
    · have hne : f ≠ s.field := Ne.symm hs
      simp only [hs, hne, ne_eq, not_false_eq_true, and_true, false_or]
      tauto

/-! ## §3. Whole runs. -/

/-- The last change displaces the keyword, or an earlier one did and the
last does not name it. -/
theorem displaced_append_iff :
    Displaced f (changes ++ [c])
      ↔ (Displaced f changes ∧ f ∉ c.named)
        ∨ ((Terms.collect changes).sortKey = some f ∧ c.Replaces f) := by
  constructor
  · rintro ⟨before, d, after, hsplit, hkey, hd, hafter⟩
    rcases List.eq_nil_or_concat' after with rfl | ⟨rest, e, rfl⟩
    · obtain ⟨rfl, hcd⟩ := List.append_inj' hsplit rfl
      obtain rfl : c = d := List.head_eq_of_cons_eq hcd
      exact .inr ⟨hkey, hd⟩
    · rw [← List.cons_append, ← List.append_assoc] at hsplit
      obtain ⟨hchanges, hce⟩ := List.append_inj' hsplit rfl
      obtain rfl : c = e := List.head_eq_of_cons_eq hce
      refine .inl ⟨⟨before, d, rest, hchanges, hkey, hd, ?_⟩, ?_⟩
      · intro x hx
        exact hafter x (List.mem_append_left _ hx)
      · exact hafter c (List.mem_append_right _ (List.mem_singleton_self c))
  · rintro (⟨⟨before, d, after, rfl, hkey, hd, hafter⟩, hc⟩ | ⟨hkey, hc⟩)
    · refine ⟨before, d, after ++ [c], by simp, hkey, hd, ?_⟩
      intro x hx
      rcases List.mem_append.mp hx with hx | hx
      · exact hafter x hx
      · rw [List.mem_singleton.mp hx]
        exact hc
    · exact ⟨changes, c, [], rfl, hkey, hc, fun _ h => absurd h List.not_mem_nil⟩

/-- **A keyword that was selected is requested unless it was displaced.** -/
theorem requests_collect_iff (hsel : ∃ c ∈ changes, f ∈ c.selected) :
    (Terms.collect changes).Requests f ↔ ¬ Displaced f changes := by
  induction changes using List.reverseRecOn with
  | nil =>
    obtain ⟨c, hc, -⟩ := hsel
    exact absurd hc List.not_mem_nil
  | append_singleton changes c ih =>
    rw [collect_append, requests_apply_iff (sortKey_not_selected changes f),
      displaced_append_iff]
    by_cases hnamed : f ∈ c.named
    · -- A change that names the keyword does not replace it.
      have hreplaces : ¬ c.Replaces f := fun h => h.not_named hnamed
      simp [hnamed, hreplaces]
    · -- The keyword was selected before, so what holds of the run so far applies.
      have hbefore : ∃ d ∈ changes, f ∈ d.selected := by
        obtain ⟨d, hd, hfd⟩ := hsel
        rcases List.mem_append.mp hd with hd | hd
        · exact ⟨d, hd, hfd⟩
        · rw [List.mem_singleton.mp hd] at hfd
          exact absurd (Edit.mem_named_of_selected hfd) hnamed
      rw [ih hbefore]
      simp only [hnamed, false_or, not_false_eq_true, and_true, not_or]

end Changes

/-! ## §4. The matchbook. -/

/-- The keywords at the front of a matchbook: the one to sort by, and those
selected. -/
def Matchbook.leading (m : Matchbook) : List String := m.order.toList ++ m.selects

theorem Matchbook.leading_prefix (m : Matchbook) : m.leading <+: m.parts := by
  unfold leading parts
  rw [List.append_assoc]
  exact List.prefix_append _ _

theorem edits_stage (changes : List Edit) :
    ∀ (s : Search) (t : Terms), s.query.stage = .collecting t →
      (s.edits changes).query.stage = .collecting (changes.foldl Terms.apply t) := by
  induction changes with
  | nil => intro s t h; exact h
  | cons c changes ih =>
    intro s t h
    apply ih (s.edit c).2 (t.apply c)
    unfold Search.edit
    rw [h]

theorem edits_start_matchbook (config : Config) (changes : List Edit) :
    ((Search.start config).edits changes).query.matchbook
      = (Terms.collect changes).matchbook := by
  unfold Query.matchbook
  rw [edits_stage changes (Search.start config) .empty rfl]
  rfl

/-- What is written down are the terms. -/
theorem matchbook_of_finalize {s : Search} {book : Matchbook} (h : s.finalize.1 = .ok book) :
    s.query.matchbook = .ok book := by
  unfold Search.finalize at h
  split at h
  · cases h
  · next hq => rw [hq, Except.ok.inj h]

/-- What is written down of a keyword. -/
theorem mem_leading_iff {t : Terms} {book : Matchbook} (h : t.matchbook = .ok book)
    (name : String) :
    name ∈ book.leading ↔ ∃ g, t.Requests g ∧ g.name = name := by
  unfold Terms.matchbook at h
  split at h
  · cases h
  · cases h
    simp only [Matchbook.leading, List.mem_append, Option.mem_toList,
      Option.map_eq_some_iff, List.mem_map, Terms.Requests, Terms.sortKey]
    constructor
    · rintro (⟨s, hs, rfl⟩ | ⟨g, hg, rfl⟩)
      · exact ⟨s.field, .inl ⟨s, hs, rfl⟩, rfl⟩
      · exact ⟨g, .inr hg, rfl⟩
    · rintro ⟨g, ⟨s, hs, rfl⟩ | hg, rfl⟩
      · exact .inl ⟨s, hs, rfl⟩
      · exact .inr ⟨g, hg, rfl⟩

/-- Only what was named is requested. -/
theorem exists_named_of_requests {f : Field} (changes : List Edit) :
    (Terms.collect changes).Requests f → ∃ c ∈ changes, f ∈ c.named := by
  induction changes using List.reverseRecOn with
  | nil =>
    intro h
    exact absurd h (by simp [Terms.collect, Terms.empty, Terms.sortKey, Terms.Requests])
  | append_singleton changes c ih =>
    rw [collect_append, requests_apply_iff (sortKey_not_selected changes f)]
    rintro (hc | ⟨hreq, -⟩)
    · exact ⟨c, List.mem_append_right _ (List.mem_singleton_self c), hc⟩
    · obtain ⟨d, hd, hnamed⟩ := ih hreq
      exact ⟨d, List.mem_append_left _ hd, hnamed⟩

/-- **A SELECTED KEYWORD IS REQUESTED UNLESS AN ORDERING BY IT WAS
REPLACED.**  After any changes of a new query, when all terms can be
written down: a keyword that some change selected is at the front of the
matchbook, as the one to sort by or among the selected ones, unless it was
displaced.  If it was, and its name tells it apart, it is not there. -/
theorem select_requested_iff (config : Config) (changes : List Edit) (book : Matchbook)
    (f : Field) (hbook : ((Search.start config).edits changes).finalize.1 = .ok book)
    (hsel : ∃ c ∈ changes, f ∈ c.selected) :
    book.leading <+: book.parts
      ∧ (¬ Displaced f changes → f.name ∈ book.leading)
      ∧ (Displaced f changes →
          (∀ c ∈ changes, ∀ g ∈ c.named, g.name = f.name → g = f) →
          f.name ∉ book.leading) := by
  have hterms : (Terms.collect changes).matchbook = .ok book := by
    rw [← edits_start_matchbook config changes]
    exact matchbook_of_finalize hbook
  refine ⟨book.leading_prefix, ?_, ?_⟩
  · intro hkept
    exact (mem_leading_iff hterms f.name).mpr ⟨f, (requests_collect_iff hsel).mpr hkept, rfl⟩
  · intro hdisplaced hnames hmem
    obtain ⟨g, hreq, hname⟩ := (mem_leading_iff hterms f.name).mp hmem
    -- Whatever bears the name was named by some change, so it is the keyword itself.
    obtain ⟨c, hc, hg⟩ := exists_named_of_requests changes hreq
    obtain rfl := hnames c hc g hg hname
    exact (requests_collect_iff hsel).mp hreq hdisplaced

/-- Two keywords selected, then sorted by the first of them, then by a
third. -/
def Sample.sortedTwice : List Edit :=
  [.select [.aurl, .files], .orderBy (.ascending .aurl), .orderBy (.descending .auid)]

/-- Of the two selected keywords one is still requested. -/
theorem select_requested_iff_sortedTwice :
    (∀ f ∈ [Field.aurl, Field.files], ∃ c ∈ Sample.sortedTwice, f ∈ c.selected)
      ∧ ∃ book, ((Search.start Config.standard).edits Sample.sortedTwice).finalize.1 = .ok book
        ∧ Field.files.name ∈ book.leading ∧ Field.aurl.name ∉ book.leading := by
  have hbook : ((Search.start Config.standard).edits Sample.sortedTwice).finalize.1
      = .ok ⟨some "auid", .descending, ["files"], [], []⟩ := by decide +kernel
  have hselected : ∀ f ∈ [Field.aurl, Field.files],
      ∃ c ∈ Sample.sortedTwice, f ∈ c.selected := by decide
  have hfiles := select_requested_iff Config.standard Sample.sortedTwice _ .files hbook
    (hselected _ (by decide))
  have haurl := select_requested_iff Config.standard Sample.sortedTwice _ .aurl hbook
    (hselected _ (by decide))
  have hkept : ¬ Displaced .files Sample.sortedTwice :=
    (requests_collect_iff (hselected _ (by decide))).mp (.inr (by decide))
  have hdisplaced : Displaced .aurl Sample.sortedTwice :=
    ⟨[.select [.aurl, .files], .orderBy (.ascending .aurl)], .orderBy (.descending .auid), [],
      rfl, rfl, show Field.auid ≠ Field.aurl by decide, fun _ h => absurd h List.not_mem_nil⟩
  exact ⟨hselected, _, hbook, hfiles.2.1 hkept, haurl.2.2 hdisplaced (by decide)⟩

/-- **A selected keyword is lost**: it is sorted by, and then by another one
is. -/
theorem select_displaced :
    let changes : List Edit :=
      [.select [.aurl], .orderBy (.ascending .aurl), .orderBy (.ascending .auid)]
    (∃ c ∈ changes, Field.aurl ∈ c.selected)
      ∧ ((Search.start Config.standard).edits changes).finalize.1
          = .ok ⟨some "auid", .ascending, [], [], []⟩
      ∧ Field.aurl.name ∉ Matchbook.leading ⟨some "auid", .ascending, [], [], []⟩ := by
  exact ⟨by decide, by decide +kernel, by decide⟩

end MaterialSearch
