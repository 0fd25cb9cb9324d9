/-
  MaterialSearch.Proofs.Query.Assembly
  ────────────────────────────────
  **WHAT THE CHANGES OF A QUERY ADD UP TO.**

  The changes of an open query are of four kinds, and the matchbook groups
  them by kind: the keyword of the last ordering, the keywords that stay
  selected, the predicates and the excluded keywords, each in the order of
  the changes.  Only orderings and selections have to do with each other.
  When there is at most one ordering it does not matter where it stands, so
  that the changes of each kind tell the matchbook by themselves.

  Main definitions:
    * `Edit.filtered`, `Edit.excluded`, `Edit.ordered` — what a change adds
    * `standing`          — the keywords that stay selected
    * `SameByKind`        — the same changes of each kind
    * `assembledParts`    — the parts of the matchbook, from the changes

  Main results:
    * `collect_eq`        — the terms, kind by kind
    * `standing_eq`       — at most one ordering: its place does not matter
    * `SameByKind.collect_eq` — the changes of each kind tell the terms
    * `renderAll_cases`   — the search terms of predicates
    * `order_not_mem_selects` — the name to sort by is not selected as well
    * `matchbook_canonical` — **the matchbook of all changes**
-/
import MaterialSearch.Proofs.Query.Finalized
import MaterialSearch.Proofs.Query.Selection

namespace MaterialSearch

open Keyword Predicate

/-! ## §1. What changes add, kind by kind. -/

/-- The predicates that a change adds. -/
def Edit.filtered : Edit → List Expression
  | .filter e => [e]
  | _ => []

/-- The keywords that a change excludes. -/
def Edit.excluded : Edit → List Field
  | .exclude fs => fs
  | _ => []

/-- The ordering that a change asks for. -/
def Edit.ordered : Edit → List Sorting
  | .orderBy s => [s]
  | _ => []

/-- The keywords that changes sort by. -/
def sortKeys (changes : List Edit) : List Field :=
  (changes.flatMap Edit.ordered).map Sorting.field

/-- **The keywords that stay selected**, when the results are sorted by a
keyword at first: those that some change selects, unless the results are
sorted by them at that moment, or an ordering by them comes later. -/
def standing : Option Field → List Edit → List Field
  | _, [] => []
  | key, .select fs :: rest =>
      ((fs.filter fun f => some f ≠ key).filter fun f => f ∉ sortKeys rest) ++ standing key rest
  | _, .orderBy s :: rest => standing (some s.field) rest
  | key, .filter _ :: rest => standing key rest
  | key, .exclude _ :: rest => standing key rest

/-- **The terms after more changes**, kind by kind. -/
theorem foldl_apply_eq (changes : List Edit) :
    ∀ t : Terms, changes.foldl Terms.apply t
      = { filters := t.filters ++ changes.flatMap Edit.filtered
          selects := (t.selects.filter fun f => f ∉ sortKeys changes) ++ standing t.sortKey changes
          excludes := t.excludes ++ changes.flatMap Edit.excluded
          sorting := (changes.flatMap Edit.ordered).getLast?.or t.sorting } := by
  -- The first change makes other terms to go on from, hence the claim for all of them.
  induction changes with
  | nil =>
      intro t
      simp [standing, sortKeys]
  | cons c changes ih =>
      intro t
      rw [List.foldl_cons, ih]
      cases c with
      | filter e =>
          congr 1
          exact List.append_assoc t.filters [e] _
      | exclude fs =>
          congr 1
          exact List.append_assoc t.excludes fs _
      | select fs =>
          congr 1
          show ((t.selects ++ _).filter _) ++ _ = _
          rw [List.filter_append, List.append_assoc]
          rfl
      | orderBy s =>
          -- It takes its keyword out of what is selected, before the later ones take theirs.
          have hlast : ((changes.flatMap Edit.ordered).getLast?.or (some s))
              = ((s :: changes.flatMap Edit.ordered).getLast?).or t.sorting := by
            rw [List.getLast?_cons]
            cases (changes.flatMap Edit.ordered).getLast? <;> rfl
          have hselects : ((t.selects.filter fun f => f ≠ s.field).filter
                fun f => f ∉ sortKeys changes)
              = t.selects.filter fun f => f ∉ s.field :: sortKeys changes := by
            rw [List.filter_filter]
            apply List.filter_congr
            intro f _
            rw [Bool.eq_iff_iff]
            simp [and_comm]
          congr 1
          exact congrArg (· ++ standing (some s.field) changes) hselects

/-- **The terms after all changes** of a new query. -/
theorem collect_eq (changes : List Edit) :
    Terms.collect changes
      = { filters := changes.flatMap Edit.filtered
          selects := standing none changes
          excludes := changes.flatMap Edit.excluded
          sorting := (changes.flatMap Edit.ordered).getLast? } := by
  unfold Terms.collect
  rw [foldl_apply_eq]
  simp [Terms.empty, Terms.sortKey]

/-! ## §2. At most one ordering. -/

/-- **With at most one ordering** it does not matter where it stands: what is
selected stays so, the keyword to sort by aside. -/
theorem standing_eq (changes : List Edit) :
    ∀ key : Option Field, (key.toList ++ sortKeys changes).length ≤ 1 →
      standing key changes = (changes.flatMap Edit.selected).filter
        fun f => f ∉ key.toList ++ sortKeys changes := by
  induction changes with
  | nil => intro key _; rfl
  | cons c changes ih =>
      intro key hone
      cases c with
      | filter e => exact ih key hone
      | exclude fs => exact ih key hone
      | select fs =>
          -- Passed over now or taken out later, it is the keyword of the one ordering.
          have hfilter : ((fs.filter fun f => some f ≠ key).filter fun f => f ∉ sortKeys changes)
              = fs.filter fun f => f ∉ key.toList ++ sortKeys changes := by
            rw [List.filter_filter]
            apply List.filter_congr
            intro f _
            have hkey : f ∈ key.toList ↔ some f = key := by
              rw [Option.mem_toList, eq_comm]
            rw [Bool.eq_iff_iff, Bool.and_eq_true, decide_eq_true_iff, decide_eq_true_iff,
              decide_eq_true_iff, List.mem_append, hkey, not_or, and_comm]
          show _ ++ standing key changes = (fs ++ changes.flatMap Edit.selected).filter _
          rw [hfilter, ih key hone, List.filter_append]
          rfl
      | orderBy s =>
          -- This is the one ordering: there was none before and none follows.
          have hkeys : sortKeys (.orderBy s :: changes) = s.field :: sortKeys changes := rfl
          rw [hkeys] at hone ⊢
          cases key with
          | some g => exact absurd hone (by simp)
          | none => exact ih (some s.field) hone

/-- The same changes of each kind, each kind in its own order. -/
def SameByKind (changes changes' : List Edit) : Prop :=
  ∀ kind, changes.filter (fun c => c.kind = kind) = changes'.filter fun c => c.kind = kind

/-- What changes of one kind add is told by the changes of this kind. -/
theorem flatMap_filter_kind {α : Type} {adds : Edit → List α} (kind : EditKind)
    (h : ∀ c : Edit, c.kind ≠ kind → adds c = []) (changes : List Edit) :
    (changes.filter fun c => c.kind = kind).flatMap adds = changes.flatMap adds := by
  induction changes with
  | nil => rfl
  | cons c changes ih =>
      by_cases hc : c.kind = kind
      · rw [List.filter_cons, if_pos (decide_eq_true hc), List.flatMap_cons, List.flatMap_cons, ih]
      · rw [List.filter_cons, if_neg (by simpa using hc), List.flatMap_cons, ih, h c hc,
          List.nil_append]

theorem SameByKind.flatMap_eq {α : Type} {adds : Edit → List α} {changes changes' : List Edit}
    (hsame : SameByKind changes changes') (kind : EditKind)
    (h : ∀ c : Edit, c.kind ≠ kind → adds c = []) :
    changes.flatMap adds = changes'.flatMap adds := by
  rw [← flatMap_filter_kind kind h changes, hsame kind, flatMap_filter_kind kind h changes']

/-- There are as many orderings as changes of that kind. -/
theorem length_sortKeys (changes : List Edit) :
    (sortKeys changes).length = (changes.filter fun c => c.kind = .orderBy).length := by
  induction changes with
  | nil => rfl
  | cons c changes ih =>
      cases c with
      | orderBy s => exact congrArg Nat.succ ih
      | _ => exact ih

/-- **The changes of each kind tell the terms**, whatever stands between
them, as long as there is at most one ordering. -/
theorem SameByKind.collect_eq {changes changes' : List Edit} (hsame : SameByKind changes changes')
    (hone : (changes.filter fun c => c.kind = .orderBy).length ≤ 1) :
    Terms.collect changes = Terms.collect changes' := by
  have hfiltered : changes.flatMap Edit.filtered = changes'.flatMap Edit.filtered :=
    hsame.flatMap_eq .filter fun c hc => by cases c <;> first | rfl | exact absurd rfl hc
  have hexcluded : changes.flatMap Edit.excluded = changes'.flatMap Edit.excluded :=
    hsame.flatMap_eq .exclude fun c hc => by cases c <;> first | rfl | exact absurd rfl hc
  have hselected : changes.flatMap Edit.selected = changes'.flatMap Edit.selected :=
    hsame.flatMap_eq .select fun c hc => by cases c <;> first | rfl | exact absurd rfl hc
  have hordered : changes.flatMap Edit.ordered = changes'.flatMap Edit.ordered :=
    hsame.flatMap_eq .orderBy fun c hc => by cases c <;> first | rfl | exact absurd rfl hc
  have hkeys : sortKeys changes = sortKeys changes' := congrArg (List.map Sorting.field) hordered
  have hone' : (sortKeys changes).length ≤ 1 := by
    rw [length_sortKeys]
    exact hone
  have hstanding : standing none changes = standing none changes' := by
    rw [standing_eq changes none hone', standing_eq changes' none (by rw [← hkeys]; exact hone'),
      hselected, hkeys]
  rw [MaterialSearch.collect_eq, MaterialSearch.collect_eq, hfiltered, hexcluded, hordered,
    hstanding]

/-! ## §3. Search terms of predicates. -/

/-- **The search terms of all predicates**, or the error of the first one
that has none. -/
theorem renderAll_cases (es : List Expression) :
    (∃ terms, es.map Expression.render = terms.map .ok ∧ renderAll es = .ok terms)
      ∨ ∃ before e after cause, es = before ++ e :: after
          ∧ (∀ x ∈ before, ∃ term, x.render = .ok term)
          ∧ e.render = .error cause ∧ renderAll es = .error cause := by
  induction es with
  | nil => exact .inl ⟨[], rfl, rfl⟩
  | cons e es ih =>
      cases he : e.render with
      | error cause =>
          refine .inr ⟨[], e, es, cause, rfl, fun x hx => absurd hx List.not_mem_nil, he, ?_⟩
          unfold renderAll
          rw [he]
      | ok term =>
          -- The first one without a search term, if any, is among the rest.
          obtain ⟨terms, hterms, hall⟩ | ⟨before, x, after, cause, hsplit, hbefore, hx, hall⟩ := ih
          · refine .inl ⟨term :: terms, ?_, ?_⟩
            · rw [List.map_cons, List.map_cons, he, hterms]
            · unfold renderAll
              rw [he, hall]
          · refine .inr ⟨e :: before, x, after, cause, by rw [hsplit]; rfl, ?_, hx, ?_⟩
            · intro y hy
              obtain rfl | hy := List.mem_cons.mp hy
              · exact ⟨term, he⟩
              · exact hbefore y hy
            · unfold renderAll
              rw [he, hall]

/-! ## §4. The matchbook. -/

/-- The order of the last ordering, ascending without any. -/
def lastDirection (changes : List Edit) : Direction :=
  ((changes.flatMap Edit.ordered).getLast?.map Sorting.direction).getD .ascending

/-- **The parts of the matchbook** of changes whose predicates have these
search terms. -/
def assembledParts (changes : List Edit) (terms : List String) : List String :=
  ((changes.flatMap Edit.ordered).getLast?.map fun s => s.field.name).toList
    ++ (standing none changes).map Field.name
    ++ terms
    ++ (changes.flatMap Edit.excluded).map fun f => "$" ++ f.name

section Search

variable {s s' : Search} {changes : List Edit}

/-- Changes of a query without terms leave it as it was but for its terms. -/
theorem edits_query (hs : s.query.stage = .collecting .empty) (changes : List Edit) :
    (s.edits changes).query = { s.query with stage := .collecting (Terms.collect changes) } := by
  induction changes using List.reverseRecOn with
  | nil =>
      show s.query = { s.query with stage := .collecting .empty }
      rw [← hs]
  | append_singleton changes c ih =>
      have hstep : s.edits (changes ++ [c]) = ((s.edits changes).edit c).2 := by
        unfold Search.edits
        rw [List.foldl_append]
        rfl
      rw [hstep, collect_append]
      unfold Search.edit
      rw [ih]

theorem matchbook_edits (hs : s.query.stage = .collecting .empty) (changes : List Edit) :
    (s.edits changes).query.matchbook = (Terms.collect changes).matchbook := by
  unfold Query.matchbook
  rw [edits_query hs]

theorem direction_edits (hs : s.query.stage = .collecting .empty) (changes : List Edit) :
    (s.edits changes).query.direction = lastDirection changes := by
  unfold Query.direction
  rw [edits_query hs, collect_eq]
  unfold Terms.direction lastDirection
  cases (changes.flatMap Edit.ordered).getLast? <;> rfl

/-- What is written down depends on the query alone. -/
theorem finalize_congr (h : s.query = s'.query) : s.finalize.1 = s'.finalize.1 := by
  unfold Search.finalize
  rw [h]
  split <;> rfl

/-- The addresses of pages depend on the query alone. -/
theorem pageUrl_congr (h : s.query = s'.query) (p : Int64) :
    (s.pageUrl p).1 = (s'.pageUrl p).1 := by
  cases hbook : s.query.matchbook with
  | error cause =>
      have hbook' : s'.query.matchbook = .error cause := by rw [← h, hbook]
      rw [Search.pageUrl_error hbook, Search.pageUrl_error hbook']
  | ok book =>
      have hbook' : s'.query.matchbook = .ok book := by rw [← h, hbook]
      rw [Search.pageUrl_fixed hbook, Search.pageUrl_fixed hbook',
        Search.pageUrl_final Search.stage_fixed, Search.pageUrl_final Search.stage_fixed]
      unfold Search.fixed
      rw [h]

/-- **The matchbook when every predicate has a search term.** -/
theorem finalize_assembled (hs : s.query.stage = .collecting .empty) {terms : List String}
    (hterms : renderAll (changes.flatMap Edit.filtered) = .ok terms) :
    ∃ book, (s.edits changes).finalize.1 = .ok book
      ∧ book.parts = assembledParts changes terms
      ∧ book.direction = lastDirection changes := by
  have hbook := matchbook_edits hs changes
  have hdirection := direction_edits hs changes
  unfold Terms.matchbook at hbook
  rw [collect_eq, hterms] at hbook
  refine ⟨_, congrArg Prod.fst (Search.finalize_ok hbook), ?_, ?_⟩
  · unfold Matchbook.parts assembledParts
    rw [List.map_map]
    rfl
  · rw [← Query.direction_eq hbook, hdirection]

/-- **No matchbook** when some predicate has no search term. -/
theorem finalize_unassembled (hs : s.query.stage = .collecting .empty) {cause : PredicateError}
    (hcause : renderAll (changes.flatMap Edit.filtered) = .error cause) :
    (s.edits changes).finalize = (.error (.predicate cause), s.edits changes) := by
  have hbook := matchbook_edits hs changes
  unfold Terms.matchbook at hbook
  rw [collect_eq, hcause] at hbook
  exact Search.finalize_error hbook

/-- **The name to sort by is not among the selected names**, if names tell
the keywords of the changes apart. -/
theorem order_not_mem_selects (hs : s.query.stage = .collecting .empty) {book : Matchbook}
    (hbook : (s.edits changes).finalize.1 = .ok book)
    (hnames : ∀ c ∈ changes, ∀ f ∈ c.named, ∀ d ∈ changes, ∀ g ∈ d.named,
      f.name = g.name → f = g) :
    ∀ name, book.order = some name → name ∉ book.selects := by
  have hterms : (Terms.collect changes).matchbook = .ok book := by
    rw [← matchbook_edits hs changes]
    exact matchbook_of_finalize hbook
  unfold Terms.matchbook at hterms
  split at hterms
  · cases hterms
  · obtain rfl := Except.ok.inj hterms
    intro name horder hmem
    obtain ⟨o, ho, rfl⟩ := Option.map_eq_some_iff.mp horder
    obtain ⟨g, hg, hname⟩ := List.mem_map.mp hmem
    have hkey : (Terms.collect changes).sortKey = some o.field :=
      congrArg (Option.map Sorting.field) ho
    -- Both keywords come from some change, where one name is one keyword.
    obtain ⟨c, hc, hgc⟩ := exists_named_of_requests changes (.inr hg)
    obtain ⟨d, hd, hod⟩ := exists_named_of_requests changes (.inl hkey)
    obtain rfl := hnames c hc g hgc d hd o.field hod hname
    exact sortKey_not_selected changes o.field hkey hg

end Search

/-- **THE MATCHBOOK OF ALL CHANGES.**  After any changes of a query without
terms:

  * if every predicate has a search term, the matchbook holds the keyword of
    the last ordering, the keywords that stay selected, the search terms and
    the excluded keywords, each in the order of the changes;
  * the keyword of the last ordering is not among the selected ones;
  * with at most one ordering, the same changes of each kind give the same
    matchbook, direction and addresses, however the kinds alternate;
  * if some predicate has no search term, there is no matchbook, for the
    reason of the first of them. -/
theorem matchbook_canonical (s : Search) (changes : List Edit)
    (hs : s.query.stage = .collecting .empty) :
    ((∀ e ∈ changes.flatMap Edit.filtered, ∃ term, e.render = .ok term) →
        ∃ terms book, (changes.flatMap Edit.filtered).map Expression.render = terms.map .ok
          ∧ (s.edits changes).finalize.1 = .ok book
          ∧ book.text = ",".intercalate (assembledParts changes terms)
          ∧ book.direction = lastDirection changes)
      ∧ (∀ o, (changes.flatMap Edit.ordered).getLast? = some o → o.field ∉ standing none changes)
      ∧ (∀ changes', SameByKind changes changes' →
          (changes.filter fun c => c.kind = .orderBy).length ≤ 1 →
          (s.edits changes).finalize.1 = (s.edits changes').finalize.1
            ∧ (s.edits changes).query.direction = (s.edits changes').query.direction
            ∧ ∀ p, ((s.edits changes).pageUrl p).1 = ((s.edits changes').pageUrl p).1)
      ∧ ((∃ e ∈ changes.flatMap Edit.filtered, ∃ cause, e.render = .error cause) →
          ∃ before e after cause, changes.flatMap Edit.filtered = before ++ e :: after
            ∧ (∀ x ∈ before, ∃ term, x.render = .ok term) ∧ e.render = .error cause
            ∧ (s.edits changes).finalize = (.error (.predicate cause), s.edits changes)) := by
  have hcases := renderAll_cases (changes.flatMap Edit.filtered)
  refine ⟨?_, ?_, ?_, ?_⟩
  · intro hall
    obtain ⟨terms, hterms, hrender⟩ | ⟨before, e, after, cause, hsplit, -, he, -⟩ := hcases
    · obtain ⟨book, hbook, hparts, hdirection⟩ := finalize_assembled hs hrender
      exact ⟨terms, book, hterms, hbook, congrArg _ hparts, hdirection⟩
    · obtain ⟨term, hterm⟩ := hall e (by rw [hsplit]; simp)
      exact absurd (hterm.symm.trans he) (by simp)
  · -- The terms never select the keyword that they are sorted by.
    intro o ho
    have hkey : (Terms.collect changes).sortKey = some o.field := by
      rw [collect_eq]
      exact congrArg (Option.map Sorting.field) ho
    have hnot := sortKey_not_selected changes o.field hkey
    rw [collect_eq] at hnot
    exact hnot
  · -- Both arrangements lead to one and the same query.
    intro changes' hsame hone
    have hquery : (s.edits changes).query = (s.edits changes').query := by
      rw [edits_query hs, edits_query hs, hsame.collect_eq hone]
    exact ⟨finalize_congr hquery, congrArg Query.direction hquery, pageUrl_congr hquery⟩
  · intro hsome
    obtain ⟨terms, hterms, -⟩ | ⟨before, e, after, cause, hsplit, hbefore, he, hrender⟩ := hcases
    · obtain ⟨e, hmem, cause, he⟩ := hsome
      have hin : (.error cause : Except PredicateError String) ∈ terms.map Except.ok := by
        rw [← hterms, ← he]
        exact List.mem_map_of_mem hmem
      exact absurd hin (by simp)
    · exact ⟨before, e, after, cause, hsplit, hbefore, he, finalize_unassembled hs hrender⟩

/-- A search for files, as a predicate. -/
def Sample.withOutcar : Expression :=
  (Expression.ofField .files).compare .contains (.text "OUTCAR")

/-- Two comparisons that nothing combines. -/
def Sample.uncombined : Expression :=
  ((Expression.ofField .auid).compare .gt (.number (.int 0))).compare .lt (.number (.int 2))

/-- Changes of all four kinds, the ordering after what it takes out. -/
def Sample.orderedLate : List Edit :=
  [.select [.aurl, .auid], .filter Sample.withOutcar, .orderBy (.descending .aurl),
    .exclude [.files]]

/-- The same changes of each kind, the ordering first. -/
def Sample.orderedFirst : List Edit :=
  [.orderBy (.descending .aurl), .exclude [.files], .filter Sample.withOutcar,
    .select [.aurl, .auid]]

/-- A new query is open and without terms.  Its four changes give one
matchbook in both arrangements, and none after two predicates without a
search term. -/
theorem matchbook_canonical_orderedLate :
    (Search.start Config.standard).query.stage = .collecting .empty
      ∧ (∃ book, ((Search.start Config.standard).edits Sample.orderedLate).finalize.1 = .ok book
        ∧ ((Search.start Config.standard).edits Sample.orderedFirst).finalize.1 = .ok book
        ∧ book.text = "aurl,auid,files(*'OUTCAR'*),$files" ∧ book.direction = .descending)
      ∧ ((Search.start Config.standard).edits
            [.filter Sample.uncombined, .select [.auid], .filter Sample.uncombined]).finalize.1
          = .error (.predicate (.malformed .render 2 0)) := by
  have hrenders : ∀ e ∈ Sample.orderedLate.flatMap Edit.filtered, ∃ term, e.render = .ok term := by
    intro e he
    obtain rfl := List.mem_singleton.mp he
    exact ⟨"files(*'OUTCAR'*)", by decide⟩
  have hsame : SameByKind Sample.orderedLate Sample.orderedFirst := by
    intro kind
    cases kind <;> rfl
  have hlate := matchbook_canonical (Search.start Config.standard) Sample.orderedLate rfl
  obtain ⟨terms, book, hterms, hbook, htext, hdirection⟩ := hlate.1 hrenders
  obtain ⟨hfirst, -, -⟩ := hlate.2.2.1 Sample.orderedFirst hsame (by decide)
  have hterm : terms = ["files(*'OUTCAR'*)"] := by
    have hinj : Function.Injective (Except.ok : String → Except PredicateError String) :=
      fun _ _ => Except.ok.inj
    apply List.map_injective_iff.mpr hinj
    rw [← hterms]
    decide
  obtain ⟨before, e, after, cause, hsplit, hbefore, he, hnone⟩ :=
    (matchbook_canonical (Search.start Config.standard)
      [.filter Sample.uncombined, .select [.auid], .filter Sample.uncombined] rfl).2.2.2
      ⟨Sample.uncombined, by decide, .malformed .render 2 0, by decide⟩
  have hall : ∀ x ∈ before ++ e :: after, x = Sample.uncombined := by
    rw [← hsplit]
    decide
  have hcause : cause = .malformed .render 2 0 := by
    rw [hall e (by simp)] at he
    exact (Except.error.inj he).symm
  refine ⟨rfl, ⟨book, hbook, hfirst.symm.trans hbook, ?_, hdirection⟩, ?_⟩
  · rw [htext, hterm]
    decide
  · rw [hnone, hcause]

end MaterialSearch
