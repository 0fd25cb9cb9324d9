/-
  MaterialSearch.Proofs.Predicate.Joining
  ────────────────────────────────
  **WHAT A ROW OF PREDICATES KEEPS, AND WHAT IT LOSES.**

  Expressions on different keywords are joined side by side, without
  parentheses.  The search term therefore is the row of the tree: every
  comparison with its keyword and every connective, from left to right.
  Nothing else can be read off it, so two trees that differ in their
  grouping alone have one search term, whether or not they mean the same.
  Trees that are grouped as one reader of rows assumes do mean the same.

  Main definitions:
    * `Combination.Across` — one comparison for each of several keywords
    * `Combination.text`   — the row of a tree, written
    * `Joined`             — the shape that an expression of a tree has

  Main results:
    * `joined_build`           — such a tree is built into such an expression
    * `text_eq_iff`            — equal texts are equal rows
    * `render_build_eq_iff_row` — **the search term is the row of the tree**
    * `render_eq_holds_ne`     — two groupings, one search term
-/
import MaterialSearch.Proofs.Predicate.Built

namespace MaterialSearch.Predicate

open MaterialSearch.Keyword

/-! ## §1. One comparison for each keyword. -/

/-- **The tree has one comparison for each of its keywords.** -/
structure Combination.Across (t : Combination Clause) : Prop where
  words : ∀ c ∈ t.leaves, IsWord c.field.name.toList
  plain : ∀ c ∈ t.leaves, c.operand.Plain
  distinct : (t.leaves.map fun c => c.field.name).Nodup

namespace Combination

/-- The row of the tree, written. -/
def text : Combination Clause → List Char
  | single c => c.predicate
  | both c l r => l.text ++ c.token :: r.text

theorem exists_mem_leaves {α : Type} (t : Combination α) : ∃ a, a ∈ t.leaves := by
  induction t with
  | single a => exact ⟨a, List.mem_singleton_self a⟩
  | both c l r ihl _ => exact ihl.imp fun _ => List.mem_append_left _

section Parts

variable {c : Connective} {l r : Combination Clause}

theorem Across.nodup_append (h : (both c l r).Across) :
    (l.leaves.map (fun c => c.field.name) ++ r.leaves.map fun c => c.field.name).Nodup := by
  rw [← List.map_append]
  exact h.distinct

theorem Across.left (h : (both c l r).Across) : l.Across where
  words x hx := h.words x (List.mem_append_left _ hx)
  plain x hx := h.plain x (List.mem_append_left _ hx)
  distinct := (List.nodup_append.mp h.nodup_append).1

theorem Across.right (h : (both c l r).Across) : r.Across where
  words x hx := h.words x (List.mem_append_right _ hx)
  plain x hx := h.plain x (List.mem_append_right _ hx)
  distinct := (List.nodup_append.mp h.nodup_append).2.1

theorem Across.name_ne (h : (both c l r).Across) {x y : Clause} (hx : x ∈ l.leaves)
    (hy : y ∈ r.leaves) : x.field.name ≠ y.field.name :=
  (List.nodup_append.mp h.nodup_append).2.2 _ (List.mem_map_of_mem hx) _
    (List.mem_map_of_mem hy)

end Parts

end Combination

/-! ## §2. The expression of a tree. -/

/-- **The shape of the expression of a tree**: its names are those of the
tree, and its text, bound, is the row. -/
structure Joined (t : Combination Clause) (e : Expression) : Prop where
  names : ∀ n, n ∈ e.keywords ↔ ∃ c ∈ t.leaves, n = c.field.name
  text : ∀ attempt, e.wrapped attempt = .ok (String.ofList t.text)

theorem joined_single (c : Clause) : Joined (.single c) c.expression where
  names := mem_keywords_single c
  text attempt := by
    show Except.ok (c.field.name ++ "(" ++ c.comparison.fragment c.operand ++ ")") = _
    rw [Combination.text, Clause.predicate, ofList_predicateText, Clause.fragment,
      String.ofList_toList]

/-- **Expressions of two sides without a common keyword are joined**, not
folded. -/
theorem Joined.combine {c : Connective} {l r : Combination Clause} {a b : Expression}
    (h : (Combination.both c l r).Across) (ha : Joined l a) (hb : Joined r b) :
    ∃ e, a.combine b c = .ok e ∧ Joined (.both c l r) e := by
  obtain ⟨x, hx⟩ := l.exists_mem_leaves
  obtain ⟨y, hy⟩ := r.exists_mem_leaves
  have hxa : x.field.name ∈ a.keywords := (ha.names _).mpr ⟨x, hx, rfl⟩
  have hyb : y.field.name ∈ b.keywords := (hb.names _).mpr ⟨y, hy, rfl⟩
  have hother : ∀ name, ¬(a.keywords = [name] ∧ b.keywords = [name]) := by
    rintro name ⟨hka, hkb⟩
    rw [hka, List.mem_singleton] at hxa
    rw [hkb, List.mem_singleton] at hyb
    exact h.name_ne hx hy (hxa.trans hyb.symm)
  have hjoin : a.combine b c = .ok ⟨mergeNames a.keywords b.keywords, [],
      [String.ofList (Combination.both c l r).text]⟩ := by
    rw [Expression.combine_of_wrapped hother (ha.text _) (hb.text _), Combination.text,
      ofList_append_cons]
  refine ⟨_, hjoin, mem_mergeNames_leaves c ha.names hb.names, fun attempt => ?_⟩
  -- Two names at least, so the text is taken to be bound already.
  have hsingle := Expression.single?_eq_none
    (e := ⟨mergeNames a.keywords b.keywords, [],
      [String.ofList (Combination.both c l r).text]⟩)
    ((mem_mergeNames _ _ _).mpr (.inl hxa)) ((mem_mergeNames _ _ _).mpr (.inr hyb))
    (h.name_ne hx hy)
  simp [Expression.wrapped, Expression.onlyText, Except.map, Expression.bound, hsingle]

/-- What a tree across keywords is built into. -/
theorem joined_build {t : Combination Clause} (h : t.Across) :
    ∃ e, t.build = .ok e ∧ Joined t e := by
  induction t with
  | single c => exact ⟨_, rfl, joined_single c⟩
  | both c l r ihl ihr =>
    obtain ⟨a, hal, ha⟩ := ihl h.left
    obtain ⟨b, hbr, hb⟩ := ihr h.right
    obtain ⟨e, he, hjoined⟩ := ha.combine h hb
    exact ⟨e, (Combination.build_both c hal hbr).trans he, hjoined⟩

/-! ## §3. The row can be read off the text. -/

/-- A row with its connectives written. -/
def writtenRow (row : List Char × List (Connective × List Char)) :
    List Char × List (Char × List Char) :=
  (row.1, row.2.map fun x => (x.1.token, x.2))

theorem writtenRow_inj {a b : List Char × List (Connective × List Char)}
    (h : writtenRow a = writtenRow b) : a = b := by
  obtain ⟨hfirst, hrest⟩ := Prod.mk.inj h
  refine Prod.ext hfirst ((List.map_inj_right fun x y hxy => ?_).mp hrest)
  obtain ⟨htoken, htext⟩ := Prod.mk.inj hxy
  exact Prod.ext (Connective.token_inj htoken) htext

theorem writtenRow_joinRows (c : Connective) (a b : List Char × List (Connective × List Char)) :
    writtenRow (joinRows c a b) = joinRows c.token (writtenRow a) (writtenRow b) := by
  simp [writtenRow, joinRows]

/-- The row is cut into the comparisons of the tree. -/
theorem terms_text {t : Combination Clause} (h : t.Across) :
    Separable t.text
      ∧ terms false 0 t.text = writtenRow (t.map Clause.predicate).row := by
  induction t with
  | single c =>
    have hc : c ∈ (Combination.single c).leaves := List.mem_singleton_self c
    -- Any dialect will do, so one that takes every operand for a needle.
    have hfragment : IsComparison ⟨fun _ => True, False⟩ c.fragment :=
      Comparison.isComparison_fragment (h.plain c hc) fun _ => trivial
    have hsolid : Solid 0 c.predicate :=
      Solid.predicateText (h.words c hc) (hfragment.atomic.solid 1)
    exact ⟨hsolid.separable, hsolid.terms_eq⟩
  | both c l r ihl ihr =>
    obtain ⟨hl, hlrow⟩ := ihl h.left
    obtain ⟨hr, hrrow⟩ := ihr h.right
    refine ⟨hl.append hr c.isSeparator_token, ?_⟩
    rw [Combination.text, hl _ _ c.isSeparator_token, hlrow, hrrow, ← writtenRow_joinRows]
    rfl

theorem text_eq_rejoin (t : Combination Clause) :
    t.text = rejoin (writtenRow (t.map Clause.predicate).row) := by
  induction t with
  | single c => simp [Combination.text, Combination.map, Combination.row, writtenRow, rejoin]
  | both c l r ihl ihr =>
    rw [Combination.map, Combination.row, writtenRow_joinRows, rejoin_joinRows, ← ihl, ← ihr]
    rfl

/-- **Equal texts are equal rows.** -/
theorem text_eq_iff {s t : Combination Clause} (hs : s.Across) (ht : t.Across) :
    s.text = t.text ↔ (s.map Clause.predicate).row = (t.map Clause.predicate).row := by
  constructor
  · intro h
    have hrow := congrArg (terms false 0) h
    rw [(terms_text hs).2, (terms_text ht).2] at hrow
    exact writtenRow_inj hrow
  · intro h
    rw [text_eq_rejoin s, text_eq_rejoin t, h]

/-! ## §4. Search terms of trees. -/

/-- **THE SEARCH TERM IS THE ROW OF THE TREE.**  Every tree across
keywords has a search term.  Two of them have the same one exactly when
their comparisons and connectives are the same from left to right; they
then mean the same if both are grouped as one connective binding more
tightly. -/
theorem render_build_eq_iff_row (s t : Combination Clause) (hs : s.Across) (ht : t.Across) :
    ∃ a b x y, s.build = .ok a ∧ t.build = .ok b ∧ a.render = .ok x ∧ b.render = .ok y
      ∧ (x = y ↔ (s.map Clause.predicate).row = (t.map Clause.predicate).row)
      ∧ (x = y → ∀ tight, s.Tight tight → t.Tight tight → ∀ truth,
          (s.map Clause.predicate).holds truth = (t.map Clause.predicate).holds truth) := by
  obtain ⟨a, hsa, ha⟩ := joined_build hs
  obtain ⟨b, htb, hb⟩ := joined_build ht
  have hiff : String.ofList s.text = String.ofList t.text
      ↔ (s.map Clause.predicate).row = (t.map Clause.predicate).row :=
    String.ofList_inj.trans (text_eq_iff hs ht)
  refine ⟨a, b, _, _, hsa, htb, Expression.render_of_wrapped (ha.text _),
    Expression.render_of_wrapped (hb.text _), hiff, ?_⟩
  intro heq tight hstight httight truth
  rw [(hstight.map _).holds_eq, (httight.map _).holds_eq, hiff.mp heq]

/-- Three comparisons, the first two of them combined first. -/
def Sample.leftFirst (c d : Connective) : Combination Clause :=
  .both d
    (.both c (.single ⟨.auid, .eq, .text "a"⟩) (.single ⟨.aurl, .contains, .text "),("⟩))
    (.single ⟨.files, .ne, .number (.int (-1))⟩)

/-- The same three, the last two of them combined first. -/
def Sample.rightFirst (c d : Connective) : Combination Clause :=
  .both c (.single ⟨.auid, .eq, .text "a"⟩)
    (.both d (.single ⟨.aurl, .contains, .text "),("⟩)
      (.single ⟨.files, .ne, .number (.int (-1))⟩))

theorem Sample.across_leftFirst (c d : Connective) : (Sample.leftFirst c d).Across where
  words x hx := isWord_name_of_mem_catalog _ (by revert x; cases c <;> cases d <;> decide)
  plain := by cases c <;> cases d <;> decide
  distinct := by cases c <;> cases d <;> decide

theorem Sample.across_rightFirst (c d : Connective) : (Sample.rightFirst c d).Across where
  words x hx := isWord_name_of_mem_catalog _ (by revert x; cases c <;> cases d <;> decide)
  plain := by cases c <;> cases d <;> decide
  distinct := by cases c <;> cases d <;> decide

/-- A chain of one connective means the same in either grouping. -/
theorem render_build_eq_iff_row_chain :
    (Sample.leftFirst .or .or).Across ∧ (Sample.rightFirst .or .or).Across
    ∧ ∃ a b x, (Sample.leftFirst .or .or).build = .ok a
        ∧ (Sample.rightFirst .or .or).build = .ok b
        ∧ a.render = .ok x ∧ b.render = .ok x
        ∧ ∀ truth, ((Sample.leftFirst .or .or).map Clause.predicate).holds truth
            = ((Sample.rightFirst .or .or).map Clause.predicate).holds truth := by
  have hl := Sample.across_leftFirst .or .or
  have hr := Sample.across_rightFirst .or .or
  obtain ⟨a, b, x, y, ha, hb, hx, hy, hrow, hholds⟩ := render_build_eq_iff_row _ _ hl hr
  obtain rfl : x = y := hrow.mpr rfl
  have htight : (Sample.leftFirst .or .or).Tight .or ∧ (Sample.rightFirst .or .or).Tight .or := by
    simp [Sample.leftFirst, Sample.rightFirst, Combination.Tight, Combination.Only]
  exact ⟨hl, hr, a, b, x, ha, hb, hx, hy, hholds rfl .or htight.1 htight.2⟩

/-- **Two groupings, one search term**: or and then and, the first two
comparisons combined first or the last two, where only the first holds. -/
theorem render_eq_holds_ne :
    (Sample.leftFirst .or .and).Across ∧ (Sample.rightFirst .or .and).Across
    ∧ ∃ a b, (Sample.leftFirst .or .and).build = .ok a
        ∧ (Sample.rightFirst .or .and).build = .ok b
        ∧ a.render = .ok "auid('a'):aurl(*'),('*),files(!-1)"
        ∧ b.render = .ok "auid('a'):aurl(*'),('*),files(!-1)"
        ∧ ((Sample.leftFirst .or .and).map Clause.predicate).holds (· == "auid('a')".toList)
          ≠ ((Sample.rightFirst .or .and).map Clause.predicate).holds
              (· == "auid('a')".toList) :=
  ⟨Sample.across_leftFirst .or .and, Sample.across_rightFirst .or .and,
    _, _, rfl, rfl, by cbv, by cbv, by decide⟩

end MaterialSearch.Predicate
