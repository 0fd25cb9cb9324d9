/-
  MaterialSearch.Proofs.Predicate.Binding
  ────────────────────────────────
  **TEXTS BOUND TO KEYWORDS.**

  An expression over one keyword holds bare fragments and is bound to the
  keyword when it leaves that keyword's company; an expression over
  several holds texts that are bound already.  Which of the two it is can
  be read off the names, as they are kept in ascending order and so each
  once.

  Main definitions:
    * `predicateText`     — a fragment bound to a name
    * `Clause.predicate`  — a comparison bound to its keyword

  Main results:
    * `isWord_name_of_mem_catalog` — the names of keywords are words
    * `mem_mergeNames`, `pairwise_mergeNames` — the names of two expressions
    * `Solid.predicateText`        — a bound fragment is one term
    * `render_of_wrapped`          — rendering is binding
-/
import MaterialSearch.Proofs.Predicate.Grammar

namespace MaterialSearch.Predicate

open MaterialSearch.Keyword

/-! ## §1. Names. -/

theorem isWord_toList_ofList {cs : List Char} (h : IsWord cs) :
    IsWord (String.ofList cs).toList := by
  rwa [String.toList_ofList]

/-- **No name of a keyword has a character with a meaning.** -/
theorem isWord_name_of_mem_catalog : ∀ f ∈ catalog, IsWord f.name.toList := by
  -- One name after the other, each taken as a list of characters.
  simp only [catalog, List.forall_mem_cons]
  repeat first
    | exact fun _ h => absurd h List.not_mem_nil
    | refine ⟨isWord_toList_ofList (by decide), ?_⟩

theorem mem_insertName (m name : String) (ns : List String) :
    m ∈ insertName name ns ↔ m = name ∨ m ∈ ns := by
  induction ns with
  | nil => simp [insertName]
  | cons n ns ih =>
    simp only [insertName]
    split
    · exact List.mem_cons
    · split
      · next hn => simp [hn]
      · simp only [List.mem_cons, ih]
        exact or_left_comm

theorem mem_mergeNames (m : String) (ms ns : List String) :
    m ∈ mergeNames ms ns ↔ m ∈ ms ∨ m ∈ ns := by
  induction ns generalizing ms with
  | nil => simp [mergeNames]
  | cons n ns ih =>
    show m ∈ mergeNames (insertName n ms) ns ↔ _
    rw [ih, mem_insertName, List.mem_cons]
    exact or_assoc.trans or_left_comm

/-- Names stay in ascending order. -/
theorem pairwise_insertName (name : String) {ns : List String}
    (h : ns.Pairwise (· < ·)) : (insertName name ns).Pairwise (· < ·) := by
  induction ns with
  | nil => exact List.pairwise_singleton _ _
  | cons n ns ih =>
    obtain ⟨hn, hns⟩ := List.pairwise_cons.mp h
    simp only [insertName]
    split
    · next hlt =>
      refine List.pairwise_cons.mpr ⟨fun m hm => ?_, h⟩
      rcases List.mem_cons.mp hm with rfl | hm
      · exact hlt
      · exact String.lt_trans hlt (hn m hm)
    · next hge =>
      split
      · exact h
      · next hne =>
        refine List.pairwise_cons.mpr ⟨fun m hm => ?_, ih hns⟩
        rcases (mem_insertName m name ns).mp hm with rfl | hm
        · exact Std.lt_of_le_of_ne (String.not_lt.mp hge) (Ne.symm hne)
        · exact hn m hm

theorem pairwise_mergeNames {ms : List String} (ns : List String)
    (h : ms.Pairwise (· < ·)) : (mergeNames ms ns).Pairwise (· < ·) := by
  induction ns generalizing ms with
  | nil => exact h
  | cons n ns ih => exact ih (pairwise_insertName n h)

/-! ## §2. Bound fragments. -/

/-- A fragment bound to a name. -/
def predicateText (name : String) (cs : List Char) : List Char :=
  name.toList ++ parenthesized cs

theorem ofList_predicateText (name : String) (cs : List Char) :
    String.ofList (predicateText name cs) = name ++ "(" ++ String.ofList cs ++ ")" := by
  rw [predicateText, String.ofList_append, ofList_parenthesized, String.ofList_toList]
  simp [String.append_assoc]

/-- **A bound fragment is one term.** -/
theorem Solid.predicateText {name : String} {cs : List Char} (hn : IsWord name.toList)
    (h : Solid 1 cs) : Solid 0 (predicateText name cs) :=
  (hn.solid 0).append h.parenthesized

/-- How a comparison is written, its keyword included.  Clauses that are
written the same ask the same of an entry. -/
def Clause.predicate (c : Clause) : List Char := predicateText c.field.name c.fragment

/-! ## §3. Expressions. -/

namespace Expression

theorem single?_eq_none {e : Expression} {m n : String} (hm : m ∈ e.keywords)
    (hn : n ∈ e.keywords) (hne : m ≠ n) : e.single? = none := by
  unfold single?
  split
  · next name hk =>
    rw [hk, List.mem_singleton] at hm hn
    exact absurd (hm.trans hn.symm) hne
  · rfl

/-- **Rendering is binding**, once there is a text. -/
theorem render_of_wrapped {e : Expression} {s : String} (h : e.wrapped .render = .ok s) :
    e.render = .ok s := by
  have hempty : e.isEmpty = false := by
    obtain ⟨ks, ps, rs⟩ := e
    cases ps <;> cases rs <;> first | rfl | cases h
  rw [render, hempty, if_neg Bool.false_ne_true, h]

end Expression

end MaterialSearch.Predicate
