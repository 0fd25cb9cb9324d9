/-
  MaterialSearch.Proofs.Predicate.Combination
  ────────────────────────────────
  **WHAT A COMBINATION OF COMPARISONS MEANS.**

  A combination is a tree: comparisons at the leaves, and or or at the
  nodes.  It has a truth value for every choice of truth values at the
  leaves, and it has an expression, built from the leaves upward.

  Read from left to right a tree is a row of leaves with connectives
  between them.  The row forgets the grouping.  A reader of rows may let
  one of the connectives bind more tightly than the other, and a tree
  whose grouping is the one that such a reader assumes loses nothing.

  Main definitions:
    * `Connective.apply`   — and and or of truth values
    * `Clause`             — a comparison on a keyword
    * `Combination`        — trees, with `leaves`, `holds` and `row`
    * `Combination.build`  — the expression of a tree
    * `holdsRow`           — a row, one connective binding more tightly
    * `Combination.Tight`  — the trees that are grouped that way

  Main results:
    * `Combination.Tight.holds_eq` — such a tree is true when its row is
-/
import MaterialSearch.Proofs.Predicate.Written

namespace MaterialSearch.Predicate

open MaterialSearch.Keyword

/-! ## §1. Connectives and clauses. -/

/-- The connective of two truth values. -/
def Connective.apply : Connective → Bool → Bool → Bool
  | .and => fun a b => a && b
  | .or => fun a b => a || b

theorem Connective.apply_comm (c : Connective) (a b : Bool) : c.apply a b = c.apply b a := by
  cases c
  · exact Bool.and_comm a b
  · exact Bool.or_comm a b

theorem Connective.apply_assoc (c : Connective) (a b d : Bool) :
    c.apply (c.apply a b) d = c.apply a (c.apply b d) := by
  cases c
  · exact Bool.and_assoc a b d
  · exact Bool.or_assoc a b d

theorem Connective.isSeparator_token (c : Connective) : isSeparator c.token = true := by
  cases c <;> rfl

theorem Connective.token_inj {c d : Connective} (h : c.token = d.token) : c = d := by
  cases c <;> cases d <;> first | rfl | exact absurd h (by decide)

/-- A comparison on a keyword. -/
structure Clause where
  field : Field
  comparison : Comparison
  operand : Operand
  deriving Repr, DecidableEq

namespace Clause

/-- How the comparison is written. -/
def fragment (c : Clause) : List Char := (c.comparison.fragment c.operand).toList

/-- The expression of the clause alone. -/
def expression (c : Clause) : Expression :=
  (Expression.ofField c.field).compare c.comparison c.operand

end Clause

/-! ## §2. Trees. -/

/-- Leaves combined by and and or, in any grouping. -/
inductive Combination (α : Type) where
  | single (a : α)
  | both (c : Connective) (l r : Combination α)
  deriving Repr, DecidableEq

namespace Combination

variable {α β : Type}

/-- The same tree with other leaves. -/
def map (f : α → β) : Combination α → Combination β
  | single a => single (f a)
  | both c l r => both c (l.map f) (r.map f)

/-- The leaves from left to right. -/
def leaves : Combination α → List α
  | single a => [a]
  | both _ l r => l.leaves ++ r.leaves

/-- **The truth value of the tree** when its leaves have these. -/
def holds (truth : α → Bool) : Combination α → Bool
  | single a => truth a
  | both c l r => c.apply (l.holds truth) (r.holds truth)

/-- The leaves from left to right with the connectives between them. -/
def row : Combination α → α × List (Connective × α)
  | single a => (a, [])
  | both c l r => joinRows c l.row r.row

/-- **The expression of the tree**: each leaf compared, each node combined
once both its sides are there. -/
def build : Combination Clause → Except PredicateError Expression
  | single c => .ok c.expression
  | both c l r =>
      match l.build, r.build with
      | .ok a, .ok b => a.combine b c
      | .error e, _ => .error e
      | _, .error e => .error e

theorem build_both {l r : Combination Clause} {a b : Expression} (c : Connective)
    (hl : l.build = .ok a) (hr : r.build = .ok b) :
    (both c l r).build = a.combine b c := by
  simp only [build, hl, hr]

/-! ## §3. Rows and the grouping that they assume. -/

/-- Whether all connectives of the tree are this one. -/
def Only (c : Connective) : Combination α → Prop
  | single _ => True
  | both d l r => d = c ∧ l.Only c ∧ r.Only c

/-- **The tree is grouped as if `tight` bound more tightly**: beneath a
node with it there is no other connective. -/
def Tight (tight : Connective) : Combination α → Prop
  | single _ => True
  | both c l r =>
      (c = tight → l.Only tight ∧ r.Only tight) ∧ l.Tight tight ∧ r.Tight tight

theorem Only.map {c : Connective} {t : Combination α} (h : t.Only c) (f : α → β) :
    (t.map f).Only c := by
  induction t with
  | single a => trivial
  | both d l r ihl ihr => exact ⟨h.1, ihl h.2.1, ihr h.2.2⟩

theorem Tight.map {tight : Connective} {t : Combination α} (h : t.Tight tight)
    (f : α → β) : (t.map f).Tight tight := by
  induction t with
  | single a => trivial
  | both c l r ihl ihr =>
    exact ⟨fun hc => ⟨(h.1 hc).1.map f, (h.1 hc).2.map f⟩, ihl h.2.1, ihr h.2.2⟩

theorem Only.row {c : Connective} {t : Combination α} (h : t.Only c) :
    ∀ x ∈ t.row.2, x.1 = c := by
  induction t with
  | single a => exact fun _ hx => absurd hx List.not_mem_nil
  | both d l r ihl ihr =>
    intro x hx
    rcases List.mem_append.mp hx with hl | hr
    · exact ihl h.2.1 x hl
    · rcases List.mem_cons.mp hr with rfl | hr
      · exact h.1
      · exact ihr h.2.2 x hr

end Combination

/-! ## §4. Reading a row. -/

section Rows

variable {α : Type}

/-- The truth value of the rest of a row behind a part with the value
`sofar`, when `tight` binds more tightly. -/
def holdsRest (tight : Connective) (truth : α → Bool) (sofar : Bool) :
    List (Connective × α) → Bool
  | [] => sofar
  | (c, a) :: rest =>
      if c = tight then holdsRest tight truth (c.apply sofar (truth a)) rest
      else c.apply sofar (holdsRest tight truth (truth a) rest)

/-- **The truth value of a row**, when `tight` binds more tightly. -/
def holdsRow (tight : Connective) (truth : α → Bool) (row : α × List (Connective × α)) :
    Bool :=
  holdsRest tight truth (truth row.1) row.2

/-- A row of the tight connective alone is one chain. -/
theorem holdsRest_apply (tight : Connective) (truth : α → Bool) (a b : Bool)
    (xs : List (Connective × α)) (h : ∀ x ∈ xs, x.1 = tight) :
    holdsRest tight truth (tight.apply a b) xs
      = tight.apply a (holdsRest tight truth b xs) := by
  induction xs generalizing b with
  | nil => rfl
  | cons x xs ih =>
    obtain ⟨c, y⟩ := x
    have hc : c = tight := h (c, y) List.mem_cons_self
    subst hc
    simp only [holdsRest, if_true]
    rw [Connective.apply_assoc, ih _ fun x hx => h x (List.mem_cons_of_mem _ hx)]

/-- Two chains of the tight connective, with it between them. -/
theorem holdsRow_joinRows_tight (tight : Connective) (truth : α → Bool)
    (a b : α × List (Connective × α)) (ha : ∀ x ∈ a.2, x.1 = tight)
    (hb : ∀ x ∈ b.2, x.1 = tight) :
    holdsRow tight truth (joinRows tight a b)
      = tight.apply (holdsRow tight truth a) (holdsRow tight truth b) := by
  obtain ⟨first, xs⟩ := a
  simp only [holdsRow, joinRows]
  -- Along the first row, whose value so far grows.
  generalize truth first = sofar
  induction xs generalizing sofar with
  | nil =>
    simp only [List.nil_append, holdsRest, if_true]
    exact holdsRest_apply tight truth sofar (truth b.1) b.2 hb
  | cons x xs ih =>
    obtain ⟨c, y⟩ := x
    have hc : c = tight := ha (c, y) List.mem_cons_self
    subst hc
    simp only [List.cons_append, holdsRest, if_true]
    exact ih (fun x hx => ha x (List.mem_cons_of_mem _ hx)) _

/-- The other connective splits a row where it stands. -/
theorem holdsRow_joinRows_loose {tight c : Connective} (hc : c ≠ tight)
    (truth : α → Bool) (a b : α × List (Connective × α)) :
    holdsRow tight truth (joinRows c a b)
      = c.apply (holdsRow tight truth a) (holdsRow tight truth b) := by
  obtain ⟨first, xs⟩ := a
  simp only [holdsRow, joinRows]
  generalize truth first = sofar
  induction xs generalizing sofar with
  | nil => simp only [List.nil_append, holdsRest, if_neg hc]
  | cons x xs ih =>
    obtain ⟨d, y⟩ := x
    simp only [List.cons_append, holdsRest]
    split
    · exact ih _
    · next hd =>
      -- Only two connectives exist, so a loose one is this one.
      have hdc : d = c := by cases d <;> cases c <;> cases tight <;> simp_all
      subst hdc
      rw [ih, Connective.apply_assoc]

/-- **A tree that is grouped as the reader assumes is true when its row
is.** -/
theorem Combination.Tight.holds_eq {tight : Connective} {t : Combination α}
    (h : t.Tight tight) (truth : α → Bool) :
    t.holds truth = holdsRow tight truth t.row := by
  induction t with
  | single a => rfl
  | both c l r ihl ihr =>
    show c.apply (l.holds truth) (r.holds truth)
      = holdsRow tight truth (joinRows c l.row r.row)
    rw [ihl h.2.1, ihr h.2.2]
    by_cases hc : c = tight
    · subst hc
      obtain ⟨hl, hr⟩ := h.1 rfl
      exact (holdsRow_joinRows_tight c truth l.row r.row hl.row hr.row).symm
    · exact (holdsRow_joinRows_loose hc truth l.row r.row).symm

end Rows

end MaterialSearch.Predicate
