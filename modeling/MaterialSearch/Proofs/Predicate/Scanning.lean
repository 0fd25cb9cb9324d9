/-
  MaterialSearch.Proofs.Predicate.Scanning
  ────────────────────────────────
  **HOW A TEXT IS READ, PIECE BY PIECE.**

  A row of terms is cut by one pass that carries a flag for quotes and a
  depth of parentheses.  What the pass does inside a text depends on its
  surroundings through these two alone, and most texts give them back as
  they found them.  Such a text is solid at the depth where the pass stays
  within one term, and separable where it may cut.

  Marks are looked for by passes that carry the flag only.  They treat a
  text that closes its quotes on its own, whatever follows.

  Main definitions:
    * `isMarkup`, `IsWord`  — the characters with a meaning, texts without
    * `parenthesized`       — a text in parentheses
    * `joinRows`            — two rows of terms with a separator between them
    * `Solid`, `Separable`  — the texts that the pass for terms takes as one
    * `Closes`              — the texts that end outside quotes
    * `Atomic`              — the texts that no pass takes apart

  Main results:
    * `Solid.append`, `Solid.parenthesized` — larger solid texts
    * `Separable.append`                    — and separable ones
    * `negateTerms_append`                  — a row is negated part by part
-/
import MaterialSearch.Predicate.Negation

namespace MaterialSearch.Predicate

/-! ## §1. Characters and rows. -/

/-- A character that has a meaning in search terms. -/
def isMarkup (c : Char) : Bool :=
  c == '\'' || c == '!' || c == '*' || c == '(' || c == ')' || isSeparator c

/-- A text of characters without a meaning. -/
def IsWord (cs : List Char) : Prop := ∀ c ∈ cs, isMarkup c = false

instance (cs : List Char) : Decidable (IsWord cs) :=
  List.decidableBAll _ cs

theorem not_isMarkup {c : Char} (h : isMarkup c = false) :
    c ≠ '\'' ∧ c ≠ '!' ∧ c ≠ '*' ∧ c ≠ '(' ∧ c ≠ ')' ∧ isSeparator c = false := by
  simpa [isMarkup, and_assoc] using h

theorem IsWord.append {a b : List Char} (ha : IsWord a) (hb : IsWord b) :
    IsWord (a ++ b) := by
  intro c hc
  rcases List.mem_append.mp hc with h | h
  · exact ha c h
  · exact hb c h

/-- A text in parentheses. -/
def parenthesized (cs : List Char) : List Char := '(' :: (cs ++ [')'])

theorem parenthesized_inj {a b : List Char} (h : parenthesized a = parenthesized b) :
    a = b := List.append_cancel_right (List.cons.inj h).2

theorem ofList_parenthesized (cs : List Char) :
    String.ofList (parenthesized cs) = "(" ++ String.ofList cs ++ ")" :=
  String.toList_inj.mp (by simp [parenthesized])

theorem ofList_append_cons (a : List Char) (s : Char) (b : List Char) :
    String.ofList (a ++ s :: b)
      = String.ofList a ++ String.singleton s ++ String.ofList b :=
  String.toList_inj.mp (by simp)

theorem ofList_append_parenthesized (a : List Char) (s : Char) (b : List Char) :
    String.ofList (a ++ s :: parenthesized b)
      = String.ofList a ++ String.singleton s ++ "(" ++ String.ofList b ++ ")" := by
  rw [ofList_append_cons, ofList_parenthesized]
  simp only [String.append_assoc]

/-- Two rows of terms with a separator between them. -/
def joinRows {σ α : Type} (s : σ) (a b : α × List (σ × α)) : α × List (σ × α) :=
  (a.1, a.2 ++ (s, b.1) :: b.2)

theorem joinRows_assoc {σ α : Type} (s t : σ) (a b c : α × List (σ × α)) :
    joinRows s a (joinRows t b c) = joinRows t (joinRows s a b) c := by
  simp [joinRows]

/-! ## §2. Solid texts. -/

/-- **At this depth the text lies within one term**, and the reading goes
on behind it as it would have without it. -/
def Solid (depth : Nat) (cs : List Char) : Prop :=
  ∀ rest, terms false depth (cs ++ rest)
    = (cs ++ (terms false depth rest).1, (terms false depth rest).2)

theorem Solid.nil (d : Nat) : Solid d [] := fun _ => rfl

theorem Solid.append {d : Nat} {a b : List Char} (ha : Solid d a) (hb : Solid d b) :
    Solid d (a ++ b) := by
  intro rest
  rw [List.append_assoc, ha, hb, List.append_assoc]

/-- A solid text is one term. -/
theorem Solid.terms_eq {cs : List Char} {d : Nat} (h : Solid d cs) :
    terms false d cs = (cs, []) := by
  have := h []
  simpa [terms] using this

/-- A character that moves neither the flag nor the depth. -/
theorem solid_singleton (d : Nat) {c : Char} (hq : c ≠ '\'') (ho : c ≠ '(')
    (hc : c ≠ ')') (hs : isSeparator c = false) : Solid d [c] := by
  intro rest
  simp [terms, quotedAfter, hq, ho, hc, hs]

/-- Below the outermost level separators do not cut. -/
theorem solid_separator (d : Nat) {c : Char} (hs : isSeparator c = true) :
    Solid (d + 1) [c] := by
  intro rest
  have hcases : c = ',' ∨ c = ':' := by simpa [isSeparator] using hs
  rcases hcases with rfl | rfl <;> simp [terms, quotedAfter]

theorem IsWord.solid {cs : List Char} (h : IsWord cs) (d : Nat) : Solid d cs := by
  induction cs with
  | nil => exact Solid.nil d
  | cons c cs ih =>
    obtain ⟨hq, _, _, ho, hc, hs⟩ := not_isMarkup (h c List.mem_cons_self)
    exact (solid_singleton d hq ho hc hs).append
      (ih fun x hx => h x (List.mem_cons_of_mem _ hx))

/-- Inside quotes nothing counts but the next apostrophe. -/
theorem terms_quoted (d : Nat) {cs : List Char} (h : '\'' ∉ cs) (rest : List Char) :
    terms true d (cs ++ rest) = (cs ++ (terms true d rest).1, (terms true d rest).2) := by
  induction cs with
  | nil => rfl
  | cons c cs ih =>
    have hc : c ≠ '\'' := fun he => h (he ▸ List.mem_cons_self)
    have ih' := ih fun hm => h (List.mem_cons_of_mem _ hm)
    simp [terms, quotedAfter, hc, ih']

/-- **A text between apostrophes is solid**, whatever it holds but
apostrophes. -/
theorem solid_quoted (d : Nat) {cs : List Char} (h : '\'' ∉ cs) :
    Solid d ('\'' :: (cs ++ ['\''])) := by
  intro rest
  -- The apostrophe at the end is the first one that counts.
  have hin := terms_quoted d h ('\'' :: rest)
  simp [terms, quotedAfter, isSeparator] at hin ⊢
  simp [hin]

/-- **Parentheses make a text solid** one level further out. -/
theorem Solid.parenthesized {d : Nat} {cs : List Char} (h : Solid (d + 1) cs) :
    Solid d (parenthesized cs) := by
  intro rest
  -- Inside, the closing parenthesis belongs to what follows.
  have hin := h (')' :: rest)
  simp only [Predicate.parenthesized, List.cons_append, List.append_assoc,
    List.nil_append]
  simp [terms, quotedAfter, isSeparator] at hin ⊢
  simp [hin]

/-! ## §3. Rows of terms. -/

/-- **The reading is cut behind the text** when a separator follows, and
starts afresh. -/
def Separable (cs : List Char) : Prop :=
  ∀ (s : Char) (rest : List Char), isSeparator s = true →
    terms false 0 (cs ++ s :: rest)
      = joinRows s (terms false 0 cs) (terms false 0 rest)

theorem Solid.separable {cs : List Char} (h : Solid 0 cs) : Separable cs := by
  intro s rest hs
  rw [h, h.terms_eq]
  simp [terms, hs, joinRows]

/-- **Two rows with a separator between them are a row.** -/
theorem Separable.append {a b : List Char} (ha : Separable a) (hb : Separable b)
    {s : Char} (hs : isSeparator s = true) : Separable (a ++ s :: b) := by
  intro t rest ht
  -- Cut at the first separator, then at the second: rows join associatively.
  rw [List.append_assoc, List.cons_append, ha s _ hs, hb t _ ht, joinRows_assoc,
    ha s _ hs]

theorem rejoin_joinRows (s : Char) (a b : List Char × List (Char × List Char)) :
    rejoin (joinRows s a b) = rejoin a ++ s :: rejoin b := by
  simp [rejoin, joinRows]

/-- A text that is not cut is the only term of its row. -/
theorem terms_eq_of_uncut {cs : List Char} (h : (terms false 0 cs).2 = []) :
    terms false 0 cs = (cs, []) := by
  have hall := rejoin_terms false 0 cs
  rw [rejoin, h, List.flatMap_nil, List.append_nil] at hall
  exact Prod.ext hall h

/-- **A row is negated part by part.** -/
theorem negateTerms_append {a : List Char} (h : Separable a) {s : Char}
    (hs : isSeparator s = true) (b : List Char) :
    negateTerms (a ++ s :: b) = negateTerms a ++ s :: negateTerms b := by
  simp only [negateTerms]
  rw [h s b hs, ← rejoin_joinRows]
  simp [joinRows]

theorem Solid.negateTerms_eq {cs : List Char} (h : Solid 0 cs) :
    negateTerms cs = negateTerm cs := by
  simp [negateTerms, h.terms_eq, rejoin]

/-! ## §4. Quotes and marks. -/

/-- The text ends outside quotes if it begins there. -/
def Closes (cs : List Char) : Prop := cs.foldl quotedAfter false = false

theorem Closes.append {a b : List Char} (ha : Closes a) (hb : Closes b) :
    Closes (a ++ b) := by
  rw [Closes, List.foldl_append, ha]
  exact hb

theorem closes_singleton {c : Char} (h : c ≠ '\'') : Closes [c] := by
  simp [Closes, quotedAfter, h]

theorem IsWord.closes {cs : List Char} (h : IsWord cs) : Closes cs := by
  induction cs with
  | nil => rfl
  | cons c cs ih =>
    exact (closes_singleton (not_isMarkup (h c List.mem_cons_self)).1).append
      (ih fun x hx => h x (List.mem_cons_of_mem _ hx))

theorem foldl_quotedAfter {cs : List Char} (h : '\'' ∉ cs) (q : Bool) :
    cs.foldl quotedAfter q = q := by
  induction cs with
  | nil => rfl
  | cons c cs ih =>
    have hc : c ≠ '\'' := fun he => h (he ▸ List.mem_cons_self)
    rw [List.foldl_cons, quotedAfter, if_neg hc]
    exact ih fun hm => h (List.mem_cons_of_mem _ hm)

theorem closes_quoted {cs : List Char} (h : '\'' ∉ cs) :
    Closes ('\'' :: (cs ++ ['\''])) := by
  rw [Closes, List.foldl_cons, List.foldl_append]
  rw [foldl_quotedAfter h]
  rfl

theorem Closes.parenthesized {cs : List Char} (h : Closes cs) :
    Closes (parenthesized cs) :=
  (closes_singleton (by decide)).append (h.append (closes_singleton (by decide)))

theorem hasMark_append (q : Bool) (a b : List Char) :
    hasMark q (a ++ b) = (hasMark q a || hasMark (a.foldl quotedAfter q) b) := by
  induction a generalizing q with
  | nil => rfl
  | cons c cs ih => simp [hasMark, ih, Bool.or_assoc]

theorem dropMarks_append (q : Bool) (a b : List Char) :
    dropMarks q (a ++ b) = dropMarks q a ++ dropMarks (a.foldl quotedAfter q) b := by
  induction a generalizing q with
  | nil => rfl
  | cons c cs ih =>
    simp only [List.cons_append, dropMarks, List.foldl_cons, ih]
    split <;> rfl

/-- The first parenthesis lies in the first part that has one. -/
theorem markOpening?_append (q : Bool) (a b : List Char) :
    markOpening? q (a ++ b)
      = match markOpening? q a with
        | some a' => some (a' ++ b)
        | none => (markOpening? (a.foldl quotedAfter q) b).map (a ++ ·) := by
  induction a generalizing q with
  | nil => simp [markOpening?]
  | cons c cs ih =>
    simp only [List.cons_append, markOpening?, List.foldl_cons, ih]
    split
    · rfl
    · cases markOpening? (quotedAfter q c) cs with
      | some a' => rfl
      | none => simp [Function.comp_def]

/-- A text without marks has none to lose. -/
theorem dropMarks_eq_self {q : Bool} {cs : List Char} (h : hasMark q cs = false) :
    dropMarks q cs = cs := by
  induction cs generalizing q with
  | nil => rfl
  | cons c cs ih =>
    obtain ⟨hc, hcs⟩ := Bool.or_eq_false_iff.mp h
    rw [dropMarks, hc, if_neg Bool.false_ne_true, ih hcs]

theorem IsWord.hasMark_eq {cs : List Char} (h : IsWord cs) (q : Bool) :
    hasMark q cs = false := by
  induction cs generalizing q with
  | nil => rfl
  | cons c cs ih =>
    have hc := (not_isMarkup (h c List.mem_cons_self)).2.1
    simp [hasMark, hc, ih fun x hx => h x (List.mem_cons_of_mem _ hx)]

theorem hasMark_quoted {cs : List Char} (h : '\'' ∉ cs) :
    hasMark false ('\'' :: (cs ++ ['\''])) = false := by
  have hin : hasMark true cs = false := by
    induction cs with
    | nil => rfl
    | cons c cs ih =>
      have hc : c ≠ '\'' := fun he => h (he ▸ List.mem_cons_self)
      simpa [hasMark, quotedAfter, hc] using ih fun hm => h (List.mem_cons_of_mem _ hm)
  show hasMark true (cs ++ ['\'']) = false
  rw [hasMark_append, hin, foldl_quotedAfter h]
  rfl

/-! ## §5. Texts that no pass takes apart. -/

/-- **A text without structure outside quotes**: neither separators nor
parentheses, and every quote closed. -/
structure Atomic (cs : List Char) : Prop where
  solid : ∀ d, Solid d cs
  closes : Closes cs
  unopened : markOpening? false cs = none

theorem Atomic.append {a b : List Char} (ha : Atomic a) (hb : Atomic b) :
    Atomic (a ++ b) where
  solid d := (ha.solid d).append (hb.solid d)
  closes := ha.closes.append hb.closes
  unopened := by
    rw [markOpening?_append, ha.unopened, ha.closes, hb.unopened]
    rfl

theorem IsWord.atomic {cs : List Char} (h : IsWord cs) : Atomic cs where
  solid := h.solid
  closes := h.closes
  unopened := by
    suffices ∀ q, markOpening? q cs = none from this false
    induction cs with
    | nil => exact fun _ => rfl
    | cons c cs ih =>
      intro q
      have hc := (not_isMarkup (h c List.mem_cons_self)).2.2.2.1
      simp [markOpening?, hc, ih fun x hx => h x (List.mem_cons_of_mem _ hx)]

theorem atomic_quoted {cs : List Char} (h : '\'' ∉ cs) :
    Atomic ('\'' :: (cs ++ ['\''])) where
  solid d := solid_quoted d h
  closes := closes_quoted h
  unopened := by
    have hin : markOpening? true cs = none := by
      induction cs with
      | nil => rfl
      | cons c cs ih =>
        have hc : c ≠ '\'' := fun he => h (he ▸ List.mem_cons_self)
        simp [markOpening?, quotedAfter, hc, ih fun hm => h (List.mem_cons_of_mem _ hm)]
    have hopen : markOpening? true (cs ++ ['\'']) = none := by
      rw [markOpening?_append, hin]
      simp [markOpening?]
    simp [markOpening?, quotedAfter, hopen]

theorem atomic_star : Atomic ['*'] where
  solid d := solid_singleton d (by decide) (by decide) (by decide) (by decide)
  closes := closes_singleton (by decide)
  unopened := by decide

theorem atomic_mark : Atomic ['!'] where
  solid d := solid_singleton d (by decide) (by decide) (by decide) (by decide)
  closes := closes_singleton (by decide)
  unopened := by decide

end MaterialSearch.Predicate
