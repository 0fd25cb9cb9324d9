/-
  MaterialSearch.Proofs.Predicate.Toggling
  ────────────────────────────────
  **A TOGGLED FRAGMENT IS A FRAGMENT.**

  Negation edits text.  Taking all marks out of a fragment leaves a
  fragment.  A mark put into a fragment that has none lands at the start
  of a smaller fragment, either of the whole or of the first group; that
  may be a comparison, but also a parenthesis, which only the lenient
  dialect allows.  The documented one is what remains without a mark in
  front of a parenthesis.

  Main definitions:
    * `hasGroupMark` — whether a mark stands in front of a parenthesis

  Main results:
    * `Derives.dropMarks`     — a fragment without its marks
    * `Derives.toggle`        — **a toggled fragment**
    * `derives_documented_iff` — what tells the two dialects apart
-/
import MaterialSearch.Proofs.Predicate.Grammar

namespace MaterialSearch.Predicate

/-! ## §1. The passes, character by character. -/

section Passes

variable {c : Char} {cs a b : List Char}

theorem hasMark_cons (hq : c ≠ '\'') (hm : c ≠ '!') (cs : List Char) :
    hasMark false (c :: cs) = hasMark false cs := by
  simp [hasMark, quotedAfter, hq, hm]

theorem dropMarks_cons (hq : c ≠ '\'') (hm : c ≠ '!') (cs : List Char) :
    dropMarks false (c :: cs) = c :: dropMarks false cs := by
  simp [dropMarks, quotedAfter, hq, hm]

theorem Connective.token_plain (c : Connective) :
    c.token ≠ '\'' ∧ c.token ≠ '!' ∧ c.token ≠ '(' := by
  cases c <;> decide

theorem Closes.hasMark_append (ha : Closes a) (b : List Char) :
    hasMark false (a ++ b) = (hasMark false a || hasMark false b) := by
  rw [Predicate.hasMark_append, ha]

theorem Closes.dropMarks_append (ha : Closes a) (b : List Char) :
    dropMarks false (a ++ b) = dropMarks false a ++ dropMarks false b := by
  rw [Predicate.dropMarks_append, ha]

theorem Closes.hasMark_combined (ha : Closes a) (c : Connective) (b : List Char) :
    hasMark false (a ++ c.token :: b) = (hasMark false a || hasMark false b) := by
  rw [ha.hasMark_append, hasMark_cons c.token_plain.1 c.token_plain.2.1]

theorem Closes.dropMarks_combined (ha : Closes a) (c : Connective) (b : List Char) :
    dropMarks false (a ++ c.token :: b)
      = dropMarks false a ++ c.token :: dropMarks false b := by
  rw [ha.dropMarks_append, dropMarks_cons c.token_plain.1 c.token_plain.2.1]

theorem hasMark_parenthesized (ha : Closes a) :
    hasMark false (parenthesized a) = hasMark false a := by
  rw [parenthesized, hasMark_cons (by decide) (by decide), ha.hasMark_append]
  exact Bool.or_false _

theorem dropMarks_parenthesized (ha : Closes a) :
    dropMarks false (parenthesized a) = parenthesized (dropMarks false a) := by
  rw [parenthesized, dropMarks_cons (by decide) (by decide), ha.dropMarks_append]
  rfl

end Passes

/-! ## §2. Taking marks out. -/

section Out

variable {g : Dialect} {cs : List Char}

theorem IsComparison.dropMarks (h : IsComparison g cs) :
    IsComparison g (dropMarks false cs) := by
  induction h with
  | @upTo v hv =>
    rw [dropMarks_cons (by decide) (by decide),
      dropMarks_eq_self (Operand.hasMark_written hv)]
    exact .upTo hv
  | @onward v hv =>
    rw [(Operand.atomic_written hv).closes.dropMarks_append,
      dropMarks_eq_self (Operand.hasMark_written hv)]
    exact .onward hv
  | @exactly v hv =>
    rw [dropMarks_eq_self (Operand.hasMark_written hv)]
    exact .exactly hv
  | @other v hv =>
    show IsComparison g (Predicate.dropMarks false v.written.toList)
    rw [dropMarks_eq_self (Operand.hasMark_written hv)]
    exact .exactly hv
  | @containing v hv hn =>
    rw [dropMarks_cons (by decide) (by decide),
      (Operand.atomic_written hv).closes.dropMarks_append,
      dropMarks_eq_self (Operand.hasMark_written hv)]
    exact .containing hv hn
  | negated _ ih => exact ih

/-- **Without its marks a fragment is a fragment.** -/
theorem Parses.dropMarks {x : Reading} (h : Parses g cs x) :
    Derives g (dropMarks false cs) := by
  induction h with
  | comparison h => exact ⟨_, .comparison h.dropMarks⟩
  | combined c ha _ iha ihb =>
    obtain ⟨x, hx⟩ := iha
    obtain ⟨y, hy⟩ := ihb
    rw [ha.closes.dropMarks_combined]
    exact ⟨_, .combined c hx hy⟩
  | group ha iha =>
    obtain ⟨x, hx⟩ := iha
    rw [dropMarks_parenthesized ha.closes]
    exact ⟨_, .group hx⟩
  | @marked a _ _ ha iha =>
    obtain ⟨x, hx⟩ := iha
    show Derives g (Predicate.dropMarks false (parenthesized a))
    rw [dropMarks_parenthesized ha.closes]
    exact ⟨_, .group hx⟩

end Out

/-! ## §3. Putting a mark in. -/

section In

variable {g : Dialect} {cs : List Char} {x : Reading}

/-- **A mark in front of a fragment without marks** goes with its first
comparison or group. -/
theorem Parses.mark (hg : g.marksGroups) (h : Parses g cs x)
    (hm : hasMark false cs = false) : Derives g ('!' :: cs) := by
  induction h with
  | comparison h => exact ⟨_, .comparison h.negated⟩
  | combined c ha hb iha _ =>
    rw [ha.closes.hasMark_combined, Bool.or_eq_false_iff] at hm
    obtain ⟨x, hx⟩ := iha hm.1
    exact ⟨_, .combined c hx hb⟩
  | group ha _ => exact ⟨_, .marked hg ha⟩
  | marked _ _ _ => exact absurd hm (by simp [hasMark])

/-- **A mark behind the first parenthesis** goes in front of what is in
the parentheses. -/
theorem Parses.markOpening (hg : g.marksGroups) (h : Parses g cs x)
    (hm : hasMark false cs = false) :
    ∀ cs', markOpening? false cs = some cs' → Derives g cs' := by
  induction h with
  | comparison h =>
    intro cs' hcs
    rw [h.atomic.unopened] at hcs
    cases hcs
  | @combined a b _ _ c ha hb iha ihb =>
    rw [ha.closes.hasMark_combined, Bool.or_eq_false_iff] at hm
    intro cs' hcs
    rw [markOpening?_append, ha.closes] at hcs
    -- The first parenthesis is on the left, or there is none on the left.
    cases hopen : markOpening? false a with
    | some a' =>
      rw [hopen] at hcs
      obtain rfl := Option.some.inj hcs
      obtain ⟨x, hx⟩ := iha hm.1 a' hopen
      exact ⟨_, .combined c hx hb⟩
    | none =>
      rw [hopen] at hcs
      have hstep : markOpening? false (c.token :: b)
          = (markOpening? false b).map (c.token :: ·) := by
        simp [markOpening?, quotedAfter, c.token_plain.1, c.token_plain.2.2]
      simp only [hstep, Option.map_map, Option.map_eq_some_iff] at hcs
      obtain ⟨b', hb', rfl⟩ := hcs
      obtain ⟨y, hy⟩ := ihb hm.2 b' hb'
      exact ⟨_, .combined c ha hy⟩
  | @group a _ ha _ =>
    intro cs' hcs
    rw [hasMark_parenthesized ha.closes] at hm
    rw [markOpening?_parenthesized] at hcs
    obtain rfl := Option.some.inj hcs
    obtain ⟨x, hx⟩ := ha.mark hg hm
    exact ⟨_, .group hx⟩
  | marked _ _ _ => exact absurd hm (by simp [hasMark])

/-- **A toggled fragment is a fragment**, where groups may be marked. -/
theorem Derives.toggle (hg : g.marksGroups) (h : Derives g cs) :
    Derives g (toggle cs) := by
  obtain ⟨x, hx⟩ := h
  rw [Predicate.toggle]
  split
  · exact hx.dropMarks
  · next hm =>
    rw [Bool.not_eq_true] at hm
    cases hopen : markOpening? false cs with
    | some cs' => exact hx.markOpening hg hm cs' hopen
    | none => exact hx.mark hg hm

end In

/-! ## §4. Marks in front of parentheses. -/

/-- Whether a mark stands in front of a parenthesis, outside quotes. -/
def hasGroupMark (quoted : Bool) : List Char → Bool
  | [] => false
  | c :: cs =>
      (!quoted && c == '!' && cs.head? == some '(')
        || hasGroupMark (quotedAfter quoted c) cs

section GroupMarks

variable {g : Dialect} {c : Char} {a b cs : List Char}

theorem hasGroupMark_cons (hq : c ≠ '\'') (hm : c ≠ '!') (cs : List Char) :
    hasGroupMark false (c :: cs) = hasGroupMark false cs := by
  simp [hasGroupMark, quotedAfter, hq, hm]

/-- No mark of the first part looks across its end. -/
theorem hasGroupMark_append (hc : c ≠ '(') (q : Bool) (a b : List Char) :
    hasGroupMark q (a ++ c :: b)
      = (hasGroupMark q a || hasGroupMark (a.foldl quotedAfter q) (c :: b)) := by
  induction a generalizing q with
  | nil => rfl
  | cons d a ih =>
    have hhead : ((a ++ c :: b).head? == some '(') = (a.head? == some '(') := by
      cases a with
      | nil => simp [hc]
      | cons e a => rfl
    simp only [List.cons_append, hasGroupMark, hhead, List.foldl_cons, ih, Bool.or_assoc]

theorem IsWord.hasGroupMark_append {name : List Char} (h : IsWord name) (b : List Char) :
    hasGroupMark false (name ++ b) = hasGroupMark false b := by
  induction name with
  | nil => rfl
  | cons c cs ih =>
    obtain ⟨hq, hm, -⟩ := not_isMarkup (h c List.mem_cons_self)
    rw [List.cons_append, hasGroupMark_cons hq hm]
    exact ih fun x hx => h x (List.mem_cons_of_mem _ hx)

theorem hasGroupMark_combined (ha : Closes a) (c : Connective) (b : List Char) :
    hasGroupMark false (a ++ c.token :: b)
      = (hasGroupMark false a || hasGroupMark false b) := by
  rw [hasGroupMark_append c.token_plain.2.2, ha,
    hasGroupMark_cons c.token_plain.1 c.token_plain.2.1]

theorem hasGroupMark_parenthesized (ha : Closes a) :
    hasGroupMark false (parenthesized a) = hasGroupMark false a := by
  rw [parenthesized, hasGroupMark_cons (by decide) (by decide),
    hasGroupMark_append (by decide), ha]
  exact Bool.or_false _

theorem hasGroupMark_of_unopened {q : Bool} (h : markOpening? q cs = none) :
    hasGroupMark q cs = false := by
  induction cs generalizing q with
  | nil => rfl
  | cons c cs ih =>
    simp only [markOpening?] at h
    split at h
    · cases h
    · rw [Option.map_eq_none_iff] at h
      rw [hasGroupMark, ih h, Bool.or_false]
      -- A parenthesis behind the mark would itself stand outside quotes.
      cases cs with
      | nil => simp
      | cons d cs =>
        refine Bool.eq_false_iff.mpr fun hmark => ?_
        simp only [List.head?_cons, Option.some_beq_some, Bool.and_eq_true, beq_iff_eq,
          Bool.not_eq_eq_eq_not, Bool.not_true] at hmark
        obtain ⟨⟨rfl, rfl⟩, rfl⟩ := hmark
        simp [markOpening?, quotedAfter] at h

/-- Where groups cannot be marked no fragment has such a mark. -/
theorem Parses.hasGroupMark_eq (hg : ¬ g.marksGroups) {x : Reading} (h : Parses g cs x) :
    hasGroupMark false cs = false := by
  induction h with
  | comparison h => exact hasGroupMark_of_unopened h.atomic.unopened
  | combined c ha _ iha ihb => rw [hasGroupMark_combined ha.closes, iha, ihb]; rfl
  | group ha iha => rw [hasGroupMark_parenthesized ha.closes, iha]
  | marked h _ _ => exact absurd h hg

/-- A fragment without such a mark does not need the lenient dialect. -/
theorem Parses.documented {x : Reading} (h : Parses .lenient cs x)
    (hm : hasGroupMark false cs = false) : Derives .documented cs := by
  induction h with
  | comparison h => exact ⟨_, .comparison (h.mono (g := .lenient) fun _ hv => hv)⟩
  | combined c ha _ iha ihb =>
    rw [hasGroupMark_combined ha.closes, Bool.or_eq_false_iff] at hm
    obtain ⟨x, hx⟩ := iha hm.1
    obtain ⟨y, hy⟩ := ihb hm.2
    exact ⟨_, .combined c hx hy⟩
  | group ha iha =>
    rw [hasGroupMark_parenthesized ha.closes] at hm
    obtain ⟨x, hx⟩ := iha hm
    exact ⟨_, .group hx⟩
  | marked _ _ _ => exact absurd hm (by simp [hasGroupMark, parenthesized])

/-- **A mark in front of a parenthesis is all that the documented dialect
leaves out.** -/
theorem derives_documented_iff (h : Derives .lenient cs) :
    Derives .documented cs ↔ hasGroupMark false cs = false := by
  constructor
  · rintro ⟨x, hx⟩
    exact hx.hasGroupMark_eq id
  · intro hm
    obtain ⟨x, hx⟩ := h
    exact hx.documented hm

end GroupMarks

end MaterialSearch.Predicate
