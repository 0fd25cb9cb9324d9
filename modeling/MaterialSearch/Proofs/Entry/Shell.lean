/-
  MaterialSearch.Proofs.Entry.Shell
  ────────────────────────────────
  **WHAT A FILE NAME PATTERN MEANS.**

  A pattern is a row of parts, and a name matches if it can be cut into as
  many pieces so that every part takes its piece: a star takes any text, a
  question mark one character, a set one of its members, or one that is none
  of them, and any other character itself.

  The brackets of a set hold at least one character, and no closing bracket
  but in the first place.  A bracket that is followed by no such text is a
  character like any other.  So every text is the spelling of one pattern,
  and of one only.

  Main definitions:
    * `Shell.Part`, `Shell.Spells`  — patterns and how they are spelled
    * `Shell.InSet`                 — characters and ranges
    * `Shell.Matches`               — whole names

  Main results:
    * `Shell.exists_spells`, `Shell.Spells.unique` — every text spells one
      pattern
-/
import Mathlib.Data.List.Basic
import MaterialSearch.Entry.Matcher

namespace MaterialSearch

namespace Shell

/-! ## §1. Spelling. -/

/-- **One part of a pattern.** -/
inductive Part where
  /-- A star. -/
  | any
  /-- A question mark. -/
  | one
  /-- A character that means itself. -/
  | char (c : Char)
  /-- Brackets around `body`, after an exclamation mark if complemented. -/
  | set (complemented : Bool) (body : List Char)
  deriving Repr, DecidableEq

/-- The mark of a complemented set. -/
def mark (complemented : Bool) : List Char := if complemented then ['!'] else []

/-- What stands after the opening bracket of a set, the closing one included. -/
def setText (complemented : Bool) (body : List Char) : List Char :=
  mark complemented ++ body ++ [']']

/-- **What may stand in the brackets.**  A closing bracket is a member in the
first place only, and a mark in the first place is no member of a set that is
not complemented. -/
structure IsBody (complemented : Bool) (body : List Char) : Prop where
  ne_nil : body ≠ []
  unclosed : ']' ∉ body.tail
  unmarked : complemented = false → body.head? ≠ some '!'

/-- After this text's opening bracket there is no set. -/
def Unclosed (text : List Char) : Prop :=
  ∀ complemented body rest, IsBody complemented body → text ≠ setText complemented body ++ rest

/-- **The text of a pattern.** -/
inductive Spells : List Char → List Part → Prop
  | nil : Spells [] []
  | any {text : List Char} {parts : List Part} (h : Spells text parts) :
      Spells ('*' :: text) (.any :: parts)
  | one {text : List Char} {parts : List Part} (h : Spells text parts) :
      Spells ('?' :: text) (.one :: parts)
  | set {complemented : Bool} {body text : List Char} {parts : List Part}
      (hbody : IsBody complemented body) (h : Spells text parts) :
      Spells ('[' :: (setText complemented body ++ text)) (.set complemented body :: parts)
  | char {c : Char} {text : List Char} {parts : List Part} (hany : c ≠ '*') (hone : c ≠ '?')
      (hset : c = '[' → Unclosed text) (h : Spells text parts) :
      Spells (c :: text) (.char c :: parts)

/-! ## §2. Matching. -/

/-- The members between two brackets, read from left to right: ranges, and
characters as ranges of one. -/
def ranges : List Char → List CharRange
  | [] => []
  | first :: '-' :: last :: cs => ⟨first, last⟩ :: ranges cs
  | c :: cs => ⟨c, c⟩ :: ranges cs

/-- Whether a character is one of the members. -/
def InSet (body : List Char) (c : Char) : Prop := ∃ r ∈ ranges body, r.first ≤ c ∧ c ≤ r.last

instance (body : List Char) (c : Char) : Decidable (InSet body c) :=
  inferInstanceAs (Decidable (∃ r ∈ ranges body, _))

/-- There is no `&&`, `--` or `~~`. -/
def Undoubled (body : List Char) : Prop := ∀ c ∈ ['&', '-', '~'], ¬ [c, c] <:+: body

/-- **A body that is characters and ranges and nothing else**: no operator of
sets, and no range whose ends are in the wrong order. -/
structure IsPlain (body : List Char) : Prop where
  undoubled : Undoubled body
  ordered : ∀ r ∈ ranges body, r.first ≤ r.last

theorem Undoubled.tail {c : Char} {body : List Char} (h : Undoubled (c :: body)) :
    Undoubled body :=
  fun d hd hwithin => h d hd (hwithin.trans (List.suffix_cons c body).isInfix)

theorem Undoubled.not_both {c d : Char} {body : List Char} (h : Undoubled (c :: d :: body)) :
    ∀ e ∈ ['&', '-', '~'], ¬ (c = e ∧ d = e) := by
  rintro e he ⟨rfl, rfl⟩
  exact h d he ⟨[], body, rfl⟩

theorem ranges_cons {c : Char} {body : List Char} (h : body.head? ≠ some '-') :
    ranges (c :: body) = ⟨c, c⟩ :: ranges body := by
  rw [ranges]
  rintro last cs rfl
  exact h rfl

/-- What a part takes of a name. -/
def Part.Takes : Part → List Char → Prop
  | .any, _ => True
  | .one, piece => ∃ c, piece = [c]
  | .char c, piece => piece = [c]
  | .set complemented body, piece => ∃ c, piece = [c] ∧ (InSet body c ↔ complemented = false)

/-- **A whole name matches a pattern.** -/
def Matches : List Part → List Char → Prop
  | [], name => name = []
  | part :: parts, name =>
      ∃ piece rest, name = piece ++ rest ∧ part.Takes piece ∧ Matches parts rest

instance : (part : Part) → (piece : List Char) → Decidable (part.Takes piece)
  | .any, _ => .isTrue trivial
  | .one, [] => .isFalse (by rintro ⟨c, hc⟩; cases hc)
  | .one, [c] => .isTrue ⟨c, rfl⟩
  | .one, _ :: _ :: _ => .isFalse (by rintro ⟨c, hc⟩; cases hc)
  | .char c, piece => inferInstanceAs (Decidable (piece = [c]))
  | .set _ _, [] => .isFalse (by rintro ⟨c, hc, -⟩; cases hc)
  | .set complemented body, [c] =>
      decidable_of_iff (InSet body c ↔ complemented = false)
        ⟨fun h => ⟨c, rfl, h⟩, fun ⟨_, hc, h⟩ => by cases hc; exact h⟩
  | .set _ _, _ :: _ :: _ => .isFalse (by rintro ⟨c, hc, -⟩; cases hc)

/-- A name is cut somewhere. -/
theorem matches_cons_iff {part : Part} {parts : List Part} {name : List Char} :
    Matches (part :: parts) name
      ↔ ∃ k ∈ List.range (name.length + 1),
        part.Takes (name.take k) ∧ Matches parts (name.drop k) := by
  constructor
  · rintro ⟨piece, rest, rfl, hpiece, hrest⟩
    refine ⟨piece.length, List.mem_range.mpr ?_, ?_, ?_⟩
    · rw [List.length_append]
      omega
    · rwa [List.take_left]
    · rwa [List.drop_left]
  · rintro ⟨k, -, hpiece, hrest⟩
    exact ⟨_, _, (List.take_append_drop k name).symm, hpiece, hrest⟩

instance decidableMatches :
    (parts : List Part) → (name : List Char) → Decidable (Matches parts name)
  | [], name => inferInstanceAs (Decidable (name = []))
  | _ :: parts, _ =>
      have := decidableMatches parts
      decidable_of_iff _ matches_cons_iff.symm

/-- **A star** may take nothing. -/
theorem matches_any_nil {parts : List Part} : Matches (.any :: parts) [] ↔ Matches parts [] := by
  constructor
  · rintro ⟨piece, rest, hname, -, hrest⟩
    obtain ⟨-, rfl⟩ := List.append_eq_nil_iff.mp hname.symm
    exact hrest
  · intro h
    exact ⟨[], [], rfl, trivial, h⟩

/-- **A star** takes nothing, or one character and still stands there. -/
theorem matches_any_cons {parts : List Part} {c : Char} {name : List Char} :
    Matches (.any :: parts) (c :: name)
      ↔ Matches parts (c :: name) ∨ Matches (.any :: parts) name := by
  constructor
  · rintro ⟨piece, rest, hname, -, hrest⟩
    cases piece with
    | nil =>
      rw [hname]
      exact .inl hrest
    | cons d piece =>
      obtain ⟨-, rfl⟩ := List.cons.inj hname
      exact .inr ⟨piece, rest, rfl, trivial, hrest⟩
  · rintro (h | ⟨piece, rest, rfl, -, hrest⟩)
    · exact ⟨[], c :: name, rfl, trivial, h⟩
    · exact ⟨c :: piece, rest, rfl, trivial, hrest⟩

/-- **Any other part** takes one character. -/
theorem Part.Takes.eq_singleton {part : Part} {piece : List Char} (h : part.Takes piece)
    (hpart : part ≠ .any) : ∃ c, piece = [c] := by
  cases part with
  | any => exact absurd rfl hpart
  | one => exact h
  | char c => exact ⟨c, h⟩
  | set complemented body =>
    obtain ⟨c, hpiece, -⟩ := h
    exact ⟨c, hpiece⟩

theorem not_matches_nil {part : Part} {parts : List Part} (hpart : part ≠ .any) :
    ¬ Matches (part :: parts) [] := by
  rintro ⟨piece, rest, hname, hpiece, -⟩
  obtain ⟨c, rfl⟩ := hpiece.eq_singleton hpart
  exact absurd hname (by simp)

theorem matches_part_cons {part : Part} {parts : List Part} {c : Char} {name : List Char}
    (hpart : part ≠ .any) :
    Matches (part :: parts) (c :: name) ↔ part.Takes [c] ∧ Matches parts name := by
  constructor
  · rintro ⟨piece, rest, hname, hpiece, hrest⟩
    obtain ⟨d, rfl⟩ := hpiece.eq_singleton hpart
    obtain ⟨rfl, rfl⟩ := List.cons.inj hname
    exact ⟨hpiece, hrest⟩
  · rintro ⟨hpiece, hrest⟩
    exact ⟨[c], name, rfl, hpiece, hrest⟩

/-! ## §3. Every text spells one pattern. -/

theorem length_lt_setText (complemented : Bool) (body rest : List Char) :
    rest.length < (setText complemented body ++ rest).length := by
  simp only [setText, List.length_append, List.length_singleton]
  omega

/-- **Every text spells a pattern.** -/
theorem exists_spells (text : List Char) : ∃ parts, Spells text parts := by
  -- A set may be long, so the induction is on the length of what remains.
  induction hn : text.length using Nat.strongRecOn generalizing text with
  | ind n ih =>
    cases text with
    | nil => exact ⟨[], .nil⟩
    | cons c text =>
      have hlt : text.length < n := by
        rw [← hn, List.length_cons]
        omega
      obtain ⟨parts, hparts⟩ := ih _ hlt text rfl
      by_cases hany : c = '*'
      · rw [hany]
        exact ⟨_, hparts.any⟩
      by_cases hone : c = '?'
      · rw [hone]
        exact ⟨_, hparts.one⟩
      by_cases hset : c = '[' ∧ ¬ Unclosed text
      · obtain ⟨rfl, hclosed⟩ := hset
        simp only [Unclosed, not_forall, not_not] at hclosed
        obtain ⟨complemented, body, rest, hbody, rfl⟩ := hclosed
        obtain ⟨after, hafter⟩ :=
          ih _ (Nat.lt_trans (length_lt_setText complemented body rest) hlt) rest rfl
        exact ⟨_, .set hbody hafter⟩
      · exact ⟨_, hparts.char hany hone fun hc => not_not.mp fun h => hset ⟨hc, h⟩⟩

/-- The place of the first closing bracket. -/
theorem findIdx?_closing {before : List Char} (h : ']' ∉ before) (after : List Char) :
    (before ++ ']' :: after).findIdx? (· = ']') = some before.length := by
  have hbefore : before.findIdx? (· = ']') = none := by
    rw [List.findIdx?_eq_none_iff]
    intro c hc
    exact decide_eq_false fun heq => h (heq ▸ hc)
  rw [List.findIdx?_append, hbefore, List.findIdx?_cons, if_pos (by decide), Option.none_or,
    Option.map_some, Nat.zero_add]

/-- A body ends where the brackets are closed. -/
theorem body_unique {body body' rest rest' : List Char} (hne : body ≠ []) (hne' : body' ≠ [])
    (h : ']' ∉ body.tail) (h' : ']' ∉ body'.tail)
    (heq : body ++ ']' :: rest = body' ++ ']' :: rest') : body = body' ∧ rest = rest' := by
  obtain ⟨c, tail, rfl⟩ := List.exists_cons_of_ne_nil hne
  obtain ⟨c', tail', rfl⟩ := List.exists_cons_of_ne_nil hne'
  obtain ⟨rfl, htails⟩ : c = c' ∧ tail ++ ']' :: rest = tail' ++ ']' :: rest' :=
    List.cons.inj heq
  -- Both first closing brackets are at the same place.
  have hlength : tail.length = tail'.length := by
    rw [← Option.some_inj, ← findIdx?_closing (show ']' ∉ tail from h) rest, htails,
      findIdx?_closing (show ']' ∉ tail' from h')]
  obtain ⟨rfl, hrests⟩ := List.append_inj htails hlength
  exact ⟨rfl, (List.cons.inj hrests).2⟩

theorem setText_append (complemented : Bool) (body rest : List Char) :
    setText complemented body ++ rest = mark complemented ++ (body ++ ']' :: rest) := by
  simp only [setText, List.append_assoc, List.singleton_append]

/-- A set begins with the mark if it is complemented, and only then. -/
theorem IsBody.head?_setText {complemented : Bool} {body : List Char}
    (h : IsBody complemented body) (rest : List Char) :
    (setText complemented body ++ rest).head? = some '!' ↔ complemented = true := by
  rw [setText_append]
  cases complemented with
  | true => exact iff_of_true rfl rfl
  | false =>
    obtain ⟨c, tail, rfl⟩ := List.exists_cons_of_ne_nil h.ne_nil
    exact iff_of_false (h.unmarked rfl) (by decide)

/-- **A set is spelled in one way.** -/
theorem setText_inj {complemented complemented' : Bool} {body body' rest rest' : List Char}
    (h : IsBody complemented body) (h' : IsBody complemented' body')
    (heq : setText complemented body ++ rest = setText complemented' body' ++ rest') :
    complemented = complemented' ∧ body = body' ∧ rest = rest' := by
  obtain rfl : complemented = complemented' := by
    rw [Bool.eq_iff_iff, ← h.head?_setText rest, ← h'.head?_setText rest', heq]
  rw [setText_append, setText_append] at heq
  exact ⟨rfl, body_unique h.ne_nil h'.ne_nil h.unclosed h'.unclosed
    (List.append_cancel_left heq)⟩

/-- **A text spells one pattern only.** -/
theorem Spells.unique {text : List Char} {parts parts' : List Part} (h : Spells text parts)
    (h' : Spells text parts') : parts = parts' := by
  induction h generalizing parts' with
  | nil =>
    cases h'
    rfl
  | any h ih =>
    cases h' with
    | any h' => rw [ih h']
    | char hany => exact absurd rfl hany
  | one h ih =>
    cases h' with
    | one h' => rw [ih h']
    | char _ hone => exact absurd rfl hone
  | set hbody h ih =>
    -- The other spelling begins with the same bracket and may cut elsewhere.
    generalize htext : setText _ _ ++ _ = text at h'
    cases h' with
    | set hbody' h' =>
      obtain ⟨rfl, rfl, rfl⟩ := setText_inj hbody hbody' htext
      rw [ih h']
    | char _ _ hset => exact absurd htext.symm (hset rfl _ _ _ hbody)
  | char hany hone hset h ih =>
    cases h' with
    | any => exact absurd rfl hany
    | one => exact absurd rfl hone
    | set hbody => exact absurd rfl (hset rfl _ _ _ hbody)
    | char _ _ _ h' => rw [ih h']

/-- The sets of a pattern are spelled as sets are. -/
theorem Spells.isBody {text : List Char} {parts : List Part} {complemented : Bool}
    {body : List Char} (h : Spells text parts) (hmem : .set complemented body ∈ parts) :
    IsBody complemented body := by
  induction h with
  | nil => exact absurd hmem List.not_mem_nil
  | any _ ih | one _ ih =>
    exact ih ((List.mem_cons.mp hmem).resolve_left (by simp))
  | char _ _ _ _ ih => exact ih ((List.mem_cons.mp hmem).resolve_left (by simp))
  | set hbody _ ih =>
    obtain heq | hmem := List.mem_cons.mp hmem
    · cases heq
      exact hbody
    · exact ih hmem

/-- What stands in the brackets of a set stands in the text as it is. -/
theorem Spells.isInfix {text : List Char} {parts : List Part} {complemented : Bool}
    {body : List Char} (h : Spells text parts) (hmem : .set complemented body ∈ parts) :
    body <:+: text := by
  induction h with
  | nil => exact absurd hmem List.not_mem_nil
  | any _ ih | one _ ih | char _ _ _ _ ih =>
    exact (ih ((List.mem_cons.mp hmem).resolve_left (by simp))).trans
      (List.suffix_cons _ _).isInfix
  | @set complemented' body' text parts _ _ ih =>
    obtain heq | hmem := List.mem_cons.mp hmem
    · cases heq
      rw [setText_append]
      exact ⟨'[' :: mark complemented, ']' :: text, by simp⟩
    · exact ((ih hmem).trans (List.suffix_append _ _).isInfix).trans
        (List.suffix_cons _ _).isInfix

end Shell

end MaterialSearch
