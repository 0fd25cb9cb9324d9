/-
  MaterialSearch.Proofs.Entry.Brackets
  ────────────────────────────────
  **A PATTERN BY ITS PLACES.**

  A pattern is gone through from left to right by the places of its
  characters.  At an opening bracket the closing one is looked for, the
  characters between the two are taken out, and the next place is behind
  them.  Whatever brackets are missing, doubled or empty, no character is
  looked at that is not there, every part ends behind the place where it
  begins, and the parts are those that the pattern spells.

  Main definitions:
    * `Glob.ClosesAt`, `Glob.closingAt?` — the bracket that closes another one
    * `Glob.partAt?`    — the part at a place, and the next place
    * `Glob.Cuts`       — all parts from a place on
    * `Glob.Escaped`    — members and how they are written

  Main results:
    * `Glob.closingAt?_closes`, `Glob.closingAt?_eq_none_iff` — the bracket that
      is found
    * `Glob.partAt?_spells`      — one part ends inside the pattern
    * `Glob.cuts_iff`            — the parts are those that the text spells
    * `rewriting_within_text`    — **a pattern by its places**
-/
import MaterialSearch.Proofs.Entry.Globbing

namespace MaterialSearch

open Shell

namespace Glob

/-! ## §1. Places. -/

/-- Where the members of an opening bracket begin: behind it, or behind the
mark of a complemented set. -/
def bodyStart (text : List Char) (opening : Nat) : Nat :=
  if text[opening + 1]? = some '!' then opening + 2 else opening + 1

/-- **A bracket that may close** the one at `opening`: there is a member before
it. -/
structure ClosesAt (text : List Char) (opening closing : Nat) : Prop where
  bracket : text[closing]? = some ']'
  member : bodyStart text opening < closing

/-- The place of the bracket that closes the one at `opening`. -/
def closingAt? (text : List Char) (opening : Nat) : Option Nat :=
  (closing? (text.drop (opening + 1))).map (opening + 1 + ·)

/-- The characters from one place up to another one, which have to be there. -/
def between? (text : List Char) (first limit : Nat) : Option (List Char) :=
  if first ≤ limit ∧ limit ≤ text.length then some ((text.take limit).drop first) else none

/-- The set between two brackets. -/
def setAt? (text : List Char) (opening closing : Nat) : Option Part :=
  text[opening + 1]?.bind fun first =>
    (between? text (bodyStart text opening) closing).map (.set (decide (first = '!')))

/-- **The part that begins at a place**, and the next place.  There is none if a
character is looked at that is not there. -/
def partAt? (text : List Char) (place : Nat) : Option (Part × Nat) :=
  text[place]?.bind fun c =>
    if c = '*' then some (.any, place + 1)
    else if c = '?' then some (.one, place + 1)
    else if c = '[' then
      match closingAt? text place with
      | some closing => (setAt? text place closing).map (·, closing + 1)
      | none => some (.char c, place + 1)
    else some (.char c, place + 1)

/-- **All parts from a place on**, one after the other. -/
inductive Cuts (text : List Char) : Nat → List Part → Prop
  /-- The text is over. -/
  | finished {place : Nat} (h : text.length ≤ place) : Cuts text place []
  /-- One more part. -/
  | part {place next : Nat} {part : Part} {parts : List Part} (h : place < text.length)
      (hpart : partAt? text place = some (part, next)) (rest : Cuts text next parts) :
      Cuts text place (part :: parts)

/-- **Members and how they are written**: `\`, `[`, `]` and `^` behind a
backslash, all others as they are. -/
inductive Escaped : List Char → List Char → Prop
  | nil : Escaped [] []
  | sign {c : Char} {body written : List Char} (hc : c ∈ ['\\', '[', ']', '^'])
      (h : Escaped body written) : Escaped (c :: body) ('\\' :: c :: written)
  | plain {c : Char} {body written : List Char} (hc : c ∉ ['\\', '[', ']', '^'])
      (h : Escaped body written) : Escaped (c :: body) (c :: written)

variable {text : List Char} {opening closing place next : Nat} {part : Part} {parts : List Part}

/-! ## §2. The bracket that is found. -/

/-- The first character is passed over, whatever it is. -/
theorem firstClosing?_eq (cs : List Char) :
    firstClosing? cs = (cs.tail.findIdx? (· = ']')).map (1 + ·) := by
  cases cs with
  | nil => rfl
  | cons c cs =>
    by_cases hc : c = ']'
    · rw [hc]
      rfl
    · rw [firstClosing?_of_head (by simpa using hc), List.findIdx?_cons,
        if_neg (by simpa using hc)]
      simp only [Nat.add_comm, List.tail_cons]

/-- **The first bracket behind the first member is found.** -/
theorem closingAt?_eq (text : List Char) (opening : Nat) :
    closingAt? text opening
      = ((text.drop (bodyStart text opening + 1)).findIdx? (· = ']')).map
        (bodyStart text opening + 1 + ·) := by
  have hhead : (text.drop (opening + 1)).head? = text[opening + 1]? := List.head?_drop
  unfold closingAt? bodyStart
  by_cases hmark : text[opening + 1]? = some '!'
  · -- The mark is passed over first, and the first member after it.
    obtain ⟨tail, htail⟩ := List.head?_eq_some_iff.mp (hhead.trans hmark)
    have hrest : tail.tail = text.drop (opening + 2 + 1) := by
      rw [← List.tail_drop, ← List.tail_drop, htail, List.tail_cons]
    rw [if_pos hmark, htail]
    show ((firstClosing? tail).map (1 + ·)).map (opening + 1 + ·) = _
    rw [firstClosing?_eq, hrest, Option.map_map, Option.map_map]
    congr 1
    funext n
    show opening + 1 + (1 + (1 + n)) = opening + 2 + 1 + n
    omega
  · rw [if_neg hmark, closing?_of_head (by rwa [hhead]), firstClosing?_eq, List.tail_drop,
      Option.map_map]
    congr 1
    funext n
    show opening + 1 + (1 + n) = opening + 1 + 1 + n
    omega

/-- A bracket that may close another one, counted from the first member. -/
theorem closesAt_iff :
    ClosesAt text opening closing
      ↔ ∃ n, closing = bodyStart text opening + 1 + n
        ∧ (text.drop (bodyStart text opening + 1))[n]? = some ']' := by
  constructor
  · rintro ⟨hbracket, hmember⟩
    refine ⟨closing - (bodyStart text opening + 1), by omega, ?_⟩
    rwa [List.getElem?_drop, Nat.add_sub_cancel' hmember]
  · rintro ⟨n, rfl, hbracket⟩
    rw [List.getElem?_drop] at hbracket
    exact ⟨hbracket, by omega⟩

/-- **The bracket that is found closes**, and none before it does. -/
theorem closingAt?_closes (h : closingAt? text opening = some closing) :
    ClosesAt text opening closing ∧ ∀ earlier < closing, ¬ ClosesAt text opening earlier := by
  rw [closingAt?_eq] at h
  obtain ⟨n, hfound, rfl⟩ := Option.map_eq_some_iff.mp h
  obtain ⟨hlt, hbracket, hbefore⟩ := List.findIdx?_eq_some_iff_getElem.mp hfound
  refine ⟨closesAt_iff.mpr ⟨n, rfl, ?_⟩, ?_⟩
  · rw [List.getElem?_eq_getElem hlt]
    exact congrArg some (of_decide_eq_true hbracket)
  · intro earlier hearlier hcloses
    obtain ⟨m, rfl, hm⟩ := closesAt_iff.mp hcloses
    have hmn : m < n := by omega
    obtain ⟨hlt', hm⟩ := List.getElem?_eq_some_iff.mp hm
    exact hbefore m hmn (decide_eq_true hm)

/-- **None is found exactly when none closes.** -/
theorem closingAt?_eq_none_iff :
    closingAt? text opening = none ↔ ¬ ∃ closing, ClosesAt text opening closing := by
  constructor
  · rintro h ⟨closing, hcloses⟩
    obtain ⟨n, -, hn⟩ := closesAt_iff.mp hcloses
    rw [closingAt?_eq, Option.map_eq_none_iff, List.findIdx?_eq_none_iff] at h
    exact absurd (h _ (List.mem_of_getElem? hn)) (by decide)
  · intro h
    rw [Option.eq_none_iff_forall_ne_some]
    intro closing hfound
    exact h ⟨closing, (closingAt?_closes hfound).1⟩

/-! ## §3. One part. -/

/-- Where no end is found, there is no set. -/
theorem unclosed_of_closing? {cs : List Char} (h : closing? cs = none) : Unclosed cs := by
  rintro complemented body rest hbody rfl
  rw [closing?_setText hbody] at h
  exact absurd h (by simp)

/-- Where a set is spelled, its members begin behind the mark, and the first
character says whether it is complemented. -/
theorem bodyStart_of_setText {complemented : Bool} {body rest : List Char}
    (hbody : IsBody complemented body)
    (htext : text.drop (opening + 1) = setText complemented body ++ rest) :
    bodyStart text opening = opening + 1 + (mark complemented).length
      ∧ ∃ first, text[opening + 1]? = some first ∧ decide (first = '!') = complemented := by
  have hmark : text[opening + 1]? = some '!' ↔ complemented = true := by
    rw [← List.head?_drop, htext, hbody.head?_setText]
  obtain ⟨first, hfirst⟩ : ∃ first, text[opening + 1]? = some first := by
    rw [← Option.isSome_iff_exists, isSome_getElem?]
    have hlength := congrArg List.length htext
    have hmore := length_lt_setText complemented body rest
    rw [List.length_drop] at hlength
    omega
  rw [hfirst, Option.some_inj] at hmark
  unfold bodyStart
  rw [hfirst]
  cases complemented with
  | true =>
    obtain rfl : first = '!' := hmark.mpr rfl
    exact ⟨rfl, '!', rfl, rfl⟩
  | false =>
    have hplain : first ≠ '!' := fun h => absurd (hmark.mp h) (by decide)
    exact ⟨if_neg (by simpa using hplain), first, rfl, decide_eq_false hplain⟩

/-- **The set that is taken out** is there, and it is spelled by the text between
the brackets. -/
theorem exists_setAt (h : closingAt? text opening = some closing) :
    ∃ complemented body, setAt? text opening closing = some (.set complemented body)
      ∧ IsBody complemented body
      ∧ text.drop (opening + 1) = setText complemented body ++ text.drop (closing + 1) := by
  obtain ⟨n, hfound, rfl⟩ := Option.map_eq_some_iff.mp h
  -- An end is found, so a set is spelled here, and it has the same end.
  have hclosed : ¬ Unclosed (text.drop (opening + 1)) := by
    intro hopen
    rw [closing?_eq_none hopen] at hfound
    exact absurd hfound (by simp)
  simp only [Unclosed, not_forall, not_not] at hclosed
  obtain ⟨complemented, body, rest, hbody, htext⟩ := hclosed
  obtain ⟨hstart, first, hfirst, hmark⟩ := bodyStart_of_setText hbody htext
  rw [htext, closing?_setText hbody, Option.some_inj, List.length_append] at hfound
  -- The places of the set are those of its spelling, so the cuts are inside the text.
  have hclosing : opening + 1 + n = bodyStart text opening + body.length := by omega
  have hbetween : text.drop (bodyStart text opening) = body ++ ']' :: rest := by
    rw [hstart, ← List.drop_drop, htext, setText_append, List.drop_left]
  have hrest : text.drop (opening + 1 + n + 1) = rest := by
    rw [hclosing, Nat.add_assoc, ← List.drop_drop, hbetween, ← List.drop_drop, List.drop_left]
    rfl
  have hinside : opening + 1 + n ≤ text.length := by
    have hlength := congrArg List.length hbetween
    rw [List.length_drop, List.length_append, List.length_cons] at hlength
    omega
  refine ⟨complemented, body, ?_, hbody, by rw [hrest, htext]⟩
  unfold setAt? between?
  rw [hfirst, Option.bind_some, if_pos ⟨by omega, hinside⟩, hmark, List.drop_take, hbetween,
    hclosing, Nat.add_sub_cancel_left, List.take_left, Option.map_some]

/-- **One part ends inside the pattern**, behind the place where it begins, and
it is the next part that the text spells. -/
theorem partAt?_spells (h : place < text.length) :
    ∃ part next, partAt? text place = some (part, next) ∧ place < next ∧ next ≤ text.length
      ∧ ∀ parts, Spells (text.drop next) parts → Spells (text.drop place) (part :: parts) := by
  obtain ⟨c, hc⟩ : ∃ c, text[place]? = some c := ⟨_, List.getElem?_eq_getElem h⟩
  have hdrop : text.drop place = c :: text.drop (place + 1) := by
    rw [List.drop_eq_getElem_cons h, (List.getElem?_eq_some_iff.mp hc).2]
  unfold partAt?
  rw [hc, Option.bind_some, hdrop]
  by_cases hany : c = '*'
  · rw [if_pos hany, hany]
    exact ⟨_, _, rfl, Nat.lt_succ_self _, h, fun _ => .any⟩
  by_cases hone : c = '?'
  · rw [if_neg hany, if_pos hone, hone]
    exact ⟨_, _, rfl, Nat.lt_succ_self _, h, fun _ => .one⟩
  rw [if_neg hany, if_neg hone]
  by_cases hset : c = '['
  · rw [if_pos hset]
    cases hclosing : closingAt? text place with
    | some closing =>
      -- The next part begins behind the closing bracket.
      obtain ⟨complemented, body, hsetAt, hbody, htext⟩ := exists_setAt hclosing
      obtain ⟨⟨hbracket, hmember⟩, -⟩ := closingAt?_closes hclosing
      have hstart : place < bodyStart text place := by
        unfold bodyStart
        split <;> omega
      refine ⟨.set complemented body, closing + 1, ?_, by omega, ?_, fun parts hparts => ?_⟩
      · show (setAt? text place closing).map (·, closing + 1) = _
        rw [hsetAt, Option.map_some]
      · exact (List.getElem?_eq_some_iff.mp hbracket).1
      · rw [hset, htext]
        exact .set hbody hparts
    | none =>
      -- A bracket that is never closed is a character like any other.
      have hopen : Unclosed (text.drop (place + 1)) :=
        unclosed_of_closing? (Option.map_eq_none_iff.mp hclosing)
      exact ⟨_, _, rfl, Nat.lt_succ_self _, h, fun _ => .char hany hone fun _ => hopen⟩
  · rw [if_neg hset]
    exact ⟨_, _, rfl, Nat.lt_succ_self _, h, fun _ => .char hany hone fun hc => absurd hc hset⟩

/-! ## §4. All parts. -/

/-- The parts are those that the text spells. -/
theorem Cuts.spells (h : Cuts text place parts) : Spells (text.drop place) parts := by
  induction h with
  | finished h =>
    rw [List.drop_eq_nil_of_le h]
    exact .nil
  | part h hpart _ ih =>
    obtain ⟨part, next, hsame, -, -, hspells⟩ := partAt?_spells h
    obtain ⟨rfl, rfl⟩ := Prod.mk.inj (Option.some.inj (hpart.symm.trans hsame))
    exact hspells _ ih

/-- **The text comes to an end**: by induction on what is left of it. -/
theorem exists_cuts (text : List Char) (place : Nat) : ∃ parts, Cuts text place parts := by
  induction hleft : text.length - place using Nat.strongRecOn generalizing place with
  | ind n ih =>
    by_cases h : place < text.length
    · obtain ⟨part, next, hpart, hlt, -, -⟩ := partAt?_spells h
      obtain ⟨parts, hparts⟩ := ih (text.length - next) (by omega) next rfl
      exact ⟨part :: parts, .part h hpart hparts⟩
    · exact ⟨[], .finished (Nat.le_of_not_lt h)⟩

/-- **The parts are those that the text spells**, and no others. -/
theorem cuts_iff : Cuts text place parts ↔ Spells (text.drop place) parts := by
  constructor
  · exact Cuts.spells
  · intro h
    obtain ⟨other, hother⟩ := exists_cuts text place
    rwa [h.unique hother.spells]

/-! ## §5. What is written. -/

/-- **The members are written with their backslashes.** -/
theorem escaped_members (body : List Char) : Escaped body (body.flatMap escapeMember) := by
  induction body with
  | nil => exact .nil
  | cons c body ih =>
    rw [List.flatMap_cons]
    by_cases hc : c = '\\' ∨ c = '[' ∨ c = ']' ∨ c = '^'
    · rw [escapeMember, if_pos hc]
      exact .sign (by simpa using hc) ih
    · rw [escapeMember, if_neg hc]
      exact .plain (by simpa using hc) ih

/-- Only a set is written with an opening bracket of its own. -/
theorem eq_set_of_head? (h : part.expression.head? = some '[') :
    ∃ complemented body, part = .set complemented body := by
  cases part with
  | any | one => exact absurd h (by decide)
  | set complemented body => exact ⟨complemented, body, rfl⟩
  | char c =>
    have hwritten : (escape c).head? = some '[' := h
    by_cases hc : isMeta c = true
    · rw [escape, if_pos hc] at hwritten
      exact absurd (Option.some.inj hwritten) (by decide)
    · rw [escape, if_neg hc] at hwritten
      obtain rfl : c = '[' := Option.some.inj hwritten
      exact absurd (by decide) hc

end Glob

/-- **A PATTERN BY ITS PLACES**, for every text.

  * Behind an opening bracket at any place, a closing bracket is found only if
    there is a member before it, and then it is the first such one; none is
    found exactly when there is none.
  * At every place of the text there is a part: no character is looked at that
    is not there.  It ends inside the text and behind the place where it begins.
  * So the whole text is gone through, in one way, and what is written are its
    parts one after the other.  A part that is written with an opening bracket
    of its own is a set: there are members, they stand in the text as they are,
    and each `\`, `[`, `]` and `^` of them is written behind a backslash. -/
theorem rewriting_within_text (text : List Char) :
    (∀ opening,
      (∀ closing, Glob.closingAt? text opening = some closing →
        Glob.ClosesAt text opening closing
          ∧ ∀ earlier < closing, ¬ Glob.ClosesAt text opening earlier)
      ∧ (Glob.closingAt? text opening = none ↔ ¬ ∃ closing, Glob.ClosesAt text opening closing))
    ∧ (∀ place < text.length, ∃ part next, Glob.partAt? text place = some (part, next)
      ∧ place < next ∧ next ≤ text.length)
    ∧ ∃ parts, (∀ other, Glob.Cuts text 0 other ↔ other = parts)
      ∧ Glob.write text = parts.flatMap Part.expression
      ∧ ∀ part ∈ parts, part.expression.head? = some '[' →
        ∃ complemented body written, part = .set complemented body
          ∧ body ≠ [] ∧ body <:+: text ∧ Glob.Escaped body written
          ∧ part.expression
            = '[' :: (if complemented then ['^'] else []) ++ written ++ [']'] := by
  refine ⟨fun opening => ⟨fun closing => Glob.closingAt?_closes, Glob.closingAt?_eq_none_iff⟩,
    ?_, ?_⟩
  · intro place h
    obtain ⟨part, next, hpart, hlt, hle, -⟩ := Glob.partAt?_spells h
    exact ⟨part, next, hpart, hlt, hle⟩
  · obtain ⟨parts, hspells⟩ := exists_spells text
    refine ⟨parts, fun other => ?_, Glob.write_spells hspells, ?_⟩
    · have hcuts : Glob.Cuts text 0 other ↔ Spells text other := Glob.cuts_iff
      rw [hcuts]
      exact ⟨fun hother => hother.unique hspells, fun hother => hother ▸ hspells⟩
    · intro part hmem hhead
      obtain ⟨complemented, body, rfl⟩ := Glob.eq_set_of_head? hhead
      exact ⟨complemented, body, _, rfl, (hspells.isBody hmem).ne_nil, hspells.isInfix hmem,
        Glob.escaped_members body, rfl⟩

/-- A set of one closing bracket, a pair of brackets with nothing between them,
and a bracket at the end. -/
def Sample.brackets : List Char := "[!]][]x[".toList

/-- The first bracket is closed by the fourth character, since the third is the
member; the two others open no set and are written as characters. -/
theorem rewriting_within_text_unclosed :
    Glob.closingAt? Sample.brackets 0 = some 3
    ∧ Glob.ClosesAt Sample.brackets 0 3
    ∧ (¬ ∃ closing, Glob.ClosesAt Sample.brackets 4 closing)
    ∧ 7 < Sample.brackets.length
    ∧ (∃ part next, Glob.partAt? Sample.brackets 7 = some (part, next) ∧ 7 < next ∧ next ≤ 8)
    ∧ Glob.write Sample.brackets = "[^\\]]\\[\\]x\\[".toList
    ∧ ∃ written, Glob.Escaped [']'] written ∧ '[' :: ['^'] ++ written ++ [']'] = "[^\\]]".toList := by
  have hlast : 7 < Sample.brackets.length := by decide
  have hparts : Glob.Cuts Sample.brackets 0
      [.set true [']'], .char '[', .char ']', .char 'x', .char '['] :=
    .part (by decide) rfl (.part (by decide) rfl (.part (by decide) rfl (.part (by decide) rfl
      (.part (by decide) rfl (.finished (by decide))))))
  obtain ⟨hclosing, hplaces, parts, hcuts, hwrite, hsets⟩ := rewriting_within_text Sample.brackets
  obtain rfl := (hcuts _).mp hparts
  obtain ⟨complemented, body, written, hset, -, -, hescaped, hexpression⟩ :=
    hsets (.set true [']']) List.mem_cons_self (by decide)
  obtain ⟨rfl, rfl⟩ := Part.set.inj hset
  exact ⟨by decide, ((hclosing 0).1 3 (by decide)).1, (hclosing 4).2.mp (by decide), hlast,
    hplaces 7 hlast, hwrite.trans (by decide), written, hescaped, hexpression.symm.trans (by decide)⟩

end MaterialSearch
