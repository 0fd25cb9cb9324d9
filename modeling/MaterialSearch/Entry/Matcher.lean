/-
  MaterialSearch.Entry.Matcher
  ────────────────────────────────
  **REGULAR EXPRESSIONS OF NAMES.**

  A regular expression is written `^...$`, and a whole name has to match what
  stands between the two marks.  There a dot is any character but a line
  feed, a dot with a star any number of them, brackets are one character of a
  set, and any other character is itself.  A character with a meaning of its
  own is itself after a backslash.  Of the language of regular expressions
  this is the part that file name patterns need; any other text is refused.

  A set is a list of characters and ranges `a-z`, complemented after `^`.
  Hyphens at the start are members, or else a closing bracket that comes
  first.  Two equal signs `&&`, `--` or `~~` cut, subtract or compare what
  stands before them with what comes next, from left to right.  Before the
  closing bracket a hyphen is a member.  A range whose ends are in the wrong
  order makes the whole expression invalid.

  Main definitions:
    * `CharSet`, `CharSet.holds`      — sets of characters
    * `CharSet.read?`                 — the set that brackets write
    * `Matcher`, `Matcher.read?`      — regular expressions
    * `Matcher.accepts`               — a whole name matches

  Main results:
    * `Matcher.accepts_any_cons`, `Matcher.accepts_part_cons` — what a part
      takes
-/

namespace MaterialSearch

/-! ## §1. Sets of characters. -/

/-- A range of characters, both ends included. -/
structure CharRange where
  first : Char
  last : Char
  deriving Repr, DecidableEq

/-- Whether a character lies in a range. -/
def CharRange.holds (r : CharRange) (c : Char) : Bool :=
  decide (r.first ≤ c) && decide (c ≤ r.last)

/-- How two sets make one. -/
inductive SetOperator where
  /-- What is in both. -/
  | both
  /-- What is in the first only. -/
  | without
  /-- What is in exactly one of them. -/
  | either
  deriving Repr, DecidableEq

/-- The operator on membership. -/
def SetOperator.apply : SetOperator → Bool → Bool → Bool
  | .both, a, b => a && b
  | .without, a, b => a && !b
  | .either, a, b => a != b

/-- A set of characters: ranges, and further ranges joined by operators
from left to right, complemented or not. -/
structure CharSet where
  complemented : Bool
  first : List CharRange
  further : List (SetOperator × List CharRange)
  deriving Repr, DecidableEq

/-- Whether a character is in one of the ranges. -/
def inRanges (rs : List CharRange) (c : Char) : Bool := rs.any fun r => r.holds c

/-- Whether a character is in the set. -/
def CharSet.holds (s : CharSet) (c : Char) : Bool :=
  let inside := s.further.foldl
    (fun acc part => part.1.apply acc (inRanges part.2 c)) (inRanges s.first c)
  if s.complemented then !inside else inside

/-! ## §2. Sets between brackets. -/

/-- The characters with a meaning of their own. -/
def metaCharacters : List Char :=
  ['\\', '.', '+', '*', '?', '(', ')', '|', '[', ']', '{', '}', '^', '$', '#', '&', '-', '~']

/-- Whether a character has a meaning of its own. -/
def isMeta (c : Char) : Bool := metaCharacters.contains c

/-- A character between brackets, with or without a backslash before it. -/
structure SetSign where
  char : Char
  escaped : Bool
  deriving Repr, DecidableEq

/-- The operator that a doubled sign stands for. -/
def setOperator? (a b : SetSign) : Option SetOperator :=
  if a ≠ b ∨ a.escaped then none
  else if a.char = '&' then some .both
  else if a.char = '-' then some .without
  else if a.char = '~' then some .either
  else none

/-- The operands of a set whose ranges so far are `rev`, last first: the
rest of the first operand, and the others with their operators. -/
def readOperands? (rev : List CharRange) :
    List SetSign → Option (List CharRange × List (SetOperator × List CharRange))
  | [] => some (rev.reverse, [])
  | [a] => some ((⟨a.char, a.char⟩ :: rev).reverse, [])
  | a :: b :: signs =>
      match setOperator? a b with
      | some o =>
          (readOperands? [] signs).map fun rest => (rev.reverse, (o, rest.1) :: rest.2)
      | none =>
          if b = ⟨'-', false⟩ then
            match signs with
            -- The last hyphen is a member.
            | [] => some ((⟨'-', '-'⟩ :: ⟨a.char, a.char⟩ :: rev).reverse, [])
            | e :: signs' =>
                -- Two hyphens are an operator, not the end of a range.
                if e = ⟨'-', false⟩ then
                  readOperands? (⟨a.char, a.char⟩ :: rev) (b :: e :: signs')
                else if a.char ≤ e.char then readOperands? (⟨a.char, e.char⟩ :: rev) signs'
                else none
          else readOperands? (⟨a.char, a.char⟩ :: rev) (b :: signs)

/-- The signs up to the closing bracket and the text after it.  There are no
sets in sets here. -/
def readSigns? : List Char → Option (List SetSign × List Char)
  | [] => none
  | ']' :: cs => some ([], cs)
  | '\\' :: c :: cs =>
      if isMeta c then (readSigns? cs).map fun parts => (⟨c, true⟩ :: parts.1, parts.2) else none
  | c :: cs =>
      if c = '[' ∨ c = '\\' then none
      else (readSigns? cs).map fun parts => (⟨c, false⟩ :: parts.1, parts.2)

/-- What comes first in brackets and is a member whatever follows, and the
text after it. -/
def leadingMembers : List Char → List Char × List Char
  | ']' :: cs => ([']'], cs)
  | cs => (cs.takeWhile (· = '-'), cs.dropWhile (· = '-'))

/-- The set whose brackets were opened, and the text after them. -/
def CharSet.readMembers? (complemented : Bool) (cs : List Char) : Option (CharSet × List Char) :=
  let leading := leadingMembers cs
  (readSigns? leading.2).bind fun parts =>
    (readOperands? (leading.1.map fun c => ⟨c, c⟩) parts.1).map fun operands =>
      (⟨complemented, operands.1, operands.2⟩, parts.2)

/-- **The set that stands after an opening bracket**, and the text after it. -/
def CharSet.read? : List Char → Option (CharSet × List Char)
  | '^' :: cs => CharSet.readMembers? true cs
  | cs => CharSet.readMembers? false cs

/-- What follows closed brackets is shorter than what follows the opening
one. -/
theorem readSigns?_length {cs rest : List Char} {signs : List SetSign}
    (h : readSigns? cs = some (signs, rest)) : rest.length < cs.length := by
  fun_induction readSigns? cs generalizing signs with
  | case1 => exact absurd h (by simp)
  | case2 cs =>
    obtain ⟨-, rfl⟩ := Prod.mk.inj (Option.some.inj h)
    simp
  | case3 c cs _ ih =>
    obtain ⟨⟨signs', rest'⟩, hparts, heq⟩ := Option.map_eq_some_iff.mp h
    obtain ⟨-, rfl⟩ := Prod.mk.inj heq
    have hlt : rest'.length < cs.length := ih hparts
    simp only [List.length_cons]
    omega
  | case4 => exact absurd h (by simp)
  | case5 => exact absurd h (by simp)
  | case6 c cs _ _ _ ih =>
    obtain ⟨⟨signs', rest'⟩, hparts, heq⟩ := Option.map_eq_some_iff.mp h
    obtain ⟨-, rfl⟩ := Prod.mk.inj heq
    have hlt : rest'.length < cs.length := ih hparts
    simp only [List.length_cons]
    omega

theorem leadingMembers_length (cs : List Char) : (leadingMembers cs).2.length ≤ cs.length := by
  unfold leadingMembers
  split
  · simp
  · exact (List.dropWhile_suffix _).length_le

theorem CharSet.readMembers?_length {complemented : Bool} {cs rest : List Char} {s : CharSet}
    (h : CharSet.readMembers? complemented cs = some (s, rest)) : rest.length < cs.length := by
  obtain ⟨⟨signs, rest'⟩, hsigns, h⟩ := Option.bind_eq_some_iff.mp h
  obtain ⟨operands, -, heq⟩ := Option.map_eq_some_iff.mp h
  obtain ⟨-, rfl⟩ := Prod.mk.inj heq
  exact Nat.lt_of_lt_of_le (readSigns?_length hsigns) (leadingMembers_length cs)

theorem CharSet.read?_length {cs rest : List Char} {s : CharSet}
    (h : CharSet.read? cs = some (s, rest)) : rest.length < cs.length := by
  unfold CharSet.read? at h
  split at h
  · have := CharSet.readMembers?_length h
    simp only [List.length_cons]
    omega
  · exact CharSet.readMembers?_length h

/-! ## §3. Expressions. -/

/-- One part of an expression. -/
inductive MatcherPart where
  /-- Any characters but line feeds. -/
  | any
  /-- One character, no line feed. -/
  | one
  /-- This character. -/
  | exactly (c : Char)
  /-- One character of a set. -/
  | oneOf (s : CharSet)
  deriving Repr, DecidableEq

/-- An expression. -/
abbrev Matcher := List MatcherPart

/-- The parts that stand between the two marks. -/
def Matcher.readParts? : List Char → Option Matcher
  | [] => some []
  | '.' :: '*' :: cs => (Matcher.readParts? cs).map (.any :: ·)
  | '.' :: cs => (Matcher.readParts? cs).map (.one :: ·)
  | '\\' :: c :: cs => if isMeta c then (Matcher.readParts? cs).map (.exactly c :: ·) else none
  | '[' :: cs =>
      match _h : CharSet.read? cs with
      | some (s, rest) => (Matcher.readParts? rest).map (.oneOf s :: ·)
      | none => none
  | c :: cs => if isMeta c then none else (Matcher.readParts? cs).map (.exactly c :: ·)
termination_by cs => cs.length
decreasing_by
  all_goals simp_wf
  all_goals first
    | omega
    | have := CharSet.read?_length _h
      omega

/-- **The expression that a text writes.** -/
def Matcher.read? : List Char → Option Matcher
  | '^' :: cs => if cs.getLast? = some '$' then Matcher.readParts? cs.dropLast else none
  | _ => none

/-! ## §4. Matching. -/

/-- Whether a part that takes one character takes this one. -/
def MatcherPart.takes : MatcherPart → Char → Bool
  | .any, _ => false
  | .one, c => c != '\n'
  | .exactly d, c => c == d
  | .oneOf s, c => s.holds c

/-- The answers for all tails of a text, the longest first, after a part
that takes any characters was put before the pattern that gave `answers`. -/
def spread : List Char → List Bool → List Bool
  | c :: cs, answer :: answers =>
      let shorter := spread cs answers
      (answer || (c != '\n' && shorter.headD false)) :: shorter
  | _, answers => answers

/-- The answers for all tails of a text, the longest first, after a part
that takes one character was put before the pattern that gave `answers`. -/
def consume (part : MatcherPart) : List Char → List Bool → List Bool
  | c :: cs, _ :: answers =>
      (part.takes c && answers.headD false) :: consume part cs answers
  | _, answers => answers.map fun _ => false

/-- Which tails of a text match a pattern, the longest first.  The empty
pattern matches the empty tail alone, which comes last. -/
def Matcher.tails : Matcher → List Char → List Bool
  | [], cs => cs.map (fun _ => false) ++ [true]
  | .any :: parts, cs => spread cs (Matcher.tails parts cs)
  | part :: parts, cs => consume part cs (Matcher.tails parts cs)

/-- **Whether the whole text matches the pattern.**  Every part is compared
with every character once, however many stars the pattern has. -/
def Matcher.accepts (m : Matcher) (cs : List Char) : Bool := (m.tails cs).headD false

/-! ## §5. Laws of matching. -/

theorem Matcher.tails_any (m : Matcher) (cs : List Char) :
    Matcher.tails (.any :: m) cs = spread cs (m.tails cs) := rfl

theorem Matcher.tails_part {part : MatcherPart} (h : part ≠ .any) (m : Matcher)
    (cs : List Char) : Matcher.tails (part :: m) cs = consume part cs (m.tails cs) := by
  cases part with
  | any => exact absurd rfl h
  | one | exactly | oneOf => rfl

/-- The tails of a text are the text and the tails of its own tail. -/
theorem Matcher.tails_cons (m : Matcher) (c : Char) (cs : List Char) :
    m.tails (c :: cs) = m.accepts (c :: cs) :: m.tails cs := by
  suffices h : ∃ answer, m.tails (c :: cs) = answer :: m.tails cs by
    obtain ⟨answer, h⟩ := h
    rw [Matcher.accepts, h]
    rfl
  induction m with
  | nil => exact ⟨false, rfl⟩
  | cons part m ih =>
    obtain ⟨answer, ih⟩ := ih
    by_cases h : part = .any
    · subst h
      rw [Matcher.tails_any, ih]
      exact ⟨_, rfl⟩
    · rw [Matcher.tails_part h, Matcher.tails_part h, ih]
      exact ⟨_, rfl⟩

/-- The empty text has no tail but itself. -/
theorem Matcher.tails_nil (m : Matcher) : m.tails [] = [m.accepts []] := by
  suffices h : ∃ answer, m.tails [] = [answer] by
    obtain ⟨answer, h⟩ := h
    rw [Matcher.accepts, h]
    rfl
  induction m with
  | nil => exact ⟨true, rfl⟩
  | cons part m ih =>
    obtain ⟨answer, ih⟩ := ih
    by_cases h : part = .any
    · subst h
      rw [Matcher.tails_any, ih]
      exact ⟨_, rfl⟩
    · rw [Matcher.tails_part h, ih]
      exact ⟨_, rfl⟩

/-- **The empty pattern** matches the empty text. -/
theorem Matcher.accepts_nil (cs : List Char) : Matcher.accepts [] cs = cs.isEmpty := by
  cases cs <;> rfl

/-- **A star** may take nothing. -/
theorem Matcher.accepts_any_nil (m : Matcher) :
    Matcher.accepts (.any :: m) [] = m.accepts [] := by
  rw [Matcher.accepts, Matcher.tails_any, Matcher.tails_nil]
  rfl

/-- **A star** takes nothing, or one character and still stands there. -/
theorem Matcher.accepts_any_cons (m : Matcher) (c : Char) (cs : List Char) :
    Matcher.accepts (.any :: m) (c :: cs)
      = (m.accepts (c :: cs) || (c != '\n' && Matcher.accepts (.any :: m) cs)) := by
  rw [Matcher.accepts, Matcher.tails_any, Matcher.tails_cons]
  rfl

/-- **Any other part** takes something. -/
theorem Matcher.accepts_part_nil {part : MatcherPart} (h : part ≠ .any) (m : Matcher) :
    Matcher.accepts (part :: m) [] = false := by
  rw [Matcher.accepts, Matcher.tails_part h, Matcher.tails_nil]
  rfl

/-- **Any other part** takes one character. -/
theorem Matcher.accepts_part_cons {part : MatcherPart} (h : part ≠ .any) (m : Matcher)
    (c : Char) (cs : List Char) :
    Matcher.accepts (part :: m) (c :: cs) = (part.takes c && m.accepts cs) := by
  rw [Matcher.accepts, Matcher.tails_part h, Matcher.tails_cons]
  rfl

end MaterialSearch
