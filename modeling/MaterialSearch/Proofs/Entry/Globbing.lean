/-
  MaterialSearch.Proofs.Entry.Globbing
  ────────────────────────────────
  **A FILE BY A PATTERN.**

  A pattern is rewritten into a regular expression, and the expression is
  read and compared with the names.  Part by part, the expression is read as
  what the part of the pattern means: what is escaped is read as itself, and
  what stands in brackets is read as the same characters and ranges, as long
  as no two signs there make an operator of sets.  So exactly those names are
  selected that match the pattern.

  Main definitions:
    * `Shell.Part.expression`  — what a part of a pattern is rewritten into
    * `Shell.Part.matcher`     — what that is read as

  Main results:
    * `Glob.write_spells`      — a pattern is rewritten part by part
    * `Glob.matcher?_spells`   — the expression is read part by part
    * `Shell.accepts_iff_matches` — the same names match
    * `find_iff_matches`       — **a file by a pattern**
-/
import MaterialSearch.Entry.Resource
import MaterialSearch.Proofs.Entry.Shell

namespace MaterialSearch

open Shell

/-! ## §1. Brackets. -/

namespace Glob

theorem firstClosing?_of_head {cs : List Char} (h : cs.head? ≠ some ']') :
    firstClosing? cs = cs.findIdx? (· = ']') := by
  unfold firstClosing?
  split
  · exact absurd rfl h
  · rfl

theorem closing?_of_head {cs : List Char} (h : cs.head? ≠ some '!') :
    closing? cs = firstClosing? cs := by
  unfold closing?
  split
  · exact absurd rfl h
  · rfl

theorem firstClosing?_body {body : List Char} (hne : body ≠ []) (h : ']' ∉ body.tail)
    (rest : List Char) : firstClosing? (body ++ ']' :: rest) = some body.length := by
  obtain ⟨c, tail, rfl⟩ := List.exists_cons_of_ne_nil hne
  have htail : ']' ∉ tail := h
  by_cases hc : c = ']'
  · -- A closing bracket in the first place is passed over.
    rw [hc]
    show Option.map (1 + ·) ((tail ++ ']' :: rest).findIdx? _) = _
    rw [findIdx?_closing htail, Option.map_some, List.length_cons, Nat.add_comm]
  · have hnone : ']' ∉ c :: tail := by
      intro hmem
      exact (List.mem_cons.mp hmem).elim (fun h => hc h.symm) htail
    rw [firstClosing?_of_head (by simpa using hc)]
    exact findIdx?_closing hnone rest

/-- **The end of a set is found.** -/
theorem closing?_setText {complemented : Bool} {body : List Char} (h : IsBody complemented body)
    (rest : List Char) : closing? (setText complemented body ++ rest)
      = some (mark complemented ++ body).length := by
  cases hc : complemented with
  | true =>
    rw [setText_append]
    show Option.map (1 + ·) (firstClosing? (body ++ ']' :: rest)) = _
    rw [firstClosing?_body h.ne_nil h.unclosed, Option.map_some, Nat.add_comm]
    rfl
  | false =>
    have hhead : (setText false body ++ rest).head? ≠ some '!' := by
      rw [← hc]
      exact fun hmark => absurd ((h.head?_setText rest).mp hmark) (by simp [hc])
    rw [closing?_of_head hhead, setText_append]
    exact firstClosing?_body h.ne_nil h.unclosed rest

/-- Where a closing bracket is found, there is a body before it. -/
theorem exists_body {cs : List Char} (h : firstClosing? cs ≠ none) :
    ∃ body rest, body ≠ [] ∧ ']' ∉ body.tail ∧ cs = body ++ ']' :: rest := by
  have hsplit {cs : List Char} (h : cs.findIdx? (· = ']') ≠ none) :
      ∃ before after, cs = before ++ ']' :: after ∧ ']' ∉ before := by
    rw [Ne, List.findIdx?_eq_none_iff] at h
    push Not at h
    obtain ⟨c, hmem, hc⟩ := h
    obtain rfl : c = ']' := by simpa using hc
    exact List.eq_append_cons_of_mem hmem
  by_cases hhead : cs.head? = some ']'
  · obtain ⟨tail, rfl⟩ := List.head?_eq_some_iff.mp hhead
    have hfound : tail.findIdx? (· = ']') ≠ none := by
      intro hnone
      exact h (by rw [firstClosing?, hnone]; rfl)
    obtain ⟨before, after, rfl, hbefore⟩ := hsplit hfound
    exact ⟨']' :: before, after, List.cons_ne_nil _ _, hbefore, rfl⟩
  · rw [firstClosing?_of_head hhead] at h
    obtain ⟨before, after, rfl, hbefore⟩ := hsplit h
    refine ⟨before, after, ?_, fun hmem => hbefore (List.mem_of_mem_tail hmem), rfl⟩
    rintro rfl
    exact hhead rfl

/-- **Where there is no set, no end is found.** -/
theorem closing?_eq_none {cs : List Char} (h : Unclosed cs) : closing? cs = none := by
  by_contra hsome
  by_cases hhead : cs.head? = some '!'
  · obtain ⟨tail, rfl⟩ := List.head?_eq_some_iff.mp hhead
    have hfound : firstClosing? tail ≠ none := by
      intro hnone
      exact hsome (by rw [closing?, hnone]; rfl)
    obtain ⟨body, rest, hne, hclosed, rfl⟩ := exists_body hfound
    exact h true body rest ⟨hne, hclosed, by simp⟩ (setText_append true body rest).symm
  · rw [closing?_of_head hhead] at hsome
    obtain ⟨body, rest, hne, hclosed, rfl⟩ := exists_body hsome
    refine h false body rest ⟨hne, hclosed, ?_⟩ (setText_append false body rest).symm
    intro _ hmark
    rw [List.head?_append, hmark] at hhead
    exact hhead rfl

end Glob

/-! ## §2. Rewriting. -/

/-- What a part of a pattern is rewritten into. -/
def Shell.Part.expression : Part → List Char
  | .any => ['.', '*']
  | .one => ['.']
  | .char c => Glob.escape c
  | .set complemented body =>
      '[' :: (if complemented then ['^'] else []) ++ body.flatMap Glob.escapeMember ++ [']']

namespace Glob

theorem writeSet_body {complemented : Bool} {body : List Char} (h : IsBody complemented body) :
    writeSet (mark complemented ++ body) = (Part.set complemented body).expression := by
  cases complemented with
  | true => rfl
  | false =>
    show writeSet body = _
    unfold writeSet
    split
    · exact absurd rfl (h.unmarked rfl)
    · rfl

/-- **A pattern is rewritten part by part.** -/
theorem write_spells {text : List Char} {parts : List Part} (h : Spells text parts) :
    write text = parts.flatMap Part.expression := by
  induction h with
  | nil => rw [write, List.flatMap_nil]
  | any h ih =>
    rw [write, ih]
    rfl
  | one h ih =>
    rw [write, ih]
    rfl
  | @set complemented body text parts hbody h ih =>
    have htext : setText complemented body ++ text
        = (mark complemented ++ body) ++ ']' :: text := by
      rw [setText, List.append_assoc, List.singleton_append]
    have hdrop : (setText complemented body ++ text).drop ((mark complemented ++ body).length + 1)
        = text := by
      rw [htext, ← List.drop_drop, List.drop_left]
      rfl
    -- The brackets are cut off at the place that was found.
    rw [write, closing?_setText hbody]
    dsimp only
    rw [hdrop, htext, List.take_left, writeSet_body hbody, ih]
    rfl
  | @char c text parts hany hone hset h ih =>
    by_cases hc : c = '['
    · subst hc
      rw [write, closing?_eq_none (hset rfl), ih]
      rfl
    · rw [write, ih]
      · rfl
      · exact hany
      · exact hone
      · exact hc

end Glob

/-! ## §3. Reading sets. -/

/-- How a character of a body is read. -/
def Glob.sign (c : Char) : SetSign := ⟨c, decide (c = '\\' ∨ c = '[' ∨ c = ']' ∨ c = '^')⟩

namespace Glob

variable {c d : Char} {body : List Char}

/-- A hyphen that is read was written without a backslash. -/
theorem sign_eq_hyphen_iff : sign c = ⟨'-', false⟩ ↔ c = '-' := by
  constructor
  · intro h
    exact congrArg SetSign.char h
  · rintro rfl
    rfl

/-- The characters of a body are read as they are. -/
theorem readSigns?_body (body rest : List Char) :
    readSigns? (body.flatMap escapeMember ++ ']' :: rest) = some (body.map sign, rest) := by
  induction body with
  | nil => rfl
  | cons c body ih =>
    rw [List.flatMap_cons, List.append_assoc]
    by_cases hc : c = '\\' ∨ c = '[' ∨ c = ']' ∨ c = '^'
    · -- The reader allows a backslash before characters with a meaning only.
      have hmeta : isMeta c = true := by
        rcases hc with rfl | rfl | rfl | rfl <;> decide
      have hsign : sign c = ⟨c, true⟩ := by rw [sign, decide_eq_true hc]
      rw [escapeMember, if_pos hc]
      show readSigns? ('\\' :: c :: (body.flatMap escapeMember ++ ']' :: rest)) = _
      rw [readSigns?, if_pos hmeta, ih, List.map_cons, hsign]
      rfl
    · have hsign : sign c = ⟨c, false⟩ := by rw [sign, decide_eq_false hc]
      have hplain : ¬ (c = '[' ∨ c = '\\') := fun h => hc (h.elim (.inr ∘ .inl) .inl)
      rw [escapeMember, if_neg hc]
      show readSigns? (c :: (body.flatMap escapeMember ++ ']' :: rest)) = _
      rw [readSigns?, if_neg hplain, ih, List.map_cons, hsign]
      · rfl
      · exact fun h => hc (.inr (.inr (.inl h)))
      · exact fun _ _ h => absurd h (fun h => hc (.inl h))

/-- What is written first for a character is a backslash or the character,
which then is no sign of the brackets' own. -/
theorem exists_escapeMember (c : Char) :
    ∃ d tail, escapeMember c = d :: tail ∧ d ≠ ']' ∧ d ≠ '^' ∧ (d = '-' ↔ c = '-') := by
  by_cases hc : c = '\\' ∨ c = '[' ∨ c = ']' ∨ c = '^'
  · have hhyphen : c ≠ '-' := by
      rcases hc with rfl | rfl | rfl | rfl <;> decide
    exact ⟨'\\', [c], if_pos hc, by decide, by decide, iff_of_false (by decide) hhyphen⟩
  · exact ⟨c, [], if_neg hc, fun h => hc (.inr (.inr (.inl h))),
      fun h => hc (.inr (.inr (.inr h))), Iff.rfl⟩

/-- The first sign of the written body. -/
theorem head?_written (body rest : List Char) :
    (body.flatMap escapeMember ++ ']' :: rest).head? ≠ some '^'
      ∧ (body ≠ [] → (body.flatMap escapeMember ++ ']' :: rest).head? ≠ some ']')
      ∧ ((body.flatMap escapeMember ++ ']' :: rest).head? = some '-' ↔ body.head? = some '-') := by
  cases body with
  | nil => exact ⟨by simp, fun h => absurd rfl h, by simp⟩
  | cons c body =>
    obtain ⟨d, tail, hwritten, hclosing, hmark, hhyphen⟩ := exists_escapeMember c
    rw [List.flatMap_cons, hwritten]
    simpa using ⟨hmark, hclosing, hhyphen⟩

/-- No hyphen comes first. -/
theorem hyphens_of_head {cs : List Char} (h : cs.head? ≠ some '-') :
    cs.takeWhile (· = '-') = [] ∧ cs.dropWhile (· = '-') = cs := by
  cases cs with
  | nil => exact ⟨rfl, rfl⟩
  | cons c cs =>
    have hc : c ≠ '-' := fun heq => h (congrArg some heq)
    simp [hc]

theorem leadingMembers_of_head {cs : List Char} (hclosing : cs.head? ≠ some ']')
    (hhyphen : cs.head? ≠ some '-') : leadingMembers cs = ([], cs) := by
  unfold leadingMembers
  split
  · exact absurd rfl hclosing
  · rw [(hyphens_of_head hhyphen).1, (hyphens_of_head hhyphen).2]

theorem leadingMembers_hyphen {cs : List Char} (hhyphen : cs.head? ≠ some '-') :
    leadingMembers ('-' :: cs) = (['-'], cs) := by
  show ('-' :: cs.takeWhile (· = '-'), cs.dropWhile (· = '-')) = _
  rw [(hyphens_of_head hhyphen).1, (hyphens_of_head hhyphen).2]

/-- Two characters make an operator only if they are doubled. -/
theorem setOperator?_sign (h : ∀ e ∈ ['&', '-', '~'], ¬ (c = e ∧ d = e)) :
    setOperator? (sign c) (sign d) = none := by
  unfold setOperator?
  split
  · rfl
  · next hsame =>
    push Not at hsame
    have hcd : c = d := congrArg SetSign.char hsame.1
    have hnot : ∀ e ∈ ['&', '-', '~'], ¬ (sign c).char = e :=
      fun e he hce => h e he ⟨hce, hcd ▸ hce⟩
    rw [if_neg (hnot '&' (by simp)), if_neg (hnot '-' (by simp)), if_neg (hnot '~' (by simp))]

/-- **A body without operators is read as its characters and ranges.** -/
theorem readOperands?_plain (rev : List CharRange) (hundoubled : Undoubled body)
    (hordered : ∀ r ∈ ranges body, r.first ≤ r.last) :
    readOperands? rev (body.map sign) = some (rev.reverse ++ ranges body, []) := by
  fun_induction ranges body generalizing rev with
  | case1 => rw [List.map_nil, readOperands?, List.append_nil]
  | case2 first last cs ih =>
    have hoperator : setOperator? (sign first) (sign '-') = none :=
      setOperator?_sign hundoubled.not_both
    -- The hyphen of the range is not followed by another one.
    have hlast : ¬ sign last = ⟨'-', false⟩ := by
      rw [sign_eq_hyphen_iff]
      intro h
      exact hundoubled.tail.not_both '-' (by simp) ⟨rfl, h⟩
    have hle : first ≤ last := hordered ⟨first, last⟩ List.mem_cons_self
    have hrest := ih (⟨first, last⟩ :: rev) hundoubled.tail.tail.tail
      fun r hr => hordered r (List.mem_cons_of_mem _ hr)
    rw [List.map_cons, List.map_cons, List.map_cons, readOperands?, hoperator]
    dsimp only
    rw [if_pos (sign_eq_hyphen_iff.mpr rfl), if_neg hlast]
    show (if first ≤ last then _ else _) = _
    rw [if_pos hle]
    show readOperands? (⟨first, last⟩ :: rev) (cs.map sign) = _
    rw [hrest, List.reverse_cons, List.append_assoc, List.singleton_append]
  | case3 c cs hrange ih =>
    have hrest := ih (⟨c, c⟩ :: rev) hundoubled.tail
      fun r hr => hordered r (List.mem_cons_of_mem _ hr)
    rw [List.reverse_cons, List.append_assoc, List.singleton_append] at hrest
    cases cs with
    | nil => 
      rw [← hrest]
      rfl
    | cons d cs =>
      have hoperator : setOperator? (sign c) (sign d) = none :=
        setOperator?_sign hundoubled.not_both
      rw [List.map_cons, List.map_cons, readOperands?.eq_def]
      dsimp only
      rw [hoperator]
      dsimp only
      by_cases hd : d = '-'
      · -- A hyphen that is no range's is the last character.
        subst hd
        cases cs with
        | nil =>
          rw [if_pos (sign_eq_hyphen_iff.mpr rfl), ← hrest]
          rfl
        | cons e cs => exact absurd rfl (hrange e cs)
      · rw [if_neg (fun h => hd (sign_eq_hyphen_iff.mp h)), ← hrest]
        rfl

/-- **Brackets are read as their characters and ranges.** -/
theorem readMembers?_body (complemented : Bool) (hne : body ≠ []) (hplain : IsPlain body)
    (rest : List Char) :
    CharSet.readMembers? complemented (body.flatMap escapeMember ++ ']' :: rest)
      = some (⟨complemented, ranges body, []⟩, rest) := by
  by_cases hhead : body.head? = some '-'
  · -- A hyphen at the start is read before the others.
    obtain ⟨tail, rfl⟩ := List.head?_eq_some_iff.mp hhead
    have htail : tail.head? ≠ some '-' := by
      intro h
      obtain ⟨tail', rfl⟩ := List.head?_eq_some_iff.mp h
      exact hplain.undoubled.not_both '-' (by simp) ⟨rfl, rfl⟩
    have hranges : ranges ('-' :: tail) = ⟨'-', '-'⟩ :: ranges tail := ranges_cons htail
    have hordered : ∀ r ∈ ranges tail, r.first ≤ r.last := by
      intro r hr
      exact hplain.ordered r (by rw [hranges]; exact List.mem_cons_of_mem _ hr)
    have hleading := leadingMembers_hyphen
      (fun h => htail ((head?_written tail rest).2.2.mp h))
    have hread := readOperands?_plain [⟨'-', '-'⟩] hplain.undoubled.tail hordered
    show CharSet.readMembers? complemented ('-' :: (tail.flatMap escapeMember ++ ']' :: rest)) = _
    simp only [CharSet.readMembers?, hleading, readSigns?_body, Option.bind_some,
      List.map_cons, List.map_nil, hread, Option.map_some, hranges]
    rfl
  · have hwritten := head?_written body rest
    have hleading := leadingMembers_of_head (hwritten.2.1 hne) (fun h => hhead (hwritten.2.2.mp h))
    simp only [CharSet.readMembers?, hleading, readSigns?_body, Option.bind_some, List.map_nil,
      readOperands?_plain [] hplain.undoubled hplain.ordered, Option.map_some, List.reverse_nil,
      List.nil_append]

theorem read?_of_head {cs : List Char} (h : cs.head? ≠ some '^') :
    CharSet.read? cs = CharSet.readMembers? false cs := by
  unfold CharSet.read?
  split
  · exact absurd rfl h
  · rfl

end Glob

/-! ## §4. Reading expressions. -/

/-- What the expression of a part is read as. -/
def Shell.Part.matcher : Part → MatcherPart
  | .any => .any
  | .one => .one
  | .char c => .exactly c
  | .set complemented body => .oneOf ⟨complemented, ranges body, []⟩

namespace Glob

/-- **A set is read as its characters and ranges.** -/
theorem read?_set (complemented : Bool) {body : List Char} (hne : body ≠ []) (hplain : IsPlain body)
    (rest : List Char) :
    ∃ text, (Part.set complemented body).expression ++ rest = '[' :: text
      ∧ CharSet.read? text = some (⟨complemented, ranges body, []⟩, rest) := by
  have hmembers := readMembers?_body complemented hne hplain rest
  have hexpression : (Part.set complemented body).expression ++ rest
      = '[' :: ((if complemented then ['^'] else [])
          ++ (body.flatMap escapeMember ++ ']' :: rest)) := by
    simp only [Part.expression, List.append_assoc, List.cons_append, List.nil_append]
  refine ⟨_, hexpression, ?_⟩
  cases complemented with
  | true => exact hmembers
  | false =>
    -- A `^` of the body has a backslash, so it is not taken for the mark.
    show CharSet.read? (body.flatMap escapeMember ++ ']' :: rest) = _
    rw [read?_of_head (head?_written body rest).1]
    exact hmembers

theorem readParts?_set {text rest : List Char} {s : CharSet}
    (h : CharSet.read? text = some (s, rest)) :
    Matcher.readParts? ('[' :: text) = (Matcher.readParts? rest).map (.oneOf s :: ·) := by
  rw [Matcher.readParts?]
  split
  · next heq =>
    obtain ⟨rfl, rfl⟩ := Prod.mk.inj (Option.some.inj (h.symm.trans heq))
    rfl
  · next heq => exact absurd (h.symm.trans heq) (by simp)

/-- **What is escaped is read as itself.** -/
theorem readParts?_escape (c : Char) (cs : List Char) :
    Matcher.readParts? (escape c ++ cs) = (Matcher.readParts? cs).map (.exactly c :: ·) := by
  by_cases hc : isMeta c = true
  · rw [escape, if_pos hc]
    show Matcher.readParts? ('\\' :: c :: cs) = _
    rw [Matcher.readParts?, if_pos hc]
  · have hne {d : Char} (hd : isMeta d = true) : c ≠ d := fun h => hc (h ▸ hd)
    rw [escape, if_neg hc]
    show Matcher.readParts? (c :: cs) = _
    rw [Matcher.readParts?, if_neg hc]
    · exact fun _ hdot _ => hne (by decide) hdot
    · exact hne (by decide)
    · exact fun _ _ hslash _ => hne (by decide) hslash
    · exact hne (by decide)

/-- No part is rewritten into a text that begins with a star. -/
theorem head?_expressions (parts : List Part) :
    (parts.flatMap Part.expression).head? ≠ some '*' := by
  cases parts with
  | nil => exact fun h => absurd h (by decide)
  | cons part parts =>
    rw [List.flatMap_cons]
    cases part with
    | any | one | set => exact fun h => absurd (Option.some.inj h) (by decide)
    | char c =>
      show (escape c ++ _).head? ≠ _
      by_cases hc : isMeta c = true
      · rw [escape, if_pos hc]
        exact fun h => absurd (Option.some.inj h) (by decide)
      · rw [escape, if_neg hc]
        intro h
        obtain rfl : c = '*' := Option.some.inj h
        exact hc (by decide)

/-- **The expression is read part by part.** -/
theorem readParts?_expressions {parts : List Part}
    (h : ∀ complemented body, .set complemented body ∈ parts → body ≠ [] ∧ IsPlain body) :
    Matcher.readParts? (parts.flatMap Part.expression) = some (parts.map Part.matcher) := by
  induction parts with
  | nil => rw [List.flatMap_nil, Matcher.readParts?, List.map_nil]
  | cons part parts ih =>
    have hrest := ih fun complemented body hmem => h complemented body (List.mem_cons_of_mem _ hmem)
    rw [List.flatMap_cons, List.map_cons]
    cases part with
    | any =>
      show Matcher.readParts? ('.' :: '*' :: parts.flatMap Part.expression) = _
      rw [Matcher.readParts?, hrest]
      rfl
    | one =>
      -- The dot stays alone, whatever part comes next.
      show Matcher.readParts? ('.' :: parts.flatMap Part.expression) = _
      rw [Matcher.readParts?, hrest]
      · rfl
      · intro cs hcs
        exact head?_expressions parts (by rw [hcs]; rfl)
    | char c =>
      show Matcher.readParts? (escape c ++ parts.flatMap Part.expression) = _
      rw [readParts?_escape, hrest]
      rfl
    | set complemented body =>
      obtain ⟨hne, hplain⟩ := h complemented body List.mem_cons_self
      obtain ⟨text, htext, hread⟩ :=
        read?_set complemented hne hplain (parts.flatMap Part.expression)
      rw [htext, readParts?_set hread, hrest]
      rfl

/-- **A pattern is read part by part**, if its sets have no operators. -/
theorem matcher?_spells {text : List Char} {parts : List Part} (h : Spells text parts)
    (hplain : ∀ complemented body, .set complemented body ∈ parts → IsPlain body) :
    matcher? text = some (parts.map Part.matcher) := by
  have hread : Matcher.readParts? (parts.flatMap Part.expression) = some (parts.map Part.matcher) :=
    readParts?_expressions fun complemented body hmem =>
      ⟨(h.isBody hmem).ne_nil, hplain complemented body hmem⟩
  -- The marks of the start and the end are taken off again.
  show (if (write text ++ ['$']).getLast? = some '$' then
    Matcher.readParts? (write text ++ ['$']).dropLast else none) = _
  rw [if_pos List.getLast?_concat, List.dropLast_concat, write_spells h, hread]

end Glob

/-! ## §5. Matching. -/

namespace Shell

theorem Part.matcher_ne_any {part : Part} (h : part ≠ .any) : part.matcher ≠ .any := by
  cases part with
  | any => exact absurd rfl h
  | one | char | set => exact fun heq => by cases heq

theorem inRanges_iff {body : List Char} {c : Char} :
    inRanges (ranges body) c = true ↔ InSet body c := by
  simp only [inRanges, List.any_eq_true, CharRange.holds, Bool.and_eq_true, decide_eq_true_eq,
    InSet]

/-- **One character is taken alike**, line feeds apart. -/
theorem Part.takes_iff {part : Part} (hpart : part ≠ .any) {c : Char} (hc : c ≠ '\n') :
    part.matcher.takes c = true ↔ part.Takes [c] := by
  cases part with
  | any => exact absurd rfl hpart
  | one => exact iff_of_true (by simpa [Part.matcher, MatcherPart.takes] using hc) ⟨c, rfl⟩
  | char d =>
    show (c == d) = true ↔ [c] = [d]
    simp
  | set complemented body =>
    have htakes : (Part.set complemented body).Takes [c]
        ↔ (InSet body c ↔ complemented = false) := by
      constructor
      · rintro ⟨d, hd, hset⟩
        obtain rfl : c = d := List.singleton_inj.mp hd
        exact hset
      · exact fun hset => ⟨c, rfl, hset⟩
    rw [htakes, ← inRanges_iff]
    show (if complemented then !inRanges (ranges body) c else inRanges (ranges body) c) = true ↔ _
    cases complemented <;> simp

/-- **The same names match.** -/
theorem accepts_iff_matches (parts : List Part) {name : List Char} (hname : '\n' ∉ name) :
    Matcher.accepts (parts.map Part.matcher) name = true ↔ Matches parts name := by
  induction parts generalizing name with
  | nil =>
    show Matcher.accepts [] name = true ↔ name = []
    rw [Matcher.accepts_nil, List.isEmpty_iff]
  | cons part parts ih =>
    by_cases hpart : part = .any
    · subst hpart
      show Matcher.accepts (.any :: parts.map Part.matcher) name = true ↔ _
      -- A star is compared with every character of the name.
      induction name with
      | nil => rw [Matcher.accepts_any_nil, matches_any_nil, ih hname]
      | cons c name ihname =>
        have hc : c ≠ '\n' := fun h => hname (h ▸ List.mem_cons_self)
        have htail : '\n' ∉ name := fun h => hname (List.mem_cons_of_mem _ h)
        rw [Matcher.accepts_any_cons, matches_any_cons, Bool.or_eq_true, ih hname,
          bne_iff_ne.mpr hc, Bool.true_and, ihname htail]
    · have hmatcher := part.matcher_ne_any hpart
      rw [List.map_cons]
      cases name with
      | nil =>
        rw [Matcher.accepts_part_nil hmatcher]
        exact iff_of_false (by decide) (not_matches_nil hpart)
      | cons c name =>
        have hc : c ≠ '\n' := fun h => hname (h ▸ List.mem_cons_self)
        have htail : '\n' ∉ name := fun h => hname (List.mem_cons_of_mem _ h)
        rw [Matcher.accepts_part_cons hmatcher, matches_part_cons hpart, Bool.and_eq_true,
          part.takes_iff hpart hc, ih htail]

end Shell

/-! ## §6. The file. -/

namespace FileListing

variable {l : FileListing} {pattern : String} {m : Matcher}

theorem find_none (h : Glob.matcher? pattern.toList = some m) (hnone : l.selected m = []) :
    l.find pattern = .error (.noMatch pattern) := by
  simp only [find, h, hnone]

theorem find_one {name : String} (h : Glob.matcher? pattern.toList = some m)
    (hone : l.selected m = [name]) : l.find pattern = .ok ⟨l.aurl, name⟩ := by
  simp only [find, h, hone]

theorem find_many (h : Glob.matcher? pattern.toList = some m) (hmany : 2 ≤ (l.selected m).length) :
    l.find pattern = .error (.ambiguous pattern (l.selected m)) := by
  obtain ⟨name, other, others, hselected⟩ : ∃ name other others,
      l.selected m = name :: other :: others := by
    match hm : l.selected m, hmany with
    | name :: other :: others, _ => exact ⟨name, other, others, rfl⟩
  simp only [find, h, hselected]

end FileListing

/-- **A FILE BY A PATTERN.**  Every pattern has one meaning as a row of stars,
question marks, sets and characters.  If its sets are characters and ranges
only, a name without line feeds is selected exactly when it matches as a
whole; and the file is found when one place of the listing is selected, there
is none when no place is, and otherwise all the selected names are reported,
in their order. -/
theorem find_iff_matches (l : FileListing) (pattern : String)
    (hnames : ∀ name ∈ l.names, '\n' ∉ name.toList) :
    (∃ parts, Shell.Spells pattern.toList parts
      ∧ ∀ other, Shell.Spells pattern.toList other → other = parts)
    ∧ ∀ parts, Shell.Spells pattern.toList parts →
      (∀ complemented body, .set complemented body ∈ parts → Shell.IsPlain body) →
      let selected := l.names.filter fun name => Shell.Matches parts name.toList
      (∃ m, Glob.matcher? pattern.toList = some m
        ∧ ∀ name : String, '\n' ∉ name.toList →
          (m.accepts name.toList = true ↔ Shell.Matches parts name.toList))
      ∧ (∀ name, selected = [name] → l.find pattern = .ok ⟨l.aurl, name⟩)
      ∧ (selected = [] → l.find pattern = .error (.noMatch pattern))
      ∧ (2 ≤ selected.length → l.find pattern = .error (.ambiguous pattern selected)) := by
  refine ⟨?_, ?_⟩
  · obtain ⟨parts, hparts⟩ := Shell.exists_spells pattern.toList
    exact ⟨parts, hparts, fun other hother => hother.unique hparts⟩
  · intro parts hparts hplain selected
    have hmatcher := Glob.matcher?_spells hparts hplain
    have haccepts (name : String) (hname : '\n' ∉ name.toList) :
        Matcher.accepts (parts.map Shell.Part.matcher) name.toList = true
          ↔ Shell.Matches parts name.toList := Shell.accepts_iff_matches parts hname
    -- Places are selected one by one, so equal names count as often as they occur.
    have hselected : l.selected (parts.map Shell.Part.matcher) = selected :=
      List.filter_congr fun name hname => by
        rw [Bool.eq_iff_iff, haccepts name (hnames name hname), decide_eq_true_iff]
    refine ⟨⟨_, hmatcher, haccepts⟩, ?_, ?_, ?_⟩
    · intro name hone
      exact FileListing.find_one hmatcher (hselected.trans hone)
    · intro hnone
      exact FileListing.find_none hmatcher (hselected.trans hnone)
    · intro hmany
      rw [← hselected] at hmany ⊢
      exact FileListing.find_many hmatcher hmany

/-- Of three names two match `a[]-]?`: a closing bracket that comes first and
a hyphen that comes last are members. -/
theorem find_iff_matches_bracketed :
    (∀ name ∈ ["a]1", "a-2", "ab3"], '\n' ∉ name.toList)
    ∧ Shell.Spells "a[]-]?".toList [.char 'a', .set false [']', '-'], .one]
    ∧ Shell.IsPlain [']', '-']
    ∧ FileListing.find ⟨"aflowlib.duke.edu:X", ["a]1", "a-2", "ab3"]⟩ "a[]-]?"
      = .error (.ambiguous "a[]-]?" ["a]1", "a-2"]) := by
  have hnames : ∀ name ∈ ["a]1", "a-2", "ab3"], '\n' ∉ name.toList := by decide
  have hbody : Shell.IsBody false [']', '-'] := ⟨by decide, by decide, by decide⟩
  have hspells : Shell.Spells "a[]-]?".toList [.char 'a', .set false [']', '-'], .one] :=
    .char (by decide) (by decide) (fun h => absurd h (by decide)) (.set hbody (.one .nil))
  have hplain : Shell.IsPlain [']', '-'] := by
    refine ⟨fun c _ hwithin => ?_, by decide⟩
    have hbody : [c, c] = [']', '-'] := hwithin.eq_of_length rfl
    obtain ⟨rfl, hlast⟩ := List.cons.inj hbody
    exact absurd hlast (by decide)
  have hsets : ∀ complemented body,
      .set complemented body ∈ [Shell.Part.char 'a', .set false [']', '-'], .one] →
        Shell.IsPlain body := by
    intro complemented body hmem
    obtain ⟨-, rfl⟩ : complemented = false ∧ body = [']', '-'] := by simpa using hmem
    exact hplain
  obtain ⟨-, hfind⟩ :=
    find_iff_matches ⟨"aflowlib.duke.edu:X", ["a]1", "a-2", "ab3"]⟩ "a[]-]?" hnames
  obtain ⟨-, -, -, hmany⟩ := hfind _ hspells hsets
  exact ⟨hnames, hspells, hplain, hmany (by decide)⟩

end MaterialSearch
