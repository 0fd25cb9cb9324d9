/-
  MaterialSearch.Proofs.Transport.Directive
  ────────────────────────────────
  **THE PAGE THAT AN ADDRESS ASKS FOR.**

  A query writes the page it wants at the end of an address, and prepared
  responses look for the first paging directive anywhere in it.  Both agree
  as long as nothing in front of the directive looks like the beginning of
  one: the word that opens a directive cannot begin inside of it, since its
  first letter does not come again, so no match lies across the two parts.

  Main definitions:
    * `openingWord`    — what a paging directive begins with
    * `Query.leadFor`  — an address up to its paging directive

  Main results:
    * `prefix_of_straddling`   — no word lies across its own beginning
    * `pagingHere?_text`, `findPaging?_lead` — the directive where it stands, and behind a lead
    * `readPaging?_lead`       — the page and the page size of an address
    * `canned_serves_page`     — **what prepared responses serve**
-/
import MaterialSearch.Proofs.Page.RecordKey
import MaterialSearch.Proofs.Query.Finalized
import MaterialSearch.Transport.Canned

namespace MaterialSearch

open Text

/-- What a paging directive begins with. -/
def openingWord : List Char := "paging(".toList

/-! ## §1. Words at the start of a text. -/

theorem dropWord?_append (w cs : List Char) : dropWord? w (w ++ cs) = some cs := by
  induction w with
  | nil => rfl
  | cons c w ih =>
    show (if c = c then dropWord? w (w ++ cs) else none) = some cs
    rw [if_pos rfl, ih]

theorem dropWord?_singleton (c : Char) (cs : List Char) : dropWord? [c] (c :: cs) = some cs :=
  dropWord?_append [c] cs

/-- A word that is dropped was at the start. -/
theorem prefix_of_dropWord? {w cs rest : List Char} (h : dropWord? w cs = some rest) :
    w <+: cs := by
  induction w generalizing cs with
  | nil => exact List.nil_prefix
  | cons c w ih =>
    cases cs with
    | nil => exact absurd h (by simp [dropWord?])
    | cons d cs =>
      rw [dropWord?, Option.ite_none_right_eq_some] at h
      obtain ⟨rfl, h⟩ := h
      exact List.cons_prefix_cons.mpr ⟨rfl, ih h⟩

/-- **No word lies across its own beginning**, if its first character does not
come again in it: at the start of a text it is within what stands before. -/
theorem prefix_of_straddling {c : Char} {w lead rest : List Char} (hw : c ∉ w) (hne : lead ≠ [])
    (h : c :: w <+: lead ++ c :: rest) : c :: w <+: lead := by
  obtain hlen | hlen := Nat.le_total (c :: w).length lead.length
  · exact List.prefix_of_prefix_length_le h (List.prefix_append _ _) hlen
  · -- The word goes on with its own first character where the lead ends.
    obtain ⟨more, hmore⟩ := List.prefix_of_prefix_length_le (List.prefix_append _ _) h hlen
    rw [← hmore, List.prefix_append_right_inj] at h
    cases more with
    | nil => exact hmore ▸ (List.append_nil lead).symm ▸ List.prefix_refl lead
    | cons d more =>
      obtain ⟨rfl, -⟩ := List.cons_prefix_cons.mp h
      obtain ⟨first, lead, rfl⟩ := List.exists_cons_of_ne_nil hne
      rw [← (List.cons.inj hmore).2] at hw
      exact absurd (List.mem_append_right lead List.mem_cons_self) hw

/-! ## §2. The directive where it stands. -/

/-- The characters of a paging directive. -/
theorem toList_text (p : Paging) : p.text.toList
    = openingWord ++ ((toString p.page.toInt).toList
      ++ ',' :: (Nat.toDigits 10 p.size.toNat ++ [')'])) := by
  have hrepr : (toString p.size.toNat).toList = Nat.toDigits 10 p.size.toNat := Nat.toList_repr
  simp only [Paging.text, String.toList_append, hrepr, List.append_assoc]
  rfl

theorem takeSign_toDigits (n : Nat) (rest : List Char) :
    takeSign (Nat.toDigits 10 n ++ rest) = ([], Nat.toDigits 10 n ++ rest) := by
  cases hdigits : Nat.toDigits 10 n with
  | nil => exact absurd hdigits Nat.toDigits_ne_nil
  | cons d ds =>
    have hmem : d ∈ Nat.toDigits 10 n := by
      rw [hdigits]
      exact List.mem_cons_self
    have hd : d ≠ '-' := by
      rintro rfl
      exact absurd (Nat.isDigit_of_mem_toDigits (by omega) (by omega) hmem) (by decide)
    exact takeSign.eq_2 _ fun cs h => hd (List.cons.inj h).1

/-- The sign of a whole number, if it has one, stands in front of its digits. -/
theorem takeSign_toString (n : Int) (rest : List Char) :
    takeSign ((toString n).toList ++ rest)
      = (if n < 0 then ['-'] else [], Nat.toDigits 10 n.natAbs ++ rest) := by
  rw [toList_toString_int, List.append_assoc]
  split
  · rfl
  · exact takeSign_toDigits n.natAbs rest

/-- Digits are cut off at a character that is none. -/
theorem takeWhile_toDigits (n : Nat) {c : Char} (hc : isDecimalDigit c = false) (rest : List Char) :
    (Nat.toDigits 10 n ++ c :: rest).takeWhile isDecimalDigit = Nat.toDigits 10 n
      ∧ (Nat.toDigits 10 n ++ c :: rest).dropWhile isDecimalDigit = c :: rest := by
  have hall : ∀ d ∈ Nat.toDigits 10 n, isDecimalDigit d = true :=
    fun d hd => isDecimalDigit_of_mem_toDigits hd
  rw [List.takeWhile_append_of_pos hall, List.dropWhile_append_of_pos hall, List.takeWhile_cons,
    List.dropWhile_cons, hc]
  simp

/-- **The directive where it stands.** -/
theorem pagingHere?_text (p : Paging) (rest : List Char) :
    pagingHere? (p.text.toList ++ rest)
      = some ((toString p.page.toInt).toList, Nat.toDigits 10 p.size.toNat) := by
  have hchars : p.text.toList ++ rest = openingWord ++ ((toString p.page.toInt).toList
      ++ ',' :: (Nat.toDigits 10 p.size.toNat ++ ')' :: rest)) := by
    simp only [toList_text, List.append_assoc, List.cons_append, List.nil_append]
  have hpage := takeWhile_toDigits p.page.toInt.natAbs (show isDecimalDigit ',' = false by decide)
    (Nat.toDigits 10 p.size.toNat ++ ')' :: rest)
  have hsize := takeWhile_toDigits p.size.toNat (show isDecimalDigit ')' = false by decide) rest
  have hwritten : ∀ n, (Nat.toDigits 10 n).isEmpty = false := fun n => by
    simp [Nat.toDigits_ne_nil]
  unfold pagingHere?
  rw [hchars, show "paging(".toList = openingWord from rfl, dropWord?_append]
  simp only [Option.bind_some, takeSign_toString, hpage.1, hpage.2, dropWord?_singleton, hsize.1,
    hsize.2, hwritten]
  rw [toList_toString_int]
  rfl

/-! ## §3. The directive behind a lead. -/

/-- **The first directive is the one behind the lead**, unless the lead holds
the beginning of one. -/
theorem findPaging?_lead (p : Paging) {lead : List Char} (h : ¬ openingWord <:+: lead) :
    findPaging? (lead ++ p.text.toList)
      = some ((toString p.page.toInt).toList, Nat.toDigits 10 p.size.toNat) := by
  induction lead with
  | nil =>
    have hhere := pagingHere?_text p []
    rw [List.append_nil] at hhere
    rw [List.nil_append]
    rw [show p.text.toList = 'p' :: ("aging(".toList ++ ((toString p.page.toInt).toList
      ++ ',' :: (Nat.toDigits 10 p.size.toNat ++ [')']))) from toList_text p] at hhere ⊢
    rw [findPaging?, hhere]
  | cons c lead ih =>
    have hnone : pagingHere? (c :: (lead ++ p.text.toList)) = none := by
      cases hdrop : dropWord? openingWord (c :: lead ++ p.text.toList) with
      | none =>
        show (dropWord? openingWord (c :: lead ++ p.text.toList)).bind _ = none
        rw [hdrop]
        rfl
      | some cs =>
        have hprefix := prefix_of_dropWord? hdrop
        rw [toList_text] at hprefix
        exact absurd (prefix_of_straddling (by decide) (List.cons_ne_nil _ _) hprefix).isInfix h
    rw [List.cons_append, findPaging?, hnone]
    exact ih fun hlater => h (List.infix_cons hlater)

/-- **The page and the page size of an address** are those of its directive. -/
theorem readPaging?_lead (p : Paging) {lead : String} (h : ¬ openingWord <:+: lead.toList) :
    readPaging? (lead ++ p.text) = some p := by
  unfold readPaging?
  rw [String.toList_append, findPaging?_lead p h]
  simp only [readInt64?_toString, readUInt64?_toDigits]

/-! ## §4. Addresses and prepared responses. -/

/-- **An address up to its paging directive**: the server, the matchbook and
the catalogs. -/
def Query.leadFor (q : Query) (book : Matchbook) : String :=
  q.config.server ++ book.text ++ ","
    ++ (if q.config.catalogs.isEmpty then ""
      else "catalog(" ++ ":".intercalate q.config.catalogs ++ "),")

theorem urlFor_eq_lead (q : Query) (book : Matchbook) (page : Int64) :
    q.urlFor book page = q.leadFor book ++ Paging.text ⟨page, q.pageSize⟩ := by
  unfold Query.urlFor Query.leadFor directives
  split
  · rw [String.append_empty]
  · simp only [String.append_assoc]

/-- **A page is requested once**, whether it arrives or not. -/
theorem Search.log_fetchPage {s : Search} {book : Matchbook} (t : Transport) (page : Int64)
    (hfinal : s.query.stage = .final book) :
    (s.fetchPage t page).2.log = s.log ++ [s.query.urlFor book page] := by
  cases hanswer : s.answer t book page with
  | error cause =>
    rw [fetchPage_missed hfinal hanswer]
    rfl
  | ok body =>
    rw [fetchPage_answered hfinal hanswer]
    unfold storePage
    split <;> rfl

/-- Where no failure is laid over the responses, what is served for the address
of a page is what was prepared for this page. -/
theorem serve_of_readPaging? {c : Canned} {url : String} {p : Paging}
    (hread : readPaging? url = some p) (hurl : c.urlFaults.lookup url = none)
    (hpage : c.pageFaults.lookup p.page = none) (hresource : c.resources.lookup url = none) :
    c.serve url = match c.pages.lookup p.page with
      | some body => .ok body
      | none => .error (.status url 404 "") := by
  have hfault : c.fault? url = none := by
    simp only [Canned.fault?, hurl, hread, Option.bind_some, hpage]
  have hbody : c.body? url = c.pages.lookup p.page := by
    simp only [Canned.body?, hresource, hread, Option.bind_some]
  cases hprepared : c.pages.lookup p.page <;> simp [Canned.serve, hfault, hbody, hprepared]

/-- **WHAT PREPARED RESPONSES SERVE.**  Once its terms are written down, a query
has an address for every page, whatever the number of the page and the page
size are.  Unless the lead of the address holds the beginning of a directive,
what is read from the address are exactly this number and this size.

So prepared responses without a text for this very address, and without a
failure for it or for the page, serve the body prepared for the page, or none
at all; and the request is logged under this address, also when the query asks
for the page. -/
theorem canned_serves_page {s : Search} {book : Matchbook} (hfinal : s.query.stage = .final book)
    (page : Int64) (hlead : ¬ "paging(".toList <:+: (s.query.leadFor book).toList) :
    let url := s.query.leadFor book ++ Paging.text ⟨page, s.query.pageSize⟩
    s.pageUrl page = (.ok url, s)
      ∧ readPaging? url = some ⟨page, s.query.pageSize⟩
      ∧ ∀ c : Canned, c.resources.lookup url = none → c.urlFaults.lookup url = none →
        c.pageFaults.lookup page = none →
        (∀ log, c.transport.ask url log
          = (match c.pages.lookup page with
            | some body => .ok body
            | none => .error (.status url 404 ""), log ++ [url]))
        ∧ (s.fetchPage c.transport page).2.log = s.log ++ [url] := by
  intro url
  have hurl : s.query.urlFor book page = url := urlFor_eq_lead s.query book page
  have hread : readPaging? url = some ⟨page, s.query.pageSize⟩ := readPaging?_lead _ hlead
  refine ⟨by rw [Search.pageUrl_final hfinal, hurl], hread, ?_⟩
  intro c hresource hurlFault hpageFault
  refine ⟨fun log => ?_, ?_⟩
  · show (c.serve url, log ++ [url]) = _
    rw [serve_of_readPaging? hread hurlFault hpageFault hresource]
  · rw [Search.log_fetchPage _ _ hfinal, hurl]

/-- A search for the last page of all, behind a catalog, and one prepared page. -/
def Sample.lowestPage : Search where
  query :=
    { Query.ofConfig { Config.standard with server := "s?", catalogs := ["paging"], batchSize := 0 }
      with stage := .final ⟨none, .descending, ["Egap"], [], []⟩ }
  cache := .empty
  log := []

/-- The lowest page number and the least page size behind a catalog that is
named as the directive: the body prepared for the page is served. -/
theorem canned_serves_page_lowest :
    Sample.lowestPage.query.stage = .final ⟨none, .descending, ["Egap"], [], []⟩
    ∧ ¬ "paging(".toList
      <:+: (Sample.lowestPage.query.leadFor ⟨none, .descending, ["Egap"], [], []⟩).toList
    ∧ readPaging? "s?Egap,catalog(paging),paging(-9223372036854775808,1)"
      = some ⟨-9223372036854775808, 1⟩
    ∧ (Canned.transport { Canned.empty with pages := [(-9223372036854775808, "\x7b\x7d")] }).ask
        "s?Egap,catalog(paging),paging(-9223372036854775808,1)" []
      = (.ok "\x7b\x7d", ["s?Egap,catalog(paging),paging(-9223372036854775808,1)"]) := by
  have hfinal : Sample.lowestPage.query.stage = .final ⟨none, .descending, ["Egap"], [], []⟩ := rfl
  have hlead : ¬ "paging(".toList
      <:+: (Sample.lowestPage.query.leadFor ⟨none, .descending, ["Egap"], [], []⟩).toList := by
    decide +kernel
  have hurl : Sample.lowestPage.query.leadFor ⟨none, .descending, ["Egap"], [], []⟩
        ++ Paging.text ⟨-9223372036854775808, Sample.lowestPage.query.pageSize⟩
      = "s?Egap,catalog(paging),paging(-9223372036854775808,1)" := by decide +kernel
  obtain ⟨-, hread, hserved⟩ := canned_serves_page hfinal (-9223372036854775808) hlead
  rw [hurl] at hread hserved
  obtain ⟨hask, -⟩ := hserved
    { Canned.empty with pages := [(-9223372036854775808, "\x7b\x7d")] } rfl rfl rfl
  exact ⟨hfinal, hlead, hread, hask []⟩

end MaterialSearch
