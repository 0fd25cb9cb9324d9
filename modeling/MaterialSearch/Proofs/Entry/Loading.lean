/-
  MaterialSearch.Proofs.Entry.Loading
  ────────────────────────────────
  **KEYWORDS ON DEMAND.**

  A keyword that an entry lacks is requested by the location of the entry,
  once, and the value that the response writes is the one that a record with
  this text would have given.  Nothing else about the entry changes: neither
  its record, nor its location, nor a value that it has.  So whatever was
  loaded is there for good and is not requested again, however many keywords
  and files are asked for later and however the requests end.

  Main definitions:
    * `Entry.Access`, `Entry.accessAll` — keywords and files asked for in turn
    * `Entry.Grown`                     — what an access leaves as it was

  Main results:
    * `Entry.readResponse?_eq`      — a response as a record would be read
    * `Entry.load_missing`          — what a request for a keyword does
    * `Entry.load_grown`, `Entry.accessAll_grown` — one access, and many
    * `lazy_load_eq_eager`          — **loading on demand**
-/
import MaterialSearch.Proofs.Attribute.Kinds

namespace MaterialSearch

open Keyword Text

namespace Entry

variable {e : Entry} {f : Field} {t : Transport} {log : RequestLog}

/-! ## §1. Values by name. -/

/-- The entry of a record has a value for every name of the record. -/
theorem attribute?_ofRecord (record : Members) (name : String) :
    (ofRecord record).attribute? name
      = (record.lookup name).map (Attribute.decodeNamed name) := by
  induction record with
  | nil => rfl
  | cons m record ih =>
    obtain ⟨key, raw⟩ := m
    show List.lookup name ((key, Attribute.decodeNamed key raw) :: _) = _
    rw [List.lookup_cons, List.lookup_cons]
    cases hkey : name == key with
    | true =>
      rw [beq_iff_eq.mp hkey]
      rfl
    | false => exact ih

/-- A value that is added does not hide one that is there. -/
theorem attribute?_addAttribute (e : Entry) (key name : String) (value : Attribute) :
    (e.addAttribute key value).attribute? name
      = (e.attribute? name).or (if name = key then some value else none) := by
  show List.lookup name (e.attributes ++ [(key, value)]) = _
  rw [List.lookup_append, List.lookup_cons]
  congr 1
  by_cases hname : name = key
  · rw [if_pos hname, hname, beq_self_eq_true]
  · rw [if_neg hname, beq_false_of_ne hname]
    rfl

theorem attribute?_addAttribute_self {key : String} (h : e.attribute? key = none)
    (value : Attribute) : (e.addAttribute key value).attribute? key = some value := by
  rw [attribute?_addAttribute, h, if_pos rfl]
  rfl

theorem attribute?_addAttribute_of_ne {key name : String} (h : name ≠ key) (value : Attribute) :
    (e.addAttribute key value).attribute? name = e.attribute? name := by
  rw [attribute?_addAttribute, if_neg h, Option.or_none]

/-! ## §2. One keyword. -/

/-- **A response is read as a record with its text**, unless it is blank. -/
theorem readResponse?_eq (f : Field) (body : String) :
    readResponse? f body
      = if body.toList.all isBlank then none
        else some (Attribute.decode f.wire (.str body)) := by
  have hblank : (trim body).isEmpty = true ↔ body.toList.all isBlank = true := by
    rw [String.isEmpty_iff, ← String.toList_inj, toList_trim, List.all_eq_true,
      ← trimChars_eq_nil_iff]
    rfl
  have hdecode : Attribute.decode f.wire (.str (trim body))
      = Attribute.decode f.wire (.str body) := by
    simp only [Attribute.decode, Attribute.readText?, toList_trim, trimChars_trimChars]
  simp only [readResponse?, hblank, hdecode]

theorem load_present {value : Attribute} (h : e.attribute? f.name = some value) :
    e.load f t log = (.ok (some value), e, log) := by
  simp only [load, h]

theorem load_unlocated (h : e.attribute? f.name = none) (haurl : e.aurl? = none) :
    e.load f t log = (.error .noLocation, e, log) := by
  simp only [load, h, haurl]

/-- **A keyword that is missing is requested once**, and added unless the
request fails or the response is blank. -/
theorem load_missing {aurl : String} (h : e.attribute? f.name = none)
    (haurl : e.aurl? = some aurl) : e.load f t log
      = (match t.answer log (keywordUrl aurl f) with
        | .error cause => (.error (.fetch cause), e, log ++ [keywordUrl aurl f])
        | .ok body =>
            match readResponse? f body with
            | none => (.ok none, e, log ++ [keywordUrl aurl f])
            | some value =>
                (.ok (some value), e.addAttribute f.name value, log ++ [keywordUrl aurl f])) := by
  simp only [load, h, haurl, Transport.ask]
  cases t.answer log (keywordUrl aurl f) <;> rfl

/-- What is requested tells the keyword. -/
theorem keywordUrl_inj {aurl : String} {g : Field} (h : keywordUrl aurl f = keywordUrl aurl g) :
    f.name = g.name := by
  have hchars := congrArg String.toList h
  simp only [keywordUrl, String.toList_append] at hchars
  exact String.toList_inj.mp (List.append_cancel_left hchars)

/-! ## §3. Keywords and files in turn. -/

/-- **What may be asked of an entry**, and where the answer comes from. -/
inductive Access where
  | load (f : Field) (t : Transport)
  | files (t : Transport)

/-- The entry and the log after something was asked. -/
def access (at_ : Entry × RequestLog) : Access → Entry × RequestLog
  | .load f t => (at_.1.load f t at_.2).2
  | .files t => (at_.1.files t at_.2).2

/-- The entry and the log after all of this was asked, in order. -/
def accessAll (at_ : Entry × RequestLog) (accesses : List Access) : Entry × RequestLog :=
  accesses.foldl access at_

/-- **What an access leaves as it was**: the record, the location and all the
values.  Nothing that was there has been requested. -/
structure Grown (before after : Entry × RequestLog) : Prop where
  record : after.1.record = before.1.record
  aurl : after.1.aurl? = before.1.aurl?
  kept : ∀ name value, before.1.attribute? name = some value → after.1.attribute? name = some value
  requests : ∃ requested, after.2 = before.2 ++ requested
    ∧ ∀ f aurl, (before.1.attribute? f.name).isSome → before.1.aurl? = some aurl →
      keywordUrl aurl f ∉ requested

theorem Grown.refl (a : Entry × RequestLog) : Grown a a where
  record := rfl
  aurl := rfl
  kept _ _ h := h
  requests := ⟨[], (List.append_nil _).symm, fun _ _ _ _ => List.not_mem_nil⟩

theorem Grown.trans {a b c : Entry × RequestLog} (hab : Grown a b) (hbc : Grown b c) :
    Grown a c where
  record := hbc.record.trans hab.record
  aurl := hbc.aurl.trans hab.aurl
  kept name value h := hbc.kept name value (hab.kept name value h)
  requests := by
    obtain ⟨first, hfirst, hnone⟩ := hab.requests
    obtain ⟨second, hsecond, hnone'⟩ := hbc.requests
    refine ⟨first ++ second, by rw [hsecond, hfirst, List.append_assoc], ?_⟩
    intro f aurl hf haurl hmem
    -- What was there at first is there in between.
    obtain ⟨value, hvalue⟩ := Option.isSome_iff_exists.mp hf
    have hlater : (b.1.attribute? f.name).isSome := by rw [hab.kept _ _ hvalue]; rfl
    rcases List.mem_append.mp hmem with hmem | hmem
    · exact hnone f aurl hf haurl hmem
    · exact hnone' f aurl hlater (hab.aurl.trans haurl) hmem

/-- A request for a keyword that is not there. -/
theorem grown_requested {aurl : String} (h : e.attribute? f.name = none)
    (haurl : e.aurl? = some aurl) : Grown (e, log) (e, log ++ [keywordUrl aurl f]) where
  record := rfl
  aurl := rfl
  kept _ _ hold := hold
  requests := by
    refine ⟨[keywordUrl aurl f], rfl, ?_⟩
    intro g aurl' hg haurl' hmem
    obtain rfl := Option.some.inj (haurl'.symm.trans haurl)
    rw [keywordUrl_inj (List.mem_singleton.mp hmem), h] at hg
    exact absurd hg (by decide)

/-- A value under a name that is not there yet.  The location is a value, so
it is not the one that is added. -/
theorem grown_added {aurl key : String} (h : e.attribute? key = none) (haurl : e.aurl? = some aurl)
    (value : Attribute) : Grown (e, log) (e.addAttribute key value, log) where
  record := rfl
  aurl := by
    have hne : Field.aurl.name ≠ key := by
      rintro rfl
      simp [aurl?, h] at haurl
    simp only [aurl?, attribute?_addAttribute_of_ne hne]
  kept name value' hold := by
    rw [attribute?_addAttribute, hold, Option.some_or]
  requests := ⟨[], (List.append_nil _).symm, fun _ _ _ _ => List.not_mem_nil⟩

/-- **Loading a keyword** leaves everything else as it was. -/
theorem load_grown (e : Entry) (f : Field) (t : Transport) (log : RequestLog) :
    Grown (e, log) (e.load f t log).2 := by
  cases h : e.attribute? f.name with
  | some value =>
    rw [load_present h]
    exact .refl _
  | none =>
    cases haurl : e.aurl? with
    | none =>
      rw [load_unlocated h haurl]
      exact .refl _
    | some aurl =>
      -- Whatever the answer is, the request was made for what is not there.
      have hrequested : Grown (e, log) (e, log ++ [keywordUrl aurl f]) := grown_requested h haurl
      rw [load_missing h haurl]
      cases t.answer log (keywordUrl aurl f) with
      | error cause => exact hrequested
      | ok body =>
        dsimp only
        cases readResponse? f body with
        | none => exact hrequested
        | some value => exact hrequested.trans (grown_added h haurl value)

theorem access_grown (at_ : Entry × RequestLog) (a : Access) : Grown at_ (access at_ a) := by
  cases a with
  | load f t => exact load_grown at_.1 f t at_.2
  | files t =>
    rw [access, files_eq_load]
    exact load_grown at_.1 Field.files t at_.2

/-- **Whatever is asked**, what was there is there as it was. -/
theorem accessAll_grown (at_ : Entry × RequestLog) (accesses : List Access) :
    Grown at_ (accessAll at_ accesses) := by
  induction accesses generalizing at_ with
  | nil => exact .refl _
  | cons a accesses ih => exact (access_grown at_ a).trans (ih (access at_ a))

end Entry

/-- **LOADING ON DEMAND.**  A keyword that is there is neither requested nor
changed.  One that is not there needs a location; it is requested once, a
failure or a blank response changes nothing, and any other response adds the
value that a record with this text would have given, and nothing else.  In
every run of requests for keywords and files, the record, the location and
all values stay as they were, and a keyword that is there is not requested
any more. -/
theorem lazy_load_eq_eager (e : Entry) (f : Field) (hf : f ∈ catalog) (t : Transport)
    (log : RequestLog) :
    (∀ value, e.attribute? f.name = some value → e.load f t log = (.ok (some value), e, log))
    ∧ (e.attribute? f.name = none → e.aurl? = none →
      e.load f t log = (.error .noLocation, e, log))
    ∧ (∀ aurl, e.attribute? f.name = none → e.aurl? = some aurl →
      let url := "http://" ++ hostPath aurl ++ "?" ++ f.name
      (∀ cause, t.answer log url = .error cause →
        e.load f t log = (.error (.fetch cause), e, log ++ [url]))
      ∧ (∀ body, t.answer log url = .ok body → (∀ c ∈ body.toList, isBlank c = true) →
        e.load f t log = (.ok none, e, log ++ [url]))
      ∧ ∀ body, t.answer log url = .ok body → (∃ c ∈ body.toList, isBlank c = false) →
        ∃ value after, e.load f t log = (.ok (some value), after, log ++ [url])
          ∧ (∀ record, record.lookup f.name = some (.str body) →
            (Entry.ofRecord record).attribute? f.name = some value)
          ∧ after.attribute? f.name = some value ∧ after.record = e.record
          ∧ ∀ name, name ≠ f.name → after.attribute? name = e.attribute? name)
    ∧ ∀ earlier later,
      let middle := Entry.accessAll (e, log) earlier
      let last := Entry.accessAll (e, log) (earlier ++ later)
      middle.1.record = e.record ∧ middle.1.aurl? = e.aurl?
      ∧ (∀ name value, middle.1.attribute? name = some value →
        last.1.attribute? name = some value)
      ∧ ∃ requested, last.2 = middle.2 ++ requested
        ∧ ∀ (g : Field) (aurl : String), (middle.1.attribute? g.name).isSome →
          e.aurl? = some aurl → "http://" ++ hostPath aurl ++ "?" ++ g.name ∉ requested := by
  refine ⟨fun value h => Entry.load_present h, fun h haurl => Entry.load_unlocated h haurl, ?_, ?_⟩
  · intro aurl h haurl url
    have hload : e.load f t log = _ := Entry.load_missing h haurl
    refine ⟨?_, ?_, ?_⟩
    · intro cause hanswer
      rw [hload, show t.answer log (Entry.keywordUrl aurl f) = .error cause from hanswer]
      rfl
    · intro body hanswer hblank
      rw [hload, show t.answer log (Entry.keywordUrl aurl f) = .ok body from hanswer]
      simp only [Entry.readResponse?_eq, if_pos (List.all_eq_true.mpr hblank)]
      rfl
    · rintro body hanswer ⟨c, hc, hnot⟩
      have hwritten : ¬ body.toList.all isBlank = true := by
        intro hall
        rw [List.all_eq_true.mp hall c hc] at hnot
        exact absurd hnot (by decide)
      refine ⟨Attribute.decode f.wire (.str body), e.addAttribute f.name _, ?_, ?_,
        Entry.attribute?_addAttribute_self h _, rfl,
        fun name hname => Entry.attribute?_addAttribute_of_ne hname _⟩
      · rw [hload, show t.answer log (Entry.keywordUrl aurl f) = .ok body from hanswer]
        simp only [Entry.readResponse?_eq, if_neg hwritten]
        rfl
      · intro record hrecord
        rw [Entry.attribute?_ofRecord, hrecord, Option.map_some, Attribute.decodeNamed,
          find?_eq_self hf]
  · intro earlier later middle last
    -- What was there before is in the middle, and what is in the middle stays.
    have hmiddle : Entry.Grown (e, log) middle := Entry.accessAll_grown _ _
    have hlast : last = Entry.accessAll middle later := List.foldl_append
    obtain ⟨requested, hlog, hnone⟩ := (Entry.accessAll_grown middle later).requests
    rw [hlast]
    refine ⟨hmiddle.record, hmiddle.aurl, (Entry.accessAll_grown middle later).kept, requested,
      hlog, ?_⟩
    intro g aurl hg haurl
    exact hnone g aurl hg (hmiddle.aurl.trans haurl)

/-- The names of the files are loaded as a record would give them, and
listing the files afterwards does not request them again. -/
theorem lazy_load_eq_eager_located :
    Field.files ∈ catalog
    ∧ Sample.located.attribute? "files" = none
    ∧ Sample.located.aurl? = some "aflowlib.duke.edu:X"
    ∧ (∃ value after, Sample.located.load .files Sample.filesOfX []
        = (.ok (some value), after, ["http://aflowlib.duke.edu/X?files"])
      ∧ (Entry.ofRecord [("files", .str "INCAR,OUTCAR")]).attribute? "files" = some value
      ∧ after.attribute? "files" = some value
      ∧ after.attribute? "aurl" = Sample.located.attribute? "aurl")
    ∧ ∃ requested, (Entry.accessAll (Sample.located, [])
        [.load .files Sample.filesOfX, .files Sample.filesOfX]).2
          = ["http://aflowlib.duke.edu/X?files"] ++ requested
      ∧ "http://aflowlib.duke.edu/X?files" ∉ requested := by
  have hmissing : Sample.located.attribute? "files" = none := by rfl
  have haurl : Sample.located.aurl? = some "aflowlib.duke.edu:X" := by rfl
  obtain ⟨-, -, honce, hrun⟩ :=
    lazy_load_eq_eager Sample.located .files files_mem_catalog Sample.filesOfX []
  obtain ⟨-, -, hwritten⟩ := honce _ hmissing haurl
  obtain ⟨value, after, hload, hrecord, hvalue, -, hframe⟩ :=
    hwritten "INCAR,OUTCAR" (by rfl) ⟨'I', by decide, by decide⟩
  obtain ⟨-, -, -, requested, hlog, hnone⟩ :=
    hrun [.load .files Sample.filesOfX] [.files Sample.filesOfX]
  exact ⟨files_mem_catalog, hmissing, haurl,
    ⟨value, after, hload, hrecord _ rfl, hvalue, hframe "aurl" (by decide)⟩,
    requested, hlog, hnone .files "aflowlib.duke.edu:X" (by decide) haurl⟩

end MaterialSearch
