/-
  MaterialSearch.Proofs.Entry.Location
  ────────────────────────────────
  **TWO ADDRESSES FROM ONE LOCATION.**

  The location of an entry has a colon after its host.  The address of the
  entry's page turns this colon into a slash, that of a file turns every
  colon into one.  Both put one character for one, so that they are of the
  same length and can only part at a colon that stands elsewhere.

  Main definitions:
    * `FollowsHost` — a place in a location right behind `.edu`
    * `StrayColon`  — a colon at any other place

  Main results:
    * `getElem?_hostPathChars`, `getElem?_slashed` — the two rewritings, place by place
    * `fileUrl_ne_iff`       — where the two addresses part
    * `Entry.files_located`  — the listing of an entry with a location
    * `file_url_eq_iff`      — **files below the entry's page**
-/
import Mathlib.Data.String.Basic
import MaterialSearch.Proofs.Entry.Loading

namespace MaterialSearch

open Keyword Text

/-! ## §1. Colons and hosts. -/

/-- What the name of a host ends in. -/
def hostEnding : List Char := ['.', 'e', 'd', 'u']

/-- **The place right behind `.edu`.** -/
def FollowsHost (cs : List Char) (i : Nat) : Prop := hostEnding <:+ cs.take i

instance (cs : List Char) (i : Nat) : Decidable (FollowsHost cs i) :=
  inferInstanceAs (Decidable (hostEnding <:+ cs.take i))

/-- **A stray colon** does not stand right behind `.edu`. -/
def StrayColon (cs : List Char) (i : Nat) : Prop := cs[i]? = some ':' ∧ ¬ FollowsHost cs i

instance (cs : List Char) (i : Nat) : Decidable (StrayColon cs i) :=
  inferInstanceAs (Decidable (cs[i]? = some ':' ∧ ¬ FollowsHost cs i))

theorem not_followsHost_zero (cs : List Char) : ¬ FollowsHost cs 0 := by
  intro h
  rw [FollowsHost, List.take_zero, List.suffix_nil] at h
  exact absurd h (by decide)

/-- One character further on, unless the host's ending begins with it. -/
theorem followsHost_cons {c : Char} {cs : List Char} {i : Nat} (h : hostEnding ≠ c :: cs.take i) :
    FollowsHost (c :: cs) (i + 1) ↔ FollowsHost cs i := by
  rw [FollowsHost, List.take_succ_cons, List.suffix_cons_iff, or_iff_right h]
  rfl

/-- Behind the colon of a host the text begins anew. -/
theorem followsHost_hosted (cs : List Char) (i : Nat) :
    FollowsHost ('.' :: 'e' :: 'd' :: 'u' :: ':' :: cs) (i + 5) ↔ FollowsHost cs i := by
  rw [followsHost_cons, followsHost_cons, followsHost_cons, followsHost_cons, followsHost_cons]
  all_goals simp [hostEnding]

/-- The ending would have taken the colon behind it along. -/
theorem followsHost_cons_of_colon {c : Char} {cs : List Char} {i : Nat}
    (hnot : ∀ rest, c = '.' → cs ≠ 'e' :: 'd' :: 'u' :: ':' :: rest) (hcolon : cs[i]? = some ':') :
    FollowsHost (c :: cs) (i + 1) ↔ FollowsHost cs i := by
  apply followsHost_cons
  intro hending
  obtain ⟨hdot, htake⟩ := List.cons.inj hending
  obtain ⟨hlt, hget⟩ := List.getElem?_eq_some_iff.mp hcolon
  apply hnot (cs.drop (i + 1)) hdot.symm
  calc cs = cs.take i ++ cs.drop i := (List.take_append_drop i cs).symm
    _ = ['e', 'd', 'u'] ++ ':' :: cs.drop (i + 1) := by
      rw [← htake, List.drop_eq_getElem_cons hlt, hget]

/-! ## §2. The two rewritings. -/

/-- **The address of the page, place by place**: a slash for a colon that
follows the host. -/
theorem getElem?_hostPathChars (cs : List Char) (i : Nat) :
    (hostPathChars cs)[i]?
      = if cs[i]? = some ':' ∧ FollowsHost cs i then some '/' else cs[i]? := by
  induction cs using hostPathChars.induct generalizing i with
  | case1 cs ih =>
    rw [hostPathChars]
    match i with
    | 0 | 1 | 2 | 3 => rw [if_neg (by simp)]; rfl
    | 4 => rw [if_pos ⟨rfl, List.suffix_refl hostEnding⟩]; rfl
    | i + 5 =>
      simp only [followsHost_hosted]
      exact ih i
  | case2 c cs hnot ih =>
    rw [hostPathChars.eq_2 c cs hnot]
    match i with
    | 0 => rw [if_neg (fun h => not_followsHost_zero _ h.2)]; rfl
    | i + 1 =>
      have hplace : cs[i]? = some ':' ∧ FollowsHost (c :: cs) (i + 1)
          ↔ cs[i]? = some ':' ∧ FollowsHost cs i :=
        and_congr_right fun hcolon =>
          followsHost_cons_of_colon (fun rest hdot hrest => hnot rest hdot hrest) hcolon
      simp only [List.getElem?_cons_succ, hplace]
      exact ih i
  | case3 =>
    rw [if_neg (by simp)]
    rfl

/-- The characters of a location with a slash for every colon. -/
def slashed (cs : List Char) : List Char := cs.map fun c => if c = ':' then '/' else c

/-- **The address of a file, place by place**: a slash for every colon. -/
theorem getElem?_slashed (cs : List Char) (i : Nat) :
    (slashed cs)[i]? = if cs[i]? = some ':' then some '/' else cs[i]? := by
  rw [slashed, List.getElem?_map]
  cases cs[i]? with
  | none => rfl
  | some c =>
    show some (if c = ':' then '/' else c) = _
    by_cases hc : c = ':'
    · rw [if_pos hc, if_pos (congrArg some hc)]
    · rw [if_neg hc, if_neg (fun h => hc (Option.some.inj h))]

/-- **The rewritings part at the stray colons.** -/
theorem getElem?_slashed_ne_iff (cs : List Char) (i : Nat) :
    (slashed cs)[i]? ≠ (hostPathChars cs)[i]? ↔ StrayColon cs i := by
  rw [getElem?_slashed, getElem?_hostPathChars, StrayColon]
  by_cases hcolon : cs[i]? = some ':'
  · by_cases hhost : FollowsHost cs i <;> simp [hcolon, hhost]
  · simp [hcolon]

theorem length_hostPathChars (cs : List Char) : (hostPathChars cs).length = cs.length := by
  induction cs using hostPathChars.induct with
  | case1 cs ih => simp only [hostPathChars, List.length_cons, ih]
  | case2 c cs hnot ih => simp only [hostPathChars.eq_2 c cs hnot, List.length_cons, ih]
  | case3 => rfl

theorem utf8Len_hostPathChars (cs : List Char) :
    String.utf8Len (hostPathChars cs) = String.utf8Len cs := by
  induction cs using hostPathChars.induct with
  | case1 cs ih =>
    simp only [hostPathChars, String.utf8Len_cons, ih]
    rfl
  | case2 c cs hnot ih => simp only [hostPathChars.eq_2 c cs hnot, String.utf8Len_cons, ih]
  | case3 => rfl

theorem utf8Len_slashed (cs : List Char) : String.utf8Len (slashed cs) = String.utf8Len cs := by
  induction cs with
  | nil => rfl
  | cons c cs ih =>
    show String.utf8Len ((if c = ':' then '/' else c) :: slashed cs) = _
    rw [String.utf8Len_cons, String.utf8Len_cons, ih]
    split
    · next hc =>
      rw [hc]
      rfl
    · rfl

/-! ## §3. The addresses. -/

/-- What stands around two texts of one length is the same. -/
theorem getElem?_around_ne_iff {before a b after : List Char} (hlen : a.length = b.length)
    (i : Nat) : (before ++ (a ++ after))[i]? ≠ (before ++ (b ++ after))[i]?
      ↔ ∃ j, i = before.length + j ∧ a[j]? ≠ b[j]? := by
  have hat : ∀ (cs : List Char) (j : Nat), (before ++ cs)[before.length + j]? = cs[j]? := by
    intro cs j
    rw [List.getElem?_append_right (Nat.le_add_right _ _), Nat.add_sub_cancel_left]
  constructor
  · intro hne
    -- The place is neither before the two texts nor behind them.
    have hfrom : before.length ≤ i := by
      by_contra hbefore
      rw [List.getElem?_append_left (by omega), List.getElem?_append_left (by omega)] at hne
      exact hne rfl
    obtain ⟨j, rfl⟩ := Nat.exists_eq_add_of_le hfrom
    rw [hat, hat] at hne
    have hto : j < a.length := by
      by_contra hbehind
      rw [List.getElem?_append_right (by omega), List.getElem?_append_right (by omega), hlen] at hne
      exact hne rfl
    rw [List.getElem?_append_left hto, List.getElem?_append_left (hlen ▸ hto)] at hne
    exact ⟨j, rfl, hne⟩
  · rintro ⟨j, rfl, hne⟩
    have hto : j < a.length := by
      by_contra hbehind
      exact hne (by rw [List.getElem?_eq_none (by omega), List.getElem?_eq_none (by omega)])
    rwa [hat, hat, List.getElem?_append_left hto, List.getElem?_append_left (hlen ▸ hto)]

/-- The characters of the address of a file. -/
theorem toList_fileUrl (aurl name : String) : (RemoteFile.mk aurl name).url.toList
    = "http://".toList ++ (slashed aurl.toList ++ '/' :: name.toList) := by
  simp only [RemoteFile.url, String.toList_append, String.toList_ofList, List.append_assoc]
  rfl

/-- The characters of a name below the page of the entry. -/
theorem toList_belowPage (aurl name : String) :
    ("http://" ++ hostPath aurl ++ "/" ++ name).toList
      = "http://".toList ++ (hostPathChars aurl.toList ++ '/' :: name.toList) := by
  simp only [hostPath, String.toList_append, String.toList_ofList, List.append_assoc]
  rfl

/-- **Where the address of a file leaves the page of its entry.** -/
theorem fileUrl_ne_iff (aurl name : String) (i : Nat) :
    (RemoteFile.mk aurl name).url.toList[i]?
        ≠ ("http://" ++ hostPath aurl ++ "/" ++ name).toList[i]?
      ↔ ∃ j, i = "http://".length + j ∧ StrayColon aurl.toList j := by
  have hlen : (slashed aurl.toList).length = (hostPathChars aurl.toList).length := by
    rw [length_hostPathChars, slashed, List.length_map]
  rw [toList_fileUrl, toList_belowPage, getElem?_around_ne_iff hlen]
  simp only [getElem?_slashed_ne_iff]
  rfl

/-- **A file is below the page of its entry** when no colon is a stray one. -/
theorem fileUrl_eq_iff (aurl name : String) :
    (RemoteFile.mk aurl name).url = "http://" ++ hostPath aurl ++ "/" ++ name
      ↔ ∀ i, aurl.toList[i]? = some ':' → FollowsHost aurl.toList i := by
  rw [← String.toList_inj, List.ext_getElem?_iff]
  constructor
  · intro hsame i hcolon
    by_contra hstray
    exact (fileUrl_ne_iff aurl name _).mpr ⟨i, rfl, hcolon, hstray⟩ (hsame _)
  · intro hhosts i
    by_contra hne
    obtain ⟨j, -, hcolon, hstray⟩ := (fileUrl_ne_iff aurl name i).mp hne
    exact hstray (hhosts j hcolon)

/-- Both addresses have as many characters. -/
theorem length_fileUrl (aurl name : String) :
    (RemoteFile.mk aurl name).url.length
      = ("http://" ++ hostPath aurl ++ "/" ++ name).length := by
  rw [← String.length_toList, ← String.length_toList, toList_fileUrl, toList_belowPage]
  simp only [List.length_append, length_hostPathChars, slashed, List.length_map]

/-- Both addresses have as many bytes. -/
theorem utf8ByteSize_fileUrl (aurl name : String) :
    (RemoteFile.mk aurl name).url.utf8ByteSize
      = ("http://" ++ hostPath aurl ++ "/" ++ name).utf8ByteSize := by
  have hslashed : (String.ofList (slashed aurl.toList)).utf8ByteSize
      = (hostPath aurl).utf8ByteSize := by
    rw [hostPath, String.utf8ByteSize_ofList, String.utf8ByteSize_ofList, utf8Len_slashed,
      utf8Len_hostPathChars]
  show ("http://" ++ String.ofList (slashed aurl.toList) ++ "/" ++ name).utf8ByteSize = _
  simp only [String.utf8ByteSize_append, hslashed]

/-! ## §4. The files of a listing. -/

/-- A file by its place is one of the files. -/
theorem FileListing.mem_files_of_get {l : FileListing} {index : UInt64} {f : RemoteFile}
    (h : l.get index = .ok f) : f ∈ l.files := by
  unfold get at h
  split at h
  · next name hname =>
    rw [← Except.ok.inj h]
    exact List.mem_map_of_mem (List.mem_of_getElem? hname)
  · exact absurd h (by simp)

/-- A file by a pattern is one of the files. -/
theorem FileListing.mem_files_of_find {l : FileListing} {pattern : String} {f : RemoteFile}
    (h : l.find pattern = .ok f) : f ∈ l.files := by
  unfold find at h
  split at h
  · exact absurd h (by simp)
  · next m _ =>
    split at h
    · exact absurd h (by simp)
    · next name hone =>
      have hmem : name ∈ l.selected m := by
        rw [hone]
        exact List.mem_singleton_self name
      rw [← Except.ok.inj h]
      exact List.mem_map_of_mem (List.mem_filter.mp hmem).1
    · exact absurd h (by simp)

/-- An entry with a location fails to load a keyword only if the request does. -/
theorem Entry.load_located {e : Entry} {aurl : String} (haurl : e.aurl? = some aurl) (f : Field)
    (t : Transport) (log : RequestLog) :
    (∃ cause, (e.load f t log).1 = .error (.fetch cause))
      ∨ ∃ value, (e.load f t log).1 = .ok value := by
  cases hvalue : e.attribute? f.name with
  | some value =>
    rw [load_present hvalue]
    exact .inr ⟨_, rfl⟩
  | none =>
    rw [load_missing hvalue haurl]
    cases t.answer log (keywordUrl aurl f) with
    | error cause => exact .inl ⟨cause, rfl⟩
    | ok body =>
      dsimp only
      cases readResponse? f body <;> exact .inr ⟨_, rfl⟩

/-- **The listing of an entry with a location** has this location; only the
request for the names can fail. -/
theorem Entry.files_located {e : Entry} {aurl : String} (haurl : e.aurl? = some aurl)
    (t : Transport) (log : RequestLog) :
    (∃ cause, (e.files t log).1 = .error (.fetch cause))
      ∨ ∃ names, (e.files t log).1 = .ok (FileListing.ofNames aurl names) := by
  have hafter : (e.load Field.files t log).2.1.aurl? = some aurl :=
    (load_grown e Field.files t log).aurl.trans haurl
  have hload := load_located haurl Field.files t log
  unfold files
  generalize e.load Field.files t log = loaded at hafter hload
  obtain ⟨outcome, after, log'⟩ := loaded
  obtain ⟨cause, rfl⟩ | ⟨value, rfl⟩ := hload
  · exact .inl ⟨cause, rfl⟩
  · replace hafter : after.aurl? = some aurl := hafter
    simp only [hafter]
    exact .inr ⟨_, rfl⟩

/-- **FILES BELOW THE ENTRY'S PAGE.**  An entry with a location has a page,
and for every name the address of the file is that of the page, a slash and
the name exactly when every colon of the location stands right behind `.edu`.
In any case both are of the same length, in characters and in bytes, and they
differ at the stray colons of the location and nowhere else.

This is so for all files of the entry, whether the listing gives them in
order, by place or by pattern; the entry has a listing unless the request for
the names fails, and the same page afterwards. -/
theorem file_url_eq_iff {e : Entry} {aurl : String} (haurl : e.aurl? = some aurl) :
    ∃ page, e.url? = some page
      ∧ (∀ name,
        let file := (RemoteFile.mk aurl name).url
        let below := page ++ "/" ++ name
        (file = below ↔ ∀ i, aurl.toList[i]? = some ':' → FollowsHost aurl.toList i)
          ∧ file.length = below.length ∧ file.utf8ByteSize = below.utf8ByteSize
          ∧ ∀ i, file.toList[i]? ≠ below.toList[i]?
            ↔ ∃ j, i = "http://".length + j ∧ StrayColon aurl.toList j)
      ∧ ∀ t log,
        (e.files t log).2.1.url? = some page
          ∧ (∀ cause, (e.files t log).1 = .error cause → ∃ failure, cause = .fetch failure)
          ∧ ∀ l, (e.files t log).1 = .ok l → ∀ f,
            (f ∈ l.files ∨ (∃ index, l.get index = .ok f) ∨ ∃ pattern, l.find pattern = .ok f) →
            ∃ name ∈ l.names, f = ⟨aurl, name⟩ := by
  refine ⟨"http://" ++ hostPath aurl, by rw [Entry.url?, haurl]; rfl, ?_, ?_⟩
  · intro name
    exact ⟨fileUrl_eq_iff aurl name, length_fileUrl aurl name, utf8ByteSize_fileUrl aurl name,
      fileUrl_ne_iff aurl name⟩
  · intro t log
    have hgrown : Entry.Grown (e, log) (e.files t log).2 := by
      rw [Entry.files_eq_load]
      exact Entry.load_grown e Field.files t log
    refine ⟨?_, ?_, ?_⟩
    · rw [Entry.url?, hgrown.aurl, haurl]
      rfl
    · intro cause hcause
      obtain ⟨failure, hfailure⟩ | ⟨names, hnames⟩ := Entry.files_located haurl t log
      · rw [hfailure] at hcause
        exact ⟨failure, (Except.error.inj hcause).symm⟩
      · rw [hnames] at hcause
        exact absurd hcause (by simp)
    · intro l hl f hf
      have hmem : f ∈ l.files := by
        obtain hmem | ⟨index, hget⟩ | ⟨pattern, hfind⟩ := hf
        · exact hmem
        · exact FileListing.mem_files_of_get hget
        · exact FileListing.mem_files_of_find hfind
      obtain ⟨failure, hfailure⟩ | ⟨names, hnames⟩ := Entry.files_located haurl t log
      · rw [hfailure] at hl
        exact absurd hl (by simp)
      · rw [hnames] at hl
        obtain rfl := Except.ok.inj hl
        obtain ⟨name, hname, rfl⟩ := List.mem_map.mp hmem
        exact ⟨name, hname, rfl⟩

/-- A location with a colon behind that of the host, and one file. -/
def Sample.stray : Entry :=
  Entry.ofRecord [("aurl", .str "h.edu:A:B"), ("files", .str " INCAR ")]

/-- The two addresses part at the second colon: the file is not below the page
of its entry, although both addresses are of the same length. -/
theorem file_url_eq_iff_stray :
    Sample.stray.aurl? = some "h.edu:A:B"
    ∧ (∃ page, Sample.stray.url? = some page
      ∧ (RemoteFile.mk "h.edu:A:B" "INCAR").url ≠ page ++ "/" ++ "INCAR"
      ∧ (RemoteFile.mk "h.edu:A:B" "INCAR").url.length = (page ++ "/" ++ "INCAR").length
      ∧ (RemoteFile.mk "h.edu:A:B" "INCAR").url.toList[14]?
        ≠ (page ++ "/" ++ "INCAR").toList[14]?)
    ∧ (Sample.stray.files ⟨fun _ _ => .ok ""⟩ []).1 = .ok ⟨"h.edu:A:B", ["INCAR"]⟩
    ∧ ∃ name ∈ ["INCAR"], RemoteFile.mk "h.edu:A:B" "INCAR" = ⟨"h.edu:A:B", name⟩ := by
  have haurl : Sample.stray.aurl? = some "h.edu:A:B" := by rfl
  have hfiles : (Sample.stray.files ⟨fun _ _ => .ok ""⟩ []).1
      = .ok ⟨"h.edu:A:B", ["INCAR"]⟩ := by rfl
  have hstray : StrayColon "h.edu:A:B".toList 7 := by decide
  obtain ⟨page, hpage, hnamed, hlisted⟩ := file_url_eq_iff haurl
  obtain ⟨hbelow, hlength, -, hplaces⟩ := hnamed "INCAR"
  obtain ⟨-, -, hmade⟩ := hlisted ⟨fun _ _ => .ok ""⟩ []
  refine ⟨haurl, ⟨page, hpage, ?_, hlength, (hplaces 14).mpr ⟨7, by decide, hstray⟩⟩, hfiles,
    hmade _ hfiles _ (.inl (List.mem_singleton_self _))⟩
  intro hsame
  exact hstray.2 (hbelow.mp hsame 7 hstray.1)

end MaterialSearch
