/-
  MaterialSearch.Proofs.Attribute.Kinds
  ────────────────────────────────
  **THE KINDS OF THE VALUES THAT ARE READ.**

  A keyword declares the form of its values and thereby their kind.  Texts
  and arrays are read in this form or not at all, so whatever is read of
  them is of the kind.  A JSON number is never refused: under a keyword
  whose form has no place for one number it is kept as a number, against
  the kind.  These stray numbers are the only values of a wrong kind, in
  reading as well as in entries.

  Main definitions:
    * `Wire.takesNumber` — the forms that one number may have
    * `Attribute.Fits`   — nothing, or a value of the kind
    * `Entry.Made`       — entries of records, with keywords loaded later

  Main results:
    * `decode_fits_iff`  — all that is read fits, stray numbers aside
    * `Entry.load_cases` — what loading a keyword adds to an entry
    * `Entry.Made.sound` — every value of an entry fits or is a stray number
    * `attributes_kinds` — **the kinds of all values**
    * `kpoints_of_number` — a stray number
-/
import Mathlib.Data.List.Nodup
import MaterialSearch.Entry.Resource
import MaterialSearch.Transport.Canned

namespace MaterialSearch

open Keyword Numeric

/-! ## §1. Kinds. -/

/-- The forms that one number may have. -/
def Keyword.Wire.takesNumber : Wire → Bool
  | .number | .numbers | .vector => true
  | .string | .strings | .matrix | .kpoints => false

namespace Attribute

/-- **A value fits a kind** if there is none, or if it is of that kind. -/
def Fits (a : Attribute) (k : Kind) : Prop := a = .missing ∨ a.HasKind k

theorem HasKind.fits {a : Attribute} {k : Kind} (h : a.HasKind k) : a.Fits k := .inr h

/-- What may be read fits when everything that is read has the kind. -/
theorem fits_getD {found : Option Attribute} {k : Kind} (h : ∀ a, found = some a → a.HasKind k) :
    (found.getD .missing).Fits k := by
  cases found with
  | none => exact .inl rfl
  | some a => exact (h a rfl).fits

/-! ## §2. Reading. -/

section Reading

variable {w : Wire} {a : Attribute}

/-- **A text** is read in the form of the keyword. -/
theorem readText?_hasKind {s : String} (h : readText? w s = some a) : a.HasKind w.kind := by
  cases w with
  | string =>
      obtain rfl := Option.some.inj h
      trivial
  | strings =>
      obtain rfl := Option.some.inj h
      trivial
  | _ =>
      obtain ⟨value, -, rfl⟩ := Option.map_eq_some_iff.mp h
      trivial

/-- **An array** is read in the form of the keyword. -/
theorem readArray?_hasKind {items : List Json} (h : readArray? w items = some a) :
    a.HasKind w.kind := by
  cases w with
  | string | number | kpoints => exact absurd h (by simp [readArray?])
  | strings =>
      obtain rfl := Option.some.inj h
      trivial
  | numbers | vector | matrix =>
      obtain ⟨value, -, rfl⟩ := Option.map_eq_some_iff.mp h
      trivial

/-- **A number** is kept in every form, also where there is no place for
one. -/
theorem ofNumber_fits_iff (w : Wire) (n : Number) :
    (ofNumber w n).Fits w.kind ↔ w.takesNumber = true := by
  cases w with
  | number | numbers | vector => exact ⟨fun _ => rfl, fun _ => .inr trivial⟩
  | string | strings | matrix | kpoints =>
      constructor
      · intro h
        obtain h | h := h
        · exact absurd h (by simp [ofNumber])
        · exact h.elim
      · intro h
        exact absurd h (by simp [Wire.takesNumber])

theorem ofNumber_stray (h : w.takesNumber = false) (n : Number) : ofNumber w n = .number n := by
  cases w with
  | numbers | vector => exact absurd h (by simp [Wire.takesNumber])
  | _ => rfl

/-- **All that is read fits**, unless a number stands where there is no
place for one. -/
theorem decode_fits_iff (w : Wire) (raw : Json) :
    (decode w raw).Fits w.kind ↔ ∀ n, raw = .num n → w.takesNumber = true := by
  cases raw with
  | num n =>
      -- There is one number to look at, and the form decides.
      have hsame : (∀ m, Json.num n = .num m → w.takesNumber = true) ↔ w.takesNumber = true :=
        ⟨fun h => h n rfl, fun h _ _ => h⟩
      rw [hsame]
      exact ofNumber_fits_iff w n
  | str s => exact iff_of_true (fits_getD fun a => readText?_hasKind) (by simp)
  | arr items => exact iff_of_true (fits_getD fun a => readArray?_hasKind) (by simp)
  | null | bool | obj => exact iff_of_true (.inl rfl) (by simp)

end Reading

end Attribute

/-! ## §3. The catalog. -/

/-- No two keywords of the catalog have the same name. -/
theorem catalog_names_nodup : (catalog.map Field.name).Nodup := by decide +kernel

/-- **Every keyword of the catalog is found under its name.** -/
theorem find?_eq_self {f : Field} (hf : f ∈ catalog) : find? f.name = some f := by
  have hsome : (find? f.name).isSome :=
    List.find?_isSome.mpr ⟨f, hf, beq_self_eq_true f.name⟩
  obtain ⟨g, hg⟩ := Option.isSome_iff_exists.mp hsome
  rw [hg, List.inj_on_of_nodup_map catalog_names_nodup (mem_catalog_of_find? hg) hf (find?_name hg)]

theorem files_mem_catalog : Field.files ∈ catalog :=
  mem_catalog_of_find? (show find? "files" = some Field.files by decide)

/-! ## §4. Entries. -/

namespace Entry

/-- **The entries there are**: those of records, and those for which
keywords of the catalog or the names of files were loaded. -/
inductive Made : Entry → Prop
  /-- The entry of a record. -/
  | ofRecord (record : Members) : Made (ofRecord record)
  /-- An entry after a keyword was loaded, or could not be. -/
  | load {e : Entry} {f : Field} (t : Transport) (log : RequestLog) (hf : f ∈ catalog)
      (he : Made e) : Made (e.load f t log).2.1
  /-- An entry after its files were listed, or could not be. -/
  | files {e : Entry} (t : Transport) (log : RequestLog) (he : Made e) : Made (e.files t log).2.1

/-- A value is of the kind that its name declares, or it is a number that
the record has there although the form has no place for one. -/
def Sound (e : Entry) : Prop :=
  ∀ name value, (name, value) ∈ e.attributes → ∀ f, find? name = some f →
    value.Fits f.kind
      ∨ f.wire.takesNumber = false ∧ ∃ n, (name, .num n) ∈ e.record ∧ value = .number n

variable {e : Entry}

/-- What a response says about a keyword is of its kind. -/
theorem readResponse?_fits {f : Field} {body : String} {value : Attribute}
    (h : readResponse? f body = some value) : value.Fits f.kind := by
  dsimp only [readResponse?] at h
  split at h
  · exact absurd h (by simp)
  · obtain rfl := Option.some.inj h
    exact (Attribute.decode_fits_iff f.wire _).mpr (by simp)

/-- **Loading a keyword** leaves an entry as it was, or adds what a response
says about it. -/
theorem load_cases (e : Entry) (f : Field) (t : Transport) (log : RequestLog) :
    (e.load f t log).2.1 = e
      ∨ ∃ body value, readResponse? f body = some value
          ∧ (e.load f t log).2.1 = e.addAttribute f.name value := by
  unfold load
  split
  · exact .inl rfl
  · split
    · exact .inl rfl
    · split
      · exact .inl rfl
      · next body _ _ =>
        split
        · exact .inl rfl
        · next value hvalue => exact .inr ⟨body, value, hvalue, rfl⟩

/-- Listing the files changes an entry, and requests, as loading their names
does. -/
theorem files_eq_load (e : Entry) (t : Transport) (log : RequestLog) :
    (e.files t log).2 = (e.load Field.files t log).2 := by
  unfold files
  split
  · next hload => rw [hload]
  · next hload =>
    rw [hload]
    split <;> rfl

/-- **An entry of a record**: a value that does not fit is a number that the
record has there. -/
theorem sound_ofRecord (record : Members) : (ofRecord record).Sound := by
  intro name value hmem f hf
  obtain ⟨⟨key, raw⟩, hraw, hpair⟩ := List.mem_map.mp hmem
  obtain ⟨rfl, rfl⟩ := Prod.mk.inj hpair
  have hdecode : Attribute.decodeNamed key raw = Attribute.decode f.wire raw := by
    unfold Attribute.decodeNamed
    rw [hf]
  rw [hdecode]
  by_cases hfits : (Attribute.decode f.wire raw).Fits f.kind
  · exact .inl hfits
  · -- What does not fit was read off a number.
    rw [show f.kind = f.wire.kind from rfl, Attribute.decode_fits_iff] at hfits
    obtain ⟨n, hn⟩ := not_forall.mp hfits
    obtain ⟨rfl, hstray⟩ := Classical.not_imp.mp hn
    have hnot : f.wire.takesNumber = false := by simpa using hstray
    exact .inr ⟨hnot, n, hraw, Attribute.ofNumber_stray hnot n⟩

/-- A value of the declared kind may be added. -/
theorem Sound.addAttribute {f : Field} {value : Attribute} (he : e.Sound) (hf : f ∈ catalog)
    (hvalue : value.Fits f.kind) : (e.addAttribute f.name value).Sound := by
  intro name v hmem g hg
  obtain hold | hnew := List.mem_append.mp hmem
  · exact he name v hold g hg
  · -- No other keyword of the catalog has the name, so the declared kind is the same.
    obtain ⟨rfl, rfl⟩ := Prod.mk.inj (List.mem_singleton.mp hnew)
    obtain rfl := Option.some.inj ((find?_eq_self hf).symm.trans hg)
    exact .inl hvalue

theorem Sound.load {f : Field} (he : e.Sound) (hf : f ∈ catalog) (t : Transport)
    (log : RequestLog) : (e.load f t log).2.1.Sound := by
  obtain hsame | ⟨body, value, hvalue, hadded⟩ := load_cases e f t log
  · rw [hsame]
    exact he
  · rw [hadded]
    exact he.addAttribute hf (readResponse?_fits hvalue)

/-- **Every value of an entry fits or is a stray number.** -/
theorem Made.sound (h : e.Made) : e.Sound := by
  induction h with
  | ofRecord record => exact sound_ofRecord record
  | load t log hf _ ih => exact ih.load hf t log
  | @files e t log _ ih =>
      rw [files_eq_load]
      exact ih.load files_mem_catalog t log

end Entry

/-- **THE KINDS OF ALL VALUES.**  What is read in a form is missing or of the
kind of the form, unless it is a JSON number and the form has no place for
one; then it is kept as a number.  An entry, whatever was loaded for it,
holds under every keyword of the catalog nothing, or a value of the declared
kind, or such a number of its record. -/
theorem attributes_kinds (w : Wire) (raw : Json) (e : Entry) (he : e.Made) :
    ((Attribute.decode w raw).Fits w.kind ↔ ∀ n, raw = .num n → w.takesNumber = true)
      ∧ (∀ n, raw = .num n → w.takesNumber = false → Attribute.decode w raw = .number n)
      ∧ ∀ name value f, (name, value) ∈ e.attributes → find? name = some f →
          value.Fits f.kind
            ∨ f.wire.takesNumber = false ∧ ∃ n, (name, .num n) ∈ e.record ∧ value = .number n := by
  refine ⟨Attribute.decode_fits_iff w raw, ?_, ?_⟩
  · intro n hraw hnot
    rw [hraw]
    exact Attribute.ofNumber_stray hnot n
  · intro name value f hmem hf
    exact he.sound name value hmem f hf

/-- An entry whose record has nothing but its location. -/
def Sample.located : Entry := Entry.ofRecord [("aurl", .str "aflowlib.duke.edu:X")]

/-- A transport that has the files of this location only. -/
def Sample.filesOfX : Transport :=
  Canned.transport
    { Canned.empty with resources := [("http://aflowlib.duke.edu/X?files", "INCAR,OUTCAR")] }

/-- Files that are loaded later are a list of texts, as declared. -/
theorem attributes_kinds_located :
    (Sample.located.load .files Sample.filesOfX []).2.1.Made
      ∧ find? "files" = some .files ∧ Wire.matrix.takesNumber = false
      ∧ Attribute.decode .matrix (.num (.int 42)) = .number (.int 42)
      ∧ ∃ value, ("files", value) ∈ (Sample.located.load .files Sample.filesOfX []).2.1.attributes
          ∧ value.Fits .textList := by
  have hmade : (Sample.located.load .files Sample.filesOfX []).2.1.Made :=
    .load Sample.filesOfX [] files_mem_catalog (.ofRecord [("aurl", .str "aflowlib.duke.edu:X")])
  have hadded : (Sample.located.load .files Sample.filesOfX []).2.1.attributes
      = [("aurl", .text "aflowlib.duke.edu:X"), ("files", .texts ["INCAR", "OUTCAR"])] := by rfl
  have hmem : ("files", .texts ["INCAR", "OUTCAR"])
      ∈ (Sample.located.load .files Sample.filesOfX []).2.1.attributes := by
    rw [hadded]
    exact List.mem_cons_of_mem _ (List.mem_singleton_self _)
  obtain ⟨-, hstray, hentries⟩ := attributes_kinds .matrix (.num (.int 42)) _ hmade
  refine ⟨hmade, by decide, rfl, hstray (.int 42) rfl rfl, _, hmem, ?_⟩
  obtain hfits | ⟨-, n, -, hnumber⟩ := hentries "files" _ .files hmem (by decide)
  · exact hfits
  · exact absurd hnumber (by simp)

/-- **A number in the place of a sampling** is kept as a number, in reading
and in entries. -/
theorem kpoints_of_number :
    ¬ (Attribute.decode .kpoints (.num (.int 42))).Fits Wire.kpoints.kind
      ∧ ∃ f, find? "kpoints" = some f ∧ f.kind = .kpoints
        ∧ ∃ value, ("kpoints", value)
            ∈ (Entry.ofRecord [("kpoints", .num (.int 42))]).attributes
          ∧ ¬ value.Fits f.kind := by
  have hnot : ¬ (Attribute.decode .kpoints (.num (.int 42))).Fits Wire.kpoints.kind := by
    rw [Attribute.decode_fits_iff]
    intro h
    exact absurd (h (.int 42) rfl) (by decide)
  have hfind : find? "kpoints"
      = some ⟨"kpoints", .kpoints, .optional, "", "K-point mesh"⟩ := by decide
  have hnamed : Attribute.decodeNamed "kpoints" (.num (.int 42))
      = Attribute.decode .kpoints (.num (.int 42)) := by
    unfold Attribute.decodeNamed
    rw [hfind]
  refine ⟨hnot, _, hfind, rfl, _, List.mem_singleton_self _, ?_⟩
  rw [hnamed]
  exact hnot

end MaterialSearch
