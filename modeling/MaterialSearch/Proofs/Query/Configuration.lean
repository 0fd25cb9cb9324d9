/-
  MaterialSearch.Proofs.Query.Configuration
  ────────────────────────────────
  **CONFIGURATIONS AS JSON.**

  A configuration is written without the members that say nothing, and what
  an object leaves out is read as standard.  Both agree: a configuration
  comes back from its own text, and an object that gives some of the values,
  in any order and among members of other names, sets just these.

  Main definitions:
    * `named`, `Gives`  — the values of the members of a name
    * `Draft.Given`     — the members of an object give a draft
    * `Draft.Owes`      — what has been read and what is to come make up a draft
    * `Draft.members`   — the members that are written for a draft

  Main results:
    * `readString?_eq_some_iff`, `readCount?_eq_some_iff`,
      `readLabels?_eq_some_iff`, `readTimeout?_eq_some_iff`
                                — which values the fields take
    * `Draft.Owes.step`, `Draft.Owes.takeAll?` — one member, and all of them
    * `Draft.given_members`     — every draft is given by its members
    * `config_read_back`        — **configurations survive**
-/
import MaterialSearch.Proofs.Json.Printing
import MaterialSearch.Query.Config

namespace MaterialSearch

open Numeric Json

namespace Config

/-! ## §1. What the fields take. -/

theorem readString?_iff_within {d : Document} {s : String} (room : Nat) :
    readString? d = some s ↔ d.valueWithin? room = some (.str s) := by
  cases d with
  | string us => simp [readString?, Document.valueWithin?]
  | _ => simp [readString?, Document.valueWithin?]

/-- **A string is read** where the value is one. -/
theorem readString?_eq_some_iff {d : Document} {s : String} :
    readString? d = some s ↔ d.value? = some (.str s) :=
  readString?_iff_within maxNesting

theorem readStrings?_eq_some_iff {items : List Document} {ls : List String} (room : Nat) :
    readStrings? items = some ls ↔ Document.items? room items = some (ls.map .str) := by
  induction items generalizing ls with
  | nil =>
    rw [readStrings?, Document.items?, Option.some_inj, Option.some_inj]
    exact ⟨fun h => h ▸ rfl, fun h => (List.map_eq_nil_iff.mp h.symm).symm⟩
  | cons d ds ih =>
    rw [readStrings?, Document.items?]
    constructor
    · intro h
      cases hd : readString? d with
      | none => simp [hd] at h
      | some l =>
        cases hds : readStrings? ds with
        | none => simp [hd, hds] at h
        | some rest =>
          rw [hd, hds] at h
          obtain rfl := Option.some.inj h
          rw [(readString?_iff_within room).mp hd, ih.mp hds]
          rfl
    · intro h
      cases hd : d.valueWithin? room with
      | none => simp [hd] at h
      | some v =>
        cases hds : Document.items? room ds with
        | none => simp [hd, hds] at h
        | some vs =>
          rw [hd, hds] at h
          obtain ⟨l, rest, rfl, rfl, rfl⟩ := List.map_eq_cons_iff.mp (Option.some.inj h).symm
          rw [(readString?_iff_within room).mpr hd, ih.mpr hds]

/-- **Labels are read** where the value is an array of strings. -/
theorem readLabels?_eq_some_iff {d : Document} {ls : List String} :
    readLabels? d = some ls ↔ d.value? = some (.arr (ls.map .str)) := by
  cases d with
  | array items =>
    rw [readLabels?, readStrings?_eq_some_iff (maxNesting - 1)]
    simp [Document.value?, Document.valueWithin?, maxNesting]
  | _ => simp [readLabels?, Document.value?, Document.valueWithin?, maxNesting]

/-- A whole number is unsigned only where the signed kind is too small. -/
theorem le_of_value?_nat {t : NumberText} {n : UInt64} (h : t.value? = some (.nat n)) :
    0x8000000000000000 ≤ n.toNat := by
  have hfloat : t.float? ≠ some (.nat n) := by
    simp [NumberText.float?]
  unfold NumberText.value? at h
  simp only at h
  split at h
  · exact absurd h hfloat
  · split at h
    · split at h
      · exact absurd (Option.some.inj h) (by simp)
      · exact absurd h hfloat
    · split at h
      · exact absurd (Option.some.inj h) (by simp)
      · split at h
        · have hn := Number.nat.inj (Option.some.inj h)
          rw [← hn, UInt64.toNat_ofNat_of_lt' (by assumption)]
          omega
        · exact absurd h hfloat

/-- A signed word that is not negative is the count with the same digits. -/
theorem toInt_nonneg_iff (k : Int64) : 0 ≤ k.toInt ↔ k.toUInt64.toNat < 0x8000000000000000 := by
  show 0 ≤ k.toBitVec.toInt ↔ k.toBitVec.toNat < _
  have hword := k.toBitVec.isLt
  rw [BitVec.toInt_eq_toNat_cond]
  split <;> omega

theorem countJson_eq_int_iff {n : UInt64} {k : Int64} :
    countJson n = .num (.int k) ↔ 0 ≤ k.toInt ∧ k.toUInt64 = n := by
  rw [toInt_nonneg_iff, countJson]
  constructor
  · intro h
    split at h
    · next hn =>
      rw [← Number.int.inj (Json.num.inj h), UInt64.toUInt64_toInt64]
      exact ⟨hn, rfl⟩
    · exact absurd (Json.num.inj h) (by simp)
  · rintro ⟨hn, rfl⟩
    rw [if_pos hn, Int64.toInt64_toUInt64]

theorem countJson_eq_nat_iff {n k : UInt64} (hk : 0x8000000000000000 ≤ k.toNat) :
    countJson n = .num (.nat k) ↔ k = n := by
  rw [countJson]
  constructor
  · intro h
    split at h
    · exact absurd (Json.num.inj h) (by simp)
    · exact (Number.nat.inj (Json.num.inj h)).symm
  · rintro rfl
    rw [if_neg (Nat.not_lt.mpr hk)]

/-- A count is a whole number. -/
theorem exists_countJson (n : UInt64) :
    (∃ k, countJson n = .num (.int k)) ∨ ∃ k, countJson n = .num (.nat k) := by
  unfold countJson
  split
  · exact .inl ⟨_, rfl⟩
  · exact .inr ⟨_, rfl⟩

/-- **A count is read** where the value is one. -/
theorem readCount?_eq_some_iff {d : Document} {n : UInt64} :
    readCount? d = some n ↔ d.value? = some (countJson n) := by
  have hwhole := exists_countJson n
  cases d with
  | number t =>
    have hvalue : (Document.number t).value? = t.value?.map .num := rfl
    rw [hvalue, readCount?]
    cases ht : t.value? with
    | none => simp
    | some number =>
      cases number with
      | int k =>
        rw [Option.map_some, Option.some_inj, eq_comm (b := countJson n), countJson_eq_int_iff]
        exact Option.ite_none_right_eq_some.trans (and_congr_right fun _ => Option.some_inj)
      | nat k =>
        rw [Option.map_some, Option.some_inj, Option.some_inj, eq_comm (b := countJson n),
          countJson_eq_nat_iff (le_of_value?_nat ht)]
      | float x =>
        rcases hwhole with ⟨k, hk⟩ | ⟨k, hk⟩ <;> simp [hk]
  | _ =>
    rcases hwhole with ⟨k, hk⟩ | ⟨k, hk⟩ <;>
      simp [readCount?, Document.value?, Document.valueWithin?, maxNesting, hk]

/-- A timeout as JSON. -/
def timeoutJson : Option UInt64 → Json
  | none => .null
  | some n => countJson n

/-- **A timeout is read** where the value is a count or null. -/
theorem readTimeout?_eq_some_iff {d : Document} {t : Option UInt64} :
    readTimeout? d = some t ↔ d.value? = some (timeoutJson t) := by
  cases t with
  | none =>
    -- Nothing but null has the value null.
    cases d <;> simp [readTimeout?, timeoutJson, Document.value?, Document.valueWithin?, maxNesting]
  | some n =>
    rw [timeoutJson, ← readCount?_eq_some_iff]
    cases d <;> simp [readTimeout?, readCount?]

/-! ## §2. Members by their name. -/

/-- **The values of the members of a name.** -/
def named (name : String) (members : List (List TextUnit × Document)) : List Document :=
  (members.filter fun m => decide (stringOfUnits? m.1 = some name)).map Prod.snd

theorem named_cons {name key : String} {units : List TextUnit} {value : Document}
    {members : List (List TextUnit × Document)} (h : stringOfUnits? units = some key) :
    named name ((units, value) :: members)
      = if key = name then value :: named name members else named name members := by
  unfold named
  rw [List.filter_cons, h]
  split <;> simp_all

/-- **The values given for a name**: none, or a single one. -/
def Gives (members : List (List TextUnit × Document)) (name : String) (json : Option Json) : Prop :=
  (named name members).map Document.value? = json.toList.map some

/-- **The members of an object give a draft**: every value in it once under its name,
and nothing for what it lacks.  Members of other names are free. -/
structure Draft.Given (g : Draft) (members : List (List TextUnit × Document)) : Prop where
  keys : ∀ m ∈ members, (stringOfUnits? m.1).isSome = true
  server : Gives members "server" (g.server.map .str)
  batchSize : Gives members "batch_size" (g.batchSize.map countJson)
  catalogs : Gives members "catalog" (g.catalogs.map fun ls => .arr (ls.map .str))
  connectTimeout : Gives members "connect_timeout_ms" (g.connectTimeout.map timeoutJson)
  requestTimeout : Gives members "request_timeout_ms" (g.requestTimeout.map timeoutJson)

/-- What has been read of a field and what is still to be read make up its value. -/
def Fits {α : Type} (taken : Option α) (rest : List (Option α)) (final : Option α) : Prop :=
  taken.toList.map some ++ rest = final.toList.map some

section Fields

variable {α : Type} {taken final : Option α} {read : Option α} {rest : List (Option α)}

/-- Nothing is to come. -/
theorem Fits.eq (h : Fits taken [] final) : taken = final := by
  unfold Fits at h
  rw [List.append_nil] at h
  cases taken <;> cases final <;> simp_all

/-- What comes next was not read yet, and it is the value. -/
theorem Fits.next (h : Fits taken (read :: rest) final) :
    taken = none ∧ ∃ v, read = some v ∧ Fits (some v) rest final := by
  unfold Fits at h ⊢
  cases taken <;> cases final <;> simp_all

/-- The values given for a name are those that its field takes. -/
theorem Gives.fits {members : List (List TextUnit × Document)} {name : String}
    {reader : Document → Option α} {json : α → Json} {g : Option α}
    (hreader : ∀ {d v}, reader d = some v ↔ d.value? = some (json v))
    (h : Gives members name (g.map json)) : Fits none ((named name members).map reader) g := by
  unfold Gives at h
  unfold Fits
  cases g with
  | none => simpa using h
  | some v =>
    obtain ⟨d, hd, hvalue⟩ := List.map_eq_singleton_iff.mp h
    rw [hd]
    simp [hreader.mpr hvalue]

end Fields

/-! ## §3. Reading the members. -/

/-- **What has been read and what is still to come make up a draft.** -/
structure Draft.Owes (d : Draft) (members : List (List TextUnit × Document)) (g : Draft) :
    Prop where
  server : Fits d.server ((named "server" members).map readString?) g.server
  batchSize : Fits d.batchSize ((named "batch_size" members).map readCount?) g.batchSize
  catalogs : Fits d.catalogs ((named "catalog" members).map readLabels?) g.catalogs
  connectTimeout :
    Fits d.connectTimeout ((named "connect_timeout_ms" members).map readTimeout?) g.connectTimeout
  requestTimeout :
    Fits d.requestTimeout ((named "request_timeout_ms" members).map readTimeout?) g.requestTimeout

/-- At the start everything is still to come. -/
theorem Draft.Given.owes {g : Draft} {members : List (List TextUnit × Document)}
    (h : g.Given members) : Draft.empty.Owes members g where
  server := h.server.fits readString?_eq_some_iff
  batchSize := h.batchSize.fits readCount?_eq_some_iff
  catalogs := h.catalogs.fits readLabels?_eq_some_iff
  connectTimeout := h.connectTimeout.fits readTimeout?_eq_some_iff
  requestTimeout := h.requestTimeout.fits readTimeout?_eq_some_iff

/-- **One member is taken**, and the rest is still to come. -/
theorem Draft.Owes.step {d g : Draft} {units : List TextUnit} {key : String} {value : Document}
    {rest : List (List TextUnit × Document)} (hkey : stringOfUnits? units = some key)
    (h : d.Owes ((units, value) :: rest) g) :
    ∃ next, d.take? key value = some next ∧ next.Owes rest g := by
  obtain ⟨hserver, hsize, hcatalogs, hconnect, hrequest⟩ := h
  rw [named_cons hkey] at hserver hsize hcatalogs hconnect hrequest
  -- The member belongs to one field, or to none.
  by_cases h1 : key = "server"
  · subst h1
    obtain ⟨hfree, v, hread, hserver⟩ := hserver.next
    exact ⟨{ d with server := some v }, by simp [Draft.take?, hfree, hread],
      hserver, hsize, hcatalogs, hconnect, hrequest⟩
  rw [if_neg h1] at hserver
  by_cases h2 : key = "batch_size"
  · subst h2
    obtain ⟨hfree, v, hread, hsize⟩ := hsize.next
    exact ⟨{ d with batchSize := some v }, by simp [Draft.take?, hfree, hread],
      hserver, hsize, hcatalogs, hconnect, hrequest⟩
  rw [if_neg h2] at hsize
  by_cases h3 : key = "catalog"
  · subst h3
    obtain ⟨hfree, v, hread, hcatalogs⟩ := hcatalogs.next
    exact ⟨{ d with catalogs := some v }, by simp [Draft.take?, hfree, hread],
      hserver, hsize, hcatalogs, hconnect, hrequest⟩
  rw [if_neg h3] at hcatalogs
  by_cases h4 : key = "connect_timeout_ms"
  · subst h4
    obtain ⟨hfree, v, hread, hconnect⟩ := hconnect.next
    exact ⟨{ d with connectTimeout := some v }, by simp [Draft.take?, hfree, hread],
      hserver, hsize, hcatalogs, hconnect, hrequest⟩
  rw [if_neg h4] at hconnect
  by_cases h5 : key = "request_timeout_ms"
  · subst h5
    obtain ⟨hfree, v, hread, hrequest⟩ := hrequest.next
    exact ⟨{ d with requestTimeout := some v }, by simp [Draft.take?, hfree, hread],
      hserver, hsize, hcatalogs, hconnect, hrequest⟩
  rw [if_neg h5] at hrequest
  exact ⟨d, by simp [Draft.take?, h1, h2, h3, h4, h5],
    hserver, hsize, hcatalogs, hconnect, hrequest⟩

/-- **All members are taken**, by induction on them: what is still to come becomes
less with each. -/
theorem Draft.Owes.takeAll? {d g : Draft} {members : List (List TextUnit × Document)}
    (hkeys : ∀ m ∈ members, (stringOfUnits? m.1).isSome = true) (h : d.Owes members g) :
    d.takeAll? members = some g := by
  induction members generalizing d with
  | nil =>
    obtain ⟨hserver, hsize, hcatalogs, hconnect, hrequest⟩ := h
    have heq : d = ⟨d.server, d.batchSize, d.catalogs, d.connectTimeout, d.requestTimeout⟩ := rfl
    rw [Draft.takeAll?, heq, hserver.eq, hsize.eq, hcatalogs.eq, hconnect.eq, hrequest.eq]
  | cons m rest ih =>
    obtain ⟨units, value⟩ := m
    obtain ⟨key, hkey⟩ := Option.isSome_iff_exists.mp (hkeys _ List.mem_cons_self)
    obtain ⟨next, htake, hnext⟩ := h.step hkey
    rw [Draft.takeAll?]
    simp only [hkey, htake]
    exact ih (fun m hm => hkeys m (List.mem_cons_of_mem _ hm)) hnext

/-! ## §4. Writing the members. -/

/-- A member that may be left out. -/
def optional (key : String) (json : Option Json) : Members := json.toList.map (Prod.mk key)

/-- **The members that give a draft.** -/
def Draft.members (g : Draft) : Members :=
  optional "server" (g.server.map .str)
    ++ optional "batch_size" (g.batchSize.map countJson)
    ++ optional "catalog" (g.catalogs.map fun ls => .arr (ls.map .str))
    ++ optional "connect_timeout_ms" (g.connectTimeout.map timeoutJson)
    ++ optional "request_timeout_ms" (g.requestTimeout.map timeoutJson)

theorem filter_optional (name key : String) (json : Option Json) :
    (optional key json).filter (fun m => decide (m.1 = name))
      = if key = name then optional key json else [] := by
  cases json <;> simp [optional, List.filter_cons]

/-- The keys of the members, of which some may be left out. -/
theorem keys_members (g : Draft) : (g.members.map Prod.fst).Sublist
    ["server", "batch_size", "catalog", "connect_timeout_ms", "request_timeout_ms"] := by
  have hkey : ∀ key json, ((optional key json).map Prod.fst).Sublist [key] := by
    intro key json
    cases json with
    | none => exact List.nil_sublist [key]
    | some v => exact List.Sublist.refl [key]
  simp only [Draft.members, List.map_append]
  exact ((((hkey _ _).append (hkey _ _)).append (hkey _ _)).append (hkey _ _)).append (hkey _ _)

theorem readable_countJson (n : UInt64) (room : Nat) : Readable room (countJson n) := by
  unfold countJson
  split
  · exact .int _
  · exact .nat (Nat.le_of_not_lt (by assumption))

theorem readable_timeoutJson (t : Option UInt64) (room : Nat) : Readable room (timeoutJson t) := by
  cases t with
  | none => exact .null
  | some n => exact readable_countJson n room

theorem readable_labels (ls : List String) (room : Nat) :
    Readable (room + 1) (.arr (ls.map .str)) := by
  refine .arr fun v hv => ?_
  obtain ⟨s, -, rfl⟩ := List.mem_map.mp hv
  exact .str s

/-- Every value that a draft gives comes back as it was. -/
theorem readable_members (g : Draft) (room : Nat) : ∀ m ∈ g.members, Readable (room + 1) m.2 := by
  have hpart : ∀ {α : Type} (key : String) (json : α → Json) (o : Option α),
      (∀ v, Readable (room + 1) (json v)) →
      ∀ m ∈ optional key (o.map json), Readable (room + 1) m.2 := by
    intro α key json o h m hm
    obtain ⟨v, hv, rfl⟩ := List.mem_map.mp hm
    obtain ⟨w, -, rfl⟩ := Option.map_eq_some_iff.mp (Option.mem_toList.mp hv)
    exact h w
  intro m hm
  simp only [Draft.members, List.mem_append] at hm
  rcases hm with (((hm | hm) | hm) | hm) | hm
  · exact hpart _ _ _ (fun s => .str s) m hm
  · exact hpart _ _ _ (fun n => readable_countJson n _) m hm
  · exact hpart _ _ _ (fun ls => readable_labels ls _) m hm
  · exact hpart _ _ _ (fun t => readable_timeoutJson t _) m hm
  · exact hpart _ _ _ (fun t => readable_timeoutJson t _) m hm

theorem named_memberDocuments (name : String) (ms : Members) : named name (memberDocuments ms)
    = (ms.filter fun m => decide (m.1 = name)).map fun m => document m.2 := by
  induction ms with
  | nil => rfl
  | cons m ms ih =>
    obtain ⟨key, v⟩ := m
    rw [memberDocuments, named_cons (stringOfUnits?_unitOf key), ih, List.filter_cons]
    by_cases h : key = name <;> simp [h]

theorem keys_memberDocuments (ms : Members) :
    ∀ m ∈ memberDocuments ms, (stringOfUnits? m.1).isSome = true := by
  induction ms with
  | nil => exact fun m hm => absurd hm List.not_mem_nil
  | cons m ms ih =>
    intro m hm
    rw [memberDocuments, List.mem_cons] at hm
    rcases hm with rfl | hm
    · rw [stringOfUnits?_unitOf]
      rfl
    · exact ih m hm

/-- What stands under a name in the members of a draft is given by their documents. -/
theorem gives_members (g : Draft) {name : String} {json : Option Json}
    (h : (g.members.filter fun m => decide (m.1 = name)) = optional name json) :
    Gives (memberDocuments g.members) name json := by
  rw [Gives, named_memberDocuments, h, List.map_map]
  cases json with
  | none => rfl
  | some v =>
    have hmem : (name, v) ∈ g.members := by
      refine List.mem_of_mem_filter (p := fun m => decide (m.1 = name)) ?_
      rw [h]
      exact List.mem_singleton_self _
    have hvalue : (document v).value? = some v :=
      valueWithin?_document (readable_members g 126 _ hmem)
    simp [optional, hvalue]

/-- **Every draft is given** by the members that are written for it. -/
theorem Draft.given_members (g : Draft) : g.Given (memberDocuments g.members) where
  keys := keys_memberDocuments g.members
  server := gives_members g (by simp [Draft.members, filter_optional])
  batchSize := gives_members g (by simp [Draft.members, filter_optional])
  catalogs := gives_members g (by simp [Draft.members, filter_optional])
  connectTimeout := gives_members g (by simp [Draft.members, filter_optional])
  requestTimeout := gives_members g (by simp [Draft.members, filter_optional])

/-- **The object of a draft** is read as the object of its members. -/
theorem document_read?_members (g : Draft) :
    Document.read? (text (.obj g.members)) = some (.object (memberDocuments g.members)) := by
  have hkeys : (g.members.map Prod.fst).Nodup := (keys_members g).nodup (by decide)
  exact document_read?_text (Readable.obj hkeys (readable_members g 0))

/-- What a configuration says of itself. -/
def draft (c : Config) : Draft where
  server := some c.server
  batchSize := some c.batchSize
  catalogs := if c.catalogs.isEmpty then none else some c.catalogs
  connectTimeout := c.connectTimeout.map some
  requestTimeout := c.requestTimeout.map some

theorem toMembers_eq (c : Config) : c.toMembers = c.draft.members := by
  obtain ⟨server, size, catalogs, connect, request⟩ := c
  cases catalogs <;> cases connect <;> cases request <;> rfl

/-- A member that is left out says what is standard. -/
theorem config_draft (c : Config) : c.draft.config = c := by
  obtain ⟨server, size, catalogs, connect, request⟩ := c
  cases catalogs <;> cases connect <;> cases request <;> rfl

/-- **An object sets what it gives.** -/
theorem read?_of_given {s : String} {members : List (List TextUnit × Document)} {g : Draft}
    (hread : Document.read? s = some (.object members)) (h : g.Given members) :
    read? s = some g.config := by
  rw [read?, hread, Option.bind_some, ofDocument?, h.owes.takeAll? h.keys, Option.map_some]

end Config

/-- **CONFIGURATIONS SURVIVE** as JSON.

  * Every configuration is read back from the text that is written for it,
    whatever its server, its labels and its numbers are, and whichever of the
    members that may be left out are written.
  * Every text of an object that gives some of the values, each under its name
    and once, is read as these values, and as the standard ones for the rest.
    The members may stand in any order, and among others. -/
theorem config_read_back :
    (∀ c : Config, Config.read? (text c.toJson) = some c)
    ∧ ∀ (s : String) (members : List (List TextUnit × Document)) (g : Config.Draft),
      Document.read? s = some (.object members) → g.Given members →
      Config.read? s = some {
        server := g.server.getD Config.standard.server
        batchSize := g.batchSize.getD Config.standard.batchSize
        catalogs := g.catalogs.getD Config.standard.catalogs
        connectTimeout := g.connectTimeout.getD Config.standard.connectTimeout
        requestTimeout := g.requestTimeout.getD Config.standard.requestTimeout } := by
  refine ⟨fun c => ?_, fun s members g hread h => Config.read?_of_given hread h⟩
  rw [Config.toJson, Config.toMembers_eq,
    Config.read?_of_given (Config.document_read?_members c.draft) c.draft.given_members,
    Config.config_draft]

/-- The members of an object with a page size behind a number that no value
has, and without a limit on the response. -/
def Sample.partialMembers : List (List TextUnit × Document) :=
  [("hue".toList.map .char, .number ⟨false, ['1'], [], false, false, ['9', '9', '9']⟩),
    ("batch_size".toList.map .char, .number ⟨false, ['2', '0'], [], true, false, []⟩),
    ("request_timeout_ms".toList.map .char, .null)]

/-- The greatest page size and a label with a line break come back; and the
object with three members sets the page size and leaves the rest standard. -/
theorem config_read_back_partial :
    Config.read? (text (Config.toJson ⟨"", 18446744073709551615, ["a\n"], none, some 0⟩))
      = some ⟨"", 18446744073709551615, ["a\n"], none, some 0⟩
    ∧ Document.read? "\x7b\"hue\":1e999, \"batch_size\": 20, \"request_timeout_ms\":null\x7d"
      = some (.object Sample.partialMembers)
    ∧ Config.Draft.Given ⟨none, some 20, none, none, some none⟩ Sample.partialMembers
    ∧ Config.read? "\x7b\"hue\":1e999, \"batch_size\": 20, \"request_timeout_ms\":null\x7d"
      = some ⟨"http://aflowlib.duke.edu/search/API/?", 20, [], none, none⟩ := by
  have hread : Document.read?
      "\x7b\"hue\":1e999, \"batch_size\": 20, \"request_timeout_ms\":null\x7d"
      = some (.object Sample.partialMembers) := rfl
  have hgiven : Config.Draft.Given ⟨none, some 20, none, none, some none⟩ Sample.partialMembers :=
    ⟨by decide, rfl, rfl, rfl, rfl, rfl⟩
  exact ⟨config_read_back.1 _, hread, hgiven, config_read_back.2 _ _ _ hread hgiven⟩

end MaterialSearch
