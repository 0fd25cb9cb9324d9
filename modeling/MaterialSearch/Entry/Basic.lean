/-
  MaterialSearch.Entry.Basic
  ────────────────────────────────
  **ENTRIES: SINGLE MATERIALS.**

  An entry is one record: the members as they were received and the value
  of every keyword among them.  More keywords may be loaded later; the
  members stay as they were.  Two entries are the same material when they
  have the same identifier.

  Main definitions:
    * `Entry`, `Entry.ofRecord`
    * `Entry.attribute?`, `Entry.auid?`, `Entry.aurl?`, `Entry.url?`
    * `Entry.listing` — names and values in ascending order of names
    * `hostPath`      — a location as an address
-/
import MaterialSearch.Attribute.Decode

namespace MaterialSearch

open Keyword

/-! ## §1. Locations. -/

/-- The location with a slash for the colon after the host: every `.edu:`
becomes `.edu/`. -/
def hostPathChars : List Char → List Char
  | '.' :: 'e' :: 'd' :: 'u' :: ':' :: cs =>
      '.' :: 'e' :: 'd' :: 'u' :: '/' :: hostPathChars cs
  | c :: cs => c :: hostPathChars cs
  | [] => []

/-- A location as a path below its host. -/
def hostPath (aurl : String) : String :=
  String.ofList (hostPathChars aurl.toList)

/-! ## §2. Entries. -/

/-- One material. -/
structure Entry where
  /-- The record as it was received. -/
  record : Members
  /-- The values of keywords: those of the record in its order, then those
  loaded later.  No name occurs twice. -/
  attributes : List (String × Attribute)
  deriving Repr, DecidableEq

namespace Entry

/-- The entry of a record: every member is read as its keyword demands. -/
def ofRecord (record : Members) : Entry where
  record := record
  attributes := record.map fun m => (m.1, Attribute.decodeNamed m.1 m.2)

/-- The value under a name. -/
def attribute? (e : Entry) (name : String) : Option Attribute :=
  e.attributes.lookup name

/-- The identifier. -/
def auid? (e : Entry) : Option String :=
  (e.attribute? Field.auid.name).bind Attribute.text?

/-- The location. -/
def aurl? (e : Entry) : Option String :=
  (e.attribute? Field.aurl.name).bind Attribute.text?

/-- The address of the entry's own page. -/
def url? (e : Entry) : Option String :=
  e.aurl?.map fun aurl => "http://" ++ hostPath aurl

/-- A text for every entry: its address, else its identifier. -/
def display (e : Entry) : String :=
  match e.url? with
  | some url => url
  | none => e.auid?.getD "<entry>"

/-- Whether two entries are the same material. -/
def same (a b : Entry) : Bool := a.auid? == b.auid?

/-! ## §3. Names and values in order. -/

/-- A pair put into a list in ascending order of names. -/
def insertByName (p : String × Attribute) :
    List (String × Attribute) → List (String × Attribute)
  | [] => [p]
  | q :: qs => if p.1 < q.1 then p :: q :: qs else q :: insertByName p qs

/-- Names and values in ascending order of names. -/
def listing (e : Entry) : List (String × Attribute) :=
  e.attributes.foldl (fun acc p => insertByName p acc) []

/-- The names in ascending order. -/
def names (e : Entry) : List String := e.listing.map Prod.fst

end Entry

/-! ## §4. Examples. -/

example : hostPath "aflowlib.duke.edu:AFLOWDATA/LIB2:x"
    = "aflowlib.duke.edu/AFLOWDATA/LIB2:x" := by decide

end MaterialSearch
