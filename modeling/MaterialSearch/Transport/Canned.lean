/-
  MaterialSearch.Transport.Canned
  ────────────────────────────────
  **RESPONSES PREPARED IN MEMORY.**

  Prepared responses stand in for a server.  A text prepared for exactly
  the requested address is served first, then one for the page that the
  address asks for; everything else is not found.

  Failures can be laid over the responses in the same two ways, which the
  transport of fixtures cannot do.  Without any of them the transport is
  that one.

  Main definitions:
    * `Canned`           — prepared responses and failures
    * `Canned.transport` — the transport that serves them
    * `Sample.material`, `Sample.page`, `Sample.heatSinks` — synthetic
      materials and pages, and the two first pages of a search
-/
import MaterialSearch.Json.Basic
import MaterialSearch.Transport.Basic
import MaterialSearch.Transport.Paging

namespace MaterialSearch

/-! ## §1. Prepared responses. -/

/-- A failure to serve in the place of a response. -/
inductive Fault where
  /-- A refusal with a status. -/
  | status (code : UInt16) (body : String)
  /-- A request that does not come to an end. -/
  | broken (reason : String)
  deriving Repr, DecidableEq

/-- The error that a fault ends in. -/
def Fault.error (url : String) : Fault → FetchError
  | .status code body => .status url code body
  | .broken reason => .transport url reason

/-- Prepared responses and failures. -/
structure Canned where
  /-- Bodies by page number. -/
  pages : List (Int64 × String)
  /-- Bodies by exact address. -/
  resources : List (String × String)
  /-- Failures by exact address; a transport of fixtures has none. -/
  urlFaults : List (String × Fault)
  /-- Failures by page number; a transport of fixtures has none. -/
  pageFaults : List (Int64 × Fault)
  deriving Repr

namespace Canned

/-- No prepared response. -/
def empty : Canned := ⟨[], [], [], []⟩

/-- The failure for an address, if one is prepared. -/
def fault? (c : Canned) (url : String) : Option Fault :=
  -- What is prepared for an address goes before what is for its page.
  match c.urlFaults.lookup url with
  | some f => some f
  | none => (readPaging? url).bind fun p => c.pageFaults.lookup p.page

/-- The body for an address, if one is prepared. -/
def body? (c : Canned) (url : String) : Option String :=
  match c.resources.lookup url with
  | some body => some body
  | none => (readPaging? url).bind fun p => c.pages.lookup p.page

/-- What is served for an address. -/
def serve (c : Canned) (url : String) : Except FetchError String :=
  match c.fault? url with
  | some f => .error (f.error url)
  | none =>
      match c.body? url with
      | some body => .ok body
      | none => .error (.status url 404 "")

/-- **The transport that serves prepared responses.** -/
def transport (c : Canned) : Transport := ⟨fun _ url => c.serve url⟩

theorem transport_steady (c : Canned) : c.transport.Steady := fun _ _ _ => rfl

end Canned

/-! ## §2. Synthetic materials. -/

namespace Sample

open Numeric

/-- A number in hexadecimal with 16 digits. -/
def hex16 (n : UInt64) : String :=
  let digits := Nat.toDigits 16 n.toNat
  String.ofList (List.replicate (16 - digits.length) '0' ++ digits)

/-- The material of a rank in its result.  Its conductivity falls with the
rank, as in a descending search. -/
def material (rank : UInt64) : Members :=
  let n := toString rank.toNat
  let x := rank.toFloat
  [ ("auid", .str ("aflow:" ++ hex16 rank)),
    ("aurl", .str ("aflowlib.duke.edu:AFLOWDATA/ICSD_WEB/TEST/X" ++ n ++ "_ICSD_" ++ n)),
    ("compound", .str ("X" ++ n)),
    ("Egap", .str (fixedText 4 (6 + 1 / (x + 1)))),
    ("agl_thermal_conductivity_300K", .str (fixedText 3 (1000 / x))) ]

/-- The page of the materials of ranks `first` to `last` of `total`. -/
def page (first last total : UInt64) : Page :=
  (List.range' first.toNat (last.toNat + 1 - first.toNat)).map fun i =>
    let rank := UInt64.ofNat i
    (recordKey rank total, .obj (material rank))

/-- The size of the search for heat sinks. -/
def heatSinkTotal : UInt64 := 912

/-- The first two pages of the search for heat sinks, in descending order
and 20 records a page. -/
def heatSinks : Canned :=
  { Canned.empty with
    pages :=
      [ (-1, (Json.obj (page 1 20 heatSinkTotal)).text),
        (-2, (Json.obj (page 21 40 heatSinkTotal)).text) ] }

end Sample

end MaterialSearch
