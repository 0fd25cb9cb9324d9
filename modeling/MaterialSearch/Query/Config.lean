/-
  MaterialSearch.Query.Config
  ────────────────────────────────
  **THE CONFIGURATION OF A CLIENT.**

  A configuration names the server, the size of pages, the catalogs to
  search and two timeouts.  As JSON it is an object in which every member
  may be left out, or the array of all five values in order.  Members of
  other names are passed over unread; a member of a known name may not
  occur twice.

  Main definitions:
    * `Config`, `Config.standard`, `Config.pageSize`
    * `Config.toJson` — the object that writes a configuration
    * `Config.read?`  — the configuration that a text writes
-/
import MaterialSearch.Json.Basic
import MaterialSearch.Json.Reader

namespace MaterialSearch

open Numeric Json

/-! ## §1. Configurations. -/

/-- The configuration of a client. -/
structure Config where
  /-- The address before the search terms. -/
  server : String
  /-- The number of records asked for at a time. -/
  batchSize : UInt64
  /-- The catalogs to search; none means all. -/
  catalogs : List String
  /-- The time to wait for a connection, in milliseconds. -/
  connectTimeout : Option UInt64
  /-- The time to wait for a response, in milliseconds. -/
  requestTimeout : Option UInt64
  deriving Repr, DecidableEq

namespace Config

/-- The public server and pages of a hundred records. -/
def standard : Config where
  server := "http://aflowlib.duke.edu/search/API/?"
  batchSize := 100
  catalogs := []
  connectTimeout := none
  requestTimeout := none

/-- The size of pages: at least one record. -/
def pageSize (c : Config) : UInt64 := max c.batchSize 1

/-! ## §2. Writing. -/

/-- A count as JSON. -/
def countJson (n : UInt64) : Json :=
  if n.toNat < 0x8000000000000000 then .num (.int n.toInt64) else .num (.nat n)

/-- An optional count as a member, left out when there is none. -/
def countMember (key : String) : Option UInt64 → Members
  | none => []
  | some n => [(key, countJson n)]

/-- The members that write a configuration. -/
def toMembers (c : Config) : Members :=
  [("server", .str c.server), ("batch_size", countJson c.batchSize)]
    ++ (if c.catalogs.isEmpty then [] else [("catalog", .arr (c.catalogs.map .str))])
    ++ countMember "connect_timeout_ms" c.connectTimeout
    ++ countMember "request_timeout_ms" c.requestTimeout

/-- **The object that writes a configuration.** -/
def toJson (c : Config) : Json := .obj c.toMembers

/-! ## §3. Reading. -/

/-- A string. -/
def readString? : Document → Option String
  | .string us => stringOfUnits? us
  | _ => none

/-- A count: a whole number that is not negative and fits 64 bits. -/
def readCount? : Document → Option UInt64
  | .number t =>
      match t.value? with
      | some (.int n) => if 0 ≤ n.toInt then some n.toUInt64 else none
      | some (.nat n) => some n
      | _ => none
  | _ => none

/-- A count, or null where there is none. -/
def readTimeout? : Document → Option (Option UInt64)
  | .null => some none
  | d => (readCount? d).map some

/-- The strings of a list of documents. -/
def readStrings? : List Document → Option (List String)
  | [] => some []
  | d :: ds =>
      match readString? d, readStrings? ds with
      | some s, some ss => some (s :: ss)
      | _, _ => none

/-- An array of labels. -/
def readLabels? : Document → Option (List String)
  | .array items => readStrings? items
  | _ => none

/-- What has been read of an object: nothing for a member not met yet. -/
structure Draft where
  server : Option String
  batchSize : Option UInt64
  catalogs : Option (List String)
  connectTimeout : Option (Option UInt64)
  requestTimeout : Option (Option UInt64)
  deriving Repr, DecidableEq

/-- Nothing read. -/
def Draft.empty : Draft := ⟨none, none, none, none, none⟩

/-- The draft with one more member; a known name met before is refused. -/
def Draft.take? (d : Draft) (key : String) (value : Document) : Option Draft :=
  if key = "server" then
    if d.server.isSome then none
    else (readString? value).map fun s => { d with server := some s }
  else if key = "batch_size" then
    if d.batchSize.isSome then none
    else (readCount? value).map fun n => { d with batchSize := some n }
  else if key = "catalog" then
    if d.catalogs.isSome then none
    else (readLabels? value).map fun ls => { d with catalogs := some ls }
  else if key = "connect_timeout_ms" then
    if d.connectTimeout.isSome then none
    else (readTimeout? value).map fun t => { d with connectTimeout := some t }
  else if key = "request_timeout_ms" then
    if d.requestTimeout.isSome then none
    else (readTimeout? value).map fun t => { d with requestTimeout := some t }
  else some d

/-- The draft after all members of an object. -/
def Draft.takeAll? (d : Draft) : List (List TextUnit × Document) → Option Draft
  | [] => some d
  | (key, value) :: rest =>
      match stringOfUnits? key with
      | none => none
      | some name =>
          match d.take? name value with
          | none => none
          | some next => next.takeAll? rest

/-- The configuration of a draft; what was left out is standard. -/
def Draft.config (d : Draft) : Config where
  server := d.server.getD standard.server
  batchSize := d.batchSize.getD standard.batchSize
  catalogs := d.catalogs.getD standard.catalogs
  connectTimeout := d.connectTimeout.getD none
  requestTimeout := d.requestTimeout.getD none

/-- The configuration that a document writes. -/
def ofDocument? : Document → Option Config
  | .object members => (Draft.empty.takeAll? members).map Draft.config
  -- No default stands in for a value that an array leaves out.
  | .array [server, batchSize, catalogs, connect, request] =>
      match readString? server, readCount? batchSize, readLabels? catalogs,
          readTimeout? connect, readTimeout? request with
      | some s, some n, some ls, some c, some r => some ⟨s, n, ls, c, r⟩
      | _, _, _, _, _ => none
  | _ => none

/-- **The configuration that a text writes.** -/
def read? (s : String) : Option Config :=
  (Document.read? s).bind ofDocument?

end Config

end MaterialSearch
