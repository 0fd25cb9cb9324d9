/-
  MaterialSearch.Entry.Resource
  ────────────────────────────────
  **WHAT BELONGS TO AN ENTRY ON THE SERVER.**

  An entry has keywords that were not part of its record, and files.  Both
  are requested by its location.  A file is chosen from the listing by its
  place or by a pattern that exactly one name matches.

  Main definitions:
    * `ResourceError`  — why a keyword or file cannot be had
    * `RemoteFile`, `FileListing` with `get`, `find`
    * `Entry.load`     — a keyword, requested if the entry lacks it
    * `Entry.files`    — the listing of an entry's files
-/
import MaterialSearch.Entry.Basic
import MaterialSearch.Entry.Glob
import MaterialSearch.Transport.Basic

namespace MaterialSearch

open Keyword Text

/-! ## §1. Errors. -/

/-- Why a keyword or file of an entry cannot be had. -/
inductive ResourceError where
  /-- More than one name matches the pattern. -/
  | ambiguous (pattern : String) (found : List String)
  /-- No name matches the pattern. -/
  | noMatch (pattern : String)
  /-- The listing has no such place. -/
  | outOfRange (index : UInt64) (size : Nat)
  /-- The pattern is invalid. -/
  | badPattern (pattern : String)
  /-- The entry has no location. -/
  | noLocation
  /-- The request failed. -/
  | fetch (cause : FetchError)
  /-- The file cannot be written there. -/
  | notWritten (target : String)
  deriving Repr, DecidableEq

/-- The message of an error. -/
def ResourceError.message : ResourceError → String
  | .ambiguous pattern found =>
      "pattern " ++ quoted pattern ++ " matches more than one file: "
        ++ ", ".intercalate found
  | .noMatch pattern => "no file matches " ++ quoted pattern
  | .outOfRange index size =>
      "file index " ++ toString index.toNat ++ " out of range for " ++ toString size
        ++ " files"
  | .badPattern pattern => "invalid file pattern " ++ quoted pattern
  | .noLocation => "entry has no aurl"
  | .fetch cause => cause.message
  | .notWritten target => "cannot write " ++ target

/-! ## §2. Files. -/

/-- A file of an entry. -/
structure RemoteFile where
  /-- The location of the entry. -/
  aurl : String
  name : String
  deriving Repr, DecidableEq

/-- The address of a file: every colon of the location becomes a slash. -/
def RemoteFile.url (f : RemoteFile) : String :=
  "http://"
    ++ String.ofList (f.aurl.toList.map fun c => if c = ':' then '/' else c)
    ++ "/" ++ f.name

/-- The text that stands for a file. -/
def RemoteFile.display (f : RemoteFile) : String :=
  "AflowFile(" ++ f.aurl ++ "/" ++ f.name ++ ")"

/-- The contents of a file, requested. -/
def RemoteFile.fetch (f : RemoteFile) (t : Transport) (log : RequestLog) :
    Except ResourceError String × RequestLog :=
  match t.ask f.url log with
  | (.ok body, log) => (.ok body, log)
  | (.error e, log) => (.error (.fetch e), log)

/-- The names of the files of an entry. -/
structure FileListing where
  /-- The location of the entry. -/
  aurl : String
  names : List String
  deriving Repr, DecidableEq

namespace FileListing

/-- The listing of these names, without the blanks around them. -/
def ofNames (aurl : String) (names : List String) : FileListing :=
  ⟨aurl, names.map trim⟩

/-- All files, in order. -/
def files (l : FileListing) : List RemoteFile := l.names.map fun n => ⟨l.aurl, n⟩

/-- The file at a place, counted from zero. -/
def get (l : FileListing) (index : UInt64) : Except ResourceError RemoteFile :=
  match l.names[index.toNat]? with
  | some name => .ok ⟨l.aurl, name⟩
  | none => .error (.outOfRange index l.names.length)

/-- The names that match a pattern, in order. -/
def selected (l : FileListing) (m : Matcher) : List String :=
  l.names.filter fun name => m.accepts name.toList

/-- **The one file whose name matches a pattern.** -/
def find (l : FileListing) (pattern : String) : Except ResourceError RemoteFile :=
  match Glob.matcher? pattern.toList with
  | none => .error (.badPattern pattern)
  | some m =>
      match l.selected m with
      | [] => .error (.noMatch pattern)
      | [name] => .ok ⟨l.aurl, name⟩
      | found => .error (.ambiguous pattern found)

end FileListing

/-! ## §3. Keywords on demand. -/

namespace Entry

/-- The address under which a keyword of an entry is requested. -/
def keywordUrl (aurl : String) (f : Field) : String :=
  "http://" ++ hostPath aurl ++ "?" ++ f.name

/-- The entry with one more value. -/
def addAttribute (e : Entry) (name : String) (value : Attribute) : Entry :=
  { e with attributes := e.attributes ++ [(name, value)] }

/-- What a response of text says about a keyword: nothing if it is blank. -/
def readResponse? (f : Field) (body : String) : Option Attribute :=
  let body := trim body
  if body.isEmpty then none else some (Attribute.decode f.wire (.str body))

/-- **A keyword of an entry**, requested if the entry does not have it.  A
blank response means that there is no such keyword, and is not kept. -/
def load (e : Entry) (f : Field) (t : Transport) (log : RequestLog) :
    Except ResourceError (Option Attribute) × Entry × RequestLog :=
  match e.attribute? f.name with
  | some value => (.ok (some value), e, log)
  | none =>
      match e.aurl? with
      | none => (.error .noLocation, e, log)
      | some aurl =>
          match t.ask (keywordUrl aurl f) log with
          | (.error cause, log) => (.error (.fetch cause), e, log)
          | (.ok body, log) =>
              match readResponse? f body with
              | none => (.ok none, e, log)
              | some value => (.ok (some value), e.addAttribute f.name value, log)

/-- **The files of an entry**; the keyword that names them is requested if
need be. -/
def files (e : Entry) (t : Transport) (log : RequestLog) :
    Except ResourceError FileListing × Entry × RequestLog :=
  match e.load Field.files t log with
  | (.error cause, e, log) => (.error cause, e, log)
  | (.ok value, e, log) =>
      -- A value that is no list of texts names no file.
      let names := (value.bind Attribute.texts?).getD []
      match e.aurl? with
      | none => (.error .noLocation, e, log)
      | some aurl => (.ok (FileListing.ofNames aurl names), e, log)

end Entry

end MaterialSearch
