/-
  MaterialSearch.Transport.Error
  ────────────────────────────────
  **WHY A RESPONSE IS MISSING OR USELESS.**

  Every error names the address that was requested.  Errors that arise
  after the body arrived keep the body.

  Main definitions:
    * `FetchError` — the causes
    * `FetchError.url`, `FetchError.body?`, `FetchError.message`
-/
import MaterialSearch.Text.Quoted

namespace MaterialSearch

/-- Why a response is missing or useless. -/
inductive FetchError where
  /-- The request did not come to an end. -/
  | transport (url reason : String)
  /-- The server refused with a status. -/
  | status (url : String) (code : UInt16) (body : String)
  /-- The body is not JSON. -/
  | notJson (url body : String)
  /-- The body is JSON, but not an object. -/
  | notObject (url body : String)
  /-- No key of the page tells the number of records. -/
  | noCount (url firstKey : String)
  deriving Repr, DecidableEq

namespace FetchError

/-- The address that was requested. -/
def url : FetchError → String
  | .transport url _ => url
  | .status url _ _ => url
  | .notJson url _ => url
  | .notObject url _ => url
  | .noCount url _ => url

/-- The body, if one was kept. -/
def body? : FetchError → Option String
  | .status _ _ body => some body
  | .notJson _ body => some body
  | .notObject _ body => some body
  | _ => none

/-- The message. -/
def message : FetchError → String
  | .transport url reason => "request to " ++ url ++ " failed: " ++ reason
  | .status url code _ =>
      "request to " ++ url ++ " returned status " ++ toString code.toNat
  | .notJson url _ => "response from " ++ url ++ " is not valid JSON"
  | .notObject url _ => "response from " ++ url ++ " is not a JSON object"
  | .noCount url firstKey =>
      "response from " ++ url ++ " has no record count; first key is "
        ++ Text.quoted firstKey

end FetchError

end MaterialSearch
