/-
  MaterialSearch.Transport.Basic
  ────────────────────────────────
  **THE SOURCE OF RESPONSES.**

  A transport answers one request at a time and never repeats one.  Its
  answer may depend on all that was requested before, so that a server
  that changes or fails now and then is a transport too.  What was
  requested is kept in a log, the oldest request first.

  Main definitions:
    * `Transport`   — an answer for every history and address
    * `Transport.Steady` — the answer depends on the address alone
    * `Transport.ask`, `Transport.askPage` — a logged request
-/
import MaterialSearch.Page.Basic

namespace MaterialSearch

/-- The addresses requested so far, the oldest first. -/
abbrev RequestLog := List String

/-- A source of responses. -/
structure Transport where
  /-- The body behind an address, or why there is none, after the requests
  of the log. -/
  answer : RequestLog → String → Except FetchError String

namespace Transport

/-- The answer depends on the address alone. -/
def Steady (t : Transport) : Prop :=
  ∀ log log' url, t.answer log url = t.answer log' url

/-- A request for a text. -/
def ask (t : Transport) (url : String) (log : RequestLog) :
    Except FetchError String × RequestLog :=
  (t.answer log url, log ++ [url])

/-- The page in an answer. -/
def pageOf (url : String) : Except FetchError String → Except FetchError Page
  | .ok body => Page.read url body
  | .error e => .error e

/-- A request for a page. -/
def askPage (t : Transport) (url : String) (log : RequestLog) :
    Except FetchError Page × RequestLog :=
  (pageOf url (t.answer log url), log ++ [url])

end Transport

end MaterialSearch
