/-
  MaterialSearch.Page.Cache
  ────────────────────────────────
  **THE PAGES RECEIVED SO FAR.**

  All copies of a query share one store of pages.  The first page stored
  tells the number of records; what later pages tell is not looked at.

  Main definitions:
    * `PageCache` with `page?`, `contains`, `size`
    * `PageCache.store`       — one more page
    * `PageCache.forgetTotal` — the total unknown again
-/
import MaterialSearch.Page.Basic

namespace MaterialSearch

/-- The pages received so far and the number of records. -/
structure PageCache where
  /-- The pages by their signed numbers. -/
  pages : List (Int64 × Page)
  /-- The number of records, once it is known. -/
  total : Option UInt64
  deriving Repr, DecidableEq

namespace PageCache

/-- No page, and no total. -/
def empty : PageCache := ⟨[], none⟩

/-- The page of a number. -/
def page? (c : PageCache) (page : Int64) : Option Page := c.pages.lookup page

/-- Whether there is a page of this number. -/
def contains (c : PageCache) (page : Int64) : Bool := (c.page? page).isSome

/-- The number of pages. -/
def size (c : PageCache) : Nat := c.pages.length

/-- Whether there is no page. -/
def isEmpty (c : PageCache) : Bool := c.pages.isEmpty

/-- The same pages without a total. -/
def forgetTotal (c : PageCache) : PageCache := { c with total := none }

/-- **One more page.**  When the total is unknown the page must tell it. -/
def store (c : PageCache) (page : Int64) (body : Page) (url : String) :
    Except FetchError PageCache :=
  match c.total with
  | some _ => .ok { c with pages := Assoc.put page body c.pages }
  | none =>
      match body.total url with
      | .ok total => .ok ⟨Assoc.put page body c.pages, some total⟩
      | .error e => .error e

end PageCache

end MaterialSearch
