/-
  MaterialSearch.Transport.Paging
  ────────────────────────────────
  **THE DIRECTIVES OF A REQUEST.**

  After the search terms a request names the catalogs to search, if not
  all, and the page it wants: `catalog(icsd:lib2),paging(-2,20)`.

  Main definitions:
    * `Paging`      — a page number and a page size
    * `directives`  — what a request ends in
    * `readPaging?` — the first paging directive of an address
-/
import MaterialSearch.Text.Digit
import MaterialSearch.Text.Numeral

namespace MaterialSearch

open Text

/-- A page number and a page size. -/
structure Paging where
  page : Int64
  size : UInt64
  deriving Repr, DecidableEq

/-- The directive that asks for a page. -/
def Paging.text (p : Paging) : String :=
  "paging(" ++ toString p.page.toInt ++ "," ++ toString p.size.toNat ++ ")"

/-- **The directives of a request**; without catalogs all are searched. -/
def directives (catalogs : List String) (p : Paging) : String :=
  if catalogs.isEmpty then p.text
  else "catalog(" ++ ":".intercalate catalogs ++ ")," ++ p.text

/-! ## §1. Reading the directive back. -/

/-- The rest of a text after a word at its start. -/
def dropWord? : List Char → List Char → Option (List Char)
  | [], cs => some cs
  | w :: ws, c :: cs => if w = c then dropWord? ws cs else none
  | _ :: _, [] => none

/-- An optional minus sign and what follows it. -/
def takeSign : List Char → List Char × List Char
  | '-' :: cs => (['-'], cs)
  | cs => ([], cs)

/-- The texts of the two numbers, if a directive stands at the start. -/
def pagingHere? (cs : List Char) : Option (List Char × List Char) :=
  (dropWord? "paging(".toList cs).bind fun cs =>
    let (sign, cs) := takeSign cs
    let page := cs.takeWhile isDecimalDigit
    (dropWord? [','] (cs.dropWhile isDecimalDigit)).bind fun cs =>
      let size := cs.takeWhile isDecimalDigit
      (dropWord? [')'] (cs.dropWhile isDecimalDigit)).bind fun _ =>
        if page.isEmpty || size.isEmpty then none else some (sign ++ page, size)

/-- The texts of the two numbers of the first directive. -/
def findPaging? : List Char → Option (List Char × List Char)
  | [] => none
  | c :: cs =>
      match pagingHere? (c :: cs) with
      | some found => some found
      | none => findPaging? cs

/-- **The first paging directive of an address**, if its numbers fit. -/
def readPaging? (url : String) : Option Paging :=
  match findPaging? url.toList with
  | none => none
  | some (page, size) =>
      match readInt64? page, readUInt64? size with
      | some page, some size => some ⟨page, size⟩
      | _, _ => none

/-! ## §2. Examples. -/

example : directives ["icsd", "lib1"] ⟨-2, 20⟩ = "catalog(icsd:lib1),paging(-2,20)" := by
  decide
example : readPaging? "Egap,paging(-2,20)" = some ⟨-2, 20⟩ := by decide
example : readPaging? "Egap" = none := by decide

end MaterialSearch
