/-
  MaterialSearch.Page.Basic
  ────────────────────────────────
  **PAGES OF RECORDS AND THEIR KEYS.**

  A response is an object, one member for each record of the page.  The
  key of a record is its rank in the whole result and the size of that
  result: `46 of 912`.  A reader takes any blanks around the two numbers
  and digits of any script; a writer uses the plain form.

  Main definitions:
    * `Page`            — the records of a page by key, in order
    * `Page.read`       — a page from the body of a response
    * `recordKey`       — the plain key
    * `readRecordKey?`  — the digits of both numbers of a key
    * `Page.total`      — the size of the whole result, as a page tells it
-/
import MaterialSearch.Json.Reader
import MaterialSearch.Text.Blank
import MaterialSearch.Text.Digit
import MaterialSearch.Transport.Error

namespace MaterialSearch

open Text

/-! ## §1. Pages. -/

/-- The members of a response, in order. -/
abbrev Page := Members

/-- The page that the body of a response holds. -/
def Page.read (url body : String) : Except FetchError Page :=
  match Json.read? body with
  | some (.obj members) => .ok members
  | some _ => .error (.notObject url body)
  | none => .error (.notJson url body)

/-! ## §2. Record keys. -/

/-- The key of the record of a rank in a result of `total` records. -/
def recordKey (rank total : UInt64) : String :=
  toString rank.toNat ++ " of " ++ toString total.toNat

/-- Some blanks, at least one, cut off. -/
def dropBlanks? : List Char → Option (List Char)
  | [] => none
  | c :: cs => if isBlank c then some (cs.dropWhile isBlank) else none

/-- Some digits, at least one, and what follows them. -/
def takeDigits? (cs : List Char) : Option (List Char × List Char) :=
  let digits := cs.takeWhile isDecimalDigit
  if digits.isEmpty then none else some (digits, cs.dropWhile isDecimalDigit)

/-- The word between the two numbers, cut off. -/
def dropOf? : List Char → Option (List Char)
  | 'o' :: 'f' :: cs => some cs
  | _ => none

/-- **The digits of the rank and of the total**, if the text is a key. -/
def readRecordKey? (cs : List Char) : Option (List Char × List Char) :=
  (takeDigits? (cs.dropWhile isBlank)).bind fun (rank, cs) =>
    (dropBlanks? cs).bind fun cs =>
      (dropOf? cs).bind fun cs =>
        (dropBlanks? cs).bind fun cs =>
          (takeDigits? cs).bind fun (total, cs) =>
            if (cs.dropWhile isBlank).isEmpty then some (rank, total) else none

/-! ## §3. The size of a result. -/

/-- The digits of the total in the first member whose key is a record key. -/
def Page.totalDigits? (page : Page) : Option (List Char) :=
  page.findSome? fun m => (readRecordKey? m.1.toList).map Prod.snd

/-- **The number of records of the whole result**: what the first record
key tells, and none at all if the page is empty. -/
def Page.total (page : Page) (url : String) : Except FetchError UInt64 :=
  match page with
  | [] => .ok 0
  | first :: _ =>
      -- The digits may belong to a script or a size that cannot be read.
      match page.totalDigits?.bind readUInt64? with
      | some n => .ok n
      | none => .error (.noCount url first.1)

/-! ## §4. Examples. -/

example : recordKey 46 912 = "46 of 912" := by decide
example : readRecordKey? " 1\tof  7 ".toList = some (['1'], ['7']) := by decide
example : readRecordKey? "1 of 7x".toList = none := by decide
example : readRecordKey? "1of 7".toList = none := by decide

end MaterialSearch
