/-
  MaterialSearch.Attribute.Decode
  ────────────────────────────────
  **READING THE VALUES OF KEYWORDS.**

  A record writes most values as texts whose form depends on the keyword,
  and some as JSON of their own.  A value is read whole or not at all: one
  bad piece of a list, row or grid makes the value missing.

  Main definitions:
    * `readNumber?`, `readNumbers?`, `readMatrix?`, `readKpoints?`
    * `readText?` — a text in the form of a keyword
    * `readArray?` — a JSON array in the form of a keyword
    * `Attribute.decode`, `Attribute.decodeNamed`
-/
import MaterialSearch.Attribute.Basic
import MaterialSearch.Keyword.Catalog
import MaterialSearch.Json.Basic
import MaterialSearch.Numeric.FloatReader
import MaterialSearch.Text.Blank
import MaterialSearch.Text.Digit
import MaterialSearch.Text.Pieces

namespace MaterialSearch.Attribute

open Numeric Keyword Text

/-! ## §1. Numbers. -/

/-- The results of reading each item, if every one can be read. -/
def readAll? {α β : Type} (read : α → Option β) : List α → Option (List β)
  | [] => some []
  | a :: as =>
      match read a, readAll? read as with
      | some b, some bs => some (b :: bs)
      | _, _ => none

/-- A number.  Digits alone are a whole number, which must fit 64 bits;
any other text is a float or nothing. -/
def readNumber? (cs : List Char) : Option Number :=
  if isDigits cs then
    match readInt64? cs with
    | some n => some (.int n)
    | none => (readUInt64? cs).map .nat
  else (readFloat? cs).map .float

/-- The pieces of a list without the blanks around them. -/
def trimmedPieces (sep : Char) (cs : List Char) : List (List Char) :=
  (pieces sep cs).map trimChars

/-- A list of numbers, all of the kind of the first: signed whole numbers
or floats. -/
def readNumbers? (cs : List Char) : Option (List Number) :=
  let items := trimmedPieces ',' cs
  match items.head?.bind readNumber? with
  | none => none
  | some first =>
      -- A first number beyond the signed range makes the list unreadable,
      -- because it cannot be read again as a signed one.
      if first.isInteger then readAll? (fun item => (readInt64? item).map .int) items
      else readAll? (fun item => (readFloat? item).map .float) items

/-- A matrix of floats by rows. -/
def readMatrix? (cs : List Char) : Option (List (List Float)) :=
  readAll? (fun row => readAll? readFloat? (trimmedPieces ',' row)) (pieces ';' cs)

/-! ## §2. Reciprocal space. -/

/-- A grid: numbers of any kind. -/
def readGrid? (cs : List Char) : Option (List Number) :=
  readAll? readNumber? (trimmedPieces ',' cs)

/-- The last two parts of a sampling: the points and the number of
samples.  With three parts there is no number; with more, the last part is
the number and the part before it holds the points. -/
def pathParts? : List (List Char) → Option (List Char × Option UInt32)
  | [points] => some (points, none)
  | parts =>
      match parts.reverse with
      | samples :: points :: _ =>
          (readUInt32? (trimChars samples)).map fun n => (points, some n)
      | _ => none

/-- The sampling `relaxation;static;points` with an optional number of
samples at the end. -/
def readKpoints? (cs : List Char) : Option BandPath :=
  match pieces ';' cs with
  | relaxation :: static :: rest =>
      match pathParts? rest, readGrid? relaxation, readGrid? static with
      | some (points, samples), some relaxation, some static =>
          some ⟨relaxation, static, (pieces '-' points).map String.ofList, samples⟩
      | _, _, _ => none
  | _ => none

/-! ## §3. Texts and JSON. -/

/-- A text in the form of a keyword. -/
def readText? (w : Wire) (s : String) : Option Attribute :=
  let cs := trimChars s.toList
  match w with
  | .string => some (.text (String.ofList cs))
  | .strings => some (.texts ((pieces ',' cs).map String.ofList))
  | .number => (readNumber? cs).map .number
  | .numbers | .vector => (readNumbers? cs).map .numbers
  | .matrix => (readMatrix? cs).map .matrix
  | .kpoints => (readKpoints? cs).map .kpoints

/-- A number inside a JSON array: a JSON number or the text of one. -/
def readScalar? : Json → Option Number
  | .num n => some n
  | .str s => readNumber? (trimChars s.toList)
  | _ => none

/-- A row of a matrix given as JSON. -/
def readRow? : Json → Option (List Float)
  | .arr items => readAll? (fun item => (readScalar? item).map Number.toFloat) items
  | _ => none

/-- An item of a list of texts; what is no text is kept as JSON text. -/
def itemText : Json → String
  | .str s => s
  | other => other.text

/-- A JSON array in the form of a keyword. -/
def readArray? (w : Wire) (items : List Json) : Option Attribute :=
  match w with
  | .strings => some (.texts (items.map itemText))
  | .numbers | .vector => (readAll? readScalar? items).map .numbers
  | .matrix => (readAll? readRow? items).map .matrix
  | _ => none

/-- A JSON number in the form of a keyword. -/
def ofNumber (w : Wire) (n : Number) : Attribute :=
  match w with
  | .numbers | .vector => .numbers [n]
  | _ => .number n

/-- **The value that a record writes for a keyword of this form.** -/
def decode (w : Wire) : Json → Attribute
  | .str s => (readText? w s).getD .missing
  | .num n => ofNumber w n
  | .arr items => (readArray? w items).getD .missing
  | .null | .bool _ | .obj _ => .missing

/-- **The value that a record writes under a name**; under a name that is
no keyword it is kept as it is. -/
def decodeNamed (name : String) (value : Json) : Attribute :=
  match find? name with
  | some f => decode f.wire value
  | none => .raw value

/-! ## §4. Laws of `readAll?`. -/

theorem readAll?_eq_none_iff {α β : Type} {read : α → Option β} {as : List α} :
    readAll? read as = none ↔ ∃ a ∈ as, read a = none := by
  induction as with
  | nil => simp [readAll?]
  | cons a as ih =>
    simp only [readAll?]
    cases ha : read a with
    | none => simp [ha]
    | some b =>
      cases hs : readAll? read as with
      | none => simpa [ha] using ih.mp hs
      | some bs =>
        have : ¬ ∃ a ∈ as, read a = none := fun h => by simp [ih.mpr h] at hs
        simpa [ha] using this

theorem readAll?_eq_some_iff {α β : Type} {read : α → Option β} {as : List α}
    {bs : List β} : readAll? read as = some bs ↔ as.map read = bs.map some := by
  induction as generalizing bs with
  | nil => cases bs <;> simp [readAll?]
  | cons a as ih =>
    simp only [readAll?]
    cases ha : read a with
    | none => cases bs <;> simp [ha]
    | some b =>
      cases hs : readAll? read as with
      | none =>
        cases bs with
        | nil => simp
        | cons b' bs' =>
          have : as.map read ≠ bs'.map some := fun h => by simp [ih.mpr h] at hs
          simp [this]
      | some rest =>
        cases bs with
        | nil => simp
        | cons b' bs' => simp [ha, ← ih, hs]

/-! ## §5. Examples. -/

example : readNumber? "42".toList = some (.int 42) := by decide
example : readNumber? "9223372036854775808".toList
    = some (.nat 9223372036854775808) := by decide
example : readNumber? "18446744073709551616".toList = none := by decide

end MaterialSearch.Attribute
