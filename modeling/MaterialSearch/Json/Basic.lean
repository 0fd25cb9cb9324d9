/-
  MaterialSearch.Json.Basic
  ────────────────────────────────
  **JSON VALUES AND THEIR TEXT.**

  Responses, records and configurations arrive as JSON.  The members of an
  object keep the order in which they were written, because the first
  record key of a page names the size of the whole result.

  Values are written without blanks, members in their order.  A string
  escapes what JSON demands and nothing else: the quote, the backslash and
  the control characters below the space.

  Main definitions:
    * `Json`       — the values
    * `Members`    — the members of an object, in order
    * `Json.same`  — whether two values are the same
    * `stringText` — a string between its quotes
    * `numberText` — a number; a whole float keeps its fraction
    * `Json.text`  — the compact text of a value

  Main results:
    * `Json.same_iff` — equality of values is decided by comparing them
-/
import MaterialSearch.Assoc
import MaterialSearch.Numeric.Number

namespace MaterialSearch

/-! ## §1. Values. -/

/-- A JSON value. -/
inductive Json where
  | null
  | bool (value : Bool)
  | num (value : Numeric.Number)
  | str (text : String)
  | arr (items : List Json)
  | obj (members : List (String × Json))
  deriving Repr, Inhabited

/-- The members of an object in the order in which they were written; a
repeated key keeps its first place and has its last value. -/
abbrev Members := List (String × Json)

namespace Json

open Numeric

/-! ## §2. Equality. -/

mutual

/-- Whether two values are the same, member by member in order. -/
def same : Json → Json → Bool
  | .null, .null => true
  | .bool a, .bool b => a == b
  | .num m, .num n => m == n
  | .str s, .str t => s == t
  | .arr xs, .arr ys => sameItems xs ys
  | .obj xs, .obj ys => sameMembers xs ys
  | _, _ => false

/-- Whether two arrays have the same items. -/
def sameItems : List Json → List Json → Bool
  | [], [] => true
  | x :: xs, y :: ys => same x y && sameItems xs ys
  | _, _ => false

/-- Whether two objects have the same members. -/
def sameMembers : List (String × Json) → List (String × Json) → Bool
  | [], [] => true
  | (k, x) :: xs, (l, y) :: ys => k == l && same x y && sameMembers xs ys
  | _, _ => false

end

-- The three lemmas recurse as the values do: values hold lists of values.
mutual

theorem same_iff : ∀ x y : Json, same x y = true ↔ x = y
  | .null, y => by cases y <;> simp [same]
  | .bool _, y => by cases y <;> simp [same]
  | .num _, y => by cases y <;> simp [same]
  | .str _, y => by cases y <;> simp [same]
  | .arr xs, y => by cases y <;> simp [same, sameItems_iff xs]
  | .obj xs, y => by cases y <;> simp [same, sameMembers_iff xs]

theorem sameItems_iff : ∀ xs ys : List Json, sameItems xs ys = true ↔ xs = ys
  | [], ys => by cases ys <;> simp [sameItems]
  | x :: xs, [] => by simp [sameItems]
  | x :: xs, y :: ys => by simp [sameItems, same_iff x, sameItems_iff xs]

theorem sameMembers_iff : ∀ xs ys : List (String × Json), sameMembers xs ys = true ↔ xs = ys
  | [], ys => by cases ys <;> simp [sameMembers]
  | (k, x) :: xs, [] => by simp [sameMembers]
  | (k, x) :: xs, (l, y) :: ys => by simp [sameMembers, same_iff x, sameMembers_iff xs]

end

instance : DecidableEq Json := fun x y => decidable_of_iff (x.same y = true) (same_iff x y)

/-! ## §3. The text of strings and numbers. -/

/-- One character of a string. -/
def escapeChar (c : Char) : List Char :=
  if c = '"' then ['\\', '"']
  else if c = '\\' then ['\\', '\\']
  else if c = '\x08' then ['\\', 'b']
  else if c = '\x0c' then ['\\', 'f']
  else if c = '\n' then ['\\', 'n']
  else if c = '\r' then ['\\', 'r']
  else if c = '\t' then ['\\', 't']
  else if c.toNat < 0x20 then
    ['\\', 'u', '0', '0'] ++ [Nat.digitChar (c.toNat / 16), Nat.digitChar (c.toNat % 16)]
  else [c]

/-- A string between its quotes. -/
def stringText (s : String) : String :=
  String.ofList ('"' :: (s.toList.flatMap escapeChar ++ ['"']))

/-- A number; a float that is not finite has no text in JSON. -/
def numberText : Number → String
  | .int n => toString n.toInt
  | .nat n => toString n.toNat
  | .float x =>
      match partsOf x with
      | .finite .. => floatText .json x
      | _ => "null"

/-! ## §4. The text of a value. -/

mutual

/-- **The compact text of a value.** -/
def text : Json → String
  | .null => "null"
  | .bool b => if b then "true" else "false"
  | .num n => numberText n
  | .str s => stringText s
  | .arr items => "[" ++ ",".intercalate (itemTexts items) ++ "]"
  | .obj members => "\x7b" ++ ",".intercalate (memberTexts members) ++ "\x7d"

/-- The texts of the items of an array. -/
def itemTexts : List Json → List String
  | [] => []
  | v :: vs => text v :: itemTexts vs

/-- The texts of the members of an object. -/
def memberTexts : List (String × Json) → List String
  | [] => []
  | (k, v) :: ms => (stringText k ++ ":" ++ text v) :: memberTexts ms

end

/-! ## §5. Examples. -/

example : stringText "a\"b\n\x01" = "\"a\\\"b\\n\\u0001\"" := by decide

end Json

end MaterialSearch
