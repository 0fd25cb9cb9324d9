/-
  MaterialSearch.Json.Document
  ────────────────────────────────
  **JSON TEXT AS IT IS WRITTEN.**

  A document keeps what was written before anything is made of it: the
  digits of a number, the escapes of a string, repeated keys.  Whether a
  number is too great or a surrogate stands alone is asked later, and only
  of the parts that somebody reads.

  Reading has two steps.  Tokens are cut from the characters by a machine
  with one state; documents are built from the tokens on a stack of open
  arrays and objects.  Both consume their input one element at a time.

  Main definitions:
    * `NumberText`, `TextUnit` — numbers and strings as written
    * `Document`               — a value as written
    * `Token.scan?`            — characters to tokens
    * `Document.ofTokens?`     — tokens to a document
    * `Document.read?`         — a text that is one document
-/

namespace MaterialSearch.Json

/-! ## §1. Numbers and strings as written. -/

/-- The digits of a number: `± whole . fraction · 10^(± power)`. -/
structure NumberText where
  negative : Bool
  whole : List Char
  fraction : List Char
  /-- Whether the number is written without a point and without a power. -/
  isWhole : Bool
  powerNegative : Bool
  power : List Char
  deriving Repr, DecidableEq

/-- One element of a string. -/
inductive TextUnit where
  /-- A character written as itself or by a short escape. -/
  | char (c : Char)
  /-- A code unit of 16 bits written by its number. -/
  | unit (code : Nat)
  deriving Repr, DecidableEq

/-- No digit zero in front of other digits, and one digit at least. -/
def isWholeText : List Char → Bool
  | [] => false
  | ['0'] => true
  | c :: cs => c.isDigit && c ≠ '0' && cs.all Char.isDigit

/-- The power of ten and its sign after the mark. -/
def readPower? : List Char → Option (Bool × List Char)
  | '-' :: ds => if !ds.isEmpty && ds.all Char.isDigit then some (true, ds) else none
  | '+' :: ds => if !ds.isEmpty && ds.all Char.isDigit then some (false, ds) else none
  | ds => if !ds.isEmpty && ds.all Char.isDigit then some (false, ds) else none

/-- The rest of a number after its whole digits and its fraction. -/
def readNumberEnd? (negative : Bool) (whole fraction : List Char)
    (isWhole : Bool) : List Char → Option NumberText
  | [] => some ⟨negative, whole, fraction, isWhole, false, []⟩
  | c :: cs =>
      if c = 'e' ∨ c = 'E' then
        (readPower? cs).map fun p => ⟨negative, whole, fraction, false, p.1, p.2⟩
      else none

/-- An unsigned number. -/
def readUnsigned? (negative : Bool) (cs : List Char) : Option NumberText :=
  let whole := cs.takeWhile Char.isDigit
  if isWholeText whole then
    match cs.dropWhile Char.isDigit with
    | '.' :: rest =>
        let fraction := rest.takeWhile Char.isDigit
        if fraction.isEmpty then none
        else readNumberEnd? negative whole fraction false (rest.dropWhile Char.isDigit)
    | rest => readNumberEnd? negative whole [] true rest
  else none

/-- A number with an optional minus sign. -/
def readNumberText? : List Char → Option NumberText
  | '-' :: cs => readUnsigned? true cs
  | cs => readUnsigned? false cs

/-! ## §2. Documents. -/

/-- A value as it is written. -/
inductive Document where
  | null
  | bool (value : Bool)
  | number (text : NumberText)
  | string (text : List TextUnit)
  | array (items : List Document)
  | object (members : List (List TextUnit × Document))
  deriving Repr, Inhabited

/-! ## §3. Tokens. -/

/-- The smallest parts of a text with a meaning. -/
inductive Token where
  | arrayOpen
  | arrayClose
  | objectOpen
  | objectClose
  | colon
  | comma
  | string (text : List TextUnit)
  /-- A document without parts: a name or a number. -/
  | scalar (value : Document)
  deriving Repr, Inhabited

/-- What has been read of a token that is not complete. -/
inductive Pending where
  /-- Nothing. -/
  | idle
  /-- A run of letters, digits, signs and points, last first. -/
  | run (rev : List Char)
  /-- A string, last first. -/
  | text (rev : List TextUnit)
  /-- A string and a backslash. -/
  | escape (rev : List TextUnit)
  /-- A string and a code unit with `left` hexadecimal digits to come. -/
  | unit (rev : List TextUnit) (left code : Nat)
  deriving Repr

/-- Blanks between tokens. -/
def isSpace (c : Char) : Bool :=
  c = ' ' || c = '\t' || c = '\n' || c = '\r'

/-- Characters of names and numbers. -/
def isRunChar (c : Char) : Bool :=
  c.isAlphanum || c = '+' || c = '-' || c = '.'

/-- The value of a hexadecimal digit. -/
def hexValue? (c : Char) : Option Nat :=
  if c.isDigit then some (c.toNat - '0'.toNat)
  else if 'a' ≤ c ∧ c ≤ 'f' then some (c.toNat - 'a'.toNat + 10)
  else if 'A' ≤ c ∧ c ≤ 'F' then some (c.toNat - 'A'.toNat + 10)
  else none

/-- The character that a short escape stands for. -/
def shortEscape? (c : Char) : Option Char :=
  if c = '"' ∨ c = '\\' ∨ c = '/' then some c
  else if c = 'b' then some '\x08'
  else if c = 'f' then some '\x0c'
  else if c = 'n' then some '\n'
  else if c = 'r' then some '\r'
  else if c = 't' then some '\t'
  else none

/-- The token that a run stands for: a name or a number. -/
def readRun? (cs : List Char) : Option Token :=
  let name := String.ofList cs
  if name = "null" then some (.scalar .null)
  else if name = "true" then some (.scalar (.bool true))
  else if name = "false" then some (.scalar (.bool false))
  else (readNumberText? cs).map fun n => .scalar (.number n)

/-- A character where a token may begin: the token it completes, if any,
and what is pending after it. -/
def begin? (c : Char) : Option (List Token × Pending) :=
  if isSpace c then some ([], .idle)
  else if c = '"' then some ([], .text [])
  else if c = '[' then some ([.arrayOpen], .idle)
  else if c = ']' then some ([.arrayClose], .idle)
  else if c = '\x7b' then some ([.objectOpen], .idle)
  else if c = '\x7d' then some ([.objectClose], .idle)
  else if c = ':' then some ([.colon], .idle)
  else if c = ',' then some ([.comma], .idle)
  else if isRunChar c then some ([], .run [c])
  else none

/-- One character: the tokens it completes and what is pending after it. -/
def Pending.step? (p : Pending) (c : Char) : Option (List Token × Pending) :=
  match p with
  | .idle => begin? c
  | .run rev =>
      if isRunChar c then some ([], .run (c :: rev))
      else
        -- A run has no end of its own: `c` belongs to what comes next.
        (readRun? rev.reverse).bind fun t =>
          (begin? c).map fun next => (t :: next.1, next.2)
  | .text rev =>
      if c = '"' then some ([.string rev.reverse], .idle)
      else if c = '\\' then some ([], .escape rev)
      -- Control characters have to be escaped.
      else if c.toNat < 0x20 then none
      else some ([], .text (.char c :: rev))
  | .escape rev =>
      if c = 'u' then some ([], .unit rev 3 0)
      else (shortEscape? c).map fun e => ([], .text (.char e :: rev))
  | .unit rev left code =>
      (hexValue? c).map fun d =>
        match left with
        | 0 => ([], .text (.unit (16 * code + d) :: rev))
        | left + 1 => ([], .unit rev left (16 * code + d))

/-- The token that ends with the text. -/
def Pending.finish? : Pending → Option (List Token)
  | .idle => some []
  | .run rev => (readRun? rev.reverse).map fun t => [t]
  | _ => none

/-- The tokens of a text after those in `rev`, which come last first. -/
def Token.scanFrom? (rev : List Token) (p : Pending) : List Char → Option (List Token)
  | [] => p.finish?.map fun ts => (ts.reverse ++ rev).reverse
  | c :: cs =>
      match p.step? c with
      | none => none
      | some (ts, next) => Token.scanFrom? (ts.reverse ++ rev) next cs

/-- The tokens of a text. -/
def Token.scan? (cs : List Char) : Option (List Token) :=
  Token.scanFrom? [] .idle cs

/-! ## §4. Building documents. -/

/-- An array or object that is open around the next value. -/
inductive Frame where
  /-- An array with its items so far, last first. -/
  | array (rev : List Document)
  /-- An object with its members so far, last first, and the key of the
  next. -/
  | object (rev : List (List TextUnit × Document)) (key : List TextUnit)
  deriving Repr, Inhabited

/-- What may come next. -/
inductive Expect where
  /-- A value; after an opening bracket also the closing one. -/
  | value (mayClose : Bool)
  /-- A comma or the end of an array. -/
  | itemEnd (rev : List Document)
  /-- A key; after an opening brace also the closing one. -/
  | key (rev : List (List TextUnit × Document)) (mayClose : Bool)
  /-- A colon after a key. -/
  | colon (rev : List (List TextUnit × Document)) (key : List TextUnit)
  /-- A comma or the end of an object. -/
  | memberEnd (rev : List (List TextUnit × Document))
  /-- Nothing. -/
  | finish (value : Document)
  deriving Repr, Inhabited

/-- A complete value inside what is open around it. -/
def complete (value : Document) : List Frame → Expect × List Frame
  | [] => (.finish value, [])
  | .array rev :: frames => (.itemEnd (value :: rev), frames)
  | .object rev key :: frames => (.memberEnd ((key, value) :: rev), frames)

/-- One token. -/
def Expect.step? (state : Expect × List Frame) (t : Token) :
    Option (Expect × List Frame) :=
  match state, t with
  -- A value begins.
  | (.value _, frames), .scalar v => some (complete v frames)
  | (.value _, frames), .string text => some (complete (.string text) frames)
  | (.value _, frames), .arrayOpen => some (.value true, .array [] :: frames)
  | (.value _, frames), .objectOpen => some (.key [] true, frames)
  | (.value true, .array [] :: frames), .arrayClose =>
      some (complete (.array []) frames)
  -- An array goes on or ends.
  | (.itemEnd rev, frames), .comma => some (.value false, .array rev :: frames)
  | (.itemEnd rev, frames), .arrayClose =>
      some (complete (.array rev.reverse) frames)
  -- An object goes on or ends; after a comma it must go on.
  | (.key rev _, frames), .string text => some (.colon rev text, frames)
  | (.key _ true, frames), .objectClose => some (complete (.object []) frames)
  | (.colon rev name, frames), .colon =>
      some (.value false, .object rev name :: frames)
  | (.memberEnd rev, frames), .comma => some (.key rev false, frames)
  | (.memberEnd rev, frames), .objectClose =>
      some (complete (.object rev.reverse) frames)
  | _, _ => none

/-- The document that the tokens write. -/
def Document.ofTokens? (ts : List Token) : Option Document :=
  match ts.foldlM Expect.step? (.value false, []) with
  | some (.finish value, _) => some value
  | _ => none

/-- **A text that is one document.** -/
def Document.read? (s : String) : Option Document :=
  (Token.scan? s.toList).bind Document.ofTokens?

end MaterialSearch.Json
