/-
  MaterialSearch.Proofs.Json.Printing
  ────────────────────────────────
  **WRITTEN JSON IS READ BACK.**

  The compact text of a value goes back through both machines of the
  reader: the characters become the tokens of one document, and the tokens
  that document.  The value of the document is the one that was written if
  it has no floats, no repeated key and not too many levels.

  Main definitions:
    * `Document.tokens` — the tokens of a document
    * `Json.document`   — the document that the text of a value is
    * `Json.Readable`   — values that come back as they were

  Main results:
    * `Document.builds`, `ofTokens?_tokens` — documents from their tokens
    * `scans_text`                          — written values are cut into tokens
    * `document_read?_text`                 — **the document of a written value**
    * `read?_text`                          — **the value of a written value**
-/
import MaterialSearch.Proofs.Json.Tokens

namespace MaterialSearch.Json

open Numeric

/-! ## §1. Documents from their tokens. -/

mutual

/-- **The tokens of a document.** -/
def Document.tokens : Document → List Token
  | .null => [.scalar .null]
  | .bool b => [.scalar (.bool b)]
  | .number t => [.scalar (.number t)]
  | .string us => [.string us]
  | .array items => .arrayOpen :: (List.intercalate [.comma] (itemTokens items) ++ [.arrayClose])
  | .object members =>
      .objectOpen :: (List.intercalate [.comma] (memberTokens members) ++ [.objectClose])

/-- The tokens of the items of an array. -/
def itemTokens : List Document → List (List Token)
  | [] => []
  | d :: ds => d.tokens :: itemTokens ds

/-- The tokens of the members of an object. -/
def memberTokens : List (List TextUnit × Document) → List (List Token)
  | [] => []
  | (key, d) :: ds => (.string key :: .colon :: d.tokens) :: memberTokens ds

end

/-- **A document is built from its tokens**, whatever is open around it. -/
def Document.Builds (d : Document) : Prop :=
  ∀ mayClose frames, d.tokens.foldlM Expect.step? (.value mayClose, frames)
    = some (complete d frames)

/-- The items of an array pile up, last first. -/
theorem foldlM_items {ds : List Document} (hne : ds ≠ []) (h : ∀ d ∈ ds, d.Builds)
    (mayClose : Bool) (rev : List Document) (frames : List Frame) :
    (List.intercalate [.comma] (itemTokens ds)).foldlM Expect.step?
        (.value mayClose, .array rev :: frames)
      = some (.itemEnd (ds.reverse ++ rev), frames) := by
  induction ds generalizing mayClose rev with
  | nil => exact absurd rfl hne
  | cons d ds ih =>
    have hd : d.Builds := h d List.mem_cons_self
    cases ds with
    | nil =>
      rw [itemTokens, itemTokens, List.intercalate_singleton, hd]
      rfl
    | cons e ds =>
      rw [itemTokens, itemTokens, List.intercalate_cons_cons, List.append_assoc,
        List.foldlM_append, hd]
      show List.foldlM Expect.step? (.value false, .array (d :: rev) :: frames)
        (List.intercalate [.comma] (itemTokens (e :: ds))) = _
      rw [ih (List.cons_ne_nil e ds) (fun f hf => h f (List.mem_cons_of_mem d hf)),
        List.reverse_cons (a := d), List.append_assoc]
      rfl

/-- The members of an object pile up, last first. -/
theorem foldlM_members {ms : List (List TextUnit × Document)} (hne : ms ≠ [])
    (h : ∀ m ∈ ms, m.2.Builds) (mayClose : Bool) (rev : List (List TextUnit × Document))
    (frames : List Frame) : (List.intercalate [.comma] (memberTokens ms)).foldlM Expect.step?
        (.key rev mayClose, frames)
      = some (.memberEnd (ms.reverse ++ rev), frames) := by
  induction ms generalizing mayClose rev with
  | nil => exact absurd rfl hne
  | cons m ms ih =>
    obtain ⟨key, d⟩ := m
    have hd : d.Builds := h (key, d) List.mem_cons_self
    cases ms with
    | nil =>
      rw [memberTokens, memberTokens, List.intercalate_singleton]
      show List.foldlM Expect.step? (.value false, .object rev key :: frames) d.tokens = _
      rw [hd]
      rfl
    | cons m ms =>
      rw [memberTokens, memberTokens, List.intercalate_cons_cons, List.append_assoc]
      show List.foldlM Expect.step? (.value false, .object rev key :: frames) (d.tokens ++ _) = _
      rw [List.foldlM_append, hd]
      show List.foldlM Expect.step? (.key ((key, d) :: rev) false, frames)
        (List.intercalate [.comma] (memberTokens (m :: ms))) = _
      rw [ih (List.cons_ne_nil m ms) (fun f hf => h f (List.mem_cons_of_mem _ hf)),
        List.reverse_cons (a := (key, d)), List.append_assoc]
      rfl

theorem builds_array {items : List Document} (h : ∀ d ∈ items, d.Builds) :
    (Document.array items).Builds := by
  intro mayClose frames
  obtain rfl | hne := eq_or_ne items []
  · rfl
  · rw [Document.tokens, List.foldlM_cons]
    show List.foldlM Expect.step? (.value true, .array [] :: frames) _ = _
    rw [List.foldlM_append, foldlM_items hne h, List.append_nil]
    show some (complete (.array items.reverse.reverse) frames) = _
    rw [List.reverse_reverse]

theorem builds_object {members : List (List TextUnit × Document)}
    (h : ∀ m ∈ members, m.2.Builds) : (Document.object members).Builds := by
  intro mayClose frames
  obtain rfl | hne := eq_or_ne members []
  · rfl
  · rw [Document.tokens, List.foldlM_cons]
    show List.foldlM Expect.step? (.key [] true, frames) _ = _
    rw [List.foldlM_append, foldlM_members hne h, List.append_nil]
    show some (complete (.object members.reverse.reverse) frames) = _
    rw [List.reverse_reverse]

mutual

/-- **Every document is built from its tokens.** -/
theorem Document.builds : ∀ d : Document, d.Builds
  | .null => fun _ _ => rfl
  | .bool _ => fun _ _ => rfl
  | .number _ => fun _ _ => rfl
  | .string _ => fun _ _ => rfl
  | .array items => builds_array (Document.builds_items items)
  | .object members => builds_object (Document.builds_members members)

theorem Document.builds_items : ∀ (items : List Document), ∀ d ∈ items, d.Builds
  | [], _, h => absurd h List.not_mem_nil
  | d :: ds, e, h => by
    obtain heq | h := List.mem_cons.mp h
    · exact heq ▸ Document.builds d
    · exact Document.builds_items ds e h

theorem Document.builds_members : ∀ (members : List (List TextUnit × Document)),
    ∀ m ∈ members, m.2.Builds
  | [], _, h => absurd h List.not_mem_nil
  | (_, d) :: ms, m, h => by
    obtain heq | h := List.mem_cons.mp h
    · exact heq ▸ Document.builds d
    · exact Document.builds_members ms m h

end

/-- **The tokens of a document write no other.** -/
theorem ofTokens?_tokens (d : Document) : Document.ofTokens? d.tokens = some d := by
  rw [Document.ofTokens?, d.builds]
  rfl

/-! ## §2. Written values. -/

mutual

/-- **The document that the text of a value is**; a float that is not finite is
written as null. -/
def document : Json → Document
  | .null => .null
  | .bool b => .bool b
  | .num n => ((readNumberText? (numberText n).toList).map Document.number).getD .null
  | .str s => .string (s.toList.map unitOf)
  | .arr items => .array (itemDocuments items)
  | .obj members => .object (memberDocuments members)

/-- The documents of the items of an array. -/
def itemDocuments : List Json → List Document
  | [] => []
  | v :: vs => document v :: itemDocuments vs

/-- The documents of the members of an object. -/
def memberDocuments : List (String × Json) → List (List TextUnit × Document)
  | [] => []
  | (k, v) :: ms => (k.toList.map unitOf, document v) :: memberDocuments ms

end

/-- **Values that come back as they were** with room for some levels of nesting:
whole numbers of the kind that reading prefers, and objects without a repeated
key. -/
inductive Readable : Nat → Json → Prop
  | null {room : Nat} : Readable room .null
  | bool {room : Nat} (b : Bool) : Readable room (.bool b)
  | int {room : Nat} (n : Int64) : Readable room (.num (.int n))
  | nat {room : Nat} {n : UInt64} (h : 0x8000000000000000 ≤ n.toNat) : Readable room (.num (.nat n))
  | str {room : Nat} (s : String) : Readable room (.str s)
  | arr {room : Nat} {items : List Json} (h : ∀ v ∈ items, Readable room v) :
      Readable (room + 1) (.arr items)
  | obj {room : Nat} {members : Members} (hkeys : (members.map Prod.fst).Nodup)
      (h : ∀ m ∈ members, Readable room m.2) : Readable (room + 1) (.obj members)

theorem document_int (n : Int64) : document (.num (.int n))
    = .number (wholeText (decide (n.toInt < 0)) n.toInt.natAbs) := by
  rw [document, numberText, readNumberText?_toString]
  rfl

theorem document_nat (n : UInt64) :
    document (.num (.nat n)) = .number (wholeText false n.toNat) := by
  have hread := readNumberText?_toString n.toNat
  rw [decide_eq_false (Int.not_lt.mpr (Int.natCast_nonneg _)), Int.natAbs_natCast] at hread
  rw [document, numberText]
  show ((readNumberText? (toString (n.toNat : Int)).toList).map Document.number).getD .null = _
  rw [hread]
  rfl

/-- An enclosed list of parts. -/
theorem Scans.enclosed {opening closing : Char} {t u : Token} {css : List (List Char)}
    {tss : List (List Token)} (hopen : IsMark opening t) (hclose : IsMark closing u)
    (h : List.Forall₂ Scans css tss) :
    Scans (opening :: (List.intercalate [','] css ++ [closing]))
      (t :: (List.intercalate [.comma] tss ++ [u])) :=
  Scans.nil.mark hopen ((Scans.list h).mark hclose Scans.nil)

/-- **A written value is cut into the tokens of its document.** -/
theorem scans_text {room : Nat} {v : Json} (h : Readable room v) :
    Scans (text v).toList (document v).tokens := by
  induction h with
  | null => exact Scans.run (by decide) rfl rfl
  | bool b => cases b <;> exact Scans.run (by decide) rfl rfl
  | int n =>
    rw [document_int]
    exact Scans.whole n.toInt
  | @nat _ n _ =>
    rw [document_nat]
    exact Scans.whole n.toNat
  | str s => exact Scans.string s
  | @arr _ items _ ih =>
    have hparts : List.Forall₂ Scans ((itemTexts items).map String.toList)
        (itemTokens (itemDocuments items)) := by
      clear * - ih
      induction items with
      | nil => exact .nil
      | cons v vs hvs =>
        exact .cons (ih v List.mem_cons_self) (hvs fun w hw => ih w (List.mem_cons_of_mem v hw))
    rw [text, String.toList_append, String.toList_append, String.toList_intercalate]
    exact Scans.enclosed ⟨rfl, rfl⟩ ⟨rfl, rfl⟩ hparts
  | @obj _ members _ _ ih =>
    have hparts : List.Forall₂ Scans ((memberTexts members).map String.toList)
        (memberTokens (memberDocuments members)) := by
      clear * - ih
      induction members with
      | nil => exact .nil
      | cons m ms hms =>
        obtain ⟨k, v⟩ := m
        refine .cons ?_ (hms fun w hw => ih w (List.mem_cons_of_mem _ hw))
        rw [String.toList_append, String.toList_append, List.append_assoc]
        exact (Scans.string k).mark ⟨rfl, rfl⟩ (ih (k, v) List.mem_cons_self)
    rw [text, String.toList_append, String.toList_append, String.toList_intercalate]
    exact Scans.enclosed ⟨rfl, rfl⟩ ⟨rfl, rfl⟩ hparts

/-- **The document of a written value.** -/
theorem document_read?_text {room : Nat} {v : Json} (h : Readable room v) :
    Document.read? (text v) = some (document v) := by
  have hscan := scans_text h [] [] (by simp [Ended])
  rw [List.append_nil, List.append_nil] at hscan
  rw [Document.read?, Token.scan?, hscan, Token.scanFrom?, Pending.finish?]
  show Document.ofTokens? (document v).tokens.reverse.reverse = _
  rw [List.reverse_reverse, ofTokens?_tokens]

/-! ## §3. The value of a written value. -/

theorem items?_document {room : Nat} {items : List Json}
    (h : ∀ v ∈ items, (document v).valueWithin? room = some v) :
    Document.items? room (itemDocuments items) = some items := by
  induction items with
  | nil => rfl
  | cons v vs ih =>
    rw [itemDocuments, Document.items?, h v List.mem_cons_self,
      ih fun w hw => h w (List.mem_cons_of_mem v hw)]

theorem members?_document {room : Nat} {members : Members}
    (h : ∀ m ∈ members, (document m.2).valueWithin? room = some m.2) :
    Document.members? room (memberDocuments members) = some members := by
  induction members with
  | nil => rfl
  | cons m ms ih =>
    obtain ⟨k, v⟩ := m
    rw [memberDocuments, Document.members?, stringOfUnits?_unitOf, h (k, v) List.mem_cons_self,
      ih fun w hw => h w (List.mem_cons_of_mem _ hw)]

theorem valueWithin?_document {room : Nat} {v : Json} (h : Readable room v) :
    (document v).valueWithin? room = some v := by
  induction h with
  | null => rfl
  | bool b => rfl
  | int n => rw [document_int, Document.valueWithin?, value?_wholeText_int, Option.map_some]
  | nat hn => rw [document_nat, Document.valueWithin?, value?_wholeText_nat _ hn, Option.map_some]
  | str s => rw [document, Document.valueWithin?, stringOfUnits?_unitOf, Option.map_some]
  | arr _ ih =>
    rw [document, Document.valueWithin?, if_neg (Nat.succ_ne_zero _), Nat.add_sub_cancel,
      items?_document ih, Option.map_some]
  | obj hkeys _ ih =>
    rw [document, Document.valueWithin?, if_neg (Nat.succ_ne_zero _), Nat.add_sub_cancel,
      members?_document ih, Option.map_some, Assoc.ofList_of_nodup hkeys]

/-- **What is written is read back**: every value without floats and repeated
keys, as long as it does not nest too deeply. -/
theorem read?_text {v : Json} (h : Readable maxNesting v) : read? (text v) = some v := by
  rw [read?, document_read?_text h]
  exact valueWithin?_document h

end MaterialSearch.Json
