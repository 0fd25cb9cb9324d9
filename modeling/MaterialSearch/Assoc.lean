/-
  MaterialSearch.Assoc
  ────────────────────────────────
  **LISTS OF KEYS AND VALUES IN ORDER.**

  Objects and stores of pages are lists of pairs in which no key occurs
  twice.  Setting a key keeps the place that the key has; a new key goes
  to the end.  Values are read with `List.lookup`.

  Main definitions:
    * `Assoc.put`    — a key set to a value
    * `Assoc.ofList` — keys set one after the other

  Main results:
    * `Assoc.lookup_put_self`, `Assoc.lookup_put_of_ne`
    * `Assoc.ofList_of_nodup` — keys that are all different stay as they are
-/

namespace MaterialSearch.Assoc

variable {α β : Type} [DecidableEq α]

/-- The list with `key` set to `value`: in its place if the key is there,
else at the end. -/
def put (key : α) (value : β) : List (α × β) → List (α × β)
  | [] => [(key, value)]
  | (k, v) :: rest =>
      if k = key then (k, value) :: rest else (k, v) :: put key value rest

/-- Keys set one after the other; a repeated key keeps its first place and
takes its last value. -/
def ofList (pairs : List (α × β)) : List (α × β) :=
  pairs.foldl (fun acc p => put p.1 p.2 acc) []

/-! ## §1. What a key holds. -/

theorem lookup_put_self {key : α} {value : β} {ps : List (α × β)} :
    (put key value ps).lookup key = some value := by
  induction ps with
  | nil => simp [put]
  | cons p ps ih =>
    obtain ⟨k, v⟩ := p
    simp only [put]
    split
    · next h => simp [h]
    · next h =>
      have hb : (key == k) = false := by simp [Ne.symm h]
      simp [List.lookup_cons, hb, ih]

theorem lookup_put_of_ne {key k : α} {value : β} {ps : List (α × β)} (h : k ≠ key) :
    (put key value ps).lookup k = ps.lookup k := by
  have hb : (k == key) = false := by simp [h]
  induction ps with
  | nil => simp [put, List.lookup_cons, hb]
  | cons p ps ih =>
    obtain ⟨k', v⟩ := p
    simp only [put]
    split
    · next hk => subst hk; simp [List.lookup_cons, hb]
    · simp [List.lookup_cons, ih]

/-! ## §2. Keys that are all different. -/

theorem put_of_notMem {key : α} {value : β} {ps : List (α × β)} (h : key ∉ ps.map Prod.fst) :
    put key value ps = ps ++ [(key, value)] := by
  induction ps with
  | nil => rfl
  | cons p ps ih =>
    rw [List.map_cons, List.mem_cons, not_or] at h
    rw [put, if_neg (Ne.symm h.1), ih h.2, List.cons_append]

/-- Keys that are all different stay as they are. -/
theorem ofList_of_nodup {pairs : List (α × β)} (h : (pairs.map Prod.fst).Nodup) :
    ofList pairs = pairs := by
  suffices happend : ∀ acc : List (α × β), ((acc ++ pairs).map Prod.fst).Nodup →
      pairs.foldl (fun acc p => put p.1 p.2 acc) acc = acc ++ pairs from happend [] h
  clear h
  induction pairs with
  | nil => exact fun acc _ => (List.append_nil acc).symm
  | cons p pairs ih =>
    intro acc hacc
    have hp : p.1 ∉ acc.map Prod.fst := by
      rw [List.map_append, List.map_cons, List.nodup_append] at hacc
      exact fun hmem => hacc.2.2 _ hmem _ List.mem_cons_self rfl
    rw [List.append_cons] at hacc ⊢
    rw [List.foldl_cons, put_of_notMem hp]
    exact ih _ hacc

/-! ## §3. Examples. -/

example : ofList [("a", 1), ("b", 2), ("a", 3)] = [("a", 3), ("b", 2)] := by decide

end MaterialSearch.Assoc
