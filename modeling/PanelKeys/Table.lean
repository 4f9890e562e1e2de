/-!
# Tables that remember the order of their keys

Bindings, menu entries, host actions, cells and captured values are all looked up by a key, and
most of them are also listed, in the order in which their keys first arrived.  A `Table` is that one
container: a list of pairs whose keys are distinct.

* `Table.get?` — what stands under a key;
* `Table.insert` — a known key keeps its place and takes the new value, a new key goes to the end;
* `Table.erase` — the key leaves, the others close up and keep their order;
* `Table.filter` — keeps the pairs that pass a test.

The pairs are the table's view: **`get?_insert_self`**, **`get?_insert_of_ne`** and their companions
for `erase` say what each operation does to a look-up, `keys_insert` and `keys_erase` what it does
to the order.
-/

namespace PanelKeys

/-- A finite map listed in the order of its keys' arrival; no key occurs twice. -/
structure Table (κ : Type) (α : Type) where
  entries : List (κ × α)
  nodupKeys : (entries.map Prod.fst).Nodup

namespace Table

variable {κ α : Type}

theorem ext_entries {s t : Table κ α} (h : s.entries = t.entries) : s = t := by
  cases s; cases t; cases h; rfl

instance [DecidableEq κ] [DecidableEq α] : DecidableEq (Table κ α) := fun s t =>
  if h : s.entries = t.entries then isTrue (ext_entries h)
  else isFalse fun e => h (e ▸ rfl)

def empty : Table κ α := ⟨[], List.nodup_nil⟩

instance : Inhabited (Table κ α) := ⟨empty⟩

def keys (t : Table κ α) : List κ := t.entries.map Prod.fst

def values (t : Table κ α) : List α := t.entries.map Prod.snd

def size (t : Table κ α) : Nat := t.entries.length

def isEmpty (t : Table κ α) : Bool := t.entries.isEmpty

theorem nodup_filter (p : κ × α → Bool) {l : List (κ × α)} (h : (l.map Prod.fst).Nodup) :
    ((l.filter p).map Prod.fst).Nodup :=
  List.Sublist.nodup (List.Sublist.map Prod.fst List.filter_sublist) h

/-- Keeps the pairs that pass `p`, in their order. -/
def filter (p : κ × α → Bool) (t : Table κ α) : Table κ α :=
  ⟨t.entries.filter p, nodup_filter p t.nodupKeys⟩

/-! ## Looking up and writing -/

section Keyed

variable [DecidableEq κ]

/-- The value under the first pair with this key. -/
def lookupIn (k : κ) : List (κ × α) → Option α
  | [] => none
  | (k', a) :: rest => if k' = k then some a else lookupIn k rest

/-- Replaces in place, or appends. -/
def insertIn (k : κ) (a : α) : List (κ × α) → List (κ × α)
  | [] => [(k, a)]
  | (k', b) :: rest => if k' = k then (k, a) :: rest else (k', b) :: insertIn k a rest

theorem map_fst_insertIn (k : κ) (a : α) (l : List (κ × α)) :
    (insertIn k a l).map Prod.fst
      = if k ∈ l.map Prod.fst then l.map Prod.fst else l.map Prod.fst ++ [k] := by
  induction l with
  | nil => simp [insertIn]
  | cons p rest ih =>
      obtain ⟨k', b⟩ := p
      by_cases hk : k' = k
      · simp [insertIn, hk]
      · have hk' : ¬ k = k' := fun h => hk h.symm
        simp only [insertIn, hk, if_false, List.map_cons, ih, List.mem_cons, hk', false_or]
        split <;> simp

theorem nodup_insertIn (k : κ) (a : α) {l : List (κ × α)} (h : (l.map Prod.fst).Nodup) :
    ((insertIn k a l).map Prod.fst).Nodup := by
  rw [map_fst_insertIn]
  split
  · exact h
  · next hk =>
      refine List.nodup_append.2 ⟨h, by simp, ?_⟩
      intro x hx y hy hxy
      simp only [List.mem_singleton] at hy
      exact hk (hy ▸ hxy ▸ hx)

def get? (t : Table κ α) (k : κ) : Option α := lookupIn k t.entries

def contains (t : Table κ α) (k : κ) : Bool := (t.get? k).isSome

/-- A known key keeps its place; a new one is appended. -/
def insert (t : Table κ α) (k : κ) (a : α) : Table κ α :=
  ⟨insertIn k a t.entries, nodup_insertIn k a t.nodupKeys⟩

/-- Drops a key; the rest keep their order. -/
def erase (t : Table κ α) (k : κ) : Table κ α := t.filter fun p => !decide (p.1 = k)

/-- Inserts the pairs one after the other, so that a repeated key keeps its first place and its
last value. -/
def ofList (pairs : List (κ × α)) : Table κ α :=
  pairs.foldl (fun t p => t.insert p.1 p.2) empty

end Keyed

/-! ## What the operations do to a look-up and to the order -/

section Laws

variable [DecidableEq κ]

@[simp] theorem get?_empty (k : κ) : (empty : Table κ α).get? k = none := rfl

theorem lookupIn_insertIn (k j : κ) (a : α) (l : List (κ × α)) :
    lookupIn j (insertIn k a l) = if k = j then some a else lookupIn j l := by
  induction l with
  | nil => simp [insertIn, lookupIn]
  | cons p rest ih =>
      obtain ⟨k', b⟩ := p
      by_cases hk : k' = k
      · subst hk
        by_cases hj : k' = j <;> simp [insertIn, lookupIn, hj]
      · by_cases hj : k' = j
        · subst hj
          have hkj : ¬ k = k' := fun h => hk h.symm
          simp [insertIn, lookupIn, hk, hkj]
        · simp [insertIn, lookupIn, hk, hj, ih]

theorem get?_insert (t : Table κ α) (k j : κ) (a : α) :
    (t.insert k a).get? j = if k = j then some a else t.get? j :=
  lookupIn_insertIn k j a t.entries

@[simp] theorem get?_insert_self (t : Table κ α) (k : κ) (a : α) :
    (t.insert k a).get? k = some a := by simp [get?_insert]

theorem get?_insert_of_ne (t : Table κ α) {k j : κ} (a : α) (h : k ≠ j) :
    (t.insert k a).get? j = t.get? j := by simp [get?_insert, h]

theorem keys_insert (t : Table κ α) (k : κ) (a : α) :
    (t.insert k a).keys = if k ∈ t.keys then t.keys else t.keys ++ [k] :=
  map_fst_insertIn k a t.entries

theorem lookupIn_filter_ne (k j : κ) (l : List (κ × α)) :
    lookupIn j (l.filter fun p => !decide (p.1 = k)) = if k = j then none else lookupIn j l := by
  induction l with
  | nil => simp [lookupIn]
  | cons p rest ih =>
      obtain ⟨k', b⟩ := p
      by_cases hk : k' = k
      · subst hk
        by_cases hj : k' = j
        · subst hj
          simpa using ih
        · simp [lookupIn, hj, ih]
      · by_cases hj : k' = j
        · subst hj
          have hkj : ¬ k = k' := fun h => hk h.symm
          simp [lookupIn, hk, hkj]
        · simp [lookupIn, hk, hj, ih]

theorem get?_erase (t : Table κ α) (k j : κ) :
    (t.erase k).get? j = if k = j then none else t.get? j :=
  lookupIn_filter_ne k j t.entries

theorem keys_erase (t : Table κ α) (k : κ) :
    (t.erase k).keys = t.keys.filter fun j => !decide (j = k) := by
  simp only [keys, erase, filter, List.filter_map]
  rfl

end Laws

end Table

end PanelKeys
