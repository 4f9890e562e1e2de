import Mathlib.Tactic.Common
import PanelKeys.Table

/-!
# Tables, key by key

A key that is not listed has nothing under it, a key that is listed has its own value under it, and
a filter that looks at keys alone either keeps what stands under a key or drops it.  The order of
the keys is not to be seen in a look-up.  To take away a key that is not there changes nothing.
What holds of all keys goes on to hold when one is taken away, and when one is added of which it
holds.
-/

namespace PanelKeys.Table

variable {κ α : Type} [DecidableEq κ]

lemma lookupIn_eq_none {k : κ} {l : List (κ × α)} (h : k ∉ l.map Prod.fst) :
    lookupIn k l = none := by
  induction l with
  | nil => rfl
  | cons p rest ih =>
      simp only [List.map_cons, List.mem_cons, not_or] at h
      rw [lookupIn, if_neg (Ne.symm h.1), ih h.2]

lemma lookupIn_of_mem {l : List (κ × α)} (hnodup : (l.map Prod.fst).Nodup) {k : κ} {a : α}
    (h : (k, a) ∈ l) : lookupIn k l = some a := by
  induction l with
  | nil => simp at h
  | cons p rest ih =>
      obtain ⟨hp, hrest⟩ := List.nodup_cons.1 hnodup
      rcases List.mem_cons.1 h with rfl | hin
      · simp [lookupIn]
      · have hne : p.1 ≠ k := fun hkey => hp (hkey ▸ List.mem_map_of_mem hin)
        rw [lookupIn, if_neg hne, ih hrest hin]

lemma mem_of_lookupIn {l : List (κ × α)} {k : κ} {a : α} (h : lookupIn k l = some a) :
    (k, a) ∈ l := by
  induction l with
  | nil => simp [lookupIn] at h
  | cons p rest ih =>
      rw [lookupIn] at h
      split at h
      · next hkey =>
          rw [← hkey, ← Option.some.inj h]
          exact List.mem_cons_self
      · exact List.mem_cons_of_mem p (ih h)

/-- What stands under a key does not depend on the order of the pairs. -/
lemma lookupIn_eq_of_perm {l l' : List (κ × α)} (hnodup : (l.map Prod.fst).Nodup) (h : l.Perm l')
    (k : κ) :
    lookupIn k l = lookupIn k l' := by
  have hnodup' : (l'.map Prod.fst).Nodup := (h.map Prod.fst).nodup_iff.1 hnodup
  refine Option.ext fun a => ⟨fun hk => ?_, fun hk => ?_⟩
  · exact lookupIn_of_mem hnodup' (h.mem_iff.1 (mem_of_lookupIn hk))
  · exact lookupIn_of_mem hnodup (h.mem_iff.2 (mem_of_lookupIn hk))

lemma insertIn_of_not_mem {k : κ} {l : List (κ × α)} (h : k ∉ l.map Prod.fst) (a : α) :
    insertIn k a l = l ++ [(k, a)] := by
  induction l with
  | nil => rfl
  | cons p rest ih =>
      simp only [List.map_cons, List.mem_cons, not_or] at h
      rw [insertIn, if_neg (Ne.symm h.1), ih h.2, List.cons_append]

lemma lookupIn_filter_key (keep : κ → Bool) (k : κ) (l : List (κ × α)) :
    lookupIn k (l.filter fun p => keep p.1) = if keep k then lookupIn k l else none := by
  induction l with
  | nil => simp [lookupIn]
  | cons p rest ih =>
      obtain ⟨k', a⟩ := p
      by_cases hk : k' = k
      · subst hk
        cases hkeep : keep k' with
        | true => simp [lookupIn, hkeep]
        | false => simp [hkeep, ih]
      · cases hkeep : keep k' with
        | true => simp [lookupIn, hkeep, hk, ih]
        | false => simp [lookupIn, hkeep, hk, ih]

lemma get?_filter_key (keep : κ → Bool) (t : Table κ α) (k : κ) :
    (t.filter fun p => keep p.1).get? k = if keep k then t.get? k else none :=
  lookupIn_filter_key keep k t.entries

lemma get?_of_mem_entries {t : Table κ α} {k : κ} {a : α} (h : (k, a) ∈ t.entries) :
    t.get? k = some a :=
  lookupIn_of_mem t.nodupKeys h

lemma mem_keys_of_get? {t : Table κ α} {k : κ} {a : α} (h : t.get? k = some a) : k ∈ t.keys :=
  List.mem_map_of_mem (mem_of_lookupIn h)

lemma get?_eq_none_iff {t : Table κ α} {k : κ} : t.get? k = none ↔ k ∉ t.keys := by
  refine ⟨fun h hmem => ?_, lookupIn_eq_none⟩
  obtain ⟨⟨k', a⟩, hin, rfl⟩ := List.mem_map.1 hmem
  rw [get?_of_mem_entries hin] at h
  exact Option.some_ne_none a h

lemma erase_of_not_mem {t : Table κ α} {k : κ} (h : k ∉ t.keys) : t.erase k = t := by
  refine ext_entries (List.filter_eq_self.2 fun p hp => ?_)
  have hne : p.1 ≠ k := fun hkey => h (hkey ▸ List.mem_map_of_mem hp)
  simp [hne]

/-- What holds of a key that is written and of those that are there holds of all keys then. -/
lemma forall_keys_insert {P : κ → Prop} {t : Table κ α} {k : κ} {a : α} (hk : P k)
    (ht : ∀ j ∈ t.keys, P j) : ∀ j ∈ (t.insert k a).keys, P j := by
  intro j hj
  rw [keys_insert] at hj
  split at hj
  · exact ht j hj
  · rcases List.mem_append.1 hj with hold | hnew
    · exact ht j hold
    · rwa [List.mem_singleton.1 hnew]

lemma forall_keys_erase {P : κ → Prop} {t : Table κ α} {k : κ} (ht : ∀ j ∈ t.keys, P j) :
    ∀ j ∈ (t.erase k).keys, P j := by
  intro j hj
  rw [keys_erase] at hj
  exact ht j (List.mem_filter.1 hj).1

end PanelKeys.Table
