import Mathlib.Data.List.Induction
import Mathlib.Logic.Function.Basic
import PanelKeys.Proofs.Table

/-!
# Tables and the changes that made them

A table that is only ever written to and taken from is told from its history, without the table:
what stands under a key is what the last change of the key left there, and the keys are listed by
when they last came in.  A key comes in where it is written and nothing stands under it; it then
keeps its place while other values are written under it, and loses it when it is taken away.

* `Table.Change`, `Table.replay` — one change, and a history of them, one after the other;
* `Table.lastChange?`, `Table.Arrives`, `Table.LastArrival` — what a history says of a key, without
  the table;
* `Table.ListedSince` — keys in the order of their last arrivals;
* **`Table.get?_replay`** — the last change decides, and without one the table from before;
* **`Table.exists_listedSince`** — so the keys of a table are listed, if it was empty at first;
* `Table.replay_writes` — every table has a history: its pairs, written in their order.
-/

namespace PanelKeys.Table

variable {κ α : Type}

/-- A value to write under a key, or none, where the key is taken away. -/
abbrev Change (κ α : Type) := κ × Option α

/-- The history of a table that has been written pair by pair. -/
def writes (t : Table κ α) : List (Change κ α) := t.entries.map fun p => (p.1, some p.2)

section Histories

variable [DecidableEq κ]

def change (t : Table κ α) : Change κ α → Table κ α
  | (k, some a) => t.insert k a
  | (k, none) => t.erase k

/-- What the changes make of a table. -/
def replay (history : List (Change κ α)) (t : Table κ α) : Table κ α := history.foldl change t

/-- What the last change of a key left under it, if one changed it. -/
def lastChange? (history : List (Change κ α)) (k : κ) : Option (Option α) :=
  (history.reverse.find? fun c => c.1 = k).map Prod.snd

/-- The change in this place writes under a key under which nothing stands. -/
def Arrives (history : List (Change κ α)) (k : κ) (i : Nat) : Prop :=
  (∃ a, history[i]? = some (k, some a)) ∧ (lastChange? (history.take i) k).join = none

/-- The place where the key last came in. -/
structure LastArrival (history : List (Change κ α)) (k : κ) (i : Nat) : Prop where
  arrives : Arrives history k i
  last : ∀ j, Arrives history k j → j ≤ i

/-- Keys in the order in which they last came in, each at the place that `since` says. -/
structure ListedSince (history : List (Change κ α)) (keys : List κ) (since : κ → Nat) : Prop where
  last : ∀ k ∈ keys, LastArrival history k (since k)
  ordered : keys.Pairwise fun j k => since j < since k

/-! ## The last change of a key -/

lemma lastChange?_concat (history : List (Change κ α)) (c : Change κ α) (k : κ) :
    lastChange? (history ++ [c]) k = if c.1 = k then some c.2 else lastChange? history k := by
  by_cases hk : c.1 = k
  · simp [lastChange?, hk]
  · simp [lastChange?, hk]

lemma lastChange?_eq_none {history : List (Change κ α)} {k : κ} (h : k ∉ history.map Prod.fst) :
    lastChange? history k = none := by
  have hother : ∀ c ∈ history, c.1 ≠ k := fun c hc hkey => h (hkey ▸ List.mem_map_of_mem hc)
  simpa [lastChange?] using fun j a hc => hother (j, a) hc

/-- A change that no other of the same key follows is the last one of its key. -/
lemma lastChange?_append_cons {after : List (Change κ α)} {k : κ} (h : k ∉ after.map Prod.fst)
    (before : List (Change κ α)) (wanted : Option α) :
    lastChange? (before ++ (k, wanted) :: after) k = some wanted := by
  induction after using List.reverseRecOn with
  | nil => simp [lastChange?_concat]
  | append_singleton after c ih =>
      simp only [List.map_append, List.mem_append, not_or, List.map_cons, List.map_nil,
        List.mem_singleton] at h
      rw [← List.cons_append, ← List.append_assoc, lastChange?_concat, if_neg (Ne.symm h.2), ih h.1]

lemma get?_change (t : Table κ α) (c : Change κ α) (k : κ) :
    (t.change c).get? k = if c.1 = k then c.2 else t.get? k := by
  obtain ⟨j, a | a⟩ := c
  · exact get?_erase t j k
  · exact get?_insert t j k a

lemma replay_concat (history : List (Change κ α)) (c : Change κ α) (t : Table κ α) :
    replay (history ++ [c]) t = (replay history t).change c := by
  simp [replay]

lemma replay_append (history later : List (Change κ α)) (t : Table κ α) :
    replay (history ++ later) t = replay later (replay history t) :=
  List.foldl_append

/-- A fold whose steps are changes, or leave the table alone, is a history of those changes. -/
lemma foldl_eq_replay {ε : Type} {step : Table κ α → ε → Table κ α} {t : Table κ α}
    {change? : ε → Option (Change κ α)}
    (hstep : ∀ (items : List ε) (e : ε),
      step (items.foldl step t) e
        = (change? e).elim (items.foldl step t) (items.foldl step t).change)
    (items : List ε) : items.foldl step t = replay (items.filterMap change?) t := by
  induction items using List.reverseRecOn with
  | nil => rfl
  | append_singleton items e ih =>
      rw [List.foldl_append, List.foldl_cons, List.foldl_nil, hstep, ih, List.filterMap_append]
      cases hchange : change? e with
      | none => simp [hchange]
      | some c => simp [hchange, replay_concat]

/-- **The last change of a key decides what stands under it.** -/
theorem get?_replay (history : List (Change κ α)) (t : Table κ α) (k : κ) :
    (replay history t).get? k = (lastChange? history k).getD (t.get? k) := by
  induction history using List.reverseRecOn with
  | nil => rfl
  | append_singleton history c ih =>
      rw [replay_concat, get?_change, lastChange?_concat, ih]
      split <;> rfl

/-- In a table that was empty before its history, nothing else can stand under a key. -/
lemma get?_replay_empty (history : List (Change κ α)) (k : κ) :
    (replay history empty).get? k = (lastChange? history k).join := by
  rw [get?_replay, get?_empty]
  cases lastChange? history k <;> rfl

/-! ## Arrivals -/

lemma Arrives.lt_length {history : List (Change κ α)} {k : κ} {i : Nat} (h : Arrives history k i) :
    i < history.length := by
  obtain ⟨⟨a, ha⟩, -⟩ := h
  exact (List.getElem?_eq_some_iff.1 ha).1

/-- One change more is one arrival more, if it writes under a key under which nothing stands, and
leaves the earlier ones where they are. -/
lemma arrives_concat {history : List (Change κ α)} {c : Change κ α} {k : κ} {i : Nat} :
    Arrives (history ++ [c]) k i ↔ Arrives history k i
      ∨ i = history.length ∧ (∃ a, c = (k, some a)) ∧ (lastChange? history k).join = none := by
  rcases Nat.lt_trichotomy i history.length with hlt | rfl | hgt
  · have hne : i ≠ history.length := Nat.ne_of_lt hlt
    simp [Arrives, List.getElem?_append_left hlt, List.take_append_of_le_length (Nat.le_of_lt hlt),
      hne]
  · simp [Arrives]
  · have hnot : ¬ Arrives history k i := fun h => Nat.lt_asymm hgt h.lt_length
    have hnot' : ¬ Arrives (history ++ [c]) k i := fun h => by
      have hlt := h.lt_length
      rw [List.length_append, List.length_singleton] at hlt
      omega
    have hne : i ≠ history.length := Nat.ne_of_gt hgt
    simp [hnot, hnot', hne]

/-- A change that brings no key in leaves the last arrivals where they are. -/
lemma LastArrival.concat {history : List (Change κ α)} {k : κ} {i : Nat}
    (h : LastArrival history k i)
    {c : Change κ α} (hc : ∀ a, c = (k, some a) → (lastChange? history k).join ≠ none) :
    LastArrival (history ++ [c]) k i := by
  refine ⟨arrives_concat.2 (.inl h.arrives), fun j hj => ?_⟩
  rcases arrives_concat.1 hj with hold | ⟨-, ⟨a, ha⟩, hnone⟩
  · exact h.last j hold
  · exact absurd hnone (hc a ha)

lemma lastArrival_length {history : List (Change κ α)} {k : κ}
    (hnone : (lastChange? history k).join = none)
    (a : α) : LastArrival (history ++ [(k, some a)]) k history.length := by
  refine ⟨arrives_concat.2 (.inr ⟨rfl, ⟨a, rfl⟩, hnone⟩), fun j hj => ?_⟩
  rcases arrives_concat.1 hj with hold | ⟨rfl, -⟩
  · exact Nat.le_of_lt hold.lt_length
  · exact Nat.le_refl _

/-! ## The order of the keys -/

/-- A change that brings none of these keys in leaves them in their order. -/
lemma ListedSince.concat {history : List (Change κ α)} {keys : List κ} {since : κ → Nat}
    (h : ListedSince history keys since) {c : Change κ α}
    (hc : ∀ k ∈ keys, ∀ a, c = (k, some a) → (lastChange? history k).join ≠ none) :
    ListedSince (history ++ [c]) keys since :=
  ⟨fun k hk => (h.last k hk).concat (hc k hk), h.ordered⟩

lemma ListedSince.filter {history : List (Change κ α)} {keys : List κ} {since : κ → Nat}
    (h : ListedSince history keys since) (keep : κ → Bool) :
    ListedSince history (keys.filter keep) since :=
  ⟨fun k hk => h.last k (List.mem_filter.1 hk).1, h.ordered.filter keep⟩

/-- A key that comes in is the last one. -/
lemma ListedSince.arrive {history : List (Change κ α)} {keys : List κ} {since : κ → Nat}
    (h : ListedSince history keys since) {k : κ} (hk : k ∉ keys)
    (hnone : (lastChange? history k).join = none) (a : α) :
    ListedSince (history ++ [(k, some a)]) (keys ++ [k])
      (Function.update since k history.length) := by
  have hold : ∀ j ∈ keys, Function.update since k history.length j = since j := fun j hj =>
    Function.update_of_ne (fun hjk : j = k => hk (hjk ▸ hj)) history.length since
  have hnew : Function.update since k history.length k = history.length := Function.update_self ..
  refine ⟨fun j hj => ?_,
    List.pairwise_append.2 ⟨?_, List.pairwise_singleton _ k, fun i hi j hj => ?_⟩⟩
  · rcases List.mem_append.1 hj with hin | hlast
    · rw [hold j hin]
      refine (h.last j hin).concat fun b hb => ?_
      obtain rfl : k = j := (Prod.mk.inj hb).1
      exact absurd hin hk
    · rw [List.mem_singleton.1 hlast, hnew]
      exact lastArrival_length hnone a
  · refine h.ordered.imp_of_mem fun {i j} hi hj hij => ?_
    rwa [hold i hi, hold j hj]
  · rw [List.mem_singleton.1 hj, hnew, hold i hi]
    exact (h.last i hi).arrives.lt_length

/-- **The keys of a table are listed by when they last came in.** -/
theorem exists_listedSince (history : List (Change κ α)) :
    ∃ since, ListedSince history (replay history empty).keys since := by
  induction history using List.reverseRecOn with
  | nil => exact ⟨fun _ => 0, fun k hk => absurd hk List.not_mem_nil, List.Pairwise.nil⟩
  | append_singleton history c ih =>
      obtain ⟨since, hlisted⟩ := ih
      have habsent : ∀ k, (lastChange? history k).join = none ↔ k ∉ (replay history empty).keys :=
        fun k => by
        rw [← get?_replay_empty, get?_eq_none_iff]
      rw [replay_concat]
      obtain ⟨k, a | a⟩ := c
      · rw [change, keys_erase]
        exact ⟨since, (hlisted.filter _).concat fun j _ a ha => by simp at ha⟩
      · by_cases hk : k ∈ (replay history empty).keys
        · rw [change, keys_insert, if_pos hk]
          exact ⟨since, hlisted.concat fun j hj b hb => by rwa [ne_eq, habsent, not_not]⟩
        · rw [change, keys_insert, if_neg hk]
          exact ⟨_, hlisted.arrive hk ((habsent k).2 hk) a⟩

/-- A key that is written again keeps its place; one that was taken away before goes to the end. -/
example :
    (replay [(1, some 'a'), (2, some 'b'), (2, some 'c'), (1, none), (1, some 'd')] empty).keys
      = [2, 1] := by
  decide

/-! ## A table as its own history -/

/-- Pairs with keys that are not there yet go to the end, in their order. -/
lemma entries_replay_new {l : List (κ × α)} {t : Table κ α}
    (h : ((t.entries ++ l).map Prod.fst).Nodup) :
    (replay (l.map fun p => (p.1, some p.2)) t).entries = t.entries ++ l := by
  induction l using List.reverseRecOn with
  | nil => simp [replay]
  | append_singleton l p ih =>
      rw [← List.append_assoc, List.map_append] at h
      obtain ⟨hold, -, hnew⟩ := List.nodup_append.1 h
      have hp : p.1 ∉ (t.entries ++ l).map Prod.fst := fun hin => hnew p.1 hin p.1 (by simp) rfl
      rw [List.map_append, List.map_singleton, replay_concat]
      show insertIn p.1 p.2 _ = _
      rw [ih hold, insertIn_of_not_mem hp, List.append_assoc]

/-- **A table is what its own pairs make, written in their order.** -/
theorem replay_writes (t : Table κ α) : replay t.writes empty = t :=
  ext_entries (entries_replay_new (t := empty) t.nodupKeys)

end Histories

end PanelKeys.Table
