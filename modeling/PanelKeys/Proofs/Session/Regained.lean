import PanelKeys.Proofs.Session.SecondPass

/-!
# A length comes back

A conversion takes away the text from which a length was read, and inches are not read.  What the
way back writes must therefore be read again: otherwise the length could be shown once, and then
never again.

What comes back is the length behind the cell, with three places, and **a length that is written
with fixed places is read exactly if it is finite**.  A decimal of any size is read, though, and one
beyond the range of doubles is read as an infinity.  This is written as a word, and no word is read.

* `isFinite_of_parse?_text`, `exists_parse?_text_of_isFinite` — which lengths are read again;
* `CellView.restored_iterate_brought` — what comes back is the length that was behind the cell;
* **`length_comes_back`** — so every finite length can be read again, and no other;
* `overflow_is_lost` — a length of more than three hundred digits.
-/

namespace PanelKeys

open PanelKeys.Length
open PanelKeys.Number

/-! ## Lengths that are read again -/

namespace Length.Millimeter

lemma isFinite_of_parse?_text {mm read : Double} (h : parse? (text mm) = some read) :
    mm.IsFinite := by
  by_contra hinfinite
  have hnone : parse? (text mm) = none := by
    refine parse?_text_eq_none fun negative m hmm => hinfinite ?_
    rw [hmm]
    trivial
  rw [hnone] at h
  simp at h

lemma exists_parse?_text_of_isFinite {mm : Double} (h : mm.IsFinite) :
    ∃ read, parse? (text mm) = some read ∧ read.IsFinite := by
  cases mm with
  | nan => exact absurd h id
  | infinite negative => exact absurd h id
  | finite negative m =>
      obtain ⟨m', hread, -, -⟩ := exists_parse?_text negative m
      exact ⟨_, hread, trivial⟩

end Length.Millimeter

/-! ## There and back -/

namespace CellView

/-- The length behind a cell is the one that its text spells, or one for which that text was
written. -/
lemma Rendered.length?_of_parse? {v : CellView} (hv : v.Rendered) {text : String} {mm : Double}
    (hread : Millimeter.parse? text = some mm) :
    ∃ length, v.length? text = some length ∧ (length = mm ∨ Millimeter.text length = text) := by
  cases hlength : v.length? text with
  | none =>
      rw [parse?_of_length?_eq_none hlength] at hread
      simp at hread
  | some length =>
      refine ⟨length, rfl, ?_⟩
      rcases length?_eq_some hlength with ⟨e, hentry, hshown, rfl⟩ | hparse
      · obtain ⟨before, hbefore⟩ := hv e hentry
        have hunit : before.unit = .millimeter := by
          rw [← hshown, hbefore] at hread
          exact Policy.unit_of_parse?_render hread
        exact Or.inr (by rw [← hshown, hbefore, Policy.render_of_millimeter hunit])
      · exact Or.inl (Option.some.inj (hparse.symm.trans hread))

/-- A cell that can be written is written back as the length that was behind it. -/
lemma restored_brought {v : CellView} {text : String} (hcell : v.cell = some ⟨text, false⟩)
    {length : Double} (hlength : v.length? text = some length) (policy : Policy) :
    (v.brought policy).restored = some ⟨Millimeter.text length, false⟩ := by
  have hbrought : v.brought policy = presenting policy ⟨text, false⟩ length := by
    simp only [brought, hcell, hlength]
  rw [hbrought, presenting]
  split
  · next hsame => simp [restored, hsame]
  · simp [restored]

lemma restored_iterate_brought {v : CellView} (hv : v.Rendered) {text : String}
    (hcell : v.cell = some ⟨text, false⟩) {length : Double} (hlength : v.length? text = some length)
    (policy : Policy) {n : Nat} (hn : n ≠ 0) :
    ((brought policy)^[n] v).restored = some ⟨Millimeter.text length, false⟩ := by
  rw [iterate_brought hv policy hn]
  exact restored_brought hcell hlength policy

end CellView

namespace Desk

/-- What a pass and the way back leave of a cell. -/
lemma get?_thereAndBack (d : Desk) (policy : Policy) (cells : List PanelCell) (cell : CellId) :
    ((d.call (.reconcile policy cells)).call .restore).store.cells.get? cell
      = ((CellView.brought policy)^[cells.count ⟨cell, false⟩]
          ⟨d.ledger.get? cell, d.store.cells.get? cell⟩).restored := by
  rw [← Ledger.view_reconcile]
  exact Ledger.get?_restore _ _ cell

/-- **A length comes back as one that can be read**, if it is finite.  A cell that can be written
and shows a length is converted, under any policy, and then written back: the text that it shows in
the end is read as a finite length.  If the text that it showed before spelled a length beyond the
range of doubles, what it shows in the end is not read. -/
theorem length_comes_back {store : CellStore} {events : List DeskEvent} {cell : CellId}
    {text : String} {mm : Double} (policy : Policy) {cells : List PanelCell}
    (hcell : ((new store).run events).store.cells.get? cell = some ⟨text, false⟩)
    (hread : Millimeter.parse? text = some mm) (hlisted : ⟨cell, false⟩ ∈ cells) :
    ∃ text',
      ((((new store).run events).call (.reconcile policy cells)).call .restore).store.read? cell
        = some text'
      ∧ (mm.IsFinite → ∃ mm', Millimeter.parse? text' = some mm' ∧ mm'.IsFinite)
      ∧ (¬ mm.IsFinite → Millimeter.parse? text' = none) := by
  set d := (new store).run events
  have hv : (⟨d.ledger.get? cell, d.store.cells.get? cell⟩ : CellView).Rendered :=
    (rendered_run store events).view cell _
  have hcount : cells.count ⟨cell, false⟩ ≠ 0 := Nat.ne_of_gt (List.count_pos_iff.2 hlisted)
  obtain ⟨length, hlength, hsource⟩ := hv.length?_of_parse? hread
  have hback : ((d.call (.reconcile policy cells)).call .restore).store.cells.get? cell
      = some ⟨Millimeter.text length, false⟩ := by
    rw [get?_thereAndBack]
    exact CellView.restored_iterate_brought hv hcell hlength policy hcount
  refine ⟨Millimeter.text length, by rw [CellStore.read?, hback, Option.map_some], ?_⟩
  rcases hsource with rfl | htext
  · refine ⟨Millimeter.exists_parse?_text_of_isFinite, fun hinfinite => ?_⟩
    exact Option.eq_none_iff_forall_ne_some.2 fun read hagain =>
      hinfinite (Millimeter.isFinite_of_parse?_text hagain)
  · -- The text was written for a length before, so it is in millimeters and comes back as it was.
    have hagain : Millimeter.parse? (Millimeter.text length) = some mm := by rw [htext, hread]
    obtain ⟨read, hread', hfinite⟩ :=
      Millimeter.exists_parse?_text_of_isFinite (Millimeter.isFinite_of_parse?_text hagain)
    obtain rfl : read = mm := Option.some.inj (hread'.symm.trans hagain)
    exact ⟨fun _ => ⟨read, hagain, hfinite⟩, fun hinfinite => absurd hfinite hinfinite⟩

/-- Half an inch below zero, written by the application into a cell that showed an inch before. -/
theorem length_comes_back_below_zero :
    let start := CellStore.empty.put 1 ⟨"25.4", false⟩
    let events : List DeskEvent :=
      [.call (.reconcile { unit := .inch } [⟨1, false⟩]),
        .edit (Table.empty.insert 1 ⟨"\u221212.7 mm", false⟩)]
    let policy : Policy := { unit := .inch, precision := .thirtySecond, feet := true }
    let d := ((new start).run events).call (.reconcile policy [⟨1, false⟩])
    d.store.read? 1 = some "-1/2\""
      ∧ (d.call .restore).store.read? 1 = some "-12.700"
      ∧ ∃ mm', Millimeter.parse? "-12.700" = some mm' ∧ mm'.IsFinite := by
  intro start events policy d
  have hcell : ((new start).run events).store.cells.get? 1 = some ⟨"\u221212.7 mm", false⟩ := by
    decide +kernel
  have hread : Millimeter.parse? "\u221212.7 mm"
      = some ((Millimeter.parse? "\u221212.7 mm").getD .nan) := by
    decide +kernel
  have hlisted : (⟨1, false⟩ : PanelCell) ∈ [⟨1, false⟩] := List.mem_singleton_self _
  obtain ⟨text', hback, hfinite, -⟩ := length_comes_back policy hcell hread hlisted
  have htext : (d.call .restore).store.read? 1 = some "-12.700" := by decide +kernel
  obtain rfl : "-12.700" = text' := Option.some.inj (htext.symm.trans hback)
  exact ⟨by decide +kernel, htext, hfinite (by decide +kernel)⟩

/-! ## A length that does not come back -/

/-- What comes back of the only cell of a new ledger. -/
lemma read?_thereAndBack_of_new {text : String} {mm : Double}
    (hread : Millimeter.parse? text = some mm) (policy : Policy) (cell : CellId) :
    ((((new (CellStore.empty.put cell ⟨text, false⟩)).run []).call
      (.reconcile policy [⟨cell, false⟩])).call .restore).store.read? cell
      = some (Millimeter.text mm) := by
  have hcell : (CellStore.empty.put cell ⟨text, false⟩).cells.get? cell = some ⟨text, false⟩ :=
    Table.get?_insert_self _ _ _
  have hback : (((new (CellStore.empty.put cell ⟨text, false⟩)).call
      (.reconcile policy [⟨cell, false⟩])).call .restore).store.cells.get? cell
        = some ⟨Millimeter.text mm, false⟩ := by
    rw [get?_thereAndBack, List.count_singleton_self, Function.iterate_one]
    refine CellView.restored_brought hcell ?_ policy
    exact hread
  exact congrArg (Option.map Cell.text) hback

/-- A 1 and 309 zeros. -/
def overflowDigits : List Char := '1' :: List.replicate 309 '0'

lemma decimalOf?_overflowDigits :
    Millimeter.decimalOf? overflowDigits = some ⟨false, 10 ^ 309, 0⟩ := by
  decide +kernel

lemma parse?_overflowDigits :
    Millimeter.parse? (String.ofList overflowDigits) = some (.infinite false) := by
  have hnearest : Decimal.nearest ⟨false, 10 ^ 309, 0⟩ = .infinite false := by decide +kernel
  rw [Millimeter.parse?, String.toList_ofList, decimalOf?_overflowDigits, Option.map_some, hnearest]

/-- **A length beyond the range of doubles is lost**: what comes back is a word. -/
theorem overflow_is_lost :
    ¬ ∀ (store : CellStore) (events : List DeskEvent) (cell : CellId) (text : String)
        (policy : Policy) (cells : List PanelCell),
        ((new store).run events).store.cells.get? cell = some ⟨text, false⟩ →
        (Millimeter.parse? text).isSome = true →
        policy.unit = .inch →
        ⟨cell, false⟩ ∈ cells →
        ∃ text',
          ((((new store).run events).call (.reconcile policy cells)).call .restore).store.read?
              cell = some text'
          ∧ (Millimeter.parse? text').isSome = true := by
  intro hregained
  have hread := parse?_overflowDigits
  generalize String.ofList overflowDigits = text at hread
  obtain ⟨text', hback, hagain⟩ :=
    hregained (CellStore.empty.put 1 ⟨text, false⟩) [] 1 text { unit := .inch }
    [⟨1, false⟩] (Table.get?_insert_self _ _ _) (by rw [hread]; rfl) rfl (List.mem_singleton_self _)
  rw [read?_thereAndBack_of_new hread, Option.some.injEq] at hback
  rw [← hback] at hagain
  exact absurd hagain (by decide)

end Desk

end PanelKeys
