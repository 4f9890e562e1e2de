import Mathlib.Data.List.Infix
import PanelKeys.Proofs.Command.ChordText
import PanelKeys.Proofs.Session.Regained

/-!
# Rows that are taken for angles

An angle must not be converted, and a length must be.  Which of the two a row shows is told from its
label alone, by a search for one word.  The search does not ask where words begin and end, so that
**a label mentions an angle also if the word is a part of a longer one**: a rectangle has no less of
an angle than a dihedral angle has.

* `AngleAfter`, `MentionsAngle` — the word in a label, in whatever case; `namesAngle_iff` — the
  search finds it wherever it stands;
* `mem_panelCells_iff` — the mark of a cell is that of its row;
* **`lengths_shown_unless_angle_mentioned`** — a pass in inches converts the cells of all other
  rows, and leaves those of rows whose labels mention an angle as they are;
* `rectangle_stays_in_millimeters` — so the side of a rectangle is never converted.
-/

namespace PanelKeys

open PanelKeys.Length
open PanelKeys.Number
open PanelKeys.Text

/-! ## The word in a label -/

namespace Text

/-- Labels are folded as the library folds characters. -/
lemma lowerAscii_eq_toLower (c : Char) : lowerAscii c = c.toLower := by
  cases hc : 'A' ≤ c && c ≤ 'Z' with
  | false =>
      have hrange : ¬ (c.val ≥ 'A'.val ∧ c.val ≤ 'Z'.val) := by
        simp only [Bool.and_eq_false_iff, decide_eq_false_iff_not] at hc
        rintro ⟨hlow, hhigh⟩
        exact hc.elim (fun h => h hlow) (fun h => h hhigh)
      have hlower : c.toLower = c := dif_neg hrange
      rw [lowerAscii_of_not_capital hc, hlower]
  | true =>
      obtain ⟨hlow, hhigh, hfolded⟩ := toNat_lowerAscii_of_capital hc
      have hrange : c.val ≥ 'A'.val ∧ c.val ≤ 'Z'.val := ⟨hlow, hhigh⟩
      have hlower : c.toLower.toNat = (c.val + 32).toNat := congrArg Char.toNat (dif_pos hrange)
      apply Char.toNat_inj.1
      rw [hfolded, hlower, UInt32.toNat_add]
      show c.toNat + 32 = (c.toNat + 32) % 4294967296
      omega

lemma isInfixOf_iff {pattern text : List Char} :
    isInfixOf pattern text = true ↔ pattern <:+: text := by
  induction text with
  | nil => simp [isInfixOf]
  | cons c rest ih =>
      rw [isInfixOf, Bool.or_eq_true, List.isPrefixOf_iff_prefix, ih, List.infix_cons_iff]

end Text

/-- The word stands in a label, in whatever case, behind these characters. -/
def AngleAfter (label : String) (before : List Char) : Prop :=
  ∃ word after, label.toList = before ++ word ++ after ∧ word.map Char.toLower = "angle".toList

/-- The word stands somewhere in the label, alone or as a part of a longer word. -/
def MentionsAngle (label : String) : Prop := ∃ before, AngleAfter label before

/-- Wherever the word stands in the label, a letter comes right before it. -/
def AngleOnlyInside (label : String) : Prop :=
  ∀ before, AngleAfter label before → ∃ c ∈ before.getLast?, c.isAlpha = true

lemma angleAfter_iff {label : String} {before : List Char} :
    AngleAfter label before ↔ before <+: label.toList
      ∧ "angle".toList <+: (label.toList.drop before.length).map Char.toLower := by
  constructor
  · rintro ⟨word, after, hlabel, hword⟩
    rw [hlabel, List.append_assoc, List.drop_left, List.map_append, hword]
    exact ⟨List.prefix_append _ _, List.prefix_append _ _⟩
  · rintro ⟨⟨rest, hrest⟩, ⟨tail, htail⟩⟩
    rw [← hrest, List.drop_left] at htail
    obtain ⟨word, after, hcut, hword, -⟩ := List.map_eq_append_iff.1 htail.symm
    exact ⟨word, after, by rw [← hrest, hcut, List.append_assoc], hword⟩

/-- There are only so many places in a label. -/
instance (label : String) : Decidable (AngleOnlyInside label) :=
  decidable_of_iff
    (∀ before ∈ label.toList.inits,
      "angle".toList <+: (label.toList.drop before.length).map Char.toLower →
      before.getLast?.any Char.isAlpha = true)
    (by simp only [AngleOnlyInside, angleAfter_iff, List.mem_inits, and_imp, Option.any_eq_true,
      Option.mem_def])

lemma namesAngle_iff {label : String} : namesAngle label = true ↔ MentionsAngle label := by
  rw [namesAngle, isInfixOf_iff, List.infix_map_iff]
  constructor
  · rintro ⟨word, ⟨before, after, hlabel⟩, hword⟩
    refine ⟨before, word, after, hlabel.symm, ?_⟩
    rw [← List.map_congr_left fun c _ => lowerAscii_eq_toLower c, ← hword]
    rfl
  · rintro ⟨before, word, after, hlabel, hword⟩
    refine ⟨word, ⟨before, after, hlabel.symm⟩, ?_⟩
    rw [List.map_congr_left fun c _ => lowerAscii_eq_toLower c, hword]
    rfl

instance (label : String) : Decidable (MentionsAngle label) :=
  decidable_of_iff (namesAngle label = true) namesAngle_iff

example : MentionsAngle "Dihedral ANGLE" ∧ ¬ AngleOnlyInside "Dihedral ANGLE" := by decide +kernel

example : MentionsAngle "Triangle side" ∧ AngleOnlyInside "Triangle side" := by decide +kernel

/-! ## Marks and passes -/

lemma mem_panelCells_iff {rows : List Row} {cell : CellId} {angle : Bool} :
    ⟨cell, angle⟩ ∈ panelCells rows
      ↔ ∃ row ∈ rows, cell ∈ row.cells ∧ (MentionsAngle row.label ↔ angle = true) := by
  have hmark : ∀ row : Row, row.isAngle = angle ↔ (MentionsAngle row.label ↔ angle = true) := by
    intro row
    rw [← namesAngle_iff, Bool.eq_iff_iff]
    rfl
  simp only [panelCells, List.mem_flatMap, List.mem_map, PanelCell.mk.injEq, ← hmark]
  constructor
  · rintro ⟨row, hrow, id, hid, rfl, hangle⟩
    exact ⟨row, hrow, hid, hangle⟩
  · rintro ⟨row, hrow, hcell, hangle⟩
    exact ⟨row, hrow, cell, hcell, rfl, hangle⟩

namespace Ledger

/-- A pass shows the length behind a cell that is listed as a length and can be written. -/
lemma read?_reconcile_of_mem {l : Ledger} (hl : l.Rendered) {store : CellStore} {policy : Policy}
    {cells : List PanelCell} {cell : CellId} {text : String} {length : Double}
    (hlisted : ⟨cell, false⟩ ∈ cells) (hcell : store.cells.get? cell = some ⟨text, false⟩)
    (hlength : (⟨l.get? cell, store.cells.get? cell⟩ : CellView).length? text = some length) :
    (l.reconcile store policy cells).store.read? cell = some (policy.render length) := by
  have hcount : cells.count ⟨cell, false⟩ ≠ 0 := Nat.ne_of_gt (List.count_pos_iff.2 hlisted)
  have hview := l.view_reconcile store policy cells cell
  rw [CellView.iterate_brought (hl.view cell _) policy hcount] at hview
  have hafter : (l.reconcile store policy cells).store.cells.get? cell = _ :=
    congrArg CellView.cell hview
  rw [CellStore.read?, hafter, CellView.brought]
  simp only [hcell] at hlength ⊢
  rw [hlength]
  simp only [CellView.presenting]
  split
  · next hsame => rw [Option.map_some, hsame]
  · rfl

/-- **A pass in inches converts a length unless the label of its row mentions an angle**, in
whatever case and in however long a word.  A cell is marked as an angle exactly if the label of its
row does.  If it stands in a row without such a mark, can be written, and shows a text that is read
as a length, then it shows a length in inches afterwards: the one that its text spells, or the one
for which that text had been written.  If it stands only in rows with such a mark, its text and its
entry stay as they are. -/
theorem lengths_shown_unless_angle_mentioned (start : CellStore) (events : List DeskEvent)
    {store : CellStore}
    {policy : Policy} (rows : List Row) {cell : CellId} {text : String} {mm : Double}
    (hinch : policy.unit = .inch) (hcell : store.cells.get? cell = some ⟨text, false⟩)
    (hread : Millimeter.parse? text = some mm) :
    let ledger := ((Desk.new start).run events).ledger
    let pass := ledger.reconcile store policy (panelCells rows)
    (∀ angle, ⟨cell, angle⟩ ∈ panelCells rows
        ↔ ∃ row ∈ rows, cell ∈ row.cells ∧ (MentionsAngle row.label ↔ angle = true))
      ∧ ((∃ row ∈ rows, cell ∈ row.cells ∧ ¬ MentionsAngle row.label) →
          ∃ length, (length = mm ∨ Millimeter.text length = text) ∧ policy.render length ≠ text
            ∧ pass.store.read? cell = some (policy.render length))
      ∧ ((∀ row ∈ rows, cell ∈ row.cells → MentionsAngle row.label) →
          pass.store.read? cell = some text ∧ pass.ledger.get? cell = ledger.get? cell) := by
  intro ledger pass
  have hrendered : ledger.Rendered := Desk.rendered_run start events
  refine ⟨fun angle => mem_panelCells_iff, ?_, fun hmentioned => ?_⟩
  · rintro ⟨row, hrow, hin, hnot⟩
    have hlisted : ⟨cell, false⟩ ∈ panelCells rows :=
      mem_panelCells_iff.2 ⟨row, hrow, hin, by simpa using hnot⟩
    obtain ⟨length, hlength, hsource⟩ :=
      (hrendered.view cell (store.cells.get? cell)).length?_of_parse? hread
    refine ⟨length, hsource, fun hsame => ?_,
      read?_reconcile_of_mem hrendered hlisted hcell hlength⟩
    rw [← hsame, Policy.parse?_render_of_inch hinch] at hread
    simp at hread
  · have hnot : ⟨cell, false⟩ ∉ panelCells rows := by
      intro hlisted
      obtain ⟨row, hrow, hin, hmark⟩ := mem_panelCells_iff.1 hlisted
      exact absurd (hmark.1 (hmentioned row hrow hin)) Bool.false_ne_true
    have hview := ledger.view_reconcile_of_not_mem store policy hnot
    have hafter : pass.store.cells.get? cell = store.cells.get? cell := congrArg CellView.cell hview
    refine ⟨?_, congrArg CellView.entry hview⟩
    rw [CellStore.read?, hafter, hcell, Option.map_some]

/-- A length, and beside it the side of a rectangle. -/
theorem lengths_shown_beside_rectangle :
    let rows : List Row := [⟨1, "Length", .scalar 2⟩, ⟨3, "Rectangle", .scalar 4⟩]
    let store := (CellStore.empty.put 2 ⟨"25.4", false⟩).put 4 ⟨"12.7", false⟩
    let policy : Policy := { unit := .inch }
    let pass := ((Desk.new .empty).run []).ledger.reconcile store policy (panelCells rows)
    panelCells rows = [⟨2, false⟩, ⟨4, true⟩]
      ∧ (∃ length, policy.render length ≠ "25.4" ∧ pass.store.read? 2 = some (policy.render length))
      ∧ pass.store.read? 4 = some "12.7" := by
  intro rows store policy pass
  have hinch : policy.unit = .inch := rfl
  have hlength : store.cells.get? 2 = some ⟨"25.4", false⟩ := by decide +kernel
  have hside : store.cells.get? 4 = some ⟨"12.7", false⟩ := by decide +kernel
  have hinches : Millimeter.parse? "25.4" = some ((Millimeter.parse? "25.4").getD .nan) := by
    decide +kernel
  have hhalf : Millimeter.parse? "12.7" = some ((Millimeter.parse? "12.7").getD .nan) := by
    decide +kernel
  obtain ⟨-, hshown, -⟩ := lengths_shown_unless_angle_mentioned .empty [] rows hinch hlength hinches
  obtain ⟨-, -, hkept⟩ := lengths_shown_unless_angle_mentioned .empty [] rows hinch hside hhalf
  obtain ⟨length, -, hdiffers, hafter⟩ := hshown ⟨⟨1, "Length", .scalar 2⟩, by decide +kernel⟩
  exact ⟨by decide +kernel, ⟨length, hdiffers, hafter⟩, (hkept (by decide +kernel)).1⟩

/-- **The word is found in a longer one, too**, although a letter comes right before it wherever it
stands: the side of a rectangle is listed as an angle, and a pass in inches leaves it in
millimeters. -/
theorem rectangle_stays_in_millimeters :
    ¬ ∀ (rows : List Row) (row : Row) (cell : CellId) (store : CellStore) (text : String)
      (policy : Policy),
        row ∈ rows → AngleOnlyInside row.label → cell ∈ row.cells →
        store.cells.get? cell = some ⟨text, false⟩ → (Millimeter.parse? text).isSome = true →
        policy.unit = .inch →
        ⟨cell, false⟩ ∈ panelCells rows
          ∧ (Ledger.empty.reconcile store policy (panelCells rows)).store.read? cell
            ≠ some text := by
  intro hconverted
  have hside := hconverted [⟨1, "Rectangle", .scalar 2⟩] ⟨1, "Rectangle", .scalar 2⟩ 2
    (CellStore.empty.put 2 ⟨"25.4", false⟩) "25.4" { unit := .inch }
    (List.mem_singleton_self _) (by decide +kernel) (List.mem_singleton_self _)
    (by decide +kernel) (by decide +kernel) rfl
  exact hside.2 (by decide +kernel)

end Ledger

end PanelKeys
