import PanelKeys.Proofs.Length.MillimeterText
import PanelKeys.Proofs.Session.CopiesAgree
import PanelKeys.Proofs.Text.Pieces

/-!
# The copied table, read back

Who pastes a table cuts it at its line breaks and tabs.  The text of a length contains neither,
whatever the unit, since it is made of digits and a few signs.  So if the labels and the other texts
do not, **the pieces are the fields that were copied**, and nothing else is needed to tell what
every other copy of a row comes to.

* `isField_render` — the text of a length is a field;
* `Screen.HasFields` — labels and texts that are fields;
* `Screen.fields` — the label of a row and its values;
* `Screen.mapM_fields` — these are the pieces of the table, line by line;
* `Screen.rowText_eq_rowCopy`, `Screen.axisText_eq_axisCopy` — what they tell of the other copies;
* **`Screen.table_reads_back`** — so the table tells all labels and values.
-/

namespace PanelKeys

open PanelKeys.Length
open PanelKeys.Number
open PanelKeys.Panel
open PanelKeys.Text

/-! ## Lengths are fields -/

namespace Length

lemma isField_toDigits (n : Nat) : IsField (Nat.toDigits 10 n) :=
  isField_of_isDigit fun _ => isDigit_of_mem_toDigits

lemma isField_signText (negative : Bool) : IsField (Double.signText negative) := by
  cases negative <;> decide

lemma isField_fixedPoint (places n : Nat) : IsField (fixedPoint places n) := by
  have hpoint : IsField ['.'] := by decide
  have hfraction : IsField (fractionChars places n) :=
    isField_of_isDigit fun _ => isDigit_of_mem_fractionChars
  rw [fixedPoint_eq]
  exact (isField_toDigits _).append (hpoint.append hfraction)

lemma Millimeter.isField_text (mm : Double) : IsField (Millimeter.text mm).toList := by
  cases mm with
  | nan => decide
  | infinite negative => cases negative <;> decide
  | finite negative m =>
      rw [text_finite, String.toList_ofList]
      exact (isField_signText _).append (isField_fixedPoint _ _)

namespace InchParts

variable (p : InchParts)

lemma isField_fractionChars : IsField p.fractionChars := by
  have hslash : IsField ['/'] := by decide
  exact (isField_toDigits _).append (hslash.append (isField_toDigits _))

lemma isField_lengthChars : IsField p.lengthChars := by
  have hblank : IsField [' '] := by decide
  simp only [lengthChars]
  split
  · exact isField_toDigits _
  · split
    · exact p.isField_fractionChars
    · exact (isField_toDigits _).append (hblank.append p.isField_fractionChars)

lemma isField_feetChars : IsField p.feetChars := by
  have hmark : IsField ['\x27', ' '] := by decide
  simp only [feetChars]
  split
  · decide
  · exact (isField_toDigits _).append hmark

lemma isField_text : IsField p.text.toList := by
  have hmark : IsField ['"'] := by decide
  rw [text, String.toList_ofList]
  exact (((isField_signText _).append p.isField_feetChars).append p.isField_lengthChars).append
    hmark

end InchParts

/-- The text of a length contains neither tabs nor line breaks. -/
lemma Policy.isField_render (p : Policy) (mm : Double) : IsField (p.render mm).toList := by
  cases hunit : p.unit with
  | millimeter => simpa [render, hunit] using Millimeter.isField_text mm
  | inch => simpa [render, hunit] using InchParts.isField_text _

end Length

namespace Screen

variable {s : Screen} {rows : List Row} {row : Row} {k : Nat} {text : String}
  {table : List (List String)}

/-! ## The fields of a row -/

/-- The labels, and the texts that reading the cells gives, are fields.  The blanks around a text
are not read, and of a converted cell the length is. -/
structure HasFields (s : Screen) (rows : List Row) : Prop where
  label : ∀ row ∈ rows, IsField row.label.toList
  text : ∀ row ∈ rows, ∀ cell ∈ row.cells, ∀ displayed,
    s.ledger.reading? s.store cell = some (.text displayed) → IsField displayed.toList

lemma hasFields_of_read? (hlabel : ∀ row ∈ rows, IsField row.label.toList)
    (hshown : ∀ row ∈ rows, ∀ cell ∈ row.cells, ∀ shown ∈ s.store.read? cell,
      IsField (trim shown).toList) :
    s.HasFields rows where
  label := hlabel
  text row hrow cell hcell displayed hdisplayed := by
    obtain ⟨shown, hread, hreading⟩ := Option.map_eq_some_iff.1 hdisplayed
    have htrim : trim shown = displayed := by
      split at hreading
      · split at hreading
        · cases hreading
        · exact Reading.text.inj hreading
      · exact Reading.text.inj hreading
    rw [← htrim]
    exact hshown row hrow cell hcell shown hread

/-- The label of a row and its values. -/
def fields (s : Screen) (row : Row) : Except CommandError (List String) :=
  (row.cells.mapM s.cellText).map fun values => row.label :: values

lemma tableLine_eq_fields (row : Row) : s.tableLine row = (s.fields row).map (joinWith "\t") := by
  rw [tableLine_eq, fields]
  cases row.cells.mapM s.cellText <;> rfl

lemma HasFields.isField_cellText (h : s.HasFields rows) (hrow : row ∈ rows) {cell : CellId}
    (hcell : cell ∈ row.cells) {value : String} (hvalue : s.cellText cell = .ok value) :
    IsField value.toList := by
  simp only [cellText] at hvalue
  split at hvalue
  · rw [← Except.ok.inj hvalue]
    exact Policy.isField_render _ _
  · next displayed hread =>
      rw [← Except.ok.inj hvalue]
      exact h.text row hrow cell hcell displayed hread
  · cases hvalue

lemma HasFields.isField_fields (h : s.HasFields rows) (hrow : row ∈ rows) {fields : List String}
    (hfields : s.fields row = .ok fields) :
    fields ≠ [] ∧ ∀ field ∈ fields, IsField field.toList := by
  obtain ⟨values, hvalues, rfl⟩ := map_ok_iff.1 hfields
  refine ⟨List.cons_ne_nil _ _, fun field hfield => ?_⟩
  rcases List.mem_cons.1 hfield with rfl | hvalue
  · exact h.label row hrow
  · have hread : .ok field ∈ row.cells.map s.cellText := by
      rw [(mapM_eq_ok_iff _ _).1 hvalues]
      exact List.mem_map_of_mem hvalue
    obtain ⟨cell, hcell, hvalue⟩ := List.mem_map.1 hread
    exact h.isField_cellText hrow hcell hvalue

/-! ## The pieces of a table -/

/-- A table that is copied has been written from the fields of its rows. -/
lemma eq_writeTable_of_tableText (htext : s.tableText rows = .ok text) :
    ∃ table, rows.mapM s.fields = .ok table ∧ text = writeTable table := by
  have hrows : rows ≠ [] := by
    rintro rfl
    cases htext
  obtain ⟨lines, hlines, rfl⟩ := (tableText_eq_ok hrows).1 htext
  have hread : ∀ row ∈ rows, ∃ fields, s.fields row = .ok fields := by
    intro row hrow
    have hline : s.tableLine row ∈ lines.map .ok := hlines ▸ List.mem_map_of_mem hrow
    obtain ⟨line, -, hline⟩ := List.mem_map.1 hline
    rw [tableLine_eq_fields] at hline
    obtain ⟨fields, hfields, -⟩ := map_ok_iff.1 hline.symm
    exact ⟨fields, hfields⟩
  obtain ⟨table, htable⟩ := exists_mapM_ok.2 hread
  refine ⟨table, htable, ?_⟩
  have hsame : lines.map .ok = (table.map (joinWith "\t")).map (Except.ok (ε := CommandError)) := by
    calc lines.map .ok
        = (rows.map s.fields).map (Except.map (joinWith "\t")) := by
          rw [← hlines, List.map_map]
          exact List.map_congr_left fun row _ => tableLine_eq_fields row
      _ = (table.map (joinWith "\t")).map .ok := by
          rw [(mapM_eq_ok_iff rows table).1 htable, List.map_map, List.map_map]
          rfl
  rw [writeTable, List.map_injective_iff.2 (fun _ _ => Except.ok.inj) hsame]

/-- **The pieces of a table are the fields of its rows**, line by line. -/
theorem mapM_fields (h : s.HasFields rows) (htext : s.tableText rows = .ok text) :
    rows.mapM s.fields = .ok (readTable text) := by
  obtain ⟨table, htable, rfl⟩ := eq_writeTable_of_tableText htext
  have hread := (mapM_eq_ok_iff rows table).1 htable
  have hfields : ∀ fields ∈ table, fields ≠ [] ∧ ∀ field ∈ fields, IsField field.toList := by
    intro fields hmem
    have hrow : .ok fields ∈ rows.map s.fields := hread ▸ List.mem_map_of_mem hmem
    obtain ⟨row, hrow, hrowFields⟩ := List.mem_map.1 hrow
    exact h.isField_fields hrow hrowFields
  have hne : table ≠ [] := by
    rintro rfl
    obtain rfl : rows = [] := by simpa using hread
    cases htext
  rw [readTable_writeTable hne (fun fields hmem => (hfields fields hmem).1) fun fields hmem =>
    (hfields fields hmem).2]
  exact htable

/-! ## What the pieces tell -/

lemma nth?_fields (hread : rows.mapM s.fields = .ok table) (k : Nat) :
    (nth? rows k).map s.fields = (nth? table k).map .ok := by
  rw [← nth?_map, ← nth?_map, (mapM_eq_ok_iff rows table).1 hread]

lemma length_table (hread : rows.mapM s.fields = .ok table) : table.length = rows.length := by
  simpa using (congrArg List.length ((mapM_eq_ok_iff rows table).1 hread)).symm

/-- The first field of every line is the label of its row. -/
lemma map_label (hread : rows.map s.fields = table.map .ok) :
    rows.map Row.label = table.map fun fields => fields.headD "" := by
  induction rows generalizing table with
  | nil =>
      cases table with
      | nil => rfl
      | cons fields rest => cases hread
  | cons row rows ih =>
      cases table with
      | nil => cases hread
      | cons fields rest =>
          obtain ⟨hfields, hrest⟩ := List.cons.inj hread
          obtain ⟨values, -, rfl⟩ := map_ok_iff.1 hfields
          rw [List.map_cons, List.map_cons, ih hrest]
          rfl

/-- The values of a row are the texts of its cells: none, one or three. -/
inductive Values (s : Screen) : RowValue → List String → Prop where
  | empty : Values s .empty []
  | scalar {cell : CellId} {x : String} (hx : s.cellText cell = .ok x) : Values s (.scalar cell) [x]
  | vector {cells : VectorCells} {x y z : String} (hx : s.cellText cells.x = .ok x)
      (hy : s.cellText cells.y = .ok y) (hz : s.cellText cells.z = .ok z) :
      Values s (.vector cells) [x, y, z]

lemma values_of_mapM {value : RowValue} {values : List String}
    (h : value.cells.mapM s.cellText = .ok values) : s.Values value values := by
  rw [mapM_eq_ok_iff] at h
  cases value with
  | empty =>
      obtain rfl := List.map_eq_nil_iff.1 h.symm
      exact .empty
  | scalar cell =>
      obtain ⟨x, rest, rfl, hx, hrest⟩ := List.map_eq_cons_iff.1 h.symm
      obtain rfl := List.map_eq_nil_iff.1 hrest
      exact .scalar hx.symm
  | vector cells =>
      obtain ⟨x, afterX, rfl, hx, hrest⟩ := List.map_eq_cons_iff.1 h.symm
      obtain ⟨y, afterY, rfl, hy, hrest⟩ := List.map_eq_cons_iff.1 hrest
      obtain ⟨z, afterZ, rfl, hz, hrest⟩ := List.map_eq_cons_iff.1 hrest
      obtain rfl := List.map_eq_nil_iff.1 hrest
      exact .vector hx.symm hy.symm hz.symm

/-- A line of the table is there for every row, and holds its label and its values. -/
lemma exists_values (hread : rows.mapM s.fields = .ok table) (hrow : nth? rows k = some row) :
    ∃ values, nth? table k = some (row.label :: values) ∧ s.Values row.value values := by
  have hnth := nth?_fields hread k
  rw [hrow, Option.map_some] at hnth
  obtain ⟨fields, hline, hfields⟩ := Option.map_eq_some_iff.1 hnth.symm
  obtain ⟨values, hvalues, rfl⟩ := map_ok_iff.1 hfields.symm
  exact ⟨values, hline, values_of_mapM hvalues⟩

lemma nth?_table_eq_none (hread : rows.mapM s.fields = .ok table) (hrow : nth? rows k = none) :
    nth? table k = none := by
  rw [nth?_eq_none_iff] at hrow ⊢
  rwa [length_table hread]

/-- What copying a row comes to, by the fields of a table. -/
def rowCopy (table : List (List String)) (k : Nat) : Except CommandError String :=
  match nth? table k with
  | none => .error (.outOfRange .row k table.length)
  | some fields => if fields.tail = [] then .error (.noValue k) else .ok (joinWith "\t" fields.tail)

/-- What copying a component comes to, by the fields of a table. -/
def axisCopy (table : List (List String)) (k : Nat) (axis : Axis) : Except CommandError String :=
  match nth? table k with
  | none => .error (.outOfRange .row k table.length)
  | some [_, x, y, z] =>
      match axis with
      | .x => .ok x
      | .y => .ok y
      | .z => .ok z
  | some _ => .error (.notVector k)

lemma rowText_eq_rowCopy (hread : rows.mapM s.fields = .ok table) (k : Nat) :
    s.rowText rows k = rowCopy table k := by
  rw [rowCopy]
  cases hrow : nth? rows k with
  | none => rw [nth?_table_eq_none hread hrow, rowText_of_nth?_eq_none hrow, length_table hread]
  | some row =>
      obtain ⟨values, hline, hvalues⟩ := exists_values hread hrow
      obtain ⟨id, label, value⟩ := row
      rw [hline, rowText_of_nth? hrow]
      cases hvalues with
      | empty => rfl
      | scalar hx =>
          simp only [valueText, hx]
          rfl
      | vector hx hy hz =>
          simp only [valueText, VectorCells.toList, List.mapM_cons, hx, hy, hz]
          rfl

lemma axisText_eq_axisCopy (hread : rows.mapM s.fields = .ok table) (k : Nat) (axis : Axis) :
    s.axisText rows k axis = axisCopy table k axis := by
  rw [axisCopy]
  cases hrow : nth? rows k with
  | none => rw [nth?_table_eq_none hread hrow, axisText_of_nth?_eq_none hrow, length_table hread]
  | some row =>
      obtain ⟨values, hline, hvalues⟩ := exists_values hread hrow
      obtain ⟨id, label, value⟩ := row
      rw [hline, axisText_of_nth? hrow]
      cases hvalues with
      | empty | scalar hx => rfl
      | vector hx hy hz =>
          cases axis
          · exact hx
          · exact hy
          · exact hz

/-- **The copied table can be read back.**  If the labels and the texts that are read contain
neither tabs nor line breaks, cutting the table at both gives a line for each row in the order of
the rows, and in it the label and as many values as the row has cells, each the text that copying
the row or its component comes to.  So whatever other screen is copied as the same table has the
same labels, and every copy of a row or a component comes to the same. -/
theorem table_reads_back {s : Screen} {rows : List Row} {text : String} (h : s.HasFields rows)
    (htext : s.tableText rows = .ok text) :
    (readTable text).length = rows.length
      ∧ (∀ k row, nth? rows k = some row
        → ∃ values, nth? (readTable text) k = some (row.label :: values)
          ∧ match row.value with
            | .empty => values = []
            | .scalar _ => ∃ x, values = [x] ∧ s.rowText rows k = .ok x
            | .vector _ => ∃ x y z, values = [x, y, z] ∧ s.axisText rows k .x = .ok x
                ∧ s.axisText rows k .y = .ok y ∧ s.axisText rows k .z = .ok z)
      ∧ ∀ (s' : Screen) (rows' : List Row), s'.HasFields rows' → s'.tableText rows' = .ok text →
          rows'.map Row.label = rows.map Row.label
          ∧ (∀ k, s'.rowText rows' k = s.rowText rows k)
          ∧ ∀ k axis, s'.axisText rows' k axis = s.axisText rows k axis := by
  have hread := mapM_fields h htext
  refine ⟨length_table hread, fun k row hrow => ?_, fun s' rows' h' htext' => ?_⟩
  · obtain ⟨values, hline, hvalues⟩ := exists_values hread hrow
    refine ⟨values, hline, ?_⟩
    obtain ⟨id, label, value⟩ := row
    have hrowCopy := rowText_eq_rowCopy hread k
    have haxisCopy := axisText_eq_axisCopy hread k
    rw [rowCopy, hline] at hrowCopy
    simp only [axisCopy, hline] at haxisCopy
    cases hvalues with
    | empty => rfl
    | scalar hx => exact ⟨_, rfl, hrowCopy⟩
    | vector hx hy hz => exact ⟨_, _, _, rfl, haxisCopy .x, haxisCopy .y, haxisCopy .z⟩
  · have hread' := mapM_fields h' htext'
    refine ⟨?_, fun k => ?_, fun k axis => ?_⟩
    · rw [map_label ((mapM_eq_ok_iff _ _).1 hread), map_label ((mapM_eq_ok_iff _ _).1 hread')]
    · rw [rowText_eq_rowCopy hread k, rowText_eq_rowCopy hread' k]
    · rw [axisText_eq_axisCopy hread k axis, axisText_eq_axisCopy hread' k axis]

/-- A row that shows nothing at all, a vector one of whose texts ends with a tab, and an inch that
was written from the ledger; and the same table from a panel without a ledger, which shows
millimeters. -/
theorem table_reads_back_from_plain_panel :
    let length (text : String) : Double := (Millimeter.parse? text).getD .nan
    let corner := ((CellStore.empty.put 4 ⟨"1.5\t", false⟩).put 5 ⟨"", false⟩).put 6 ⟨"3", false⟩
    let s : Screen :=
      { ledger := Ledger.empty.record 8 ⟨length "25.4", "1\""⟩
        store := corner.put 8 ⟨"1\"", false⟩
        policy := { unit := .inch } }
    let plain : Screen := { ledger := .empty, store := corner.put 8 ⟨" 1\"", false⟩, policy := {} }
    let rows : List Row :=
      [⟨1, "", .empty⟩, ⟨2, "Center", .vector ⟨4, 5, 6⟩⟩, ⟨3, "Length", .scalar 8⟩]
    let text := "\nCenter\t1.5\t\t3\nLength\t1\""
    s.HasFields rows ∧ s.tableText rows = .ok text ∧ (readTable text).length = 3
      ∧ nth? (readTable text) 1 = some [""]
      ∧ (∃ x y z, nth? (readTable text) 2 = some ["Center", x, y, z] ∧ s.axisText rows 2 .y = .ok y)
      ∧ (∃ x, nth? (readTable text) 3 = some ["Length", x] ∧ s.rowText rows 3 = .ok x)
      ∧ plain.HasFields rows ∧ plain.tableText rows = .ok text
      ∧ plain.rowText rows 3 = s.rowText rows 3 := by
  intro length corner s plain rows text
  have hlabel : ∀ row ∈ rows, IsField row.label.toList := by decide
  have hfields : s.HasFields rows := hasFields_of_read? hlabel (by decide +kernel)
  have hplain : plain.HasFields rows := hasFields_of_read? hlabel (by decide +kernel)
  have htext : s.tableText rows = .ok text := by decide +kernel
  have hplainText : plain.tableText rows = .ok text := by decide +kernel
  obtain ⟨hlength, hlines, hothers⟩ := table_reads_back hfields htext
  obtain ⟨-, hrows, -⟩ := hothers plain rows hplain hplainText
  obtain ⟨_, htitle, rfl⟩ := hlines 1 _ rfl
  obtain ⟨_, hcenter, x, y, z, rfl, -, hy, -⟩ := hlines 2 _ rfl
  obtain ⟨_, hline, value, rfl, hvalue⟩ := hlines 3 _ rfl
  exact ⟨hfields, htext, hlength, htitle, ⟨x, y, z, hcenter, hy⟩, ⟨value, hline, hvalue⟩, hplain,
    hplainText, hrows 3⟩

end Screen

end PanelKeys
