import PanelKeys.Proofs.Session.Copies

/-!
# Four copies of one panel

A row can be copied by its number, by its components, as the first that has a value, and as a line
of the table.  The four ways treat a row without values, and a row whose cells have gone, each after
its own fashion: one complains, one passes the row over, one writes the label alone, and one gives
up.  Still they must tell the same of every row, and **what they tell follows from copying the rows
one by one**.

* `nth?_eq_some_iff`, `nth?_set`, `mem_before_iff` — rows and nodes that are counted from one;
* `mapM_eq_ok_iff`, `exists_mapM_ok` — a list that is gone through until something fails;
* `rowText_eq_ok`, `rowText_eq_error` — what copying one row comes to, and every reason why it
  fails;
* `rowText_of_vector` — a vector row, by its components;
* `primaryText_eq_ok`, `tableText_eq_ok` — the first row that can be copied, and all rows;
* **`copies_agree`** — the four together, whatever rows, cells and entries there are.
-/

namespace PanelKeys

open PanelKeys.Length
open PanelKeys.Number
open PanelKeys.Panel
open PanelKeys.Text

/-! ## Counting from one -/

section Counting

variable {α β : Type}

lemma nth?_map (f : α → β) (items : List α) (k : Nat) :
    nth? (items.map f) k = (nth? items k).map f := by
  simp only [nth?]
  split <;> simp

/-- The element with a number has one less before it. -/
lemma nth?_eq_some_iff {items : List α} {k : Nat} {item : α} :
    nth? items k = some item
      ↔ ∃ before after, items = before ++ item :: after ∧ k = before.length + 1 := by
  simp only [nth?]
  constructor
  · intro h
    split at h
    · simp at h
    · next hk =>
        obtain ⟨hlt, rfl⟩ := List.getElem?_eq_some_iff.1 h
        refine ⟨items.take (k - 1), items.drop (k - 1 + 1), ?_, ?_⟩
        · rw [List.getElem_cons_drop, List.take_append_drop]
        · rw [List.length_take]
          omega
  · rintro ⟨before, after, rfl, rfl⟩
    simp

lemma nth?_eq_none_iff {items : List α} {k : Nat} :
    nth? items k = none ↔ k = 0 ∨ items.length < k := by
  simp only [nth?]
  split
  · next hk => simp [hk]
  · next hk =>
      rw [List.getElem?_eq_none_iff]
      omega

lemma exists_nth? {items : List α} {item : α} (h : item ∈ items) :
    ∃ k, nth? items k = some item := by
  obtain ⟨before, after, hitems⟩ := List.append_of_mem h
  exact ⟨before.length + 1, nth?_eq_some_iff.2 ⟨before, after, hitems, rfl⟩⟩

lemma mem_of_nth? {items : List α} {k : Nat} {item : α} (h : nth? items k = some item) :
    item ∈ items := by
  obtain ⟨before, after, rfl, -⟩ := nth?_eq_some_iff.1 h
  simp

/-- The element with a number replaced. -/
lemma nth?_set {items : List α} {k : Nat} {old : α} (h : nth? items k = some old) (new : α)
    (j : Nat) :
    nth? (items.set (k - 1) new) j = if j = k then some new else nth? items j := by
  obtain ⟨before, after, rfl, rfl⟩ := nth?_eq_some_iff.1 h
  simp only [nth?, Nat.add_sub_cancel]
  by_cases hj : j = 0
  · rw [if_pos hj, if_pos hj, if_neg (by omega)]
  · rw [if_neg hj, if_neg hj, List.getElem?_set]
    by_cases hsame : j = before.length + 1
    · simp [hsame]
    · rw [if_neg (by omega), if_neg hsame]

/-- The elements before another one are those with smaller numbers. -/
lemma mem_before_iff {before after : List α} {item other : α} :
    other ∈ before ↔ ∃ j < before.length + 1, nth? (before ++ item :: after) j = some other := by
  constructor
  · intro h
    obtain ⟨first, rest, rfl⟩ := List.append_of_mem h
    refine ⟨first.length + 1, ?_, nth?_eq_some_iff.2 ⟨first, rest ++ item :: after, by simp, rfl⟩⟩
    simp only [List.length_append, List.length_cons]
    omega
  · rintro ⟨j, hj, h⟩
    simp only [nth?] at h
    split at h
    · simp at h
    · next hne =>
        rw [List.getElem?_append_left (by omega)] at h
        exact List.mem_of_getElem? h

end Counting

/-! ## Going through a list -/

section Traversal

variable {α β ε : Type} {f : α → Except ε β}

lemma mapM_eq_ok_iff (l : List α) (bs : List β) : l.mapM f = .ok bs ↔ l.map f = bs.map .ok := by
  induction l generalizing bs with
  | nil => cases bs <;> simp [pure, Except.pure]
  | cons a rest ih =>
      rw [List.mapM_cons]
      cases hf : f a with
      | error e => cases bs <;> simp [hf, bind, Except.bind]
      | ok b =>
          cases bs with
          | nil => cases rest.mapM f <;> simp [bind, Except.bind, pure, Except.pure]
          | cons c cs =>
              rw [List.map_cons, List.map_cons, hf, List.cons.injEq, Except.ok.injEq, ← ih cs]
              cases rest.mapM f <;> simp [bind, Except.bind, pure, Except.pure]

/-- A failure is that of some element. -/
lemma exists_of_mapM_eq_error {l : List α} {e : ε} (h : l.mapM f = .error e) :
    ∃ a ∈ l, f a = .error e := by
  induction l with
  | nil => simp [pure, Except.pure] at h
  | cons a rest ih =>
      rw [List.mapM_cons] at h
      cases hf : f a with
      | error e' =>
          rw [hf] at h
          cases h
          exact ⟨a, List.mem_cons_self, hf⟩
      | ok b =>
          cases hrest : rest.mapM f with
          | error e' =>
              rw [hf, hrest] at h
              obtain ⟨c, hc, hfc⟩ := ih (hrest.trans h)
              exact ⟨c, List.mem_cons_of_mem a hc, hfc⟩
          | ok bs =>
              rw [hf, hrest] at h
              cases h

lemma exists_mapM_ok {l : List α} : (∃ bs, l.mapM f = .ok bs) ↔ ∀ a ∈ l, ∃ b, f a = .ok b := by
  constructor
  · rintro ⟨bs, hbs⟩ a ha
    have hmem : f a ∈ bs.map .ok := by
      rw [← (mapM_eq_ok_iff l bs).1 hbs]
      exact List.mem_map_of_mem ha
    obtain ⟨b, -, hb⟩ := List.mem_map.1 hmem
    exact ⟨b, hb.symm⟩
  · intro h
    cases hl : l.mapM f with
    | ok bs => exact ⟨bs, rfl⟩
    | error e =>
        obtain ⟨a, ha, hfa⟩ := exists_of_mapM_eq_error hl
        obtain ⟨b, hb⟩ := h a ha
        rw [hb] at hfa
        cases hfa

end Traversal

namespace Screen

variable (s : Screen)

/-! ## One row -/

/-- A cell that cannot be read has gone. -/
lemma eq_cellMissing_of_cellText {cell : CellId} {e : CommandError}
    (h : s.cellText cell = .error e) :
    e = .cellMissing := by
  simp only [cellText] at h
  split at h <;> cases h
  rfl

lemma eq_cellMissing_of_valueText {row : Row} {e : CommandError} (h : s.valueText row = .error e) :
    e = .cellMissing := by
  rw [valueText_eq] at h
  split at h
  · cases h
  · cases hcells : row.cells.mapM s.cellText with
    | ok values =>
        rw [hcells] at h
        cases h
    | error e' =>
        rw [hcells] at h
        cases h
        obtain ⟨cell, -, hcell⟩ := exists_of_mapM_eq_error hcells
        exact s.eq_cellMissing_of_cellText hcell

variable {s} {rows : List Row} {k : Nat} {row : Row}

lemma rowText_of_nth? (h : nth? rows k = some row) :
    s.rowText rows k
      = (s.valueText row).bind fun values => values.elim (.error (.noValue k)) .ok := by
  simp only [rowText, nthOf_ok_iff.2 h, bind, Except.bind]
  cases s.valueText row with
  | error e => rfl
  | ok values => cases values <;> rfl

lemma rowText_of_nth?_eq_none (h : nth? rows k = none) :
    s.rowText rows k = .error (.outOfRange .row k rows.length) := by
  simp only [rowText, nthOf, h]
  rfl

/-- A row is copied if it has a value that can be read. -/
lemma rowText_eq_ok {text : String} :
    s.rowText rows k = .ok text
      ↔ ∃ row, nth? rows k = some row ∧ s.valueText row = .ok (some text) := by
  cases hrow : nth? rows k with
  | none => simp [rowText_of_nth?_eq_none hrow]
  | some row =>
      rw [rowText_of_nth? hrow]
      cases hvalue : s.valueText row with
      | error e => simp [hvalue, Except.bind]
      | ok values => cases values <;> simp [hvalue, Except.bind]

/-- Why a row is not copied: there is no such row, it has no value, or the value cannot be read. -/
lemma rowText_eq_error {e : CommandError} :
    s.rowText rows k = .error e ↔
      (nth? rows k = none ∧ e = .outOfRange .row k rows.length)
      ∨ ∃ row, nth? rows k = some row
          ∧ (s.valueText row = .error e ∨ s.valueText row = .ok none ∧ e = .noValue k) := by
  cases hrow : nth? rows k with
  | none => simp [rowText_of_nth?_eq_none hrow, eq_comm]
  | some row =>
      rw [rowText_of_nth? hrow]
      cases hvalue : s.valueText row with
      | error e' => simp [hvalue, Except.bind]
      | ok values => cases values <;> simp [hvalue, Except.bind, eq_comm]

lemma rowText_eq_cellMissing :
    s.rowText rows k = .error .cellMissing
      ↔ ∃ row, nth? rows k = some row ∧ s.valueText row = .error .cellMissing := by
  simp [rowText_eq_error]

lemma rowText_eq_noValue (h : nth? rows k = some row) :
    s.rowText rows k = .error (.noValue k) ↔ s.valueText row = .ok none := by
  rw [rowText_eq_error]
  constructor
  · rintro (⟨hnone, -⟩ | ⟨other, hother, herror | ⟨hvalue, -⟩⟩)
    · simp [h] at hnone
    · exact absurd (s.eq_cellMissing_of_valueText herror) (by simp)
    · rw [h] at hother
      rwa [Option.some.inj hother]
  · exact fun hvalue => Or.inr ⟨row, h, Or.inr ⟨hvalue, rfl⟩⟩

lemma axisText_of_nth? {axis : Axis} (h : nth? rows k = some row) :
    s.axisText rows k axis
      = match row.value with
        | .vector cells => s.cellText (cells.get axis)
        | _ => .error (.notVector k) := by
  cases hvalue : row.value <;> simp [axisText, nthOf_ok_iff.2 h, hvalue, bind, Except.bind]

lemma axisText_of_nth?_eq_none {axis : Axis} (h : nth? rows k = none) :
    s.axisText rows k axis = .error (.outOfRange .row k rows.length) := by
  simp only [axisText, nthOf, h]
  rfl

/-! ## The other copies, by the rows -/

/-- A vector row is copied if its components are, and then shows them with tabs between them. -/
lemma rowText_of_vector {cells : VectorCells} (h : nth? rows k = some row)
    (hvalue : row.value = .vector cells) (text : String) :
    s.rowText rows k = .ok text
      ↔ ∃ x y z, s.axisText rows k .x = .ok x ∧ s.axisText rows k .y = .ok y
        ∧ s.axisText rows k .z = .ok z ∧ text = joinWith "\t" [x, y, z] := by
  have haxis : ∀ axis, s.axisText rows k axis = s.cellText (cells.get axis) := by
    intro axis
    rw [axisText_of_nth? h, hvalue]
  have hrow : s.valueText row
      = ([cells.x, cells.y, cells.z].mapM s.cellText).map
        fun values => some (joinWith "\t" values) := by
    simp only [valueText, hvalue, VectorCells.toList]
  rw [rowText_of_nth? h, hrow]
  simp only [haxis, VectorCells.get, List.mapM_cons, List.mapM_nil]
  cases s.cellText cells.x <;> cases s.cellText cells.y <;> cases s.cellText cells.z <;>
    simp [bind, Except.bind, pure, Except.pure, Except.map, eq_comm]

lemma readable?_eq_some {text : String} :
    s.readable? row = some text ↔ s.valueText row = .ok (some text) := by
  rw [readable?]
  cases s.valueText row with
  | error e => simp
  | ok values => simp

lemma primaryText_eq_readable {text : String} :
    s.primaryText rows = .ok text ↔ rows.findSome? s.readable? = some text := by
  rw [primaryText]
  cases rows.findSome? s.readable? <;> simp

/-- The first row that can be copied is the one with the least number. -/
lemma primaryText_eq_ok {text : String} :
    s.primaryText rows = .ok text
      ↔ ∃ k, s.rowText rows k = .ok text ∧ ∀ j < k, ∀ other, s.rowText rows j ≠ .ok other := by
  rw [primaryText_eq_readable, List.findSome?_eq_some_iff]
  constructor
  · rintro ⟨before, row, after, rfl, hrow, hbefore⟩
    refine ⟨before.length + 1, ?_, fun j hj other hother => ?_⟩
    · exact rowText_eq_ok.2 ⟨row, nth?_eq_some_iff.2 ⟨before, after, rfl, rfl⟩,
        readable?_eq_some.1 hrow⟩
    · obtain ⟨earlier, hearlier, hvalue⟩ := rowText_eq_ok.1 hother
      have hnone := hbefore earlier (mem_before_iff.2 ⟨j, hj, hearlier⟩)
      rw [readable?_eq_some.2 hvalue] at hnone
      simp at hnone
  · rintro ⟨k, hk, hleast⟩
    obtain ⟨row, hrow, hvalue⟩ := rowText_eq_ok.1 hk
    obtain ⟨before, after, rfl, rfl⟩ := nth?_eq_some_iff.1 hrow
    refine ⟨before, row, after, rfl, readable?_eq_some.2 hvalue, fun earlier hearlier => ?_⟩
    obtain ⟨j, hj, hnth⟩ := mem_before_iff.1 hearlier
    refine Option.eq_none_iff_forall_ne_some.2 fun other hother => ?_
    exact hleast j hj other (rowText_eq_ok.2 ⟨earlier, hnth, readable?_eq_some.1 hother⟩)

lemma eq_nothingToCopy_of_primaryText {e : CommandError} (h : s.primaryText rows = .error e) :
    e = .nothingToCopy := by
  rw [primaryText] at h
  split at h <;> cases h
  rfl

/-- There is no first value only if no row can be copied. -/
lemma primaryText_eq_error :
    s.primaryText rows = .error .nothingToCopy ↔ ∀ k text, s.rowText rows k ≠ .ok text := by
  have hnone : s.primaryText rows = .error .nothingToCopy ↔ rows.findSome? s.readable? = none := by
    rw [primaryText]
    cases rows.findSome? s.readable? <;> simp
  rw [hnone, List.findSome?_eq_none_iff]
  constructor
  · intro h k text hk
    obtain ⟨row, hrow, hvalue⟩ := rowText_eq_ok.1 hk
    have hunread := h row (mem_of_nth? hrow)
    rw [readable?_eq_some.2 hvalue] at hunread
    simp at hunread
  · intro h row hrow
    obtain ⟨k, hk⟩ := exists_nth? hrow
    refine Option.eq_none_iff_forall_ne_some.2 fun text htext => ?_
    exact h k text (rowText_eq_ok.2 ⟨row, hk, readable?_eq_some.1 htext⟩)

/-- The line of a row that can be copied, and of one that has no value. -/
lemma tableLine_of_valueText {values : Option String} (h : s.valueText row = .ok values) :
    s.tableLine row = .ok (values.elim row.label fun values => row.label ++ "\t" ++ values) := by
  rw [tableLine, h]
  cases values <;> rfl

lemma exists_tableLine :
    (∃ line, s.tableLine row = .ok line) ↔ s.valueText row ≠ .error .cellMissing := by
  cases hvalue : s.valueText row with
  | ok values => simp [tableLine_of_valueText hvalue]
  | error e =>
      obtain rfl := s.eq_cellMissing_of_valueText hvalue
      simp [tableLine, hvalue, Except.map]

/-- The table has one line for each row. -/
lemma tableText_eq_ok (hrows : rows ≠ []) {text : String} :
    s.tableText rows = .ok text
      ↔ ∃ lines, rows.map s.tableLine = lines.map .ok ∧ text = joinWith "\n" lines := by
  rw [tableText, if_neg (by simpa using hrows), map_ok_iff]
  simp only [mapM_eq_ok_iff, eq_comm (a := text)]

/-- One cell that has gone spoils the table, and nothing else does. -/
lemma exists_tableText (hrows : rows ≠ []) :
    (∃ text, s.tableText rows = .ok text) ↔ ∀ k, s.rowText rows k ≠ .error .cellMissing := by
  have hlines : (∃ text, s.tableText rows = .ok text)
      ↔ ∃ lines, rows.mapM s.tableLine = .ok lines := by
    simp only [tableText_eq_ok hrows, ← mapM_eq_ok_iff]
    exact ⟨fun ⟨_, lines, hlines, _⟩ => ⟨lines, hlines⟩,
      fun ⟨lines, hlines⟩ => ⟨_, lines, hlines, rfl⟩⟩
  rw [hlines, exists_mapM_ok]
  simp only [exists_tableLine, ne_eq, rowText_eq_cellMissing]
  constructor
  · rintro h k ⟨row, hrow, hmissing⟩
    exact h row (mem_of_nth? hrow) hmissing
  · intro h row hrow hmissing
    obtain ⟨k, hk⟩ := exists_nth? hrow
    exact h k ⟨row, hk, hmissing⟩

/-- The line of a row is told by what copying the row comes to. -/
lemma line_of_rowText {lines : List String} (hlines : rows.map s.tableLine = lines.map .ok)
    (hrow : nth? rows k = some row) :
    (∀ values, s.rowText rows k = .ok values → nth? lines k = some (row.label ++ "\t" ++ values))
      ∧ (s.rowText rows k = .error (.noValue k) → nth? lines k = some row.label) := by
  have hline : ∀ values, s.valueText row = .ok values →
      nth? lines k = some (values.elim row.label fun values => row.label ++ "\t" ++ values) := by
    intro values hvalues
    have hnth := congrArg (nth? · k) hlines
    simp only [nth?_map, hrow, Option.map_some, tableLine_of_valueText hvalues] at hnth
    obtain ⟨line, hline, hsame⟩ := Option.map_eq_some_iff.1 hnth.symm
    rw [hline, Except.ok.inj hsame]
  constructor
  · intro values hvalues
    obtain ⟨other, hother, hvalue⟩ := rowText_eq_ok.1 hvalues
    obtain rfl := Option.some.inj (hrow.symm.trans hother)
    exact hline (some values) hvalue
  · exact fun hlabel => hline none ((rowText_eq_noValue hrow).1 hlabel)

/-- **The four copies agree**, whatever the ledger says, and whichever cells of the rows have gone.
A vector row is copied exactly if each of its components is, as the three with tabs between them.
The first value is the copy of the row with the least number that can be copied, and there is none
only if no row can be.  The table is copied unless some row complains that a cell has gone; its
lines are those of the rows in their order, the label and after a tab the copy of the row, and the
label alone where the row complains that it has no value. -/
theorem copies_agree (s : Screen) (rows : List Row) :
    (∀ k row cells, nth? rows k = some row → row.value = .vector cells →
        ∀ text, s.rowText rows k = .ok text ↔ ∃ x y z, s.axisText rows k .x = .ok x
          ∧ s.axisText rows k .y = .ok y ∧ s.axisText rows k .z = .ok z
          ∧ text = joinWith "\t" [x, y, z])
      ∧ (∀ text, s.primaryText rows = .ok text
          ↔ ∃ k, s.rowText rows k = .ok text ∧ ∀ j < k, ∀ other, s.rowText rows j ≠ .ok other)
      ∧ (s.primaryText rows = .error .nothingToCopy ↔ ∀ k text, s.rowText rows k ≠ .ok text)
      ∧ (rows ≠ [] →
          ((∃ text, s.tableText rows = .ok text) ↔ ∀ k, s.rowText rows k ≠ .error .cellMissing)
          ∧ ∀ text, s.tableText rows = .ok text → ∃ lines : List String, text = joinWith "\n" lines
              ∧ lines.length = rows.length
              ∧ ∀ k row, nth? rows k = some row →
                (∀ values, s.rowText rows k = .ok values
                  → nth? lines k = some (row.label ++ "\t" ++ values))
                ∧ (s.rowText rows k = .error (.noValue k) → nth? lines k = some row.label)) := by
  refine ⟨fun k row cells hrow hvalue text => rowText_of_vector hrow hvalue text,
    fun text => primaryText_eq_ok, primaryText_eq_error, fun hrows => ⟨exists_tableText hrows, ?_⟩⟩
  intro text htext
  obtain ⟨lines, hlines, rfl⟩ := (tableText_eq_ok hrows).1 htext
  have hlength : lines.length = rows.length := by simpa using (congrArg List.length hlines).symm
  exact ⟨lines, rfl, hlength, fun k row hrow => line_of_rowText hlines hrow⟩

/-- A title, a vector, and an inch that was written from the ledger; then a row besides whose cell
has gone, which spoils the table. -/
theorem copies_agree_until_cell_goes :
    let length (text : String) : Double := (Millimeter.parse? text).getD .nan
    let s : Screen :=
      { ledger := Ledger.empty.record 8 ⟨length "25.4", "1\""⟩
        store := (((CellStore.empty.put 4 ⟨" 1.5 ", false⟩).put 5 ⟨"2", false⟩).put 6
          ⟨"3", false⟩).put 8 ⟨"1\"", false⟩
        policy := { unit := .inch } }
    let rows : List Row :=
      [⟨1, "Selection", .empty⟩, ⟨2, "Center", .vector ⟨4, 5, 6⟩⟩, ⟨3, "Length", .scalar 8⟩]
    let stale := rows ++ [⟨7, "Stale", .scalar 9⟩]
    s.rowText rows 2 = .ok "1.5\t2\t3" ∧ s.primaryText rows = .ok "1.5\t2\t3"
      ∧ (∃ lines, s.tableText rows = .ok (joinWith "\n" lines) ∧ nth? lines 1 = some "Selection"
          ∧ nth? lines 2 = some "Center\t1.5\t2\t3" ∧ nth? lines 3 = some "Length\t1\"")
      ∧ ∀ text, s.tableText stale ≠ .ok text := by
  intro length s rows stale
  obtain ⟨hvector, hprimary, -, htable⟩ := copies_agree s rows
  obtain ⟨-, -, -, hstale⟩ := copies_agree s stale
  have htitle : s.rowText rows 1 = .error (.noValue 1) := rfl
  have hx : s.axisText rows 2 .x = .ok "1.5" := by decide +kernel
  have hcenter : s.rowText rows 2 = .ok "1.5\t2\t3" :=
    (hvector 2 _ ⟨4, 5, 6⟩ rfl rfl _).2 ⟨"1.5", "2", "3", hx, by decide +kernel, by decide +kernel,
      rfl⟩
  have hlength : s.rowText rows 3 = .ok "1\"" := by decide +kernel
  have hnone : ∀ k, s.rowText rows k ≠ .error .cellMissing := by
    intro k hk
    match k with
    | 0 | 1 | 2 | 3 => exact absurd hk (by decide +kernel)
    | k + 4 => cases hk
  obtain ⟨text, htext⟩ := (htable (by simp [rows])).1.2 hnone
  obtain ⟨lines, rfl, -, hlines⟩ := (htable (by simp [rows])).2 text htext
  have hgone : s.rowText stale 4 = .error .cellMissing := rfl
  refine ⟨hcenter, (hprimary _).2 ⟨2, hcenter, ?_⟩, ⟨lines, htext, ?_, ?_, ?_⟩, ?_⟩
  · intro j hj other
    match j with
    | 0 | 1 => exact nofun
  · exact (hlines 1 _ rfl).2 htitle
  · exact (hlines 2 _ rfl).1 _ hcenter
  · exact (hlines 3 _ rfl).1 _ hlength
  · intro text htext
    exact (hstale (by simp [stale])).1.1 ⟨text, htext⟩ 4 hgone

end Screen

end PanelKeys
