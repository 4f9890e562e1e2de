import Mathlib.Tactic.Common
import PanelKeys.Text.Split

/-!
# Pieces put together and taken apart

Cutting a text at a separator is what the library knows as cutting a list, and putting pieces in a
row what it knows of texts, so what is known there holds here: **pieces that do not contain the
separator come back**.

A table is cut twice, into lines and each line into fields.

* `splitAll_joinWith` — one separator;
* `IsField` — a text that can stand as a field of a table;
* `writeTable`, `readTable` — lines with line breaks between them, fields with tabs between them;
* **`readTable_writeTable`** — a table is read as it was written.
-/

namespace PanelKeys.Text

/-! ## One separator -/

lemma splitAll_eq_splitOn (separator : Char) (cs : List Char) :
    splitAll separator cs = cs.splitOn separator := by
  induction cs with
  | nil => rfl
  | cons c rest ih =>
      rw [splitAll, List.splitOn_cons_eq_if_modifyHead]
      by_cases hc : c = separator
      · rw [if_pos hc, if_pos (beq_iff_eq.2 hc), ih]
      · rw [if_neg hc, if_neg (by simpa using hc), ← ih]
        cases hrest : splitAll separator rest with
        | nil => exact absurd hrest (splitAll_ne_nil separator rest)
        | cons piece pieces => rfl

lemma joinWith_eq_intercalate (separator : String) (pieces : List String) :
    joinWith separator pieces = separator.intercalate pieces := by
  induction pieces with
  | nil => rfl
  | cons piece rest ih =>
      cases rest with
      | nil => rw [joinWith, String.intercalate_singleton]
      | cons next rest =>
          show piece ++ separator ++ joinWith separator (next :: rest) = _
          rw [ih, String.intercalate_cons_cons]

/-- **Pieces that do not contain the separator come back.** -/
theorem splitAll_joinWith {separator : Char} {pieces : List String} (hpieces : pieces ≠ [])
    (h : ∀ piece ∈ pieces, separator ∉ piece.toList) :
    splitAll separator (joinWith (String.singleton separator) pieces).toList
      = pieces.map String.toList := by
  rw [splitAll_eq_splitOn, joinWith_eq_intercalate, String.toList_intercalate,
    String.toList_singleton]
  refine List.splitOn_intercalate separator (fun cs hcs => ?_) (by simpa using hpieces)
  obtain ⟨piece, hpiece, rfl⟩ := List.mem_map.1 hcs
  exact h piece hpiece

lemma not_mem_joinWith {c : Char} {separator : String} {pieces : List String}
    (hc : c ∉ separator.toList)
    (h : ∀ piece ∈ pieces, c ∉ piece.toList) : c ∉ (joinWith separator pieces).toList := by
  induction pieces with
  | nil => simp [joinWith]
  | cons piece rest ih =>
      have hpiece : c ∉ piece.toList := h piece List.mem_cons_self
      cases rest with
      | nil => exact hpiece
      | cons next rest =>
          have hrest := ih fun piece hmem => h piece (List.mem_cons_of_mem _ hmem)
          simp [joinWith, hpiece, hc, hrest]

/-! ## Tables -/

/-- A text that can stand as a field of a table: it contains neither tabs nor line breaks. -/
def IsField (cs : List Char) : Prop := '\t' ∉ cs ∧ '\n' ∉ cs

instance (cs : List Char) : Decidable (IsField cs) := inferInstanceAs (Decidable (_ ∧ _))

lemma IsField.append {cs ds : List Char} (hc : IsField cs) (hd : IsField ds) : IsField (cs ++ ds) :=
  ⟨by simp [hc.1, hd.1], by simp [hc.2, hd.2]⟩

lemma isField_of_isDigit {cs : List Char} (h : ∀ c ∈ cs, c.isDigit = true) : IsField cs :=
  ⟨fun htab => absurd (h _ htab) (by decide), fun hbreak => absurd (h _ hbreak) (by decide)⟩

/-- A line for each list of fields, tabs between the fields. -/
def writeTable (table : List (List String)) : String := joinWith "\n" (table.map (joinWith "\t"))

/-- The fields of each line. -/
def readTable (text : String) : List (List String) :=
  (splitAll '\n' text.toList).map fun line => (splitAll '\t' line).map String.ofList

lemma splitAll_tab_joinWith {fields : List String} (hne : fields ≠ [])
    (h : ∀ field ∈ fields, IsField field.toList) :
    (splitAll '\t' (joinWith "\t" fields).toList).map String.ofList = fields := by
  have hsplit := splitAll_joinWith hne fun field hfield => (h field hfield).1
  rw [show String.singleton '\t' = "\t" from rfl] at hsplit
  rw [hsplit, List.map_map]
  exact List.map_id'' (fun field => String.ofList_toList) fields

/-- **A table is read as it was written**, if it has a line, each line has a field, and fields are
free of separators. -/
theorem readTable_writeTable {table : List (List String)} (htable : table ≠ [])
    (hlines : ∀ fields ∈ table, fields ≠ [])
    (hfields : ∀ fields ∈ table, ∀ field ∈ fields, IsField field.toList) :
    readTable (writeTable table) = table := by
  have hbreak : ∀ line ∈ table.map (joinWith "\t"), '\n' ∉ line.toList := by
    intro line hline
    obtain ⟨fields, hmem, rfl⟩ := List.mem_map.1 hline
    exact not_mem_joinWith (by decide) fun field hfield => (hfields fields hmem field hfield).2
  have hsplit := splitAll_joinWith (by simpa using htable) hbreak
  rw [show String.singleton '\n' = "\n" from rfl] at hsplit
  rw [readTable, writeTable, hsplit, List.map_map, List.map_map]
  conv_rhs => rw [← List.map_id table]
  exact List.map_congr_left fun fields hmem =>
    splitAll_tab_joinWith (hlines fields hmem) (hfields fields hmem)

example : readTable "Gap\t1/2\"\nTitle" = [["Gap", "1/2\""], ["Title"]] := by decide

end PanelKeys.Text
