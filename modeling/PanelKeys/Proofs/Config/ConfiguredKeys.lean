import PanelKeys.Config.Overrides
import PanelKeys.Proofs.Command.ChordText
import PanelKeys.Proofs.Table
import PanelKeys.Proofs.Typing.Phrase

/-!
# Configured keys

The settings may bring any number of entries, in any order and with any text, and some of them spell
no key or a key that they may not have.  Whatever they do to the tables, every key that stands in
one afterwards is a key that can be pressed, and pressing it does what stands beside it.

* `Chord.Bindable` — a chord that can be pressed and begins no sequence;
* `BindingTable.bindable_of_mem_ofEntries`, `ViewMenu.not_capital_of_mem_ofEntries` — **the tables
  under the settings have no other keys**;
* `startChord_of_bindable` — such a chord is looked up and nothing else;
* **`configured_key_works`** — the text beside an entry, typed in, has the entry's command.
-/

namespace PanelKeys

open PanelKeys.Text

/-! ## The keys of the tables -/

/-- A chord that can be pressed and begins no sequence. -/
structure Chord.Bindable (c : Chord) : Prop where
  typable : c.Typable
  free : c.isReserved = false

namespace BindingTable

lemma bindable_of_mem_standard : ∀ chord ∈ standard.keys, chord.Bindable := by
  have hkeys : ∀ chord ∈ standard.keys, Chord.ofTyped chord.key chord.shift = chord
      ∧ isBlank chord.key = false ∧ chord.isReserved = false := by decide +kernel
  intro chord hchord
  obtain ⟨hnormal, hvisible, hfree⟩ := hkeys chord hchord
  exact ⟨⟨hnormal, hvisible⟩, hfree⟩

/-- An entry adds no key but the one that it spells, and that one only if it is not reserved. -/
lemma bindable_of_mem_override {t : BindingTable} (ht : ∀ chord ∈ t.keys, chord.Bindable)
    (e : KeybindingEntry) : ∀ chord ∈ (t.override e).keys, chord.Bindable := by
  simp only [override]
  split
  · exact ht
  · next chord hparse =>
      split
      · exact Table.forall_keys_erase ht
      · split
        · exact ht
        · next command _ =>
            cases hreserved : chord.isReserved with
            | true => simpa [bind, hreserved] using ht
            | false =>
                have hchord : chord.Bindable := ⟨.of_parse hparse, hreserved⟩
                simpa [bind, hreserved] using Table.forall_keys_insert hchord ht

/-- **Every key of the bindings under the settings is bindable.** -/
theorem bindable_of_mem_ofEntries (entries : List KeybindingEntry) :
    ∀ chord ∈ (ofEntries entries).keys, chord.Bindable := by
  induction entries using List.reverseRecOn with
  | nil => exact bindable_of_mem_standard
  | append_singleton entries e ih =>
      rw [ofEntries, List.foldl_append]
      exact bindable_of_mem_override ih e

end BindingTable

namespace ViewMenu

lemma not_capital_of_mem_standard : ∀ key ∈ standard.keys, isUppercase key = false := by
  have hkeys : (standard.keys.all fun key => !isUppercase key) = true := by decide +kernel
  intro key hkey
  simpa using List.all_eq_true.1 hkeys key hkey

/-- **No key of the menu under the settings is a capital.** -/
theorem not_capital_of_mem_ofEntries (entries : List ViewOptionEntry) :
    ∀ key ∈ (ofEntries entries).keys, isUppercase key = false := by
  induction entries using List.reverseRecOn with
  | nil => exact not_capital_of_mem_standard
  | append_singleton entries e ih =>
      rw [ofEntries, List.foldl_append]
      show ∀ key ∈ ((ofEntries entries).override e).keys, isUppercase key = false
      simp only [override]
      split
      · exact ih
      · next hsmall =>
          split
          · exact Table.forall_keys_erase ih
          · split
            · exact ih
            · exact Table.forall_keys_insert (by simpa using hsmall) ih

end ViewMenu

namespace Interpreter

/-! ## The keys by themselves -/

/-- A chord that begins no sequence is looked up and nothing else. -/
lemma startChord_of_bindable {m : Interpreter} {chord : Chord} {entry : Labelled}
    (h : chord.Bindable) (hentry : m.bindings.get? chord = some entry) (now : Instant) :
    m.startChord chord now = (m.resolve entry.command).taking true := by
  obtain ⟨⟨hdigit, hy⟩, hv⟩ : (chord.isDigit = false ∧ chord.isPlain 'y' = false)
      ∧ chord.isPlain 'v' = false := by
    simpa [Chord.isReserved] using h.free
  simp [startChord, hdigit, hy, hv, hentry]

/-- **A binding's key, pressed with nothing typed, has its command.** -/
theorem Reachable.handleKey_bound {m : Interpreter} (h : m.Reachable) (hidle : m.mode = .idle)
    {chord : Chord} {entry : Labelled} (hbindable : chord.Bindable)
    (hentry : m.bindings.get? chord = some entry) (now : Instant) :
    m.handleKey chord.press now = ⟨(m.keyedAt now).atRest, [.resolved entry.command], true⟩ := by
  have hpending : m.pending = none := h.coherent.idle_iff.1 hidle
  have hin : m.InTime now := by simp [InTime, hpending]
  have hidle' : (m.keyedAt now).mode = .idle := hidle
  rw [handleKey_of_chord hin hbindable.typable.chord?_press, processChord, hidle']
  show (m.keyedAt now).startChord chord now = _
  rw [startChord_of_bindable (m := m.keyedAt now) hbindable hentry]
  simp [resolve, clear, Turn.emit, Turn.taking, atRest, Mode.isIdle, hidle']

/-- Behind every key there is one whole timeout for the next. -/
lemma Coherent.inTime_handleKey {m : Interpreter} (h : m.Coherent) (press : KeyPress)
    {now later : Instant}
    (hsoon : later < now + m.timeout) : (m.handleKey press now).interpreter.InTime later := by
  intro token hpending
  rcases h.handleKey_restsOrWaits press now with hrest | ⟨mode, -, -, hwait⟩
  · rw [hrest] at hpending
    simp [pending, atRest, Deadline.cancel] at hpending
  · rw [hwait] at hpending
    obtain rfl : _ = token := Option.some.inj hpending
    exact hsoon

/-- A letter that is a key by itself types itself. -/
lemma chord?_char {key : Char} (h : isUppercase key = false) :
    KeyPress.chord? ⟨.char key, {}⟩ = some (.plain key) := by
  simp [KeyPress.chord?, Modifiers.hasCommand, Chord.ofTyped, Chord.plain, h]

/-- **An entry of the view menu has its command**: `v` and then its key, in time. -/
theorem Reachable.leadsTo_menu_entry {m : Interpreter} (h : m.Reachable) (hidle : m.mode = .idle)
    {key : Char} {entry : Labelled} (hsmall : isUppercase key = false)
    (hentry : m.menu.get? key = some entry) {now later : Instant}
    (hsoon : later < now + m.timeout) :
    (m.run [.key ⟨.char 'v', {}⟩ now, .key ⟨.char key, {}⟩ later]).LeadsTo
      [.resolved entry.command] .idle := by
  have hpending : m.pending = none := h.coherent.idle_iff.1 hidle
  have hopened : Typed m ['v'] [.key ⟨.char 'v', {}⟩ now] := by
    refine Typed.nil.concat (chord?_char (by decide +kernel)) ?_
    show m.InTime now
    simp [InTime, hpending]
  have htyped :
      Typed m (Phrase.entry key).keys [.key ⟨.char 'v', {}⟩ now, .key ⟨.char key, {}⟩ later] :=
    hopened.concat (chord?_char hsmall) (h.coherent.inTime_handleKey ⟨.char 'v', {}⟩ hsoon)
  have hleads := htyped.leadsTo_meaning h.coherent hidle rfl
  rwa [Phrase.meaning, ViewMenu.outcome, hentry] at hleads

/-! ## The settings -/

/-- **Every configured key works as it is listed**, whatever the entries of the settings.  A
binding's chord is not reserved, the text that is listed for it spells a key press, and that press,
at any time with nothing typed, is taken and has the binding's command and nothing else.  An entry
of the view menu has its command and nothing else when its key follows a `v` in time. -/
theorem configured_key_works :
    (∀ (entries : List KeybindingEntry) (chord : Chord) (entry : Labelled),
      (chord, entry) ∈ (BindingTable.ofEntries entries).entries →
        chord.isReserved = false
          ∧ ∃ press, KeyPress.parse chord.text = .ok press ∧ press.chord? = some chord
            ∧ ∀ m : Interpreter, m.Reachable → m.mode = .idle → m.bindings = .ofEntries entries →
                ∀ now : Instant, (m.handleKey press now).consumed = true
                  ∧ (m.handleKey press now).signals = [.resolved entry.command])
      ∧ ∀ (entries : List ViewOptionEntry) (key : Char) (entry : Labelled),
        (key, entry) ∈ (ViewMenu.ofEntries entries).entries →
          ∀ m : Interpreter, m.Reachable → m.mode = .idle → m.menu = .ofEntries entries →
            ∀ now later : Instant, later < now + m.timeout →
              (m.run [.key ⟨.char 'v', {}⟩ now, .key ⟨.char key, {}⟩ later]).LeadsTo
                [.resolved entry.command] .idle := by
  refine ⟨fun entries chord entry hlisted => ?_,
    fun entries key entry hlisted m hreach hidle hmenu now later
    hsoon => ?_⟩
  · have hbindable : chord.Bindable :=
      BindingTable.bindable_of_mem_ofEntries entries chord (List.mem_map_of_mem hlisted)
    refine ⟨hbindable.free, chord.press, hbindable.typable.parse_text,
      hbindable.typable.chord?_press, ?_⟩
    intro m hreach hidle hbindings now
    have hentry : m.bindings.get? chord = some entry := by
      rw [hbindings]
      exact Table.get?_of_mem_entries hlisted
    rw [hreach.handleKey_bound hidle hbindable hentry]
    exact ⟨rfl, rfl⟩
  · have hsmall : isUppercase key = false :=
      ViewMenu.not_capital_of_mem_ofEntries entries key (List.mem_map_of_mem hlisted)
    have hentry : m.menu.get? key = some entry := by
      rw [hmenu]
      exact Table.get?_of_mem_entries hlisted
    exact hreach.leadsTo_menu_entry hidle hsmall hentry hsoon

/-- A ruler under shift and the dash key, which is listed as `shift--`, and shadows under `ß` of the
menu. -/
theorem configured_key_works_for_shifted_dash :
    let keys : List KeybindingEntry := [⟨" Shift+- ", "tool:ruler", some "Ruler"⟩]
    let options : List ViewOptionEntry := [⟨'ß', "option:shadows", none⟩]
    let m := new (.ofEntries keys) (.ofEntries options) 700
    let dash : Chord := .shifted '-'
    m.Reachable ∧ m.mode = .idle
      ∧ (dash, ⟨.toggleTool "ruler" "Ruler", "Ruler"⟩) ∈ (BindingTable.ofEntries keys).entries
      ∧ ('ß', ⟨.toggleViewOption "shadows" "shadows", "shadows"⟩)
        ∈ (ViewMenu.ofEntries options).entries
      ∧ dash.text = "shift--" ∧ dash.isReserved = false
      ∧ (∃ press, KeyPress.parse "shift--" = .ok press
          ∧ (m.handleKey press 40).signals = [.resolved (.toggleTool "ruler" "Ruler")])
      ∧ (m.run [.key ⟨.char 'v', {}⟩ 100, .key ⟨.char 'ß', {}⟩ 799]).LeadsTo
          [.resolved (.toggleViewOption "shadows" "shadows")] .idle := by
  intro keys options m dash
  have hreach : m.Reachable := .new _ _ _
  have hdash : (dash, ⟨.toggleTool "ruler" "Ruler", "Ruler"⟩)
      ∈ (BindingTable.ofEntries keys).entries := by
    decide +kernel
  have hshadows :
      ('ß', ⟨.toggleViewOption "shadows" "shadows", "shadows"⟩)
        ∈ (ViewMenu.ofEntries options).entries := by
    decide +kernel
  have htext : dash.text = "shift--" := by decide
  obtain ⟨hfree, press, hparse, -, hworks⟩ := configured_key_works.1 keys dash _ hdash
  rw [htext] at hparse
  refine ⟨hreach, rfl, hdash, hshadows, htext, hfree, ⟨press, hparse, ?_⟩, ?_⟩
  · exact (hworks m hreach rfl rfl 40).2
  · exact configured_key_works.2 options 'ß' _ hshadows m hreach rfl rfl 100 799 (by decide)

end Interpreter

end PanelKeys
