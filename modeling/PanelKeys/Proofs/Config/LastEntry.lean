import PanelKeys.Proofs.Config.ConfiguredKeys
import PanelKeys.Proofs.Table.History

/-!
# The last entry of a key

The settings may name one key many times, in one spelling or in several.  An entry counts if it
spells a key that it may have and its action is `none` or that of a command; it then changes what
stands under that key and nothing else.  The tables under the settings are therefore the standard
ones with a history of changes, and what they say of a key, and where they list it, is told from the
entries that count.

* `Asked` — what an action and a label want under a key: a tool or an option carries the label;
* `KeybindingEntry.change?`, `ViewOptionEntry.change?` — the change for which an entry counts, if it
  does;
* `BindingTable.ofEntries_eq_replay`, `ViewMenu.ofEntries_eq_replay` — the tables as histories;
* `LastEntryWins` — how a table is told from the entries that count;
* **`last_entry_wins`** — both tables are told in this way.
-/

namespace PanelKeys

open PanelKeys.Text

/-! ## What an entry asks for -/

/-- What an action and a label want under a key: nothing, or the command that the action names.
A tool or an option is listed under the label, or under the one that it is read with if there is
none, and **carries the label that it is listed under**.  Any other command is listed under the
label or under its text, and is the one that is read. -/
inductive Asked (read : String → Option Command) (action : String) (label : Option String) :
    Option Labelled → Prop
  | away (h : trim action = "none") : Asked read action label none
  | tool {name own : String} (h : read action = some (.toggleTool name own)) :
      Asked read action label (some ⟨.toggleTool name (label.getD own), label.getD own⟩)
  | option {name own : String} (h : read action = some (.toggleViewOption name own)) :
      Asked read action label (some ⟨.toggleViewOption name (label.getD own), label.getD own⟩)
  | plain {command : Command} (h : read action = some command)
      (noTool : ∀ name own, command ≠ .toggleTool name own)
      (noOption : ∀ name own, command ≠ .toggleViewOption name own) :
      Asked read action label (some ⟨command, label.getD command.text⟩)

section

variable {read : String → Option Command} {action : String} {label : Option String}

/-- Every command that is read is wanted, under its label. -/
lemma Asked.of_read {command : Command} (h : read action = some command) :
    Asked read action label (some (.ofAction command label)) := by
  cases command with
  | toggleTool name own => exact .tool h
  | toggleViewOption name own => exact .option h
  | _ => exact .plain h nofun nofun

lemma asked_iff {wanted : Option Labelled} :
    Asked read action label wanted ↔ trim action = unbindAction ∧ wanted = none
      ∨ ∃ command, read action = some command ∧ wanted = some (.ofAction command label) := by
  constructor
  · intro h
    cases h with
    | away haway => exact Or.inl ⟨haway, rfl⟩
    | tool h | option h => exact Or.inr ⟨_, h, rfl⟩
    | @plain command h noTool noOption =>
        refine Or.inr ⟨command, h, ?_⟩
        cases command with
        | toggleTool name own => exact absurd rfl (noTool name own)
        | toggleViewOption name own => exact absurd rfl (noOption name own)
        | _ => rfl
  · rintro (⟨haway, rfl⟩ | ⟨command, h, rfl⟩)
    · exact .away haway
    · exact .of_read h

end

/-- What an action and a label want under a key, if the action can be read. -/
def asked? (read : String → Option Command) (action : String) (label : Option String) :
    Option (Option Labelled) :=
  if trim action = unbindAction then some none
  else (read action).map fun command => some (.ofAction command label)

lemma asked?_eq_some_iff {read : String → Option Command} {action : String}
    (hnone : trim action = unbindAction → read action = none) {label : Option String}
    {wanted : Option Labelled} :
    asked? read action label = some wanted ↔ Asked read action label wanted := by
  rw [asked_iff, asked?]
  split
  · next haway => simp [haway, hnone haway, eq_comm]
  · next hread => simp [hread, eq_comm]

lemma trimChars_of_unbind {action : String} (h : trim action = unbindAction) :
    trimChars action.toList = ['n', 'o', 'n', 'e'] := by
  have hchars := congrArg String.toList h
  rwa [trim, String.toList_ofList] at hchars

/-- The action that takes a key away names no command. -/
lemma ofBindingText?_of_unbind {action : String} (h : trim action = unbindAction) :
    Command.ofBindingText? action = none := by
  rw [Command.ofBindingText?, trimChars_of_unbind h]
  decide

lemma ofMenuText?_of_unbind {action : String} (h : trim action = unbindAction) :
    Command.ofMenuText? action = none := by
  rw [Command.ofMenuText?, trimChars_of_unbind h]
  decide

/-- The change for which an entry counts: it spells a chord that may be bound, and its action can be
read. -/
def KeybindingEntry.change? (e : KeybindingEntry) : Option (Table.Change Chord Labelled) :=
  match Chord.parse e.keys with
  | .error _ => none
  | .ok chord =>
      if chord.isReserved then none
      else (asked? Command.ofBindingText? e.action e.label).map fun wanted => (chord, wanted)

/-- The change for which an entry of the menu counts: its key is no capital, and its action can be
read. -/
def ViewOptionEntry.change? (e : ViewOptionEntry) : Option (Table.Change Char Labelled) :=
  if isUppercase e.key then none
  else (asked? Command.ofMenuText? e.action e.label).map fun wanted => (e.key, wanted)

lemma map_mk_eq_some_iff {κ α : Type} {j k : κ} {asked : Option α} {wanted : α} :
    (asked.map fun a => (j, a)) = some (k, wanted) ↔ j = k ∧ asked = some wanted := by
  cases asked <;> simp

lemma KeybindingEntry.change?_eq_some_iff {e : KeybindingEntry} {chord : Chord}
    {wanted : Option Labelled} :
    e.change? = some (chord, wanted) ↔ Chord.parse e.keys = .ok chord ∧ chord.isReserved = false
      ∧ Asked Command.ofBindingText? e.action e.label wanted := by
  rw [← asked?_eq_some_iff ofBindingText?_of_unbind, change?]
  cases hparse : Chord.parse e.keys with
  | error _ => simp
  | ok spelled =>
      dsimp only
      cases hreserved : spelled.isReserved with
      | true => simp +contextual [← hreserved]
      | false =>
          rw [if_neg Bool.false_ne_true, map_mk_eq_some_iff, Except.ok.injEq]
          constructor
          · rintro ⟨rfl, hwanted⟩
            exact ⟨rfl, hreserved, hwanted⟩
          · rintro ⟨rfl, -, hwanted⟩
            exact ⟨rfl, hwanted⟩

lemma ViewOptionEntry.change?_eq_some_iff {e : ViewOptionEntry} {key : Char}
    {wanted : Option Labelled} :
    e.change? = some (key, wanted) ↔ e.key = key ∧ isUppercase key = false
      ∧ Asked Command.ofMenuText? e.action e.label wanted := by
  rw [← asked?_eq_some_iff ofMenuText?_of_unbind, change?]
  cases hcapital : isUppercase e.key with
  | true => simp +contextual [← hcapital]
  | false =>
      rw [if_neg Bool.false_ne_true, map_mk_eq_some_iff]
      constructor
      · rintro ⟨rfl, hwanted⟩
        exact ⟨rfl, hcapital, hwanted⟩
      · rintro ⟨rfl, -, hwanted⟩
        exact ⟨rfl, hwanted⟩

/-! ## The tables as histories -/

/-- An entry of the bindings does what it counts for.  A reserved chord is not there to be taken
away. -/
lemma BindingTable.override_eq {t : BindingTable} (ht : ∀ chord ∈ t.keys, chord.Bindable)
    (e : KeybindingEntry) : t.override e = e.change?.elim t t.change := by
  rw [override, KeybindingEntry.change?]
  cases Chord.parse e.keys with
  | error _ => rfl
  | ok chord =>
      dsimp only
      cases hreserved : chord.isReserved with
      | true =>
          have habsent : chord ∉ t.keys := fun hin => by simp [(ht chord hin).free] at hreserved
          have hbind : ∀ entry, t.bind chord entry = .error (.reserved chord) := fun entry => by
            simp [bind, hreserved]
          simp only [Table.erase_of_not_mem habsent, hbind]
          split
          · rfl
          · cases Command.ofBindingText? e.action <;> rfl
      | false =>
          have hbind : ∀ entry, t.bind chord entry = .ok (t.insert chord entry) := fun entry => by
            simp [bind, hreserved]
          simp only [hbind, asked?]
          split
          · rfl
          · cases Command.ofBindingText? e.action <;> rfl

lemma ViewMenu.override_eq (t : ViewMenu) (e : ViewOptionEntry) :
    t.override e = e.change?.elim t t.change := by
  rw [override, ViewOptionEntry.change?, asked?]
  split
  · rfl
  · split
    · rfl
    · cases Command.ofMenuText? e.action <;> rfl

/-- **The bindings under the settings are the standard ones with the changes of the entries that
count.** -/
theorem BindingTable.ofEntries_eq_replay (entries : List KeybindingEntry) :
    ofEntries entries = Table.replay (entries.filterMap KeybindingEntry.change?) standard :=
  Table.foldl_eq_replay (fun entries e => override_eq (bindable_of_mem_ofEntries entries) e) entries

theorem ViewMenu.ofEntries_eq_replay (entries : List ViewOptionEntry) :
    ofEntries entries = Table.replay (entries.filterMap ViewOptionEntry.change?) standard :=
  Table.foldl_eq_replay (fun entries e => override_eq (ofEntries entries) e) entries

/-! ## The last entry -/

/-- A table that is made of a standard one and a list of entries, each of which counts for one
change of one key or does not count, is told from the entries that count. -/
structure LastEntryWins {ε κ : Type} [DecidableEq κ] (standard : Table κ Labelled)
    (change? : ε → Option (Table.Change κ Labelled)) (build : List ε → Table κ Labelled) :
    Prop where
  /-- The last entry that counts for a key decides what stands under it. -/
  last : ∀ (before : List ε) (e : ε) (after : List ε) (k : κ) (wanted : Option Labelled),
    change? e = some (k, wanted) → (∀ later ∈ after, ∀ other, change? later ≠ some (k, other)) →
      (build (before ++ e :: after)).get? k = wanted
  /-- Where none counts for the key, the standard entry stands. -/
  without : ∀ (entries : List ε) (k : κ), (∀ e ∈ entries, ∀ wanted, change? e ≠ some (k, wanted)) →
    (build entries).get? k = standard.get? k
  /-- An entry that does not count can be left out. -/
  idle : ∀ (before : List ε) (e : ε) (after : List ε), change? e = none →
    build (before ++ e :: after) = build (before ++ after)
  /-- What is listed is what is found, each key once. -/
  listed : ∀ (entries : List ε) (k : κ) (entry : Labelled),
    (k, entry) ∈ (build entries).entries ↔ (build entries).get? k = some entry
  distinct : ∀ entries : List ε, (build entries).keys.Nodup
  /-- A key that is there keeps its place when it is bound again, and any other goes to the end. -/
  placed : ∀ (entries : List ε) (e : ε) (k : κ) (entry : Labelled),
    change? e = some (k, some entry) →
    (build (entries ++ [e])).keys
      = if k ∈ (build entries).keys then (build entries).keys else (build entries).keys ++ [k]
  /-- The keys are listed by when they last came in, the standard ones first. -/
  ordered : ∀ entries : List ε, ∃ since,
    Table.ListedSince (standard.writes ++ entries.filterMap change?) (build entries).keys since

/-- Where no entry counts for a key, none of the changes is one of it. -/
lemma not_mem_changed {ε κ : Type} {change? : ε → Option (Table.Change κ Labelled)}
    {entries : List ε} {k : κ} (h : ∀ e ∈ entries, ∀ wanted, change? e ≠ some (k, wanted)) :
    k ∉ (entries.filterMap change?).map Prod.fst := by
  simp only [List.mem_map, List.mem_filterMap, not_exists, not_and]
  rintro ⟨j, wanted⟩ ⟨e, he, hchange⟩ rfl
  exact h e he wanted hchange

/-- **A table that is built by such changes is told from the entries that count.** -/
lemma LastEntryWins.of_replay {ε κ : Type} [DecidableEq κ] {standard : Table κ Labelled}
    {change? : ε → Option (Table.Change κ Labelled)} {build : List ε → Table κ Labelled}
    (h : ∀ entries, build entries = Table.replay (entries.filterMap change?) standard) :
    LastEntryWins standard change? build where
  last before e after k wanted he hafter := by
    rw [h, Table.get?_replay, List.filterMap_append, List.filterMap_cons_some he,
      Table.lastChange?_append_cons (not_mem_changed hafter), Option.getD_some]
  without entries k hother := by
    rw [h, Table.get?_replay, Table.lastChange?_eq_none (not_mem_changed hother), Option.getD_none]
  idle before e after he := by
    rw [h, h, List.filterMap_append, List.filterMap_append, List.filterMap_cons_none he]
  listed _ _ _ := ⟨Table.get?_of_mem_entries, Table.mem_of_lookupIn⟩
  distinct entries := (build entries).nodupKeys
  placed entries e k entry he := by
    rw [h, h, List.filterMap_append, List.filterMap_cons_some he, List.filterMap_nil,
      Table.replay_concat]
    exact Table.keys_insert _ k entry
  ordered entries := by
    obtain ⟨since, hsince⟩ :=
      Table.exists_listedSince (standard.writes ++ entries.filterMap change?)
    refine ⟨since, ?_⟩
    rwa [Table.replay_append, Table.replay_writes, ← h] at hsince

/-- **The last entry that counts wins.**  An entry of the bindings counts if its keys spell a chord
that is not reserved and its action is `none` or that of a command; an entry of the view menu counts
if its key is no capital and its action is `none` or that of the menu.  Both tables are told from
the entries that count, and tools and options carry the labels of their entries. -/
theorem last_entry_wins :
    ((∀ (e : KeybindingEntry) (chord : Chord) (wanted : Option Labelled),
        e.change? = some (chord, wanted) ↔ Chord.parse e.keys = .ok chord ∧ chord.isReserved = false
          ∧ Asked Command.ofBindingText? e.action e.label wanted)
      ∧ LastEntryWins BindingTable.standard KeybindingEntry.change? BindingTable.ofEntries)
    ∧ (∀ (e : ViewOptionEntry) (key : Char) (wanted : Option Labelled),
        e.change? = some (key, wanted) ↔ e.key = key ∧ isUppercase key = false
          ∧ Asked Command.ofMenuText? e.action e.label wanted)
      ∧ LastEntryWins ViewMenu.standard ViewOptionEntry.change? ViewMenu.ofEntries :=
  ⟨⟨fun _ _ _ => KeybindingEntry.change?_eq_some_iff, .of_replay BindingTable.ofEntries_eq_replay⟩,
    fun _ _ _ => ViewOptionEntry.change?_eq_some_iff, .of_replay ViewMenu.ofEntries_eq_replay⟩

/-- Three spellings of a capital: bound where it stands, taken away, and bound again at the end of
the list, to a tool that carries the label of its entry.  Neither the reserved key nor the one under
another modifier counts.  In the menu `g` is taken away, the capital does not count, and the option
under `r` carries its label. -/
theorem last_entry_wins_for_moved_capital :
    let before : List KeybindingEntry :=
      [⟨"U", "tool:a", none⟩, ⟨"y", "toggle-unit", none⟩, ⟨"shift-u", "none", none⟩]
    let e : KeybindingEntry := ⟨" Shift+U", "tool:probe ", some "Probe"⟩
    let late : KeybindingEntry := ⟨"ctrl-u", "toggle-unit", none⟩
    let options : List ViewOptionEntry :=
      [⟨'g', "none", none⟩, ⟨'G', "option:grid", none⟩, ⟨'r', "option:ruler", some "Ruler"⟩]
    (BindingTable.ofEntries (before ++ e :: [late])).get? (.shifted 'u')
        = some ⟨.toggleTool "probe" "Probe", "Probe"⟩
      ∧ (BindingTable.ofEntries before).get? (.shifted 'u') = none
      ∧ (BindingTable.ofEntries (before ++ [e])).keys
          = (BindingTable.ofEntries before).keys ++ [.shifted 'u']
      ∧ BindingTable.ofEntries (before ++ e :: [late]) = BindingTable.ofEntries (before ++ [e])
      ∧ (BindingTable.ofEntries (before ++ e :: [late])).get? (.plain 'm')
          = some (BindingTable.tool "measure" "Measure")
      ∧ (ViewMenu.ofEntries options).get? 'g' = none
      ∧ (ViewMenu.ofEntries options).get? 'r'
          = some ⟨.toggleViewOption "ruler" "Ruler", "Ruler"⟩ := by
  intro before e late options
  obtain ⟨⟨hbound, hkeys⟩, hlisted, hmenu⟩ := last_entry_wins
  have hprobe : Command.ofBindingText? "tool:probe " = some (.toggleTool "probe" "probe") := by
    decide +kernel
  have he : e.change? = some (.shifted 'u', some ⟨.toggleTool "probe" "Probe", "Probe"⟩) :=
    (hbound e _ _).2 ⟨by decide +kernel, by decide +kernel, .tool hprobe⟩
  have hoption : Command.ofMenuText? "option:ruler" = some (.toggleViewOption "ruler" "ruler") := by
    decide +kernel
  have hruler : ViewOptionEntry.change? ⟨'r', "option:ruler", some "Ruler"⟩
      = some ('r', some ⟨.toggleViewOption "ruler" "Ruler", "Ruler"⟩) :=
    (hlisted _ _ _).2 ⟨rfl, by decide +kernel, .option hoption⟩
  have hlate : late.change? = none := by decide +kernel
  have hcapital : ViewOptionEntry.change? ⟨'G', "option:grid", none⟩ = none := by decide +kernel
  have hgone : (BindingTable.ofEntries before).get? (.shifted 'u') = none := by decide +kernel
  refine ⟨hkeys.last before e [late] _ _ he ?_, hgone, ?_,
    hkeys.idle (before ++ [e]) late [] hlate, ?_, ?_, ?_⟩
  · simp [hlate]
  · rw [hkeys.placed before e _ _ he, if_neg (Table.get?_eq_none_iff.1 hgone)]
  · have hother : ∀ other ∈ before ++ e :: [late],
        other.change?.all (fun c => c.1 ≠ .plain 'm') := by decide +kernel
    rw [hkeys.without _ _ fun other hin wanted hchange => ?_]
    · decide +kernel
    · simpa [hchange] using hother other hin
  · exact hmenu.last [] _ _ 'g' none (by decide +kernel) (by simp [hcapital, hruler])
  · exact hmenu.last [⟨'g', "none", none⟩, ⟨'G', "option:grid", none⟩] _ [] 'r' _ hruler (by simp)

end PanelKeys
