import PanelKeys.Command.Bindings
import PanelKeys.Config.Settings
import PanelKeys.Text.Blank

/-!
# The tables under the settings

The settings add keys to the standard tables, replace them or take them away, entry by entry in
their order.  An entry that cannot be read, or that names a key it may not have, changes nothing.

* `BindingTable.override`, `BindingTable.ofEntries` — the bindings under the settings;
* `ViewMenu.override`, `ViewMenu.ofEntries` — the view menu under the settings;
* `Labelled.ofAction` — an entry's command under its own label, or under the command's default one.
-/

namespace PanelKeys

open PanelKeys.Text

/-- The action that takes a key away. -/
def unbindAction : String := "none"

/-- A command under the label of its entry, or under its own. -/
def Labelled.ofAction (command : Command) (label : Option String) : Labelled :=
  let label := label.getD command.defaultLabel
  ⟨command.relabel label, label⟩

namespace BindingTable

/-- One entry of the settings. -/
def override (t : BindingTable) (e : KeybindingEntry) : BindingTable :=
  match Chord.parse e.keys with
  | .error _ => t
  | .ok chord =>
      if trim e.action = unbindAction then t.erase chord
      else
        match Command.ofBindingText? e.action with
        | none => t
        | some command =>
            match t.bind chord (.ofAction command e.label) with
            | .ok t' => t'
            | .error _ => t

/-- The standard bindings with the entries applied in their order. -/
def ofEntries (entries : List KeybindingEntry) : BindingTable := entries.foldl override standard

end BindingTable

namespace ViewMenu

/-- One entry of the settings.  Capitals are no keys of the menu. -/
def override (t : ViewMenu) (e : ViewOptionEntry) : ViewMenu :=
  if isUppercase e.key then t
  else if trim e.action = unbindAction then t.erase e.key
  else
    match Command.ofMenuText? e.action with
    | none => t
    | some command => t.insert e.key (.ofAction command e.label)

/-- The standard menu with the entries applied in their order. -/
def ofEntries (entries : List ViewOptionEntry) : ViewMenu := entries.foldl override standard

end ViewMenu

namespace Settings

def bindingTable (s : Settings) : BindingTable := .ofEntries s.keybindings

def viewMenu (s : Settings) : ViewMenu := .ofEntries s.viewOptions

end Settings

end PanelKeys
