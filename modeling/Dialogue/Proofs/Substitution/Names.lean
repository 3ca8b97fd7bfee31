import Dialogue.Registry
import Dialogue.Settings
import Mathlib.Data.List.TakeWhile

/-!
# The names that stand for chatfiles

The names of models come from two lists, in which a name may stand more than once. The assignments
of the command line come after the entries of the settings and the last pair counts, so an
assignment wins over every entry, and among assignments and among entries the last one wins.

An assignment is divided at its first equals sign; the path may hold more of them. One text that is
no assignment spoils them all, and the first such text is the one that is named.

## Main definitions

* `Assigns text name path`: the text is an assignment of the path to the name
* `FirstRejected assignments text`: the text is the first one that is no assignment
* `StandsFor models assignments name path`: what a model name stands for
* `Registry.ofEntries`: the registry of both lists
* `Registry.Resolves`: a registry in which names stand for these chatfiles

## Main results

* `parseAssignment_eq_ok_iff`: which texts are read as assignments
* `mapM_parseAssignment_of_assignments`, `FirstRejected.mapM_eq`: what several texts are read as
* `standsFor_iff`: what a name stands for is the last pair of both lists together
* `Registry.resolves_ofEntries`: the registry of both lists resolves names in this way
-/

namespace Dialogue

/-! ## Assignments -/

/-- The text assigns a path to a model name: it is divided at its first equals sign, and neither
side is empty. -/
structure Assigns (text name path : String) : Prop where
  text_eq : text = name ++ "=" ++ path
  first : '=' ∉ name.toList
  name_ne : name ≠ ""
  path_ne : path ≠ ""

/-- The text is an assignment. -/
def IsAssignment (text : String) : Prop :=
  ∃ name path, Assigns text name path

/-- The text is the first one that is no assignment. -/
def FirstRejected (assignments : List String) (text : String) : Prop :=
  ∃ before after, assignments = before ++ text :: after ∧
    (∀ earlier ∈ before, IsAssignment earlier) ∧ ¬ IsAssignment text

section Reading

variable {text name path : String}

theorem assigns_of_parseAssignment (h : parseAssignment text = .ok (name, path)) :
    Assigns text name path := by
  rw [parseAssignment] at h
  split at h
  · rename_i written hdropped
    split at h
    · cases h
    · rename_i hsides
      obtain ⟨hname, hpath⟩ := Prod.mk.inj (Except.ok.inj h)
      have htext := List.takeWhile_append_dropWhile (p := (· != '=')) (l := text.toList)
      rw [hdropped] at htext
      subst hname hpath
      simp only [Bool.or_eq_true, List.isEmpty_iff, not_or] at hsides
      -- The name is what stands before the first equals sign, so it holds none.
      refine ⟨?_, ?_, ?_, ?_⟩
      · rw [← String.toList_inj]
        simpa using htext.symm
      · rw [String.toList_ofList]
        exact fun hmem => absurd (List.mem_takeWhile_imp hmem) (by decide)
      · simpa using hsides.1
      · simpa using hsides.2
  · cases h

theorem Assigns.parseAssignment_eq (h : Assigns text name path) :
    parseAssignment text = .ok (name, path) := by
  have hname : ∀ c ∈ name.toList, (c != '=') = true := fun c hc =>
    bne_iff_ne.mpr fun heq => h.first (heq ▸ hc)
  have htext : text.toList = name.toList ++ '=' :: path.toList := by simp [h.text_eq]
  rw [parseAssignment, htext, List.takeWhile_append_of_pos hname,
    List.dropWhile_append_of_pos hname]
  simp [h.name_ne, h.path_ne]

/-- **A text is read as an assignment if it is one.** -/
theorem parseAssignment_eq_ok_iff :
    parseAssignment text = .ok (name, path) ↔ Assigns text name path :=
  ⟨assigns_of_parseAssignment, Assigns.parseAssignment_eq⟩

/-- A text that is not read as an assignment is named in the error. -/
theorem parseAssignment_of_not_isAssignment (h : ¬ IsAssignment text) :
    parseAssignment text = .error ⟨text⟩ := by
  cases hparse : parseAssignment text with
  | ok pair => exact absurd ⟨pair.1, pair.2, assigns_of_parseAssignment hparse⟩ h
  | error error =>
    rw [parseAssignment] at hparse
    split at hparse
    · split at hparse <;> cases hparse
      rfl
    · cases hparse
      rfl

theorem parseAssignment_eq_error_iff :
    parseAssignment text = .error ⟨text⟩ ↔ ¬ IsAssignment text := by
  refine ⟨?_, parseAssignment_of_not_isAssignment⟩
  rintro herror ⟨name, path, hassigns⟩
  rw [hassigns.parseAssignment_eq] at herror
  cases herror

end Reading

section Several

variable {assignments : List String} {text : String}

/-- The pairs of the texts that are assignments, in order. -/
def assigned (assignments : List String) : List (String × String) :=
  assignments.filterMap fun text => (parseAssignment text).toOption

theorem toOption_parseAssignment_eq_some_iff {name path : String} :
    (parseAssignment text).toOption = some (name, path) ↔ Assigns text name path := by
  rw [← parseAssignment_eq_ok_iff]
  cases parseAssignment text <;> simp [Except.toOption]

theorem mapM_parseAssignment_of_assignments (h : ∀ text ∈ assignments, IsAssignment text) :
    assignments.mapM parseAssignment = .ok (assigned assignments) := by
  induction assignments with
  | nil => rfl
  | cons text assignments ih =>
    obtain ⟨name, path, hassigns⟩ := h text List.mem_cons_self
    have hrest := ih fun later hlater => h later (List.mem_cons_of_mem _ hlater)
    have hpairs : assigned (text :: assignments) = (name, path) :: assigned assignments :=
      List.filterMap_cons_some (toOption_parseAssignment_eq_some_iff.mpr hassigns)
    rw [List.mapM_cons, hassigns.parseAssignment_eq, hrest, hpairs]
    rfl

/-- The first text that is no assignment is the one that is named. -/
theorem FirstRejected.mapM_eq (h : FirstRejected assignments text) :
    assignments.mapM parseAssignment = .error ⟨text⟩ := by
  obtain ⟨before, after, rfl, haccepted, hrejected⟩ := h
  rw [List.mapM_append, mapM_parseAssignment_of_assignments haccepted, List.mapM_cons,
    parseAssignment_of_not_isAssignment hrejected]
  rfl

theorem isAssignment_or_firstRejected (assignments : List String) :
    (∀ text ∈ assignments, IsAssignment text) ∨ ∃ text, FirstRejected assignments text := by
  induction assignments with
  | nil => exact .inl fun text hmem => absurd hmem List.not_mem_nil
  | cons text assignments ih =>
    by_cases haccepted : IsAssignment text
    · rcases ih with hrest | ⟨later, before, after, rfl, hbefore, hrejected⟩
      · exact .inl (List.forall_mem_cons.mpr ⟨haccepted, hrest⟩)
      · exact .inr ⟨later, text :: before, after, rfl,
          List.forall_mem_cons.mpr ⟨haccepted, hbefore⟩, hrejected⟩
    · exact .inr ⟨text, [], assignments, rfl, fun _ hmem => absurd hmem List.not_mem_nil,
        haccepted⟩

end Several

/-! ## The names of models -/

section Names

variable {α β : Type} {f : α → Option (String × β)} {source : α} {sources : List α}
  {name path : String} {value : β}

/-- The value that a place of a list gives a name, if it makes a pair with the name. -/
def valueAt (f : α → Option (String × β)) (name : String) (source : α) : Option β :=
  (f source).bind fun pair => if name == pair.1 then some pair.2 else none

theorem valueAt_eq_some_iff :
    valueAt f name source = some value ↔ f source = some (name, value) := by
  unfold valueAt
  cases f source with
  | none => simp
  | some pair => by_cases hname : name = pair.1 <;> simp [hname, Prod.ext_iff, Ne.symm]

theorem lookup_filterMap (f : α → Option (String × β)) (name : String) (sources : List α) :
    (sources.filterMap f).lookup name = sources.findSome? (valueAt f name) := by
  induction sources with
  | nil => rfl
  | cons source sources ih =>
    rw [List.findSome?_cons, valueAt]
    cases hsource : f source with
    | none =>
      rw [List.filterMap_cons_none hsource, ih]
      rfl
    | some pair =>
      rw [List.filterMap_cons_some hsource, List.lookup_cons, ih, Option.bind_some]
      cases name == pair.1 <;> rfl

/-- Of the pairs that are made from a list, the one that counts is made at the last place of the
list that makes one with the name. -/
theorem lastFor_filterMap_eq_some_iff :
    lastFor name (sources.filterMap f) = some value ↔
      ∃ before source after, sources = before ++ source :: after ∧
        f source = some (name, value) ∧ ∀ later ∈ after, ∀ other, f later ≠ some (name, other) := by
  -- The list is searched from its end: what is passed there comes after the place here.
  rw [lastFor, ← List.filterMap_reverse, lookup_filterMap, List.findSome?_eq_some_iff]
  constructor
  · rintro ⟨after, source, before, hsplit, hsource, hafter⟩
    refine ⟨before.reverse, source, after.reverse, ?_, valueAt_eq_some_iff.mp hsource, ?_⟩
    · rw [← List.reverse_inj, hsplit]
      simp
    · intro later hlater other hother
      have hnone := hafter later (List.mem_reverse.mp hlater)
      rw [valueAt_eq_some_iff.mpr hother] at hnone
      cases hnone
  · rintro ⟨before, source, after, rfl, hsource, hafter⟩
    refine ⟨after.reverse, source, before.reverse, by simp, valueAt_eq_some_iff.mpr hsource, ?_⟩
    intro later hlater
    rw [Option.eq_none_iff_forall_ne_some]
    intro other hother
    exact hafter later (List.mem_reverse.mp hlater) other (valueAt_eq_some_iff.mp hother)

theorem lastFor_filterMap_eq_none_iff :
    lastFor name (sources.filterMap f) = none ↔
      ∀ source ∈ sources, ∀ other, f source ≠ some (name, other) := by
  rw [lastFor, ← List.filterMap_reverse, lookup_filterMap, List.findSome?_eq_none_iff]
  simp only [List.mem_reverse, Option.eq_none_iff_forall_ne_some, ne_eq, valueAt_eq_some_iff]

theorem lastFor_append (name : String) (entries more : List (String × β)) :
    lastFor name (entries ++ more) = (lastFor name more).or (lastFor name entries) := by
  rw [lastFor, List.reverse_append, List.lookup_append]
  rfl

theorem exists_lastFor_iff {entries : List (String × β)} :
    (∃ value, lastFor name entries = some value) ↔ name ∈ entries.map Prod.fst := by
  rw [← Option.isSome_iff_exists, lastFor, List.lookup_isSome_iff]
  simp only [List.mem_reverse, beq_iff_eq, List.mem_map]
  exact exists_congr fun pair => and_congr_right' eq_comm

end Names

/-- What a model name stands for: the path of the last assignment of the name, or else that of the
last entry of the settings with the name. -/
inductive StandsFor (models : List ModelEntry) (assignments : List String) (name path : String) :
    Prop
  | assigned {before after : List String} {text : String}
      (split : assignments = before ++ text :: after) (assigns : Assigns text name path)
      (last : ∀ later ∈ after, ∀ other, ¬ Assigns later name other)
  | configured {before after : List ModelEntry}
      (unassigned : ∀ text ∈ assignments, ∀ other, ¬ Assigns text name other)
      (split : models = before ++ ⟨name, path⟩ :: after)
      (last : ∀ later ∈ after, later.name ≠ name)

/-- In the registry names stand for the chatfiles that the settings and the assignments give them,
and no other name is registered. -/
structure Registry.Resolves (registry : Registry) (files : FileSystem) (models : List ModelEntry)
    (assignments : List String) : Prop where
  contains_iff : ∀ name, registry.contains name = true ↔
    ∃ path, StandsFor models assignments name path
  path?_eq_some_iff : ∀ name path, registry.path? name = some path ↔
    StandsFor models assignments name path
  deliveries_eq : ∀ name path, StandsFor models assignments name path →
    registry.deliveries name = (files path).deliveries.mapError .unopened

section Resolution

variable {models : List ModelEntry} {assignments : List String} {name path : String}

theorem lastFor_assigned_eq_some_iff :
    lastFor name (assigned assignments) = some path ↔
      ∃ before text after, assignments = before ++ text :: after ∧ Assigns text name path ∧
        ∀ later ∈ after, ∀ other, ¬ Assigns later name other := by
  simp only [assigned, lastFor_filterMap_eq_some_iff, ne_eq, toOption_parseAssignment_eq_some_iff]

theorem lastFor_assigned_eq_none_iff :
    lastFor name (assigned assignments) = none ↔
      ∀ text ∈ assignments, ∀ other, ¬ Assigns text name other := by
  simp only [assigned, lastFor_filterMap_eq_none_iff, ne_eq, toOption_parseAssignment_eq_some_iff]

/-- The pairs of the entries of the settings, in order. -/
def configured (models : List ModelEntry) : List (String × String) :=
  models.map fun entry => (entry.name, entry.path)

theorem lastFor_configured_eq_some_iff :
    lastFor name (configured models) = some path ↔
      ∃ before after, models = before ++ ⟨name, path⟩ :: after ∧
        ∀ later ∈ after, later.name ≠ name := by
  rw [configured, ← List.filterMap_eq_map, lastFor_filterMap_eq_some_iff]
  constructor
  · rintro ⟨before, ⟨_, _⟩, after, rfl, hentry, hafter⟩
    obtain ⟨rfl, rfl⟩ := Prod.mk.inj (Option.some.inj hentry)
    refine ⟨before, after, rfl, fun later hlater hname => hafter later hlater later.path ?_⟩
    rw [← hname]
    rfl
  · rintro ⟨before, after, rfl, hafter⟩
    refine ⟨before, _, after, rfl, rfl, fun later hlater other hother => hafter later hlater ?_⟩
    exact (Prod.mk.inj (Option.some.inj hother)).1

/-- **What a name stands for is the last pair of both lists together.** -/
theorem standsFor_iff :
    StandsFor models assignments name path ↔
      lastFor name (configured models ++ assigned assignments) = some path := by
  -- The pairs of the assignments come last, so those of the settings count only without them.
  rw [lastFor_append, Option.or_eq_some_iff, lastFor_assigned_eq_some_iff,
    lastFor_assigned_eq_none_iff, lastFor_configured_eq_some_iff]
  constructor
  · rintro (⟨hsplit, hassigns, hlast⟩ | ⟨hunassigned, hsplit, hlast⟩)
    · exact .inl ⟨_, _, _, hsplit, hassigns, hlast⟩
    · exact .inr ⟨hunassigned, _, _, hsplit, hlast⟩
  · rintro (⟨_, _, _, hsplit, hassigns, hlast⟩ | ⟨hunassigned, _, _, hsplit, hlast⟩)
    · exact .assigned hsplit hassigns hlast
    · exact .configured hunassigned hsplit hlast

/-- The registry of the entries of the settings and of the assignments. -/
def Registry.ofEntries (files : FileSystem) (models : List ModelEntry) (assignments : List String) :
    Registry :=
  .files files (configured models ++ assigned assignments)

theorem Registry.resolves_ofEntries (files : FileSystem) (models : List ModelEntry)
    (assignments : List String) :
    (Registry.ofEntries files models assignments).Resolves files models assignments := by
  refine ⟨fun name => ?_, fun name path => standsFor_iff.symm, fun name path h => ?_⟩
  · simp only [standsFor_iff, exists_lastFor_iff]
    exact List.contains_iff_mem
  · rw [ofEntries, deliveries, standsFor_iff.mp h]

end Resolution

end Dialogue
