import Dialogue.Registry
import Mathlib.Data.List.Perm.Subperm

/-!
# The chain of registered models

A conversation selects a model; the chatfile registered under that name selects another one, and so
on. This chain of names says all about a substitution. It stops where the chain leaves the
registry, where it comes back to a name, or at the first chatfile that cannot be opened or is no
chatfile, and up to there it has put the turns of the chatfiles on the chain before those of the
conversation, one chatfile after the other.

The names before that place are registered and different, so there are no more of them than
registered names. That a chatfile which fails has only different names before it needs no check:
each name decides the next one, so a chain that comes back to a name goes round for ever and never
meets a failure.

## Main definitions

* `Registry.chain registry model i`: the name after `i` chatfiles
* `Registry.spliced registry conversation k`: the conversation after `k` chatfiles
* `Registry.Clear registry model k`: the first `k` names are different and their chatfiles are good
* `Registry.Stops registry model k outcome`: the chain stops after `k` chatfiles, with an outcome

## Main results

* `Clear.substitute_eq`: after `k` chatfiles the substitution is at the `k`-th name of the chain
* `exists_stops`: every chain stops
* `substitute_follows_chain`: the substitution gives what the chain says
-/

namespace Dialogue

namespace Registry

/-- The conversation of the chatfile registered under a name, if the chatfile can be opened and
compiled. -/
def compiled? (registry : Registry) (name : String) : Option (Conversation Transcript) :=
  match registry.deliveries name with
  | .error _ => none
  | .ok deliveries => (Conversation.ofDeliveries deliveries).toOption

/-- The chain of names: each is the model that the chatfile of the one before selects. -/
def chain (registry : Registry) (model : Option String) : Nat → Option String
  | 0 => model
  | i + 1 => (registry.chain model i).bind fun name =>
      (registry.compiled? name).bind Conversation.model

/-- The turns of the chatfile of a name of the chain. -/
def turnsAt (registry : Registry) (model : Option String) (i : Nat) : List Turn :=
  match (registry.chain model i).bind registry.compiled? with
  | none => []
  | some parent => parent.history.turns

/-- The conversation after `k` chatfiles: it selects the next name of the chain, and the turns of
the last chatfile come first. -/
def spliced (registry : Registry) (conversation : Conversation Transcript) (k : Nat) :
    Conversation Transcript :=
  ⟨registry.chain conversation.model k,
    ⟨(List.range k).reverse.flatMap (registry.turnsAt conversation.model) ++
      conversation.history.turns⟩⟩

/-- There is a model, it is registered, and its chatfile can be opened and compiled. -/
def Sound (registry : Registry) (model : Option String) : Prop :=
  ∃ name parent, model = some name ∧ registry.contains name = true ∧
    registry.compiled? name = some parent

/-- The first `k` names of the chain are different, and their chatfiles are good. -/
structure Clear (registry : Registry) (model : Option String) (k : Nat) : Prop where
  sound : ∀ i < k, registry.Sound (registry.chain model i)
  distinct : ∀ i j, i < j → j < k → registry.chain model i ≠ registry.chain model j

/-- How the chain stops after `k` chatfiles, and what comes out. -/
inductive Stops (registry : Registry) (model : Option String) (k : Nat) :
    Except SubstitutionError Nat → Prop
  /-- It leaves the registry: no model is selected, or one that is not registered. -/
  | outside (clear : registry.Clear model k)
      (unregistered : ∀ name, registry.chain model k = some name →
        registry.contains name = false) :
      Stops registry model k (.ok k)
  /-- It comes back to a name. -/
  | circular {name : String} (clear : registry.Clear model k)
      (selects : registry.chain model k = some name)
      (again : ∃ i < k, registry.chain model i = some name) :
      Stops registry model k (.error (.circular name))
  /-- It comes to a chatfile that cannot be opened. -/
  | unopened {name : String} {error : RegistryError}
      (sound : ∀ i < k, registry.Sound (registry.chain model i))
      (selects : registry.chain model k = some name) (registered : registry.contains name = true)
      (failed : registry.deliveries name = .error error) :
      Stops registry model k (.error (.unopened name error))
  /-- It comes to a chatfile that does not compile. -/
  | invalid {name : String} {deliveries : List Delivery} {error : ParseError}
      (sound : ∀ i < k, registry.Sound (registry.chain model i))
      (selects : registry.chain model k = some name) (registered : registry.contains name = true)
      (opened : registry.deliveries name = .ok deliveries)
      (failed : Conversation.ofDeliveries deliveries = .error error) :
      Stops registry model k (.error (.invalid name error))

variable {registry : Registry} {model : Option String} {conversation : Conversation Transcript}
  {name : String} {parent : Conversation Transcript} {k : Nat}

theorem compiled?_eq_some_iff :
    registry.compiled? name = some parent ↔ ∃ deliveries,
      registry.deliveries name = .ok deliveries ∧
      Conversation.ofDeliveries deliveries = .ok parent := by
  unfold compiled?
  cases hopen : registry.deliveries name with
  | error error => simp
  | ok deliveries =>
    cases hcompile : Conversation.ofDeliveries deliveries <;> simp [hcompile, Except.toOption]

theorem not_sound_of_unopened {error : RegistryError}
    (hopen : registry.deliveries name = .error error) : ¬ registry.Sound (some name) := by
  rintro ⟨name', parent, hname, -, hcompiled⟩
  obtain rfl := Option.some.inj hname
  simp [compiled?, hopen] at hcompiled

theorem not_sound_of_invalid {deliveries : List Delivery} {error : ParseError}
    (hopen : registry.deliveries name = .ok deliveries)
    (hcompile : Conversation.ofDeliveries deliveries = .error error) :
    ¬ registry.Sound (some name) := by
  rintro ⟨name', parent, hname, -, hcompiled⟩
  obtain rfl := Option.some.inj hname
  simp [compiled?, hopen, hcompile, Except.toOption] at hcompiled

/-! ## Names that are different -/

theorem clear_zero : registry.Clear model 0 :=
  ⟨fun _ hi => absurd hi (Nat.not_lt_zero _), fun _ _ _ hj => absurd hj (Nat.not_lt_zero _)⟩

/-- One more name. -/
theorem Clear.succ (h : registry.Clear model k) (hsound : registry.Sound (registry.chain model k))
    (hfresh : ∀ i < k, registry.chain model i ≠ registry.chain model k) :
    registry.Clear model (k + 1) := by
  constructor
  · intro i hi
    rcases Nat.lt_succ_iff_lt_or_eq.mp hi with hi | rfl
    · exact h.sound i hi
    · exact hsound
  · intro i j hij hj
    rcases Nat.lt_succ_iff_lt_or_eq.mp hj with hj | rfl
    · exact h.distinct i j hij hj
    · exact hfresh i hij

theorem Clear.pred (h : registry.Clear model (k + 1)) : registry.Clear model k :=
  ⟨fun i hi => h.sound i (Nat.lt_succ_of_lt hi),
    fun i j hij hj => h.distinct i j hij (Nat.lt_succ_of_lt hj)⟩

/-- After the same name the chain goes on in the same way. -/
theorem chain_add_of_eq {i j : Nat} (h : registry.chain model i = registry.chain model j)
    (n : Nat) :
    registry.chain model (i + n) = registry.chain model (j + n) := by
  induction n with
  | zero => exact h
  | succ n ih => rw [← Nat.add_assoc, ← Nat.add_assoc, chain, chain, ih]

/-- **A chain that meets a failure has not come back to a name before.** -/
theorem clear_of_not_sound (hsound : ∀ i < k, registry.Sound (registry.chain model i))
    (hfails : ¬ registry.Sound (registry.chain model k)) : registry.Clear model k := by
  refine ⟨hsound, ?_⟩
  intro i j hij hj heq
  -- The failing name would also be the one as far after `i` as `k` is after `j`.
  have hback := chain_add_of_eq heq (k - j)
  rw [Nat.add_sub_cancel' (Nat.le_of_lt hj)] at hback
  refine hfails ?_
  rw [← hback]
  exact hsound (i + (k - j)) (by omega)

theorem Stops.clear {outcome : Except SubstitutionError Nat}
    (h : registry.Stops model k outcome) : registry.Clear model k := by
  cases h with
  | outside hclear _ => exact hclear
  | circular hclear _ _ => exact hclear
  | unopened hsound hname _ hopen =>
    refine clear_of_not_sound hsound ?_
    exact hname ▸ not_sound_of_unopened hopen
  | invalid hsound hname _ hopen hcompile =>
    refine clear_of_not_sound hsound ?_
    exact hname ▸ not_sound_of_invalid hopen hcompile

/-! ## The names that have been selected -/

/-- The first `k` names of the chain, the last one first. -/
def visited (registry : Registry) (model : Option String) (k : Nat) : List String :=
  (List.range k).reverse.filterMap (registry.chain model)

theorem visited_succ (h : registry.chain model k = some name) :
    registry.visited model (k + 1) = name :: registry.visited model k := by
  simp [visited, List.range_succ, h]

theorem mem_visited :
    name ∈ registry.visited model k ↔ ∃ i < k, registry.chain model i = some name := by
  simp [visited]

theorem Clear.length_visited (h : registry.Clear model k) :
    (registry.visited model k).length = k := by
  induction k with
  | zero => rfl
  | succ k ih =>
    obtain ⟨name, -, hname, -⟩ := h.sound k (Nat.lt_succ_self k)
    rw [visited_succ hname, List.length_cons, ih h.pred]

theorem Clear.not_mem_visited (h : registry.Clear model (k + 1))
    (hname : registry.chain model k = some name) : name ∉ registry.visited model k := by
  rw [mem_visited]
  rintro ⟨i, hi, hsame⟩
  exact h.distinct i k hi (Nat.lt_succ_self k) (hsame.trans hname.symm)

/-- A name whose chatfile fails has not been selected before. -/
theorem not_mem_visited_of_not_sound (hsound : ∀ i < k, registry.Sound (registry.chain model i))
    (hfails : ¬ registry.Sound (some name)) : name ∉ registry.visited model k := by
  rw [mem_visited]
  rintro ⟨i, hi, hsame⟩
  exact hfails (hsame ▸ hsound i hi)

theorem Clear.nodup_visited (h : registry.Clear model k) : (registry.visited model k).Nodup := by
  induction k with
  | zero => exact List.nodup_nil
  | succ k ih =>
    obtain ⟨name, -, hname, -⟩ := h.sound k (Nat.lt_succ_self k)
    rw [visited_succ hname]
    exact List.nodup_cons.mpr ⟨h.not_mem_visited hname, ih h.pred⟩

/-- **There are no more different names on the chain than registered ones.** -/
theorem Clear.le_length_names (h : registry.Clear model k) : k ≤ registry.names.length := by
  have hsubset : registry.visited model k ⊆ registry.names := by
    intro name hmem
    obtain ⟨i, hi, hname⟩ := mem_visited.mp hmem
    obtain ⟨name', -, hname', hcontains, -⟩ := h.sound i hi
    obtain rfl := Option.some.inj (hname.symm.trans hname')
    exact List.contains_iff_mem.mp hcontains
  calc k = (registry.visited model k).length := h.length_visited.symm
    _ ≤ registry.names.length := (List.subperm_of_subset h.nodup_visited hsubset).length_le

/-- Every chain stops. -/
theorem exists_stops (registry : Registry) (model : Option String) :
    ∃ k outcome, registry.Stops model k outcome := by
  -- A clear part of the chain can be made longer until it stops, and it has a bound.
  suffices hclear : ∀ k, registry.Clear model k → ∃ k outcome, registry.Stops model k outcome from
    hclear 0 clear_zero
  intro k hclear
  induction hleft : registry.names.length + 1 - k generalizing k with
  | zero =>
    have := hclear.le_length_names
    omega
  | succ left ih =>
    cases hname : registry.chain model k with
    | none => exact ⟨k, _, .outside hclear (by simp [hname])⟩
    | some name =>
      -- The same tests as in a substitution, in the same order.
      by_cases hregistered : registry.contains name = true
      · by_cases hagain : ∃ i < k, registry.chain model i = some name
        · exact ⟨k, _, .circular hclear hname hagain⟩
        · cases hopen : registry.deliveries name with
          | error error => exact ⟨k, _, .unopened hclear.sound hname hregistered hopen⟩
          | ok deliveries =>
            cases hcompile : Conversation.ofDeliveries deliveries with
            | error error => exact ⟨k, _, .invalid hclear.sound hname hregistered hopen hcompile⟩
            | ok parent =>
              -- A good chatfile under a new name: one more.
              refine ih (k + 1) (hclear.succ ?_ ?_) (by omega)
              · exact ⟨name, parent, hname, hregistered,
                  compiled?_eq_some_iff.mpr ⟨deliveries, hopen, hcompile⟩⟩
              · intro i hi hsame
                exact hagain ⟨i, hi, hsame.trans hname⟩
      · refine ⟨k, _, .outside hclear ?_⟩
        intro name' hname'
        obtain rfl := Option.some.inj (hname.symm.trans hname')
        simpa using hregistered

end Registry

/-! ## The substitution along the chain -/

namespace Conversation

variable {registry : Registry} {visited : List String} {conversation : Conversation Transcript}
  {name : String}

theorem substituteFrom_of_outside
    (h : ∀ name, conversation.model = some name → registry.contains name = false) :
    substituteFrom registry visited conversation = (.ok visited.length, conversation) := by
  rw [substituteFrom]
  split <;> simp_all

theorem substituteFrom_of_circular (hmodel : conversation.model = some name)
    (hregistered : registry.contains name = true) (hagain : name ∈ visited) :
    substituteFrom registry visited conversation = (.error (.circular name), conversation) := by
  rw [substituteFrom]
  split <;> simp_all

theorem substituteFrom_of_unopened {error : RegistryError}
    (hmodel : conversation.model = some name) (hregistered : registry.contains name = true)
    (hfresh : name ∉ visited) (hopen : registry.deliveries name = .error error) :
    substituteFrom registry visited conversation =
      (.error (.unopened name error), conversation) := by
  rw [substituteFrom]
  split <;> simp_all

theorem substituteFrom_of_invalid {deliveries : List Delivery} {error : ParseError}
    (hmodel : conversation.model = some name) (hregistered : registry.contains name = true)
    (hfresh : name ∉ visited) (hopen : registry.deliveries name = .ok deliveries)
    (hcompile : ofDeliveries deliveries = .error error) :
    substituteFrom registry visited conversation =
      (.error (.invalid name error), conversation) := by
  rw [substituteFrom]
  split <;> simp_all

/-- A good chatfile is put before the conversation. -/
theorem substituteFrom_of_compiled {parent : Conversation Transcript}
    (hmodel : conversation.model = some name) (hregistered : registry.contains name = true)
    (hfresh : name ∉ visited) (hcompiled : registry.compiled? name = some parent) :
    substituteFrom registry visited conversation =
      substituteFrom registry (name :: visited) (conversation.opening parent) := by
  obtain ⟨deliveries, hopen, hcompile⟩ := Registry.compiled?_eq_some_iff.mp hcompiled
  rw [substituteFrom]
  split <;> simp_all

end Conversation

namespace Registry

open Conversation (substituteFrom)

variable {registry : Registry} {conversation : Conversation Transcript} {k : Nat}

/-- One more chatfile on the chain is one more chatfile before the conversation. -/
theorem spliced_succ {name : String} {parent : Conversation Transcript}
    (hname : registry.chain conversation.model k = some name)
    (hcompiled : registry.compiled? name = some parent) :
    registry.spliced conversation (k + 1) = (registry.spliced conversation k).opening parent := by
  have hturns : registry.turnsAt conversation.model k = parent.history.turns := by
    simp [turnsAt, hname, hcompiled]
  have hchain : registry.chain conversation.model (k + 1) = parent.model := by
    simp [chain, hname, hcompiled]
  simp [spliced, Conversation.opening, Transcript.prepend, List.range_succ, hturns, hchain]

/-- **The substitution follows the chain**: after `k` good chatfiles with different names it is at
the next name, with the turns of these chatfiles before the conversation. -/
theorem Clear.substitute_eq (h : registry.Clear conversation.model k) :
    Conversation.substitute registry conversation =
      substituteFrom registry (registry.visited conversation.model k)
        (registry.spliced conversation k) := by
  induction k with
  | zero => rfl
  | succ k ih =>
    obtain ⟨name, parent, hname, hregistered, hcompiled⟩ := h.sound k (Nat.lt_succ_self k)
    rw [ih h.pred, spliced_succ hname hcompiled, visited_succ hname]
    exact Conversation.substituteFrom_of_compiled hname hregistered (h.not_mem_visited hname)
      hcompiled

/-- Where the chain stops the substitution stops, with the outcome of the chain. -/
theorem Stops.substitute_eq {outcome : Except SubstitutionError Nat}
    (h : registry.Stops conversation.model k outcome) :
    Conversation.substitute registry conversation =
      (outcome, registry.spliced conversation k) := by
  have hclear := h.clear
  rw [hclear.substitute_eq]
  cases h with
  | outside _ hunregistered =>
    rw [Conversation.substituteFrom_of_outside hunregistered, hclear.length_visited]
  | circular _ hname hagain =>
    obtain ⟨i, hi, hsame⟩ := hagain
    -- The name is registered because it has been good before.
    obtain ⟨name', -, hname', hregistered, -⟩ := hclear.sound i hi
    obtain rfl := Option.some.inj (hsame.symm.trans hname')
    exact Conversation.substituteFrom_of_circular hname hregistered (mem_visited.mpr ⟨i, hi, hsame⟩)
  | unopened hsound hname hregistered hopen =>
    refine Conversation.substituteFrom_of_unopened hname hregistered ?_ hopen
    exact not_mem_visited_of_not_sound hsound (not_sound_of_unopened hopen)
  | invalid hsound hname hregistered hopen hcompile =>
    refine Conversation.substituteFrom_of_invalid hname hregistered ?_ hopen hcompile
    exact not_mem_visited_of_not_sound hsound (not_sound_of_invalid hopen hcompile)

/-- **A substitution gives what the chain says.** The chain stops, after all registered names at
the latest; the outcome is that of the place where it stops, and the conversation is left with
exactly the chatfiles before that place put in front. -/
theorem substitute_follows_chain (registry : Registry) (conversation : Conversation Transcript) :
    (∃ k ≤ registry.names.length, ∃ outcome, registry.Stops conversation.model k outcome) ∧
    (∀ n, (Conversation.substitute registry conversation).1 = .ok n ↔
      registry.Stops conversation.model n (.ok n)) ∧
    (∀ error, (Conversation.substitute registry conversation).1 = .error error ↔
      ∃ k, registry.Stops conversation.model k (.error error)) ∧
    ∀ k outcome, registry.Stops conversation.model k outcome →
      (Conversation.substitute registry conversation).2 = registry.spliced conversation k := by
  obtain ⟨k, outcome, hstops⟩ := exists_stops registry conversation.model
  -- The run answers with the stop that its chain has, so a stop can be read off its answer.
  refine ⟨⟨k, hstops.clear.le_length_names, outcome, hstops⟩, ?_, ?_, ?_⟩
  · intro n
    constructor
    · intro hok
      rw [hstops.substitute_eq] at hok
      obtain rfl : outcome = .ok n := hok
      cases hstops with
      | outside hclear hunregistered => exact .outside hclear hunregistered
    · intro hstops
      rw [hstops.substitute_eq]
  · intro error
    constructor
    · intro herror
      rw [hstops.substitute_eq] at herror
      obtain rfl : outcome = .error error := herror
      exact ⟨k, hstops⟩
    · rintro ⟨k, hstops⟩
      rw [hstops.substitute_eq]
  · intro k outcome hstops
    rw [hstops.substitute_eq]

/-- Two chatfiles that select each other: both are put before the conversation, the second one
first, and then the chain is back at the first name. -/
theorem substitute_follows_chain_circular :
    Conversation.substitute (.texts [("a", "FROM b\nASK one\n"), ("b", "FROM a\nASK two\n")])
        ⟨some "a", ⟨[⟨.assistant, "three"⟩]⟩⟩ =
      (.error (.circular "a"),
        ⟨some "a", ⟨[⟨.user, "two"⟩, ⟨.user, "one"⟩, ⟨.assistant, "three"⟩]⟩⟩) := by
  let registry : Registry := .texts [("a", "FROM b\nASK one\n"), ("b", "FROM a\nASK two\n")]
  have hfirst : registry.compiled? "a" = some ⟨some "b", ⟨[⟨.user, "one"⟩]⟩⟩ := by decide +kernel
  have hsecond : registry.compiled? "b" = some ⟨some "a", ⟨[⟨.user, "two"⟩]⟩⟩ := by decide +kernel
  have hchain : registry.chain (some "a") 1 = some "b" := by simp [chain, hfirst]
  have hback : registry.chain (some "a") 2 = some "a" := by rw [chain, hchain]; simp [hsecond]
  have hclear : registry.Clear (some "a") 2 := by
    refine (clear_zero.succ ?_ ?_).succ ?_ ?_
    · exact ⟨"a", _, rfl, by decide, hfirst⟩
    · simp
    · exact ⟨"b", _, hchain, by decide, hsecond⟩
    · intro i hi
      obtain rfl : i = 0 := by omega
      rw [hchain]
      simp [chain]
  have hstops : registry.Stops (some "a") 2 (.error (.circular "a")) :=
    .circular hclear hback ⟨0, by decide, rfl⟩
  obtain ⟨-, -, herror, hcontext⟩ :=
    substitute_follows_chain registry ⟨some "a", ⟨[⟨.assistant, "three"⟩]⟩⟩
  refine Prod.ext (herror (.circular "a") |>.mpr ⟨2, hstops⟩) ((hcontext 2 _ hstops).trans ?_)
  simp [spliced, turnsAt, hfirst, hsecond, List.range_succ, chain]

end Registry

end Dialogue
