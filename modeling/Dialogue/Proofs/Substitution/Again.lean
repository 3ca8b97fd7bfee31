import Dialogue.Proofs.Substitution.Chain
import Mathlib.Data.List.Chain
import Mathlib.Data.List.Nodup

/-!
# Substituting again

A substitution leaves the conversation where it stopped, and a second one starts from there with no
name visited. So it walks along the rest of the same chain. If the chain has left the registry or
has met a failure, there is no rest, and the second substitution stops at once in the same way.

If the chain has come back to a name, then the second substitution starts on the cycle, whether or
not there was a tail before it, goes round once and is back at the same name.

## Main definitions

* `Registry.Selects registry name next`: the good chatfile of one name selects the other
* `Registry.Cycle registry name names`: the names of a cycle in the order in which they are selected
* `Registry.turnsOf registry name`: the turns of the chatfile of a name

## Main results

* `Clear.drop`: what comes after a part of a chain is the chain of the name reached there
* `Cycle.unique`: at most one cycle goes through a name
* `Stops.cycle`: a chain that comes back to its first name has gone round a cycle
* `substitute_again`: what a second substitution does after the first
-/

namespace Dialogue

namespace Registry

variable {registry : Registry} {model : Option String} {name next : String} {k : Nat}

/-- The chatfile of a name is registered and good, and selects the next name. -/
def Selects (registry : Registry) (name next : String) : Prop :=
  registry.contains name = true ∧
    ∃ parent, registry.compiled? name = some parent ∧ parent.model = some next

/-- The names of a cycle, each of which selects the next one and the last of which selects the first
one again. No name is on it twice. -/
structure Cycle (registry : Registry) (name : String) (names : List String) : Prop where
  head : names.head? = some name
  selects : (names ++ [name]).IsChain registry.Selects
  nodup : names.Nodup

/-- The turns of the chatfile of a name. -/
def turnsOf (registry : Registry) (name : String) : List Turn :=
  match registry.compiled? name with
  | none => []
  | some parent => parent.history.turns

theorem turnsAt_eq (model : Option String) (i : Nat) :
    registry.turnsAt model i = (registry.chain model i).elim [] registry.turnsOf := by
  rw [turnsAt]
  cases registry.chain model i <;> rfl

/-- The turns of the names that have been selected are those of the places on the chain. -/
theorem flatMap_turnsOf_visited (model : Option String) (k : Nat) :
    (registry.visited model k).flatMap registry.turnsOf =
      (List.range k).reverse.flatMap (registry.turnsAt model) := by
  rw [visited]
  induction (List.range k).reverse with
  | nil => rfl
  | cons i places ih =>
    rw [List.flatMap_cons, turnsAt_eq, ← ih]
    cases hname : registry.chain model i with
    | none => rw [List.filterMap_cons_none hname]; rfl
    | some name => rw [List.filterMap_cons_some hname]; rfl

/-! ## The rest of a chain -/

/-- The chain goes on from each of its names. -/
theorem chain_chain (i j : Nat) :
    registry.chain (registry.chain model i) j = registry.chain model (i + j) := by
  induction j with
  | zero => rfl
  | succ j ih => rw [chain, ih, ← Nat.add_assoc, chain]

/-- What comes after a part of a clear chain is clear. -/
theorem Clear.drop {i : Nat} (h : registry.Clear model k) :
    registry.Clear (registry.chain model i) (k - i) := by
  constructor
  · intro j hj
    rw [chain_chain]
    exact h.sound (i + j) (by omega)
  · intro j j' hlt hj'
    rw [chain_chain, chain_chain]
    exact h.distinct (i + j) (i + j') (by omega) (by omega)

namespace Stops

variable {n : Nat}

theorem again_of_ok (h : registry.Stops model k (.ok n)) :
    registry.Stops (registry.chain model k) 0 (.ok 0) := by
  cases h with
  | outside _ hunregistered => exact .outside clear_zero hunregistered

theorem again_of_unopened {error : RegistryError}
    (h : registry.Stops model k (.error (.unopened name error))) :
    registry.Stops (registry.chain model k) 0 (.error (.unopened name error)) := by
  cases h with
  | unopened _ hname hregistered hopen => exact .unopened clear_zero.sound hname hregistered hopen

theorem again_of_invalid {error : ParseError}
    (h : registry.Stops model k (.error (.invalid name error))) :
    registry.Stops (registry.chain model k) 0 (.error (.invalid name error)) := by
  cases h with
  | invalid _ hname hregistered hopen hcompile =>
    exact .invalid clear_zero.sound hname hregistered hopen hcompile

/-- Where a chain comes back to a name it starts anew, and comes back to the same name. -/
theorem again_of_circular (h : registry.Stops model k (.error (.circular name))) :
    registry.chain model k = some name ∧
      ∃ period, registry.Stops (some name) period (.error (.circular name)) := by
  cases h with
  | circular hclear hname hagain =>
    obtain ⟨i, hi, hsame⟩ := hagain
    -- The name is the one after `i` chatfiles, and the chain comes back to it after `k - i` more.
    have hrest : registry.Clear (some name) (k - i) := hsame ▸ hclear.drop (i := i)
    have hback : registry.chain (some name) (k - i) = some name := by
      rw [← hsame, chain_chain, Nat.add_sub_cancel' (Nat.le_of_lt hi), hname, hsame]
    exact ⟨hname, k - i, .circular hrest hback ⟨0, by omega, rfl⟩⟩

end Stops

/-! ## Cycles -/

theorem Selects.unique {next' : String} (h : registry.Selects name next)
    (h' : registry.Selects name next') : next = next' := by
  obtain ⟨-, parent, hcompiled, hmodel⟩ := h
  obtain ⟨-, parent', hcompiled', hmodel'⟩ := h'
  obtain rfl := Option.some.inj (hcompiled.symm.trans hcompiled')
  exact Option.some.inj (hmodel.symm.trans hmodel')

/-- From one name on there is only one way to go, so of two walks one is the start of the other. -/
theorem isPrefix_or_isPrefix_of_selects {names names' : List String}
    (h : (name :: names).IsChain registry.Selects)
    (h' : (name :: names').IsChain registry.Selects) : names <+: names' ∨ names' <+: names := by
  induction names generalizing name names' with
  | nil => exact Or.inl List.nil_prefix
  | cons next names ih =>
    cases names' with
    | nil => exact Or.inr List.nil_prefix
    | cons next' names' =>
      obtain ⟨hselects, hchain⟩ := List.isChain_cons_cons.mp h
      obtain ⟨hselects', hchain'⟩ := List.isChain_cons_cons.mp h'
      obtain rfl := hselects.unique hselects'
      rw [List.prefix_cons_inj, List.prefix_cons_inj]
      exact ih hchain hchain'

namespace Cycle

variable {names names' : List String}

/-- A cycle is not a proper part of another one, which would come back to its first name early. -/
theorem eq_of_isPrefix (h : registry.Cycle name names) (h' : registry.Cycle name names')
    (hstarts : names ++ [name] <+: names' ++ [name]) : names = names' := by
  rcases Nat.lt_or_ge names.length names'.length with hshort | hlong
  · have hinside : names ++ [name] <+: names' := by
      refine List.prefix_of_prefix_length_le hstarts (List.prefix_append names' [name]) ?_
      rw [List.length_append, List.length_singleton]
      exact hshort
    obtain ⟨more, rfl⟩ : ∃ more, names = name :: more := List.head?_eq_some_iff.mp h.head
    have hnodup := h'.nodup.sublist hinside.sublist
    simp at hnodup
  · have heq := hstarts.eq_of_length_le (by
      rw [List.length_append, List.length_append]
      omega)
    exact List.append_cancel_right heq

/-- **At most one cycle goes through a name.** -/
theorem unique (h : registry.Cycle name names) (h' : registry.Cycle name names') :
    names = names' := by
  obtain ⟨more, rfl⟩ : ∃ more, names = name :: more := List.head?_eq_some_iff.mp h.head
  obtain ⟨more', rfl⟩ : ∃ more, names' = name :: more := List.head?_eq_some_iff.mp h'.head
  rcases isPrefix_or_isPrefix_of_selects h.selects h'.selects with hstarts | hstarts
  · exact h.eq_of_isPrefix h' ((List.prefix_cons_inj name).mpr hstarts)
  · exact (h'.eq_of_isPrefix h ((List.prefix_cons_inj name).mpr hstarts)).symm

end Cycle

/-- The names of a chain select each other, up to the name where it has come to. -/
theorem isChain_visited (hsound : ∀ i < k, registry.Sound (registry.chain model i))
    (hname : registry.chain model k = some name) :
    ((registry.visited model k).reverse ++ [name]).IsChain registry.Selects := by
  induction k generalizing name with
  | zero => exact List.isChain_singleton name
  | succ k ih =>
    obtain ⟨last, parent, hlast, hregistered, hcompiled⟩ := hsound k (Nat.lt_succ_self k)
    have hmodel : parent.model = some name := by
      rw [← hname, chain, hlast]
      simp [hcompiled]
    have hchain := ih (fun i hi => hsound i (Nat.lt_succ_of_lt hi)) hlast
    rw [visited_succ hlast, List.reverse_cons]
    refine hchain.append (List.isChain_singleton name) ?_
    intro last' hlast' next hnext
    rw [List.getLast?_concat, Option.mem_some_iff] at hlast'
    obtain rfl : name = next := by simpa using hnext
    exact hlast' ▸ ⟨hregistered, parent, hcompiled, hmodel⟩

theorem head?_reverse_visited (hname : model = some name) (hk : 0 < k) :
    (registry.visited model k).reverse.head? = some name := by
  obtain ⟨k, rfl⟩ := Nat.exists_eq_add_of_lt hk
  rw [visited, ← List.filterMap_reverse, List.reverse_reverse, Nat.zero_add,
    List.range_succ_eq_map, List.filterMap_cons_some (show registry.chain model 0 = some name from
      hname)]
  rfl

/-- **A chain that comes back to its first name has gone round a cycle**, and has selected the names
of the cycle. -/
theorem Stops.cycle (h : registry.Stops (some name) k (.error (.circular name))) :
    registry.Cycle name (registry.visited (some name) k).reverse := by
  cases h with
  | circular hclear hname hagain =>
    obtain ⟨i, hi, -⟩ := hagain
    exact ⟨head?_reverse_visited rfl (by omega), isChain_visited hclear.sound hname,
      List.nodup_reverse.mpr hclear.nodup_visited⟩

/-! ## Two substitutions in a row -/

/-- **A second substitution goes on where the first one has stopped.** If the first one has come to
its end, the second one finds nothing to do; if it has met a chatfile that cannot be opened or is
no chatfile, the second one meets the same. Both change nothing. If the first one has come back
to a name, there is one cycle through this name, and the second one puts the turns of its chatfiles
before the conversation, each once and those of the last one first, and comes back to the name. -/
theorem substitute_again {conversation first : Conversation Transcript}
    {outcome : Except SubstitutionError Nat}
    (hfirst : Conversation.substitute registry conversation = (outcome, first)) :
    (∀ n, outcome = .ok n → Conversation.substitute registry first = (.ok 0, first)) ∧
    (∀ name error, outcome = .error (.unopened name error) →
      Conversation.substitute registry first = (.error (.unopened name error), first)) ∧
    (∀ name error, outcome = .error (.invalid name error) →
      Conversation.substitute registry first = (.error (.invalid name error), first)) ∧
    ∀ name, outcome = .error (.circular name) →
      first.model = some name ∧
      ∃ names, registry.Cycle name names ∧
        (∀ others, registry.Cycle name others → others = names) ∧
        Conversation.substitute registry first = (.error (.circular name),
          ⟨some name, ⟨names.reverse.flatMap registry.turnsOf ++ first.history.turns⟩⟩) := by
  obtain ⟨k, outcome', hstops⟩ := exists_stops registry conversation.model
  rw [hstops.substitute_eq] at hfirst
  obtain ⟨rfl, rfl⟩ := Prod.mk.inj hfirst
  -- The second substitution starts where the chain has stopped.
  have hagain : ∀ {k' result}, registry.Stops (registry.spliced conversation k).model k' result →
      Conversation.substitute registry (registry.spliced conversation k) =
        (result, registry.spliced (registry.spliced conversation k) k') :=
    fun hrest => hrest.substitute_eq
  refine ⟨?_, ?_, ?_, ?_⟩
  · rintro n rfl
    exact hagain hstops.again_of_ok
  · rintro name error rfl
    exact hagain hstops.again_of_unopened
  · rintro name error rfl
    exact hagain hstops.again_of_invalid
  · rintro name rfl
    obtain ⟨hname, period, hround⟩ := hstops.again_of_circular
    refine ⟨hname, (registry.visited (some name) period).reverse, hround.cycle,
      fun others hothers => hothers.unique hround.cycle, ?_⟩
    have hback : registry.chain (some name) period = some name := by
      cases hround with
      | circular _ hback _ => exact hback
    rw [hagain (hname ▸ hround), List.reverse_reverse, flatMap_turnsOf_visited]
    simp only [spliced, hname, hback]

/-- A tail that leads to a cycle of two names: the first substitution goes along both, and the
second one along the cycle alone. -/
theorem substitute_again_tail :
    let registry : Registry := .texts
      [("x", "FROM a\nASK zero\n"), ("a", "FROM b\nASK one\n"), ("b", "FROM a\nASK two\n")]
    let first : Conversation Transcript :=
      ⟨some "a", ⟨[⟨.user, "two"⟩, ⟨.user, "one"⟩, ⟨.user, "zero"⟩]⟩⟩
    Conversation.substitute registry ⟨some "x", ⟨[]⟩⟩ = (.error (.circular "a"), first) ∧
      Conversation.substitute registry first = (.error (.circular "a"),
        ⟨some "a", ⟨⟨.user, "two"⟩ :: ⟨.user, "one"⟩ :: first.history.turns⟩⟩) := by
  intro registry first
  have hfirst : Conversation.substitute registry ⟨some "x", ⟨[]⟩⟩ =
      (.error (.circular "a"), first) := by
    decide +kernel
  have ha : registry.compiled? "a" = some ⟨some "b", ⟨[⟨.user, "one"⟩]⟩⟩ := by decide +kernel
  have hb : registry.compiled? "b" = some ⟨some "a", ⟨[⟨.user, "two"⟩]⟩⟩ := by decide +kernel
  have hcycle : registry.Cycle "a" ["a", "b"] := by
    refine ⟨rfl, ?_, by decide⟩
    simp only [List.cons_append, List.nil_append, List.isChain_cons_cons, List.isChain_singleton,
      and_true]
    exact ⟨⟨by decide, _, ha, rfl⟩, by decide, _, hb, rfl⟩
  obtain ⟨-, -, -, hcircular⟩ := substitute_again hfirst
  obtain ⟨-, names, -, hunique, hsecond⟩ := hcircular "a" rfl
  obtain rfl := hunique _ hcycle
  refine ⟨hfirst, hsecond.trans ?_⟩
  simp [turnsOf, ha, hb]

end Registry

end Dialogue
