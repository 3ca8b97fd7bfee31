import Dialogue.Proofs.CommandLine.Agreement
import Dialogue.Proofs.Conversation.Effects
import Dialogue.Proofs.Json.Values
import Dialogue.Proofs.Substitution.Chain
import Dialogue.Proofs.Substitution.Names

/-!
# The stages of a request

A request is made in stages: the chatfile is loaded, the assignments of the command line are read,
registered models are substituted, and what comes out is written as the body of the request. Each
stage can fail, and the first one that does decides the outcome.

A request has no model if the conversation selects none in the end. That is decided by one chatfile
alone, the last one on the chain of models: each chatfile on the chain replaces the model of the one
before it.

## Main definitions

* `LastChatfile`: the last chatfile on the chain of models
* `SelectsModel deliveries`: there is a selection among the commands of a source
* `Turn.toMessage`, `requestBody`: the members of a message and of the body of a request
* `CommandLine.Answers`: the outcome of a request, with one case for each stage

## Main results

* `LastChatfile.chain_eq`: the last chatfile decides the model
* `Request.toJson_eq_requestBody`: a request is written as its members
* `CommandLine.runRequest_eq_iff`: the stages decide a request
* `CommandLine.request_resolves`: which names are registered, and what a request is answered
-/

namespace Dialogue

/-! ## The last chatfile of a chain -/

/-- The last chatfile on the chain of models that starts with the chatfile at a path, after `k`
registered ones: the chatfile at the path itself if there are none. -/
inductive LastChatfile (files : FileSystem) (path : String) (registry : Registry)
    (model : Option String) : Nat → List Delivery → Prop
  | itself {deliveries : List Delivery} (opened : (files path).deliveries = .ok deliveries) :
      LastChatfile files path registry model 0 deliveries
  | registered {k : Nat} {name : String} {deliveries : List Delivery}
      (selects : registry.chain model k = some name)
      (opened : registry.deliveries name = .ok deliveries) :
      LastChatfile files path registry model (k + 1) deliveries

/-- A source selects a model if there is a selection among its commands. -/
def SelectsModel (deliveries : List Delivery) : Prop :=
  ∃ name, Command.selectModel name ∈ (scanned deliveries).1

section LastChatfile

variable {files : FileSystem} {path : String} {registry : Registry}
  {conversation : Conversation Transcript} {deliveries : List Delivery} {k : Nat}

/-- The model of a chatfile is the one that it selects last. -/
theorem Conversation.model_of_ofDeliveries
    (h : Conversation.ofDeliveries deliveries = .ok conversation) :
    conversation.model = (Command.selections (scanned deliveries).1).getLast? := by
  rw [ofDeliveries, load_eq, Command.applyAll_eq] at h
  split at h
  · rename_i reached hreached
    obtain ⟨-, rfl⟩ := Prod.mk.inj hreached
    obtain rfl := Except.ok.inj h
    exact Option.or_none
  · cases h

theorem Conversation.exists_deliveries_of_ofFile
    (h : Conversation.ofFile files path = .ok conversation) :
    ∃ deliveries, (files path).deliveries = .ok deliveries ∧
      Conversation.ofDeliveries deliveries = .ok conversation := by
  rw [ofFile] at h
  split at h
  · cases h
  · rename_i deliveries hopened
    refine ⟨deliveries, hopened, ?_⟩
    split at h
    · rename_i compiled hcompiled
      rw [hcompiled, Except.ok.inj h]
    · cases h

theorem getLast?_selections_eq_none_iff :
    (Command.selections (scanned deliveries).1).getLast? = none ↔ ¬ SelectsModel deliveries := by
  rw [List.getLast?_eq_none_iff, Command.selections, List.filterMap_eq_nil_iff, SelectsModel,
    not_exists]
  constructor
  · intro hnone name hmem
    cases hnone _ hmem
  · intro hnone command hmem
    cases command with
    | selectModel name => exact absurd hmem (hnone name)
    | say turn => rfl

/-- **The last chatfile decides the model.** -/
theorem LastChatfile.chain_eq
    (h : LastChatfile files path registry conversation.model k deliveries)
    (hloaded : Conversation.ofFile files path = .ok conversation)
    (hsound : ∀ i < k, registry.Sound (registry.chain conversation.model i)) :
    registry.chain conversation.model k =
      (Command.selections (scanned deliveries).1).getLast? := by
  cases h with
  | itself hopened =>
    obtain ⟨deliveries', hopened', hcompiled⟩ := Conversation.exists_deliveries_of_ofFile hloaded
    obtain rfl := Except.ok.inj (hopened.symm.trans hopened')
    exact Conversation.model_of_ofDeliveries hcompiled
  | @registered k name _ hname hopened =>
    -- The name before is sound, so the chatfile that is opened for it gives the next name.
    obtain ⟨name', parent, hname', -, hcompiled⟩ := hsound k (Nat.lt_succ_self k)
    obtain rfl := Option.some.inj (hname.symm.trans hname')
    obtain ⟨deliveries', hopened', hparent⟩ := Registry.compiled?_eq_some_iff.mp hcompiled
    obtain rfl := Except.ok.inj (hopened.symm.trans hopened')
    rw [Registry.chain, hname, Option.bind_some, hcompiled, Option.bind_some]
    exact Conversation.model_of_ofDeliveries hparent

theorem exists_lastChatfile (hloaded : Conversation.ofFile files path = .ok conversation)
    (hsound : ∀ i < k, registry.Sound (registry.chain conversation.model i)) :
    ∃ deliveries, LastChatfile files path registry conversation.model k deliveries := by
  cases k with
  | zero =>
    obtain ⟨deliveries, hopened, -⟩ := Conversation.exists_deliveries_of_ofFile hloaded
    exact ⟨deliveries, .itself hopened⟩
  | succ k =>
    obtain ⟨name, parent, hname, -, hcompiled⟩ := hsound k (Nat.lt_succ_self k)
    obtain ⟨deliveries, hopened, -⟩ := Registry.compiled?_eq_some_iff.mp hcompiled
    exact ⟨deliveries, .registered hname hopened⟩

/-- A substitution that succeeds leaves no model if the last chatfile selects none. -/
theorem LastChatfile.chain_eq_none_iff
    (h : LastChatfile files path registry conversation.model k deliveries)
    (hloaded : Conversation.ofFile files path = .ok conversation)
    (hsound : ∀ i < k, registry.Sound (registry.chain conversation.model i)) :
    registry.chain conversation.model k = none ↔ ¬ SelectsModel deliveries := by
  rw [h.chain_eq hloaded hsound, getLast?_selections_eq_none_iff]

end LastChatfile

/-! ## The body of a request -/

/-- The message for a turn, with its role and its content. -/
def Turn.toMessage (turn : Turn) : Json :=
  let role := match turn.role with
    | .system => "system"
    | .user => "user"
    | .assistant => "assistant"
  .object [(some "role", .string (some role)), (some "content", .string (some turn.message))]

/-- The body of a request: the model, a message for each turn, and the parameters of sampling, of
which the numbers may be missing. -/
def requestBody (model : String) (turns : List Turn) (sampling : Sampling) : Json :=
  .object (
    [(some "model", .string (some model)), (some "messages", .array (turns.map Turn.toMessage))] ++
    (sampling.seed.map fun seed => (some "seed", Json.ofInt64 seed)).toList ++
    (sampling.temperature.map fun temperature =>
      (some "temperature", Json.ofFloat temperature)).toList ++
    [(some "stream", .bool sampling.stream)])

/-- **A request is written as its members.** -/
theorem Request.toJson_eq_requestBody (model : String) (turns : List Turn) (sampling : Sampling) :
    Wire.toJson (Request.mk model (turns.map Message.ofTurn) sampling) =
      requestBody model turns sampling := by
  have hmessages : (turns.map Message.ofTurn).map Wire.toJson = turns.map Turn.toMessage := by
    rw [List.map_map]
    refine List.map_congr_left fun turn _ => ?_
    obtain ⟨role, message⟩ := turn
    cases role <;> rfl
  obtain ⟨seed, temperature, stream⟩ := sampling
  rw [requestBody, ← hmessages]
  cases seed <;> cases temperature <;> rfl

/-- The body of a request without temperature can be read back. -/
theorem parse?_requestBody (model : String) (turns : List Turn) {sampling : Sampling}
    (h : sampling.temperature = none) :
    Json.parse? ((requestBody model turns sampling).render .pretty) =
      some (requestBody model turns sampling) := by
  have hrestores : Wire.Restores (Request.mk model (turns.map Message.ofTurn) sampling) :=
    Request.restores h
  rw [← Request.toJson_eq_requestBody]
  exact hrestores.faithful.parse?_render .pretty

namespace CommandLine

/-! ## The stages -/

/-- The outcome of a request for the chatfile at a path. Each case is a stage that decides it,
after the stages before it have succeeded. -/
inductive Answers (files : FileSystem) (path : String) (settings : Settings)
    (assignments : List String) (registry : Registry) : Outcome → Prop
  /-- The chatfile does not load. -/
  | unloaded {error : LoadError} (failed : Conversation.ofFile files path = .error error) :
      Answers files path settings assignments registry (.failed (.loading error))
  /-- Some text is no assignment, whether or not its name is needed. -/
  | rejected {conversation : Conversation Transcript} {text : String}
      (loaded : Conversation.ofFile files path = .ok conversation)
      (first : FirstRejected assignments text) :
      Answers files path settings assignments registry (.failed (.assignment ⟨text⟩))
  /-- The substitution of models fails. -/
  | unsubstituted {conversation : Conversation Transcript} {k : Nat} {error : SubstitutionError}
      (loaded : Conversation.ofFile files path = .ok conversation)
      (accepted : ∀ text ∈ assignments, IsAssignment text)
      (stops : registry.Stops conversation.model k (.error error)) :
      Answers files path settings assignments registry (.failed (.substitution error))
  /-- The last chatfile selects no model. -/
  | unselected {conversation : Conversation Transcript} {k : Nat} {deliveries : List Delivery}
      (loaded : Conversation.ofFile files path = .ok conversation)
      (accepted : ∀ text ∈ assignments, IsAssignment text)
      (stops : registry.Stops conversation.model k (.ok k))
      (last : LastChatfile files path registry conversation.model k deliveries)
      (selectsNone : ¬ SelectsModel deliveries) :
      Answers files path settings assignments registry (.failed (.request .missingModel))
  /-- The body of the request: the model at the end of the chain, and the turns of all chatfiles. -/
  | answered {conversation : Conversation Transcript} {k : Nat} {deliveries : List Delivery}
      {name : String}
      (loaded : Conversation.ofFile files path = .ok conversation)
      (accepted : ∀ text ∈ assignments, IsAssignment text)
      (stops : registry.Stops conversation.model k (.ok k))
      (last : LastChatfile files path registry conversation.model k deliveries)
      (selectsSome : SelectsModel deliveries)
      (selects : registry.chain conversation.model k = some name)
      (unregistered : registry.contains name = false) :
      Answers files path settings assignments registry
        (.done ((requestBody name (registry.spliced conversation k).history.turns
          settings.sampling).render .pretty ++ "\n"))

section Stages

variable {files : FileSystem} {path : String} {settings : Settings} {assignments : List String}
  {conversation : Conversation Transcript} {k : Nat}

theorem registryOf_of_assignments (h : ∀ text ∈ assignments, IsAssignment text) :
    registryOf files settings.models assignments =
      .ok (.ofEntries files settings.models assignments) := by
  rw [registryOf, mapM_parseAssignment_of_assignments h]
  rfl

theorem runRequest_of_unloaded {error : LoadError}
    (h : Conversation.ofFile files path = .error error) :
    runRequest files path settings assignments = .failed (.loading error) := by
  simp only [runRequest, requestOf, h]

theorem runRequest_of_rejected {text : String}
    (hloaded : Conversation.ofFile files path = .ok conversation)
    (hfirst : FirstRejected assignments text) :
    runRequest files path settings assignments = .failed (.assignment ⟨text⟩) := by
  simp only [runRequest, requestOf, hloaded, registryOf, hfirst.mapM_eq]

section Assignments

variable (hloaded : Conversation.ofFile files path = .ok conversation)
  (haccepted : ∀ text ∈ assignments, IsAssignment text)

include hloaded haccepted

theorem runRequest_of_unsubstituted {error : SubstitutionError}
    (hstops : (Registry.ofEntries files settings.models assignments).Stops conversation.model k
      (.error error)) :
    runRequest files path settings assignments = .failed (.substitution error) := by
  simp only [runRequest, requestOf, hloaded, registryOf_of_assignments haccepted,
    hstops.substitute_eq]

theorem runRequest_of_substituted {n : Nat}
    (hstops : (Registry.ofEntries files settings.models assignments).Stops conversation.model k
      (.ok n)) :
    runRequest files path settings assignments =
      match (Registry.ofEntries files settings.models assignments).chain conversation.model k with
      | none => .failed (.request .missingModel)
      | some name => .done ((requestBody name
          ((Registry.ofEntries files settings.models assignments).spliced conversation
            k).history.turns settings.sampling).render .pretty ++ "\n") := by
  simp only [runRequest, requestOf, hloaded, registryOf_of_assignments haccepted,
    hstops.substitute_eq, Request.ofConversation, Registry.spliced,
    ← Request.toJson_eq_requestBody]
  cases (Registry.ofEntries files settings.models assignments).chain conversation.model k <;> rfl

end Assignments

/-- Every request is answered. -/
theorem exists_answers (files : FileSystem) (path : String) (settings : Settings)
    (assignments : List String) :
    ∃ outcome, Answers files path settings assignments
      (Registry.ofEntries files settings.models assignments) outcome := by
  -- The same tests as in a request, in the same order.
  cases hloaded : Conversation.ofFile files path with
  | error error => exact ⟨_, .unloaded hloaded⟩
  | ok conversation =>
    rcases isAssignment_or_firstRejected assignments with haccepted | ⟨text, hfirst⟩
    · obtain ⟨k, result, hstops⟩ := Registry.exists_stops
        (Registry.ofEntries files settings.models assignments) conversation.model
      cases result with
      | error error => exact ⟨_, .unsubstituted hloaded haccepted hstops⟩
      | ok n =>
        obtain rfl : n = k := by cases hstops; rfl
        have hsound := hstops.clear.sound
        obtain ⟨deliveries, hlast⟩ := exists_lastChatfile hloaded hsound
        by_cases hselects : SelectsModel deliveries
        · have hsome := mt (hlast.chain_eq_none_iff hloaded hsound).mp (not_not_intro hselects)
          obtain ⟨name, hname⟩ := Option.ne_none_iff_exists'.mp hsome
          cases hstops with
          | outside hclear hunregistered =>
            exact ⟨_, .answered hloaded haccepted (.outside hclear hunregistered) hlast hselects
              hname (hunregistered name hname)⟩
        · exact ⟨_, .unselected hloaded haccepted hstops hlast hselects⟩
    · exact ⟨_, .rejected hloaded hfirst⟩

/-- The program does what the stages say. -/
theorem Answers.runRequest_eq {outcome : Outcome}
    (h : Answers files path settings assignments
      (Registry.ofEntries files settings.models assignments) outcome) :
    runRequest files path settings assignments = outcome := by
  cases h with
  | unloaded hfailed => exact runRequest_of_unloaded hfailed
  | rejected hloaded hfirst => exact runRequest_of_rejected hloaded hfirst
  | unsubstituted hloaded haccepted hstops =>
    exact runRequest_of_unsubstituted hloaded haccepted hstops
  | unselected hloaded haccepted hstops hlast hselects =>
    rw [runRequest_of_substituted hloaded haccepted hstops,
      (hlast.chain_eq_none_iff hloaded hstops.clear.sound).mpr hselects]
  | answered hloaded haccepted hstops _ _ hname _ =>
    rw [runRequest_of_substituted hloaded haccepted hstops, hname]

/-- **The stages decide a request.** -/
theorem runRequest_eq_iff {outcome : Outcome} :
    runRequest files path settings assignments = outcome ↔
      Answers files path settings assignments
        (Registry.ofEntries files settings.models assignments) outcome := by
  refine ⟨?_, Answers.runRequest_eq⟩
  rintro rfl
  obtain ⟨outcome, h⟩ := exists_answers files path settings assignments
  exact h.runRequest_eq ▸ h

end Stages

section Requests

variable {files : FileSystem} {arguments : List String} {invocation : Invocation}
  {settings : Settings}

/-- **A request resolves names, and the first stage that fails decides it.** A text is accepted as
an assignment if it has an equals sign with text on both sides of the first one, where it is
divided. There is a registry in which a name stands for the path of its last assignment, or else of
its last entry in the settings, and in which no other name is registered; it is the one that a
request uses once all assignments are accepted. With it the outcome is one of five, in this order:
the chatfile does not load, some text is no assignment, the substitution of models fails, the last
chatfile of the chain selects no model, or else one body is printed, with the model at the end of
the chain and all turns in order. Without a temperature in it, a body can be read back. -/
theorem request_resolves (hinvocation : Invocation.ofArguments arguments = .ok invocation)
    (hverb : invocation.verb = .request)
    (hsettings : Settings.load files invocation.layers = .ok settings) :
    (∀ text name path, parseAssignment text = .ok (name, path) ↔ Assigns text name path) ∧
    (∀ text, parseAssignment text = .error ⟨text⟩ ↔ ¬ IsAssignment text) ∧
    ∃ registry : Registry,
      registry.Resolves files settings.models invocation.choices.assignments ∧
      ((∀ text ∈ invocation.choices.assignments, IsAssignment text) →
        registryOf files settings.models invocation.choices.assignments = .ok registry) ∧
      (∀ outcome, run files arguments = outcome ↔
        Answers files invocation.path settings invocation.choices.assignments registry outcome) ∧
      (settings.sampling.temperature = none → ∀ name turns,
        Json.parse? ((requestBody name turns settings.sampling).render .pretty) =
          some (requestBody name turns settings.sampling)) := by
  have hrun : run files arguments =
      runRequest files invocation.path settings invocation.choices.assignments := by
    simp only [run, hinvocation, Invocation.run, hsettings, hverb]
  refine ⟨fun _ _ _ => parseAssignment_eq_ok_iff, fun _ => parseAssignment_eq_error_iff,
    .ofEntries files settings.models invocation.choices.assignments,
    Registry.resolves_ofEntries _ _ _, registryOf_of_assignments, fun outcome => ?_,
    fun htemperature name turns => parse?_requestBody name turns htemperature⟩
  rw [hrun]
  exact runRequest_eq_iff

end Requests

/-- Two chatfiles registered by a configuration file, `one` as `a` and `two` as `b`, and the
chatfile `talk` that selects `a`. There is no file `one`; the chatfile `x=y` selects `b`, and `two`
selects `m`. -/
def layeredFiles : FileSystem
  | "chatfile.toml" => .file
    [91, 91, 109, 111, 100, 101, 108, 115, 93, 93, 10, 110, 97, 109, 101, 61, 34, 97, 34, 10,
      112, 97, 116, 104, 61, 34, 111, 110, 101, 34, 10, 91, 91, 109, 111, 100, 101, 108, 115, 93,
      93, 10, 110, 97, 109, 101, 61, 34, 98, 34, 10, 112, 97, 116, 104, 61, 34, 116, 119, 111, 34,
      10]
  | "talk" => .file [70, 82, 79, 77, 32, 97, 10, 65, 83, 75, 32, 104, 105]
  | "x=y" => .file [70, 82, 79, 77, 32, 98, 10, 83, 89, 83, 84, 69, 77, 32, 98, 101]
  | "two" => .file [70, 82, 79, 77, 32, 109]
  | _ => .absent .notFound

/-- The registry of the two entries and of the assignment `a=x=y`. -/
def layeredRegistry : Registry :=
  .files layeredFiles [("a", "one"), ("b", "two"), ("a", "x=y")]

/-- A request for `talk` that assigns `x=y` to `a`. -/
def layeredRequest : Invocation := ⟨.request, "talk", { path := "talk", assignments := ["a=x=y"] }⟩

theorem exists_layeredSettings :
    ∃ settings, Settings.load layeredFiles layeredRequest.layers = .ok settings ∧
      settings.models = [⟨"a", "one"⟩, ⟨"b", "two"⟩] ∧ settings.sampling = ⟨none, none, true⟩ := by
  -- A temperature is not compared, so it is only told that there is none.
  have hload : (Settings.load layeredFiles layeredRequest.layers).toOption.map (fun settings =>
      (settings.models, settings.sampling.seed, settings.sampling.temperature.isNone,
        settings.sampling.stream)) =
      some ([⟨"a", "one"⟩, ⟨"b", "two"⟩], none, true, true) := by decide +kernel
  cases hsettings : Settings.load layeredFiles layeredRequest.layers with
  | error error =>
    rw [hsettings] at hload
    cases hload
  | ok settings =>
    obtain ⟨⟨seed, temperature, stream⟩, format, models⟩ := settings
    rw [hsettings] at hload
    simp only [Except.toOption, Option.map_some, Option.some.injEq, Prod.mk.injEq,
      Option.isNone_iff_eq_none] at hload
    obtain ⟨rfl, rfl, rfl, rfl⟩ := hload
    exact ⟨_, rfl, rfl, rfl⟩

theorem compiled?_layered_a :
    layeredRegistry.compiled? "a" = some ⟨some "b", ⟨[⟨.system, "be"⟩]⟩⟩ := by decide +kernel

theorem compiled?_layered_b : layeredRegistry.compiled? "b" = some ⟨some "m", ⟨[]⟩⟩ := by
  decide +kernel

theorem chain_layered_one : layeredRegistry.chain (some "a") 1 = some "b" := by
  simp [Registry.chain, compiled?_layered_a]

theorem chain_layered_two : layeredRegistry.chain (some "a") 2 = some "m" := by
  rw [Registry.chain, chain_layered_one]
  simp [compiled?_layered_b]

theorem stops_layered : layeredRegistry.Stops (some "a") 2 (.ok 2) := by
  refine .outside ((Registry.clear_zero.succ ?_ ?_).succ ?_ ?_) ?_
  · exact ⟨"a", _, rfl, by decide, compiled?_layered_a⟩
  · simp
  · exact ⟨"b", _, chain_layered_one, by decide, compiled?_layered_b⟩
  · intro i hi
    obtain rfl : i = 0 := by omega
    rw [chain_layered_one]
    simp [Registry.chain]
  · intro name hname
    obtain rfl := Option.some.inj (chain_layered_two.symm.trans hname)
    decide

/-- The assignment wins over the entry, and the chain goes on through the other entry. The body has
the model at its end, the message of the chatfile on the way, and that of the one asked for. -/
theorem request_resolves_layered :
    run layeredFiles ["request", "talk", "--load-as-model", "a=x=y"] =
      .done ("\x7b\n  \"model\": \"m\",\n  \"messages\": [\n    \x7b\n" ++
        "      \"role\": \"system\",\n      \"content\": \"be\"\n    \x7d,\n    \x7b\n" ++
        "      \"role\": \"user\",\n      \"content\": \"hi\"\n    \x7d\n  ],\n" ++
        "  \"stream\": true\n\x7d\n") := by
  have hinvocation : Invocation.ofArguments ["request", "talk", "--load-as-model", "a=x=y"] =
      .ok layeredRequest := rfl
  obtain ⟨settings, hsettings, hmodels, hsampling⟩ := exists_layeredSettings
  obtain ⟨hassigns, -, registry, -, hregistry, hanswers, -⟩ :=
    request_resolves hinvocation rfl hsettings
  have haccepted : ∀ text ∈ layeredRequest.choices.assignments, IsAssignment text := by
    intro text hmem
    obtain rfl : text = "a=x=y" := List.mem_singleton.mp hmem
    exact ⟨"a", "x=y", (hassigns _ _ _).mp rfl⟩
  obtain rfl : registry = layeredRegistry := by
    have hbuilt := hregistry haccepted
    rw [hmodels] at hbuilt
    exact (Except.ok.inj hbuilt).symm
  have hloaded : Conversation.ofFile layeredFiles "talk" =
      .ok ⟨some "a", ⟨[⟨.user, "hi"⟩]⟩⟩ := by decide +kernel
  have hselects : SelectsModel (deliver [70, 82, 79, 77, 32, 109]) := ⟨"m", by decide +kernel⟩
  have hlast : LastChatfile layeredFiles "talk" layeredRegistry (some "a") 2
      (deliver [70, 82, 79, 77, 32, 109]) := .registered chain_layered_one rfl
  have hturns : (layeredRegistry.spliced ⟨some "a", ⟨[⟨.user, "hi"⟩]⟩⟩ 2).history.turns =
      [⟨.system, "be"⟩, ⟨.user, "hi"⟩] := by
    simp [Registry.spliced, Registry.turnsAt, compiled?_layered_a, compiled?_layered_b,
      List.range_succ, Registry.chain]
  rw [(hanswers _).mpr (.answered hloaded haccepted stops_layered hlast hselects chain_layered_two
    (by decide)), hsampling, hturns]
  refine congrArg Outcome.done ?_
  decide +kernel

end CommandLine

end Dialogue
