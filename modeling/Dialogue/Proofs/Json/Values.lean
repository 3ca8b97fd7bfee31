import Dialogue.Proofs.Json.Reading
import Dialogue.Wire

/-!
# Values from their JSON texts

Tokens, commands, turns and requests are written as documents whose strings have texts and whose
numbers are integers, but for temperatures. The document of a value is taken apart into the value
again, and so the value is read back from its JSON text.

## Main definitions

* `Wire.Restores value`: the document of the value is faithful and gives the value back

## Main results

* `Json.int64?_ofInt64`: every integer of 64 bits is read back from its digits
* `Json.fields?_record`: the fields of a record by their names
* `Wire.Restores.decode?_encode`: such a value is read back from its JSON text
* `json_reversible`: all values but temperatures are read back from their JSON texts
-/

namespace Dialogue

/-! ## Numbers -/

theorem Decimal.natOfDigits_toDigits (value : Nat) :
    natOfDigits (Nat.toDigits 10 value) = value := by
  have hfold : ∀ digits, natOfDigits digits = Nat.ofDigitChars 10 digits 0 := by
    intro digits
    simp only [natOfDigits, Nat.ofDigitChars_eq_foldl, Nat.mul_comm 10]
    rfl
  rw [hfold, Nat.ofDigitChars_ten_toDigits]

namespace Json

open Decimal (natOfDigits_toDigits)

theorem all_isDigit_toDigits (value : Nat) :
    (Nat.toDigits 10 value).all Char.isDigit = true :=
  List.all_eq_true.mpr (isWhole_toDigits value).isDigit

theorem nat?_ofNat {value : Nat} (h : value ≤ maxWord) : (ofNat value).nat? = some value := by
  simp [ofNat, nat?, natOfNumber?, natOfDigits_toDigits, all_isDigit_toDigits, h]

theorem int64OfNumber?_negative {value : Nat} (hpos : value ≠ 0) (h : value ≤ 0x8000000000000000) :
    int64OfNumber? ('-' :: Nat.toDigits 10 value) = some (Int64.ofInt (-(value : Int))) := by
  simp [int64OfNumber?, natOfDigits_toDigits, all_isDigit_toDigits, h, hpos]

theorem int64OfNumber?_whole {value : Nat} (h : value < 0x8000000000000000) :
    int64OfNumber? (Nat.toDigits 10 value) = some (Int64.ofInt value) := by
  obtain ⟨c, rest, hdigits, hdigit⟩ := (isWhole_toDigits value).exists_cons
  rw [int64OfNumber?]
  · simp [natOfDigits_toDigits, all_isDigit_toDigits, h]
  · rintro digits hminus
    rw [hminus] at hdigits
    cases hdigits
    cases hdigit

/-- **Every integer of 64 bits is read back from its digits**, the smallest included. -/
theorem int64?_ofInt64 (value : Int64) : (ofInt64 value).int64? = some value := by
  have hle := value.le_toInt
  have hlt := value.toInt_lt
  by_cases hnegative : value.toInt < 0
  · have habs : -(value.toInt.natAbs : Int) = value.toInt := by omega
    simp only [ofInt64, int64?, if_pos hnegative]
    rw [int64OfNumber?_negative (by omega) (by omega), habs, Int64.ofInt_toInt]
  · have habs : (value.toInt.natAbs : Int) = value.toInt := by omega
    simp only [ofInt64, int64?, if_neg hnegative]
    rw [int64OfNumber?_whole (by omega), habs, Int64.ofInt_toInt]

theorem Faithful.ofNat (value : Nat) : Faithful (.ofNat value) :=
  .number (.whole (isWhole_toDigits value))

theorem Faithful.ofInt64 (value : Int64) : Faithful (.ofInt64 value) := by
  rw [Json.ofInt64]
  split
  · exact .number (.negative (isWhole_toDigits _))
  · exact .number (.whole (isWhole_toDigits _))

/-! ## Records -/

theorem Faithful.record {members : List (String × Json)}
    (h : ∀ member ∈ members, Faithful member.2) : Faithful (.record members) := by
  refine .object (fun member hmem => ?_) (fun member hmem => ?_)
  · obtain ⟨field, -, rfl⟩ := List.mem_map.mp hmem
    rfl
  · obtain ⟨field, hfield, rfl⟩ := List.mem_map.mp hmem
    exact h field hfield

theorem valuesOf_record_of_not_mem {members : List (String × Json)} {name : String}
    (h : name ∉ members.map Prod.fst) :
    valuesOf name (members.map fun member => (some member.1, member.2)) = [] := by
  rw [valuesOf, List.filter_map, List.map_map, List.map_eq_nil_iff, List.filter_eq_nil_iff]
  intro member hmem heq
  have hname : member.1 = name := by simpa using heq
  exact h (hname ▸ List.mem_map_of_mem hmem)

theorem valuesOf_record {members : List (String × Json)} (h : (members.map Prod.fst).Nodup)
    (name : String) :
    valuesOf name (members.map fun member => (some member.1, member.2)) =
      (members.lookup name).toList := by
  induction members with
  | nil => rfl
  | cons member members ih =>
    obtain ⟨key, value⟩ := member
    obtain ⟨hkey, hmembers⟩ := List.nodup_cons.mp h
    by_cases hname : key = name
    · -- The key comes only once, so there are no values after this one.
      subst hname
      have hrest := valuesOf_record_of_not_mem hkey
      simp only [valuesOf] at hrest
      simp [valuesOf, hrest]
    · have hrest := ih hmembers
      simp only [valuesOf] at hrest
      have hlookup : List.lookup name ((key, value) :: members) = List.lookup name members := by
        rw [List.lookup_cons, beq_false_of_ne (Ne.symm hname)]
      simp [valuesOf, hname, hlookup, hrest]

/-- A record has at most one member with a key. -/
theorem member?_record {members : List (String × Json)} (h : (members.map Prod.fst).Nodup)
    (name : String) :
    member? name (members.map fun member => (some member.1, member.2)) =
      some (members.lookup name) := by
  rw [member?, valuesOf_record h]
  cases members.lookup name <;> rfl

/-- **The fields of a record by their names**, those that are missing included. -/
theorem fields?_record {members : List (String × Json)} (h : (members.map Prod.fst).Nodup)
    (names : List String) :
    (record members).fields? names = some (names.map fun name => members.lookup name) := by
  have hkeys : (members.map fun member => (some member.1, member.2)).all (·.1.isSome) = true := by
    rw [List.all_map, List.all_eq_true]
    intro member _
    rfl
  rw [record, fields?, if_pos hkeys]
  induction names with
  | nil => rfl
  | cons name names ih =>
    rw [List.mapM_cons, member?_record h, ih]
    rfl

theorem optional?_ofInt64 (value : Int64) :
    optional? int64? (some (ofInt64 value)) = some (some value) :=
  congrArg (Option.map some) (int64?_ofInt64 value)

/-- A seed is read back where an absent one is written as `null`. -/
theorem optional?_orNull_seed (seed : Option Int64) :
    optional? int64? (some (orNull (seed.map ofInt64))) = some seed := by
  cases seed with
  | none => rfl
  | some value => exact optional?_ofInt64 value

/-- A seed is read back where an absent one is left out. -/
theorem optional?_seed (seed : Option Int64) :
    optional? int64? (seed.map ofInt64) = some seed := by
  cases seed with
  | none => rfl
  | some value => exact optional?_ofInt64 value

theorem Faithful.orNull_seed (seed : Option Int64) :
    Faithful (.orNull (seed.map Json.ofInt64)) := by
  cases seed with
  | none => exact .null
  | some value => exact .ofInt64 value

theorem text?_text (content : String) : (text content).text? = some content := rfl

theorem Faithful.array_map {α : Type} {write : α → Json} {values : List α}
    (h : ∀ value ∈ values, Faithful (write value)) : Faithful (.array (values.map write)) := by
  refine .array fun item hmem => ?_
  obtain ⟨value, hvalue, rfl⟩ := List.mem_map.mp hmem
  exact h value hvalue

/-- A list of documents that give their values back gives the list back. -/
theorem list?_array_map {α : Type} {read : Json → Option α} {write : α → Json}
    {values : List α} (h : ∀ value ∈ values, read (write value) = some value) :
    (Json.array (values.map write)).list? read = some values := by
  rw [list?]
  induction values with
  | nil => rfl
  | cons value values ih =>
    rw [List.map_cons, List.mapM_cons, h value List.mem_cons_self,
      ih fun value hmem => h value (List.mem_cons_of_mem _ hmem)]
    rfl

end Json

/-! ## Values -/

namespace Wire

/-- The document of a value is faithful and gives the value back. -/
structure Restores {α : Type} [Wire α] (value : α) : Prop where
  faithful : (toJson value).Faithful
  ofJson?_toJson : ofJson? (toJson value) = some value

/-- **A value that its document gives back is read back from its JSON text.** -/
theorem Restores.decode?_encode {α : Type} [Wire α] {value : α} (h : Restores value)
    (layout : Json.Layout) : decode? α (encode layout value) = some value := by
  rw [decode?, encode, h.faithful.parse?_render, Option.bind_some, h.ofJson?_toJson]

end Wire

open Wire (Restores)
open Json (Faithful)

theorem Wire.restores_name (name : String) : Restores name :=
  ⟨.text name, rfl⟩

theorem Role.restores (role : Role) : Restores role := by
  refine ⟨.text role.name, ?_⟩
  cases role <;> rfl

theorem Token.Kind.restores (kind : Token.Kind) : Restores kind := by
  refine ⟨.text kind.name, ?_⟩
  cases kind with
  | keyword opener =>
    cases opener with
    | selectModel => rfl
    | speak role => cases role <;> rfl
  | _ => rfl

theorem Token.restores {token : Token} (hline : token.position.line ≤ Json.maxWord)
    (hcolumn : token.position.column ≤ Json.maxWord) : Restores token := by
  refine ⟨.record ?_, ?_⟩
  · simp only [List.forall_mem_cons]
    exact ⟨token.kind.restores.faithful, .text _, .ofNat _, .ofNat _, nofun⟩
  · have hkind := token.kind.restores.ofJson?_toJson
    simp only [Wire.ofJson?, Wire.toJson] at hkind ⊢
    rw [Json.fields?_record (by simp)]
    simp [List.lookup_cons, hkind, Json.text?_text, Json.nat?_ofNat hline, Json.nat?_ofNat hcolumn]

theorem Turn.restores (turn : Turn) : Restores turn := by
  refine ⟨.record ?_, ?_⟩
  · simp only [List.forall_mem_cons]
    exact ⟨turn.role.restores.faithful, .text _, nofun⟩
  · have hrole := turn.role.restores.ofJson?_toJson
    simp only [Wire.ofJson?, Wire.toJson] at hrole ⊢
    rw [Json.fields?_record (by simp)]
    simp [List.lookup_cons, hrole, Json.text?_text]

theorem Message.restores (message : Message) : Restores message := by
  refine ⟨.record ?_, ?_⟩
  · simp only [List.forall_mem_cons]
    exact ⟨message.role.restores.faithful, .text _, nofun⟩
  · have hrole := message.role.restores.ofJson?_toJson
    simp only [Wire.ofJson?, Wire.toJson] at hrole ⊢
    rw [Json.fields?_record (by simp)]
    simp [List.lookup_cons, hrole, Json.text?_text]

theorem Transcript.restores (transcript : Transcript) : Restores transcript := by
  refine ⟨.array_map fun turn _ => turn.restores.faithful, ?_⟩
  have hturns : (Json.array (transcript.turns.map Wire.toJson)).list? Wire.ofJson? =
      some transcript.turns := Json.list?_array_map fun turn _ => turn.restores.ofJson?_toJson
  exact congrArg (Option.map Transcript.mk) hturns

/-- A command is told by its tag; the fields beside it are strings, and so can be held until the
tag is known. -/
theorem Command.restores (command : Command) : Restores command := by
  cases command with
  | selectModel name =>
    refine ⟨.record ?_, rfl⟩
    simp only [List.forall_mem_cons]
    exact ⟨.text _, .text _, nofun⟩
  | say turn =>
    obtain ⟨role, message⟩ := turn
    refine ⟨.record ?_, ?_⟩
    · simp only [List.forall_mem_cons]
      exact ⟨.text _, role.restores.faithful, .text _, nofun⟩
    · cases role <;> rfl

/-- Parameters without temperature are given back; an absent seed is read from `null`. -/
theorem Sampling.restores {sampling : Sampling} (h : sampling.temperature = none) :
    Restores sampling := by
  obtain ⟨seed, temperature, stream⟩ := sampling
  obtain rfl : temperature = none := h
  refine ⟨.record ?_, ?_⟩
  · simp only [List.forall_mem_cons]
    exact ⟨Faithful.orNull_seed seed, .null, .bool stream, nofun⟩
  · simp only [Wire.ofJson?, Wire.toJson]
    rw [Json.fields?_record (by simp)]
    show ofFields? (some (.orNull (seed.map .ofInt64))) (some .null) (.bool stream) = _
    rw [ofFields?, Json.optional?_orNull_seed]
    rfl

namespace Request

theorem ofJson?_of_fields {json messages stream : Json} {seed temperature : Option Json}
    {model : String} {sent : List Message} {sampling : Sampling}
    (hfields : json.fields? ["model", "messages", "seed", "temperature", "stream"] =
      some [some (.text model), some messages, seed, temperature, some stream])
    (hmessages : messages.list? Wire.ofJson? = some sent)
    (hsampling : Sampling.ofFields? seed temperature stream = some sampling) :
    Wire.ofJson? json = some (Request.mk model sent sampling) := by
  rw [Wire.ofJson?, instWire]
  simp only [hfields, Json.text?_text, hmessages, hsampling]

/-- The members of a request without temperature, of which the seed may be missing. -/
theorem toJson_eq (model : String) (messages : List Message) (seed : Option Int64)
    (stream : Bool) :
    Wire.toJson (Request.mk model messages ⟨seed, none, stream⟩) =
      .record (("model", .text model) :: ("messages", .array (messages.map Wire.toJson)) ::
        (optionalMember "seed" (seed.map .ofInt64) ++ [("stream", .bool stream)])) := by
  cases seed <;> rfl

/-- A request without temperature is given back; an absent seed is a member that is missing. -/
theorem restores {request : Request} (h : request.sampling.temperature = none) :
    Restores request := by
  obtain ⟨model, messages, seed, temperature, stream⟩ := request
  obtain rfl : temperature = none := h
  refine ⟨?_, ?_⟩
  · rw [toJson_eq]
    have hmessages : Faithful (.array (messages.map Wire.toJson)) :=
      .array_map fun message _ => message.restores.faithful
    have hseed : ∀ member ∈ optionalMember "seed" (seed.map .ofInt64), Faithful member.2 := by
      cases seed with
      | none => nofun
      | some value => simpa [optionalMember] using Faithful.ofInt64 value
    refine .record ?_
    simp only [List.forall_mem_cons, List.forall_mem_append]
    exact ⟨.text model, hmessages, hseed, .bool stream, nofun⟩
  · have hmessages : (Json.array (messages.map Wire.toJson)).list? Wire.ofJson? =
        some messages := Json.list?_array_map fun message _ => message.restores.ofJson?_toJson
    have hsampling : Sampling.ofFields? (seed.map .ofInt64) none (.bool stream) =
        some ⟨seed, none, stream⟩ := by
      rw [Sampling.ofFields?, Json.optional?_seed]
      rfl
    refine ofJson?_of_fields ?_ hmessages hsampling
    rw [toJson_eq, Json.fields?_record] <;> cases seed <;> simp [optionalMember, List.lookup_cons]

end Request

/-! ## Reading back -/

/-- **JSON texts are reversible.** A token whose line and column fit into 64 bits, the kind of a
token, a command, a role, the name of a model, a turn, a transcript, a message, and parameters and
requests without temperature are read back from their JSON texts, on one line or indented. So two
requests without temperature that have the same body are equal. -/
theorem json_reversible :
    (∀ token : Token, token.position.line ≤ Json.maxWord → token.position.column ≤ Json.maxWord →
      ∀ layout, Wire.decode? Token (Wire.encode layout token) = some token) ∧
    (∀ (kind : Token.Kind) layout,
      Wire.decode? Token.Kind (Wire.encode layout kind) = some kind) ∧
    (∀ (command : Command) layout,
      Wire.decode? Command (Wire.encode layout command) = some command) ∧
    (∀ (role : Role) layout, Wire.decode? Role (Wire.encode layout role) = some role) ∧
    (∀ (name : String) layout, Wire.decode? String (Wire.encode layout name) = some name) ∧
    (∀ (turn : Turn) layout, Wire.decode? Turn (Wire.encode layout turn) = some turn) ∧
    (∀ (transcript : Transcript) layout,
      Wire.decode? Transcript (Wire.encode layout transcript) = some transcript) ∧
    (∀ (message : Message) layout,
      Wire.decode? Message (Wire.encode layout message) = some message) ∧
    (∀ sampling : Sampling, sampling.temperature = none →
      ∀ layout, Wire.decode? Sampling (Wire.encode layout sampling) = some sampling) ∧
    (∀ request : Request, request.sampling.temperature = none →
      ∀ layout, Wire.decode? Request (Wire.encode layout request) = some request) ∧
    ∀ first second : Request, first.sampling.temperature = none →
      second.sampling.temperature = none →
      Wire.encode .pretty first = Wire.encode .pretty second → first = second := by
  refine ⟨fun _ hline hcolumn => (Token.restores hline hcolumn).decode?_encode,
    fun kind => kind.restores.decode?_encode, fun command => command.restores.decode?_encode,
    fun role => role.restores.decode?_encode, fun name => (Wire.restores_name name).decode?_encode,
    fun turn => turn.restores.decode?_encode,
    fun transcript => transcript.restores.decode?_encode,
    fun message => message.restores.decode?_encode,
    fun _ hnone => (Sampling.restores hnone).decode?_encode,
    fun _ hnone => (Request.restores hnone).decode?_encode, ?_⟩
  intro first second hfirst hsecond hbody
  -- Both requests are what the one body is read as.
  have hread := (Request.restores hfirst).decode?_encode .pretty
  rw [hbody, (Request.restores hsecond).decode?_encode .pretty] at hread
  exact (Option.some_inj.mp hread).symm

/-- A token with a quote and a control in it, on the last line that 64 bits can count. -/
def lastLineToken : Token := ⟨.prompt, "\"\x1f", ⟨Json.maxWord, 1⟩⟩

/-- A request with the smallest seed. -/
def smallestSeedRequest : Request := ⟨"m", [], ⟨some Int64.minValue, none, true⟩⟩

/-- Values at the limits of 64 bits are read back. -/
theorem json_reversible_limits :
    Wire.decode? Token (Wire.encode .pretty lastLineToken) = some lastLineToken ∧
      Wire.decode? Request (Wire.encode .compact smallestSeedRequest) =
        some smallestSeedRequest := by
  obtain ⟨htoken, -, -, -, -, -, -, -, -, hrequest, -⟩ := json_reversible
  have hline : lastLineToken.position.line ≤ Json.maxWord := Nat.le_refl _
  have hcolumn : lastLineToken.position.column ≤ Json.maxWord := by decide
  exact ⟨htoken lastLineToken hline hcolumn .pretty, hrequest smallestSeedRequest rfl .compact⟩

end Dialogue
