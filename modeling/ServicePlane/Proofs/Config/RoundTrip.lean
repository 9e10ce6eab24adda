import ServicePlane.Config.Codec
import ServicePlane.Operator.View
import ServicePlane.Proofs.Json.Encoding

/-!
# Round trips

Every type that the plane exchanges as JSON is read back from what it is written as, both as a value
and as a text. Whatever was accepted from outside, in whatever spelling, is written in one form, and
this form is read back as the same and written again as it stands.

* `Undoes` for each type — reading undoes writing, with the decisions of any format;
* `Exact` for each type — what is written holds no number that a text could not hold;
* `codecs_round_trip` — the round trips.
-/

namespace ServicePlane

namespace Json

/-- Read a value, and write what was read. -/
def recode {α : Type} (read : Dialect → Document → Except ReadError α) (encode : α → Json)
    (v : Json) : Except ReadError Json :=
  (decode read v).map encode

/-- Read a text, and write what was read. -/
def recodeText {α : Type} (read : Dialect → Document → Except ReadError α) (encode : α → Json)
    (text : String) : Except ReadError Json :=
  (decodeText read text).map encode

end Json

/-- What was written is read back, and what was read from a value or a text is written in a form
that is read and written again as it stands. -/
structure RoundTrips {α : Type} (read : Dialect → Document → Except ReadError α)
    (encode : α → Json) : Prop where
  decode_encode : ∀ a v, (encode a).Rearranged v → Json.decode read v = .ok a
  decodeText_encode : ∀ a, Json.decodeText read (encode a).render = .ok a
  recode_recoded : ∀ w, ((∃ v, Json.recode read encode v = .ok w) ∨
      ∃ text, Json.recodeText read encode text = .ok w) →
    (∀ w', w.Rearranged w' → Json.recode read encode w' = .ok w) ∧
      Json.recodeText read encode w.render = .ok w

theorem exists_of_map_eq_ok {ε α β : Type} {x : Except ε α} {f : α → β} {b : β}
    (h : x.map f = .ok b) : ∃ a, f a = b := by
  cases x with
  | error e =>
      cases h
  | ok a =>
      exact ⟨a, Except.ok.inj h⟩

theorem roundTrips_of_undoes {α : Type} {read : Dialect → Document → Except ReadError α}
    {encode : α → Json} (hundoes : ∀ φ, Undoes (read φ) encode)
    (hexact : ∀ a, (encode a).Exact) : RoundTrips read encode := by
  have hvalue : ∀ a v, (encode a).Rearranged v → Json.decode read v = .ok a :=
    fun a v hv => hundoes .valueTree a v hv
  have htext : ∀ a, Json.decodeText read (encode a).render = .ok a := by
    intro a
    rw [Json.decodeText_render read (hexact a)]
    exact hundoes .valueText a _ (Json.Rearranged.refl _)
  refine ⟨hvalue, htext, ?_⟩
  intro w hw
  -- What was written stands for a value of the type, whatever it was read from.
  obtain ⟨a, rfl⟩ : ∃ a, encode a = w := by
    rcases hw with ⟨v, hv⟩ | ⟨text, hv⟩
    · exact exists_of_map_eq_ok hv
    · exact exists_of_map_eq_ok hv
  constructor
  · intro w' hw'
    rw [Json.recode, hvalue a w' hw']
    rfl
  · rw [Json.recodeText, htext a]
    rfl

/-! ## Words -/

theorem Service.undoes (φ : Dialect) : Undoes (ofDocument φ) toJson :=
  undoes_word ofName?_name φ _

theorem OverrideMode.undoes (φ : Dialect) : Undoes (ofDocument φ) toJson :=
  undoes_word ofName?_name φ _

theorem LogFormat.undoes (φ : Dialect) : Undoes (ofDocument φ) toJson :=
  undoes_word ofName?_name φ _

/-!
## Records

A record is listed by its fields, each with the reader that undoes what is written for it. What is
left to see is that the fields have different names and are stored in different places.
-/

theorem OverrideRequest.undoes (φ : Dialect) : Undoes (ofDocument φ) toJson := by
  refine undoes_record φ _ fun a => ⟨_,
    .cons ((OverrideMode.undoes φ).field a.mode) .nil, ?_⟩
  constructor <;> simp [Field.of]

theorem ServerConfig.undoes (φ : Dialect) : Undoes (ofDocument φ) toJson := by
  refine undoes_record φ _ fun a => ⟨_,
    .cons (undoes_text.field a.bindAddress) .nil, ?_⟩
  constructor <;> simp [Field.of]

theorem HealthConfig.undoes (φ : Dialect) : Undoes (ofDocument φ) toJson := by
  refine undoes_record φ _ fun a => ⟨_,
    .cons (undoes_uint64.field a.intervalSecs) <|
    .cons (undoes_uint64.field a.timeoutSecs) <|
    .cons (undoes_uint64.field a.stopGraceSecs) <|
    .cons (undoes_uint32.field a.failureThreshold) <|
    .cons (undoes_uint32.field a.recoveryThreshold) <|
    .cons (undoes_bool.field a.optimisticBoot) .nil, ?_⟩
  constructor <;> simp [Field.of]

theorem GateConfig.undoes (φ : Dialect) : Undoes (ofDocument φ) toJson := by
  refine undoes_record φ _ fun a => ⟨_,
    .cons (undoes_uint64.field a.retryAfterSecs) <|
    .cons ((Service.undoes φ).list.field a.readinessServices) .nil, ?_⟩
  constructor <;> simp [Field.of]

theorem AdminConfig.undoes (φ : Dialect) : Undoes (ofDocument φ) toJson := by
  refine undoes_record φ _ fun a => ⟨_,
    .cons (undoes_bool.field a.enabled) <|
    .cons (undoes_text.field a.apiKey) <|
    .cons (undoes_text.field a.bindAddress) .nil, ?_⟩
  constructor <;> simp [Field.of]

theorem ObservabilityConfig.undoes (φ : Dialect) : Undoes (ofDocument φ) toJson := by
  refine undoes_record φ _ fun a => ⟨_,
    .cons (undoes_text.field a.logLevel) <|
    .cons ((LogFormat.undoes φ).field a.logFormat) <|
    .cons (undoes_bool.field a.metricsEnabled) <|
    .cons (undoes_text.field a.metricsAddress) .nil, ?_⟩
  constructor <;> simp [Field.of]

theorem ServiceConfig.undoes (φ : Dialect) : Undoes (ofDocument φ) toJson := by
  refine undoes_record φ _ fun a => ⟨_,
    .cons ((Service.undoes φ).field a.name) <|
    .cons (undoes_text.field a.address) <|
    .cons (undoes_int32.field a.startupOrder) <|
    .cons ((Service.undoes φ).list.field a.requires) <|
    .cons (undoes_bool.field a.required) <|
    .cons (undoes_uint64.field a.connectTimeoutSecs) .nil, ?_⟩
  constructor <;> simp [Field.of]

theorem ServiceView.undoes (φ : Dialect) : Undoes (ofDocument φ) toJson := by
  refine undoes_record φ _ fun a => ⟨_,
    .cons ((Service.undoes φ).field a.service) <|
    .cons (undoes_bool.field a.available) <|
    .cons (undoes_bool.field a.healthAvailable) <|
    .cons ((OverrideMode.undoes φ).field a.overrideMode) <|
    .cons (undoes_uint32.field a.consecutiveFailures) <|
    .cons (undoes_uint32.field a.consecutiveSuccesses) <|
    .cons ((undoes_uint64.option fun _ => by simp [Json.nat]).field a.lastCheck) <|
    .cons ((undoes_text.option fun _ => by simp).field a.lastError) <|
    .cons (undoes_bool.field a.monitored) .nil, ?_⟩
  constructor <;> simp [Field.of]

theorem PlaneConfig.undoes (φ : Dialect) : Undoes (ofDocument φ) toJson := by
  refine undoes_record φ _ fun a => ⟨_,
    .cons ((ServerConfig.undoes φ).field a.server) <|
    .cons ((HealthConfig.undoes φ).field a.health) <|
    .cons ((GateConfig.undoes φ).field a.gate) <|
    .cons ((AdminConfig.undoes φ).field a.admin) <|
    .cons ((ObservabilityConfig.undoes φ).field a.observability) <|
    .cons ((ServiceConfig.undoes φ).list.field a.services) .nil, ?_⟩
  constructor <;> simp [Field.of]

/-! ## Numbers -/

namespace Json

@[simp]
theorem exact_uint64 (n : UInt64) : (Json.nat n.toNat).Exact := by
  have hhigh := n.toNat_lt
  constructor <;> omega

@[simp]
theorem exact_uint32 (n : UInt32) : (Json.nat n.toNat).Exact := by
  have hhigh := n.toNat_lt
  constructor <;> omega

@[simp]
theorem exact_int32 (n : Int32) : (Json.integer n.toInt).Exact := by
  have hlow := n.le_toInt
  have hhigh := n.toInt_lt
  constructor <;> omega

@[simp]
theorem exact_bool (b : Bool) : (Json.bool b).Exact :=
  trivial

@[simp]
theorem exact_text (s : String) : (Json.text s).Exact :=
  trivial

@[simp]
theorem exact_array {items : List Json} : (Json.array items).Exact ↔ ∀ v ∈ items, v.Exact :=
  exactItems_iff

@[simp]
theorem exact_object {members : List (String × Json)} :
    (Json.object members).Exact ↔ ∀ m ∈ members, m.2.Exact :=
  exactMembers_iff

theorem exact_option {α : Type} {encode : α → Json} (h : ∀ a, (encode a).Exact) (o : Option α) :
    (Json.option encode o).Exact := by
  cases o with
  | none =>
      trivial
  | some a =>
      exact h a

end Json

@[simp]
theorem Service.exact_toJson (s : Service) : s.toJson.Exact :=
  trivial

@[simp]
theorem OverrideMode.exact_toJson (m : OverrideMode) : m.toJson.Exact :=
  trivial

@[simp]
theorem OverrideRequest.exact_toJson (r : OverrideRequest) : r.toJson.Exact := by
  simp [toJson]

@[simp]
theorem ServerConfig.exact_toJson (c : ServerConfig) : c.toJson.Exact := by
  simp [toJson]

@[simp]
theorem HealthConfig.exact_toJson (c : HealthConfig) : c.toJson.Exact := by
  simp [toJson]

@[simp]
theorem GateConfig.exact_toJson (c : GateConfig) : c.toJson.Exact := by
  simp [toJson]

@[simp]
theorem AdminConfig.exact_toJson (c : AdminConfig) : c.toJson.Exact := by
  simp [toJson]

@[simp]
theorem ObservabilityConfig.exact_toJson (c : ObservabilityConfig) : c.toJson.Exact := by
  simp [toJson, LogFormat.toJson]

@[simp]
theorem ServiceConfig.exact_toJson (c : ServiceConfig) : c.toJson.Exact := by
  simp [toJson]

theorem ServiceView.exact_toJson (v : ServiceView) : v.toJson.Exact := by
  simp [toJson, Json.exact_option]

theorem PlaneConfig.exact_toJson (c : PlaneConfig) : c.toJson.Exact := by
  simp [toJson]

/-- The configuration with its sections and entries, what an operator sees and asks for, and the
names of services and modes round-trip through JSON, as values and as texts. -/
theorem codecs_round_trip :
    RoundTrips PlaneConfig.ofDocument PlaneConfig.toJson ∧
      RoundTrips ServerConfig.ofDocument ServerConfig.toJson ∧
      RoundTrips HealthConfig.ofDocument HealthConfig.toJson ∧
      RoundTrips GateConfig.ofDocument GateConfig.toJson ∧
      RoundTrips AdminConfig.ofDocument AdminConfig.toJson ∧
      RoundTrips ObservabilityConfig.ofDocument ObservabilityConfig.toJson ∧
      RoundTrips ServiceConfig.ofDocument ServiceConfig.toJson ∧
      RoundTrips ServiceView.ofDocument ServiceView.toJson ∧
      RoundTrips OverrideRequest.ofDocument OverrideRequest.toJson ∧
      RoundTrips Service.ofDocument Service.toJson ∧
      RoundTrips OverrideMode.ofDocument OverrideMode.toJson :=
  ⟨roundTrips_of_undoes PlaneConfig.undoes PlaneConfig.exact_toJson,
    roundTrips_of_undoes ServerConfig.undoes ServerConfig.exact_toJson,
    roundTrips_of_undoes HealthConfig.undoes HealthConfig.exact_toJson,
    roundTrips_of_undoes GateConfig.undoes GateConfig.exact_toJson,
    roundTrips_of_undoes AdminConfig.undoes AdminConfig.exact_toJson,
    roundTrips_of_undoes ObservabilityConfig.undoes ObservabilityConfig.exact_toJson,
    roundTrips_of_undoes ServiceConfig.undoes ServiceConfig.exact_toJson,
    roundTrips_of_undoes ServiceView.undoes ServiceView.exact_toJson,
    roundTrips_of_undoes OverrideRequest.undoes OverrideRequest.exact_toJson,
    roundTrips_of_undoes Service.undoes Service.exact_toJson,
    roundTrips_of_undoes OverrideMode.undoes OverrideMode.exact_toJson⟩

/-- A request for an override can be spelled in many ways, and is written in one. -/
example :
    ∀ text ∈ ["\x7b\"mode\": \"force_enable\"\x7d", "[\"force_enable\"]",
        "\x7b\"note\": 1.5, \"mode\": \x7b\"force_enable\": null\x7d\x7d"],
      ((Json.recodeText OverrideRequest.ofDocument OverrideRequest.toJson text).map
        Json.render).toOption = some "\x7b\"mode\":\"force_enable\"\x7d" := by
  decide +kernel

end ServicePlane
