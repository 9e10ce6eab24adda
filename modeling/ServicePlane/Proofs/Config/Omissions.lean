import ServicePlane.Proofs.Config.RoundTrip
import ServicePlane.Proofs.Json.Loosening

/-!
# Configurations that leave things out

A configuration can be written with less than all of its fields and with more than them: what is at
its default may be left out, at any depth, and what no reader knows may stand anywhere. It is the
name and the address of a service entry that have no default.

* `looseFields` of an entry and of the whole configuration — the fields, each with its default if it
  has one (those of a section are the `plainFields` of its defaults);
* `answers` for each of them — what is read from a configuration that is written in this way;
* `decode_loosened` — it is the configuration that was meant, or the first field that is missing.
-/

namespace ServicePlane

open Json

/-! ## Sections -/

namespace ServerConfig

theorem answers (φ : Dialect) :
    Answers (Loosened (plainFields standard.toJson)) (fun _ => none) (ofDocument φ) toJson := by
  refine answers_section φ _ (fun a => ⟨_,
    .cons (undoes_text.plain a.bindAddress _ rfl) .nil, ?_⟩) (by simp [fields, Field.of])
  constructor <;> simp [Field.of]

end ServerConfig

namespace HealthConfig

theorem answers (φ : Dialect) :
    Answers (Loosened (plainFields standard.toJson)) (fun _ => none) (ofDocument φ) toJson := by
  refine answers_section φ _ (fun a => ⟨_,
    .cons (undoes_uint64.plain a.intervalSecs _ rfl) <|
    .cons (undoes_uint64.plain a.timeoutSecs _ rfl) <|
    .cons (undoes_uint64.plain a.stopGraceSecs _ rfl) <|
    .cons (undoes_uint32.plain a.failureThreshold _ rfl) <|
    .cons (undoes_uint32.plain a.recoveryThreshold _ rfl) <|
    .cons (undoes_bool.plain a.optimisticBoot _ rfl) .nil, ?_⟩) (by simp [fields, Field.of])
  constructor <;> simp [Field.of]

end HealthConfig

namespace GateConfig

theorem answers (φ : Dialect) :
    Answers (Loosened (plainFields standard.toJson)) (fun _ => none) (ofDocument φ) toJson := by
  refine answers_section φ _ (fun a => ⟨_,
    .cons (undoes_uint64.plain a.retryAfterSecs _ rfl) <|
    .cons ((Service.undoes φ).list.plain a.readinessServices _ rfl) .nil, ?_⟩)
    (by simp [fields, Field.of])
  constructor <;> simp [Field.of]

end GateConfig

namespace AdminConfig

theorem answers (φ : Dialect) :
    Answers (Loosened (plainFields standard.toJson)) (fun _ => none) (ofDocument φ) toJson := by
  refine answers_section φ _ (fun a => ⟨_,
    .cons (undoes_bool.plain a.enabled _ rfl) <|
    .cons (undoes_text.plain a.apiKey _ rfl) <|
    .cons (undoes_text.plain a.bindAddress _ rfl) .nil, ?_⟩) (by simp [fields, Field.of])
  constructor <;> simp [Field.of]

end AdminConfig

namespace ObservabilityConfig

theorem answers (φ : Dialect) :
    Answers (Loosened (plainFields standard.toJson)) (fun _ => none) (ofDocument φ) toJson := by
  refine answers_section φ _ (fun a => ⟨_,
    .cons (undoes_text.plain a.logLevel _ rfl) <|
    .cons ((LogFormat.undoes φ).plain a.logFormat _ rfl) <|
    .cons (undoes_bool.plain a.metricsEnabled _ rfl) <|
    .cons (undoes_text.plain a.metricsAddress _ rfl) .nil, ?_⟩) (by simp [fields, Field.of])
  constructor <;> simp [Field.of]

end ObservabilityConfig

/-! ## Service entries -/

namespace ServiceConfig

def looseFields : List LooseField :=
  [.needed "name",
    .needed "address",
    .plain "startup_order" (.integer 50),
    .plain "requires" (.array []),
    .plain "required" (.bool true),
    .plain "connect_timeout_secs" (.nat 5)]

/-- The fields that an entry has to give. -/
def neededFields : List String :=
  ["name", "address"]

/-- The first field that an entry has to give and does not. -/
def lacking? (entry : Json) : Option String :=
  neededFields.find? fun name => (entry.member? name).isNone

theorem lacking?_eq_none_iff {entry : Json} :
    lacking? entry = none ↔ ∀ name ∈ neededFields, entry.member? name ≠ none := by
  simp [lacking?]

theorem missingField?_fields (φ : Dialect) (entry : Json) :
    missingField? (fields φ) (entry.members.map Prod.fst) = lacking? entry := by
  simp only [missingField?, fields, Field.of, lacking?, neededFields, isNone_member?,
    List.find?_cons, List.find?_nil, Bool.true_and, Bool.false_and]
  cases (entry.members.map Prod.fst).contains "name" <;>
    cases (entry.members.map Prod.fst).contains "address" <;> rfl

theorem answers (φ : Dialect) :
    Answers (Loosened looseFields) lacking? (ofDocument φ) toJson := by
  refine Answers.congr (answers_flat φ _ fun a => ⟨_,
    .cons ((Service.undoes φ).needed a.name) <|
    .cons (undoes_text.needed a.address) <|
    .cons (undoes_int32.plain a.startupOrder 50 rfl) <|
    .cons ((Service.undoes φ).list.plain a.requires [] rfl) <|
    .cons (undoes_bool.plain a.required true rfl) <|
    .cons (undoes_uint64.plain a.connectTimeoutSecs 5 rfl) .nil, ?_⟩) (missingField?_fields φ)
  constructor <;> simp [Field.of]

end ServiceConfig

/-! ## The whole configuration -/

namespace PlaneConfig

def looseFields : List LooseField :=
  [.nested "server" ServerConfig.standard.toJson,
    .nested "health" HealthConfig.standard.toJson,
    .nested "gate" GateConfig.standard.toJson,
    .nested "admin" AdminConfig.standard.toJson,
    .nested "observability" ObservabilityConfig.standard.toJson,
    ⟨"services", (· = .array []), LoosenedItems (Loosened ServiceConfig.looseFields)⟩]

/-- The service entries of a configuration that somebody wrote. -/
def entries (v : Json) : List Json :=
  ((v.member? "services").map Json.items).getD []

/-- The first field that is missing in a service entry. -/
def lacking? (v : Json) : Option String :=
  (entries v).findSome? ServiceConfig.lacking?

/-- What is missing in a field of the configuration. -/
def lackingIn? (name : String) (w : Json) : Option String :=
  if name = "services" then w.items.findSome? ServiceConfig.lacking? else none

/-- A section has nothing in it that could be missing. -/
theorem fieldAnswers_section {α : Type} {read : Document → Except ReadError α} {encode : α → Json}
    {d : α} (h : Answers (Loosened (plainFields (encode d))) (fun _ => none) read encode)
    (hundoes : Undoes read encode) (a : α) {name : String} {store : α → PlaneConfig → PlaneConfig}
    (hname : name ≠ "services") (hstart : store d standard = standard) :
    FieldAnswers standard (.of name false read store) (.nested name (encode d))
      (lackingIn? name) (encode a) (store a) := by
  have hnone : lackingIn? name = fun _ => none := funext fun _ => if_neg hname
  rw [hnone]
  exact h.optional (fun _ _ => hundoes.injective) a d hstart

theorem answers_members (φ : Dialect) :
    Answers (Loosened looseFields)
      (fun w => (w.members.findSome? fun m => lackingIn? m.1 m.2).or
        (missingField? (fields φ) (w.members.map Prod.fst))) (ofDocument φ) toJson := by
  refine answers_record φ _ lackingIn? (fun a => ⟨_,
    .cons (fieldAnswers_section (ServerConfig.answers φ) (ServerConfig.undoes φ)
      a.server (by decide) rfl) <|
    .cons (fieldAnswers_section (HealthConfig.answers φ) (HealthConfig.undoes φ)
      a.health (by decide) rfl) <|
    .cons (fieldAnswers_section (GateConfig.answers φ) (GateConfig.undoes φ)
      a.gate (by decide) rfl) <|
    .cons (fieldAnswers_section (AdminConfig.answers φ) (AdminConfig.undoes φ)
      a.admin (by decide) rfl) <|
    .cons (fieldAnswers_section (ObservabilityConfig.answers φ)
      (ObservabilityConfig.undoes φ) a.observability (by decide) rfl) <|
    .cons ((ServiceConfig.answers φ).list.optional
      (fun _ _ => (ServiceConfig.undoes φ).list.injective) a.services [] rfl) .nil, ?_⟩) ?_
  · constructor <;> simp [Field.of]
  · intro name hname w
    have hservices : "services" ∈ (fields φ).map Field.name := by
      simp [fields, Field.of]
    rcases List.mem_map.1 hservices with ⟨f, hf, hfname⟩
    exact if_neg fun heq => hname f hf (hfname.trans heq.symm)

theorem answers (φ : Dialect) : Answers (Loosened looseFields) lacking? (ofDocument φ) toJson := by
  intro c v h
  have hread := answers_members φ c v h
  cases h with
  | @object _ written hwritten =>
      -- Members are looked up by name, so the entries are those of the one member that is read.
      have honce : written.Pairwise fun m m' => m.1 = m'.1 → m.1 ≠ "services" := by
        have hservices : "services" ∈ looseFields.map LooseField.name := by
          simp [looseFields]
        rcases List.mem_map.1 hservices with ⟨f, hf, hname⟩
        refine hwritten.once.imp fun hother hsame heq => ?_
        exact hother hsame f hf (hname.trans heq.symm)
      have hinside : written.findSome? (fun m => lackingIn? m.1 m.2) =
          lacking? (.object written) := by
        simp only [lackingIn?, lacking?, entries]
        rw [findSome?_member (fun w => w.items.findSome? ServiceConfig.lacking?) honce]
        cases (Json.object written).member? "services" <;> rfl
      -- Nothing has to be there but what an entry has to give.
      have hmissing : missingField? (fields φ) (written.map Prod.fst) = none := by
        simp [missingField?, fields, Field.of]
      simp only [members, hinside, hmissing, Option.or_none] at hread
      exact hread

/-- A configuration as somebody wrote it who left out fields at their defaults, at any depth, and
put in others that nobody knows. If each service entry has its name and address, it is read as the
configuration that was meant. Otherwise there is an error, and it names the first of these fields
that is missing. The text of the value, if a text can hold its numbers, is read as the value is. -/
theorem decode_loosened (c : PlaneConfig) (v : Json) (h : Loosened looseFields c.toJson v) :
    let decoded := Json.decode ofDocument v
    ((∀ entry ∈ entries v, ∀ name ∈ ServiceConfig.neededFields, entry.member? name ≠ none) →
        decoded = .ok c) ∧
      ((∃ entry ∈ entries v, ∃ name ∈ ServiceConfig.neededFields, entry.member? name = none) →
        ∃ name ∈ ServiceConfig.neededFields, lacking? v = some name ∧
          decoded = .error (.missingField name)) ∧
      (v.Exact → Json.decodeText ofDocument v.render = decoded) := by
  intro decoded
  have hdecoded : decoded = unlessMissing (lacking? v) c := answers .valueTree c v h
  refine ⟨?_, ?_, ?_⟩
  · intro hcomplete
    have hnone : lacking? v = none := List.findSome?_eq_none_iff.2 fun entry hentry =>
      ServiceConfig.lacking?_eq_none_iff.2 (hcomplete entry hentry)
    rw [hdecoded, hnone]
    rfl
  · rintro ⟨entry, hentry, name, hname, hout⟩
    cases hlacking : lacking? v with
    | none =>
        have hentry := List.findSome?_eq_none_iff.1 hlacking entry hentry
        exact absurd hout (ServiceConfig.lacking?_eq_none_iff.1 hentry name hname)
    | some first =>
        rcases List.exists_of_findSome?_eq_some hlacking with ⟨_, _, hfirst⟩
        rw [hdecoded, hlacking]
        exact ⟨first, List.mem_of_find?_eq_some hfirst, rfl, rfl⟩
  · intro hexact
    rw [hdecoded, Json.decodeText_render ofDocument hexact]
    exact answers .valueText c v h

/-- The defaults with one service, and another time after which to come back. -/
def patient : PlaneConfig :=
  { standard with
    gate := { GateConfig.standard with retryAfterSecs := 60 }
    services := [.named .database "db:5432"] }

/-- That configuration as somebody wrote it, but for the entry of the service. -/
def patientByHand (entry : List (String × Json)) : Json :=
  .object
    [("note", .bool true),
      ("services", .array [.object entry]),
      ("gate", .object [("retries", .null), ("retry_after_secs", .nat 60)])]

theorem loosened_patientByHand {entry : List (String × Json)}
    (hentry : Loosened ServiceConfig.looseFields (ServiceConfig.named .database "db:5432").toJson
      (.object entry)) : Loosened looseFields patient.toJson (patientByHand entry) := by
  have hgate : Loosened (plainFields GateConfig.standard.toJson) patient.gate.toJson
      (.object [("retries", .null), ("retry_after_secs", .nat 60)]) := by
    refine .object ⟨by decide, ?_, ?_⟩ <;>
      simp [plainFields, LooseField.plain, patient, GateConfig.standard, GateConfig.toJson]
  have hservices : LoosenedItems (Loosened ServiceConfig.looseFields)
      (.array (patient.services.map ServiceConfig.toJson)) (.array [.object entry]) :=
    .array (.cons hentry .nil)
  refine .object ⟨by simp [looseFields, LooseField.nested], ?_, ?_⟩
  · simp [looseFields, LooseField.nested, hgate, hservices]
  · simp [looseFields, LooseField.nested, patient, standard]

/-- With a field beside that nobody knows, the entry reads as what was meant; without its address it
does not. -/
theorem decode_loosened_patient :
    Json.decode ofDocument (patientByHand [("address", .text "db:5432"), ("owner", .array []),
        ("name", .text "database")]) = .ok patient ∧
      Json.decode ofDocument (patientByHand [("name", .text "database")]) =
        .error (.missingField "address") := by
  have hwhole : Loosened ServiceConfig.looseFields (ServiceConfig.named .database "db:5432").toJson
      (.object
        [("address", .text "db:5432"), ("owner", .array []), ("name", .text "database")]) := by
    refine .object ⟨by decide, ?_, ?_⟩ <;>
      simp [ServiceConfig.looseFields, LooseField.plain, LooseField.needed, ServiceConfig.named,
        Service.toJson, Service.name]
  have hpart : Loosened ServiceConfig.looseFields (ServiceConfig.named .database "db:5432").toJson
      (.object [("name", .text "database")]) := by
    refine .object ⟨by decide, ?_, ?_⟩ <;>
      simp [ServiceConfig.looseFields, LooseField.plain, LooseField.needed, ServiceConfig.named,
        Service.toJson, Service.name]
  constructor
  · exact (decode_loosened patient _ (loosened_patientByHand hwhole)).1 (by decide)
  · obtain ⟨name, _, hfirst, herror⟩ :=
      (decode_loosened patient _ (loosened_patientByHand hpart)).2.1 (by decide)
    have haddress : lacking? (patientByHand [("name", .text "database")]) = some "address" := by
      decide
    rw [haddress] at hfirst
    cases hfirst
    exact herror

end PlaneConfig

end ServicePlane
