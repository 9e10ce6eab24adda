import Mathlib.Data.List.Count
import ServicePlane.Proofs.Config.Faults

/-!
# The verdict on a configuration

Validation goes through a configuration once and keeps what it finds. Here its verdict is said
without going through anything: which configurations make sense, and how often each fault occurs in
one that does not. The service entries are told by counting them, so that their order cannot matter.

* `PlaneConfig.Sensible` — the configurations that make sense;
* `PlaneConfig.violations` — how often a fault occurs in a configuration;
* `count_faults` — validation lists each fault as often as it occurs;
* `sensible_of_violations` — a configuration in which no fault occurs makes sense;
* `validate_lists_violations` — the verdict, and that it does not see the order of the entries.
-/

namespace ServicePlane

namespace PlaneConfig

open ConfigFault

variable {c : PlaneConfig} {seen : List Service} {entries : List ServiceConfig} {s d : Service}

/-! ## What makes sense -/

/-- A configuration that makes sense: what is used as an address is one, the numbers allow cycles to
run, and the entries tell of different services that have an address and require each other only. -/
structure Sensible (c : PlaneConfig) : Prop where
  server_address : SocketAddress.parse? c.server.bindAddress ≠ none
  admin_address : c.admin.enabled = true → SocketAddress.parse? c.admin.bindAddress ≠ none
  metrics_address : c.observability.metricsEnabled = true →
    SocketAddress.parse? c.observability.metricsAddress ≠ none
  interval_pos : 1 ≤ c.health.intervalSecs
  timeout_pos : 1 ≤ c.health.timeoutSecs
  failure_pos : 1 ≤ c.health.failureThreshold
  recovery_pos : 1 ≤ c.health.recoveryThreshold
  timeout_le : c.health.timeoutSecs ≤ c.health.intervalSecs
  names_nodup : (c.services.map (·.name)).Nodup
  has_address : ∀ e ∈ c.services, Text.isBlank e.address = false
  requires_known : ∀ e ∈ c.services, ∀ d ∈ e.requires, ∃ e' ∈ c.services, e'.name = d

/-- How often a fault occurs in a configuration. -/
def violations (c : PlaneConfig) : ConfigFault → Nat
  | .invalidAddress field value =>
      if SocketAddress.parse? value = none ∧
          ((field = "server.bind_address" ∧ value = c.server.bindAddress) ∨
            (field = "admin.bind_address" ∧ c.admin.enabled = true ∧
              value = c.admin.bindAddress) ∨
            (field = "observability.metrics_address" ∧ c.observability.metricsEnabled = true ∧
              value = c.observability.metricsAddress)) then 1
      else 0
  | .zero field =>
      if (field = "health.interval_secs" ∧ c.health.intervalSecs = 0) ∨
          (field = "health.timeout_secs" ∧ c.health.timeoutSecs = 0) ∨
          (field = "health.failure_threshold" ∧ c.health.failureThreshold = 0) ∨
          (field = "health.recovery_threshold" ∧ c.health.recoveryThreshold = 0) then 1
      else 0
  | .timeoutExceedsInterval timeout interval =>
      if timeout = c.health.timeoutSecs ∧ interval = c.health.intervalSecs ∧
          interval < timeout then 1
      else 0
  | .duplicateService s => c.services.countP (fun e => e.name = s) - 1
  | .emptyAddress s => c.services.countP fun e => e.name = s ∧ Text.isBlank e.address = true
  | .unknownDependency s d =>
      if c.Configured d then 0
      else ((c.services.filter fun e => e.name = s).flatMap (·.requires)).count d

/-! ## Faults of the sections -/

theorem addressFaults_nodup (c : PlaneConfig) : c.addressFaults.Nodup := by
  have hused : (c.usedAddresses.map Prod.fst).Nodup := by
    rw [usedAddresses]
    cases c.admin.enabled <;> cases c.observability.metricsEnabled <;> simp
  refine List.Nodup.map ?_ (hused.of_map.filter _)
  rintro ⟨field, value⟩ ⟨field', value'⟩ hsame
  simpa using hsame

theorem mem_addressFaults {field value : String} :
    invalidAddress field value ∈ c.addressFaults ↔
      SocketAddress.parse? value = none ∧ (field, value) ∈ c.usedAddresses := by
  simp [addressFaults, and_comm]

theorem numberFaults_nodup (c : PlaneConfig) : c.numberFaults.Nodup := by
  have hnumbers : (c.positiveNumbers.map Prod.fst).Nodup := by
    simp [positiveNumbers]
  have hzeros : ((c.positiveNumbers.filter fun n => n.2 = 0).map fun n => zero n.1).Nodup := by
    have hfields : ((c.positiveNumbers.filter fun n => n.2 = 0).map Prod.fst).Nodup :=
      hnumbers.sublist (List.filter_sublist.map Prod.fst)
    simpa [Function.comp_def] using hfields.map (f := zero) fun _ _ h => by simpa using h
  rw [numberFaults]
  split
  · simpa using hzeros.concat (by simp)
  · simpa using hzeros

theorem zero_mem_numberFaults {field : String} :
    zero field ∈ c.numberFaults ↔
      (field = "health.interval_secs" ∧ c.health.intervalSecs = 0) ∨
        (field = "health.timeout_secs" ∧ c.health.timeoutSecs = 0) ∨
        (field = "health.failure_threshold" ∧ c.health.failureThreshold = 0) ∨
        (field = "health.recovery_threshold" ∧ c.health.recoveryThreshold = 0) := by
  have hnumber : zero field ∈ c.numberFaults ↔ (field, 0) ∈ c.positiveNumbers := by
    rw [numberFaults]
    split <;> simp
  rw [hnumber, positiveNumbers]
  simp [← UInt64.toNat_inj, ← UInt32.toNat_inj, eq_comm]

theorem timeoutExceedsInterval_mem_numberFaults {timeout interval : UInt64} :
    timeoutExceedsInterval timeout interval ∈ c.numberFaults ↔
      timeout = c.health.timeoutSecs ∧ interval = c.health.intervalSecs ∧
        interval < timeout := by
  rw [numberFaults]
  split
  · rename_i hless
    simp only [List.mem_append, List.mem_map, List.mem_singleton, timeoutExceedsInterval.injEq]
    grind
  · rename_i hless
    simp only [List.mem_append, List.mem_map]
    grind

/-- A section lists no fault twice. -/
theorem count_eq_ite {l : List ConfigFault} {f : ConfigFault} {P : Prop} [Decidable P]
    (hl : l.Nodup) (h : f ∈ l ↔ P) : l.count f = if P then 1 else 0 := by
  rw [hl.count]
  exact if_congr h rfl rfl

/-! ## Faults of the entries -/

/-- A service is listed as configured twice for each entry but its first, and for that one too if
it has been seen before. -/
theorem count_entryFaults_duplicateService (seen : List Service) (entries : List ServiceConfig)
    (s : Service) :
    (entryFaults seen entries).count (duplicateService s) =
      entries.countP (fun e => e.name = s) - if s ∈ seen then 0 else 1 := by
  induction entries generalizing seen with
  | nil =>
      simp [entryFaults]
  | cons e rest ih =>
      have hblank : (if Text.isBlank e.address then [emptyAddress e.name] else []).count
          (duplicateService s) = 0 := by
        split <;> simp
      rw [entryFaults, List.count_append, List.count_append, hblank, ih]
      by_cases hs : e.name = s
      · -- From here on the service has been seen.
        subst hs
        by_cases hseen : e.name ∈ seen <;> simp [hseen, Nat.add_comm]
      · have hother : (if e.name ∈ seen then [duplicateService e.name] else []).count
            (duplicateService s) = 0 := by
          split <;> simp [hs]
        simp [hother, hs, Ne.symm hs]

theorem count_entryFaults_emptyAddress (seen : List Service) (entries : List ServiceConfig)
    (s : Service) :
    (entryFaults seen entries).count (emptyAddress s) =
      entries.countP fun e => e.name = s ∧ Text.isBlank e.address = true := by
  induction entries generalizing seen with
  | nil =>
      simp [entryFaults]
  | cons e rest ih =>
      have hduplicate : (if e.name ∈ seen then [duplicateService e.name] else []).count
          (emptyAddress s) = 0 := by
        split <;> simp
      rw [entryFaults, List.count_append, List.count_append, hduplicate, ih, List.countP_cons]
      by_cases hs : e.name = s <;> cases hblank : Text.isBlank e.address <;>
        simp [hs, Nat.add_comm]

/-- Entries lack requirements that are not configured, each as often as they list it. -/
theorem count_dependencyFaults (configured : List Service) (entries : List ServiceConfig)
    (s d : Service) :
    (dependencyFaults configured entries).count (unknownDependency s d) =
      if d ∈ configured then 0
      else ((entries.filter fun e => e.name = s).flatMap (·.requires)).count d := by
  have hentry : ∀ e : ServiceConfig,
      ((e.requires.filter fun d => d ∉ configured).map (unknownDependency e.name)).count
        (unknownDependency s d) =
          if e.name = s ∧ d ∉ configured then e.requires.count d else 0 := by
    intro e
    by_cases hs : e.name = s
    · subst hs
      have hinjective : Function.Injective (unknownDependency e.name) := fun _ _ hsame =>
        (unknownDependency.inj hsame).2
      rw [List.count_map_of_injective _ _ hinjective]
      by_cases hd : d ∈ configured
      · have hdropped : d ∉ e.requires.filter fun d => d ∉ configured := by
          simp [hd]
        rw [List.count_eq_zero_of_not_mem hdropped]
        simp [hd]
      · rw [List.count_filter (by simpa using hd)]
        simp [hd]
    · have hother : unknownDependency s d ∉
          (e.requires.filter fun d => d ∉ configured).map (unknownDependency e.name) := by
        simp [hs]
      rw [List.count_eq_zero_of_not_mem hother]
      simp [hs]
  induction entries with
  | nil =>
      simp [dependencyFaults]
  | cons e rest ih =>
      rw [dependencyFaults, List.flatMap_cons, List.count_append, hentry]
      rw [dependencyFaults] at ih
      rw [ih]
      by_cases hs : e.name = s <;> by_cases hd : d ∈ configured <;> simp [hs, hd]

/-! ## All faults -/

/-- The part of the list in which a fault stands. -/
def part : ConfigFault → Nat
  | .invalidAddress _ _ => 0
  | .zero _ => 1
  | .timeoutExceedsInterval _ _ => 1
  | .duplicateService _ => 2
  | .emptyAddress _ => 2
  | .unknownDependency _ _ => 3

theorem part_of_mem_addressFaults : ∀ f ∈ c.addressFaults, part f = 0 := by
  intro f hf
  rcases List.mem_map.1 hf with ⟨a, _, rfl⟩
  rfl

theorem part_of_mem_numberFaults : ∀ f ∈ c.numberFaults, part f = 1 := by
  intro f hf
  rcases List.mem_append.1 hf with hzero | htimeout
  · rcases List.mem_map.1 hzero with ⟨n, _, rfl⟩
    rfl
  · split at htimeout
    · rw [List.mem_singleton.1 htimeout]
      rfl
    · cases htimeout

theorem part_of_mem_entryFaults : ∀ f ∈ entryFaults seen entries, part f = 2 := by
  induction entries generalizing seen with
  | nil =>
      simp [entryFaults]
  | cons e rest ih =>
      intro f hf
      rw [entryFaults, List.mem_append, List.mem_append] at hf
      rcases hf with (hduplicate | hblank) | hrest
      · split at hduplicate
        · rw [List.mem_singleton.1 hduplicate]
          rfl
        · cases hduplicate
      · split at hblank
        · rw [List.mem_singleton.1 hblank]
          rfl
        · cases hblank
      · exact ih f hrest

theorem part_of_mem_dependencyFaults {configured : List Service} :
    ∀ f ∈ dependencyFaults configured entries, part f = 3 := by
  intro f hf
  rcases List.mem_flatMap.1 hf with ⟨e, _, hf⟩
  rcases List.mem_map.1 hf with ⟨d, _, rfl⟩
  rfl

/-- A fault does not occur in another part than its own. -/
theorem count_of_other_part {l : List ConfigFault} {k : Nat} {f : ConfigFault}
    (hl : ∀ f ∈ l, part f = k) (hf : part f ≠ k) : l.count f = 0 :=
  List.count_eq_zero_of_not_mem fun hmem => hf (hl f hmem)

/-- Validation lists each fault as often as it occurs. -/
theorem count_faults (c : PlaneConfig) (f : ConfigFault) : c.faults.count f = c.violations f := by
  have haddress : part f ≠ 0 → c.addressFaults.count f = 0 :=
    count_of_other_part part_of_mem_addressFaults
  have hnumber : part f ≠ 1 → c.numberFaults.count f = 0 :=
    count_of_other_part part_of_mem_numberFaults
  have hentry : part f ≠ 2 → (entryFaults [] c.services).count f = 0 :=
    count_of_other_part part_of_mem_entryFaults
  have hdependency : part f ≠ 3 →
      (dependencyFaults (c.services.map (·.name)) c.services).count f = 0 :=
    count_of_other_part part_of_mem_dependencyFaults
  rw [faults, List.count_append, List.count_append, List.count_append]
  cases f with
  | invalidAddress field value =>
      rw [hnumber (by simp [part]), hentry (by simp [part]), hdependency (by simp [part])]
      refine count_eq_ite c.addressFaults_nodup (mem_addressFaults.trans ?_)
      cases hadmin : c.admin.enabled <;> cases hmetrics : c.observability.metricsEnabled <;>
        simp [usedAddresses, hadmin, hmetrics]
  | zero field =>
      rw [haddress (by simp [part]), hentry (by simp [part]), hdependency (by simp [part]),
        Nat.zero_add]
      exact count_eq_ite c.numberFaults_nodup zero_mem_numberFaults
  | timeoutExceedsInterval timeout interval =>
      rw [haddress (by simp [part]), hentry (by simp [part]), hdependency (by simp [part]),
        Nat.zero_add]
      exact count_eq_ite c.numberFaults_nodup timeoutExceedsInterval_mem_numberFaults
  | duplicateService s =>
      rw [haddress (by simp [part]), hnumber (by simp [part]), hdependency (by simp [part]),
        count_entryFaults_duplicateService]
      simp [violations]
  | emptyAddress s =>
      rw [haddress (by simp [part]), hnumber (by simp [part]), hdependency (by simp [part]),
        count_entryFaults_emptyAddress]
      simp [violations]
  | unknownDependency s d =>
      rw [haddress (by simp [part]), hnumber (by simp [part]), hentry (by simp [part]),
        count_dependencyFaults, Nat.zero_add]
      rfl

/-! ## The verdict -/

theorem countP_name (entries : List ServiceConfig) (s : Service) :
    entries.countP (fun e => e.name = s) = (entries.map (·.name)).count s := by
  rw [List.count, List.countP_map]
  rfl

/-- In a configuration that makes sense no fault occurs. -/
theorem Sensible.violations_eq_zero (h : c.Sensible) (f : ConfigFault) : c.violations f = 0 := by
  cases f with
  | invalidAddress field value =>
      refine if_neg ?_
      rintro ⟨hnone, ⟨_, rfl⟩ | ⟨_, hused, rfl⟩ | ⟨_, hused, rfl⟩⟩
      · exact h.server_address hnone
      · exact h.admin_address hused hnone
      · exact h.metrics_address hused hnone
  | zero field =>
      refine if_neg ?_
      have hinterval := h.interval_pos
      have htimeout := h.timeout_pos
      have hfailure := h.failure_pos
      have hrecovery := h.recovery_pos
      rintro (⟨_, hzero⟩ | ⟨_, hzero⟩ | ⟨_, hzero⟩ | ⟨_, hzero⟩)
      · simp [hzero] at hinterval
      · simp [hzero] at htimeout
      · simp [hzero] at hfailure
      · simp [hzero] at hrecovery
  | timeoutExceedsInterval timeout interval =>
      refine if_neg ?_
      rintro ⟨rfl, rfl, hless⟩
      exact UInt64.not_lt.2 h.timeout_le hless
  | duplicateService s =>
      have hone := List.nodup_iff_count_le_one.1 h.names_nodup s
      rw [violations, countP_name]
      omega
  | emptyAddress s =>
      refine List.countP_eq_zero.2 ?_
      intro e he
      simp [h.has_address e he]
  | unknownDependency s d =>
      rw [violations]
      split
      · rfl
      · rename_i hunknown
        -- An entry that lists the requirement would make it a known one.
        refine List.count_eq_zero_of_not_mem fun hlisted => hunknown ?_
        rcases List.mem_flatMap.1 hlisted with ⟨e, he, hd⟩
        rcases h.requires_known e (List.mem_filter.1 he).1 d hd with ⟨e', he', hname⟩
        exact List.mem_map.2 ⟨e', he', hname⟩

/-- A configuration in which no fault occurs makes sense. -/
theorem sensible_of_violations (h : ∀ f, c.violations f = 0) : c.Sensible where
  server_address := by
    intro hnone
    simpa [violations, hnone] using h (.invalidAddress "server.bind_address" c.server.bindAddress)
  admin_address := by
    intro hused hnone
    simpa [violations, hused, hnone] using
      h (.invalidAddress "admin.bind_address" c.admin.bindAddress)
  metrics_address := by
    intro hused hnone
    simpa [violations, hused, hnone] using
      h (.invalidAddress "observability.metrics_address" c.observability.metricsAddress)
  interval_pos := by
    have hpos : c.health.intervalSecs ≠ 0 := by
      simpa [violations] using h (.zero "health.interval_secs")
    grind
  timeout_pos := by
    have hpos : c.health.timeoutSecs ≠ 0 := by
      simpa [violations] using h (.zero "health.timeout_secs")
    grind
  failure_pos := by
    have hpos : c.health.failureThreshold ≠ 0 := by
      simpa [violations] using h (.zero "health.failure_threshold")
    grind
  recovery_pos := by
    have hpos : c.health.recoveryThreshold ≠ 0 := by
      simpa [violations] using h (.zero "health.recovery_threshold")
    grind
  timeout_le := by
    have hzero := h (.timeoutExceedsInterval c.health.timeoutSecs c.health.intervalSecs)
    simpa [violations] using hzero
  names_nodup := by
    rw [List.nodup_iff_count_le_one]
    intro s
    have hzero := h (.duplicateService s)
    rw [violations, countP_name] at hzero
    omega
  has_address := by
    intro e he
    have hzero := List.countP_eq_zero.1 (h (.emptyAddress e.name)) e he
    simpa using hzero
  requires_known := by
    intro e he d hd
    by_contra hnone
    have hunknown : ¬ c.Configured d := fun hknown => hnone (List.mem_map.1 hknown)
    have hzero := h (.unknownDependency e.name d)
    rw [violations, if_neg hunknown] at hzero
    have hlisted : d ∈ (c.services.filter fun e' => e'.name = e.name).flatMap (·.requires) :=
      List.mem_flatMap.2 ⟨e, List.mem_filter.2 ⟨he, by simp⟩, hd⟩
    exact List.count_eq_zero.1 hzero hlisted

theorem faults_eq_nil_iff : c.faults = [] ↔ c.Sensible := by
  have hnone : c.faults = [] ↔ ∀ f, c.violations f = 0 := by
    rw [List.eq_nil_iff_forall_not_mem]
    apply forall_congr'
    intro f
    rw [← List.count_eq_zero, count_faults]
  exact hnone.trans ⟨sensible_of_violations, Sensible.violations_eq_zero⟩

/-- A fault occurs as often whatever the order of the entries. -/
theorem violations_of_perm {services : List ServiceConfig} (h : services.Perm c.services)
    (f : ConfigFault) :
    ({ c with services := services } : PlaneConfig).violations f = c.violations f := by
  cases f with
  | duplicateService s =>
      rw [violations, violations, h.countP_eq]
  | emptyAddress s =>
      rw [violations, violations, h.countP_eq]
  | unknownDependency s d =>
      have hconfigured : ({ c with services := services } : PlaneConfig).Configured d ↔
          c.Configured d := (h.map (·.name)).mem_iff
      rw [violations, violations]
      exact if_congr hconfigured rfl (((h.filter _).flatMap_right _).count_eq d)
  | _ =>
      rfl

/-- Validation accepts exactly the configurations that make sense. Of any other one it lists the
faults, each as often as it occurs and no other ones, and entries in another order have the same
faults in another order. -/
theorem validate_lists_violations (c : PlaneConfig) :
    (c.validate = .ok () ↔ c.Sensible) ∧
    (¬ c.Sensible → ∃ faults, c.validate = .error faults ∧
      ∀ f, faults.count f = c.violations f) ∧
    ∀ services, services.Perm c.services →
      ({ c with services := services } : PlaneConfig).listed.Perm c.listed := by
  refine ⟨?_, ?_, ?_⟩
  · rw [validate_eq_ok_iff, listed_eq_faults, faults_eq_nil_iff]
  · intro hwrong
    refine ⟨c.faults, ?_, c.count_faults⟩
    have hsome : c.faults ≠ [] := mt faults_eq_nil_iff.1 hwrong
    rw [validate]
    split
    · rename_i hnone
      exact absurd hnone hsome
    · rfl
  · intro services hperm
    rw [listed_eq_faults, listed_eq_faults, List.perm_iff_count]
    intro f
    calc
      ({ c with services := services } : PlaneConfig).faults.count f
          = ({ c with services := services } : PlaneConfig).violations f := count_faults _ f
      _ = c.violations f := violations_of_perm hperm f
      _ = c.faults.count f := (c.count_faults f).symm

end PlaneConfig

end ServicePlane
