import Mathlib.Data.List.Nodup
import ServicePlane.Config.Validate

/-!
# What validation lists

The faults of a configuration, said without the lists they are computed from: a service is listed
as configured twice when an entry repeats the name of an earlier one, and a requirement is listed as
unknown when no entry has its name.

* `PlaneConfig.listed` — what validation lists, nothing for an accepted configuration;
* `PlaneConfig.firstDuplicate?` — the first service that is listed as configured twice;
* `PlaneConfig.Requires`, `PlaneConfig.Configured` — requirements and services of a configuration;
* `unknownDependency_mem_listed` — which requirements are listed as unknown.
-/

namespace ServicePlane

namespace ConfigFault

variable {f : ConfigFault} {s : Service}

/-- The service that is configured twice, if that is the fault. -/
def duplicate? : ConfigFault → Option Service
  | duplicateService s => some s
  | _ => none

theorem duplicate?_eq_some_iff : f.duplicate? = some s ↔ f = duplicateService s := by
  cases f <;> simp [duplicate?]

theorem findSome?_duplicate?_eq_none {l : List ConfigFault} (h : ∀ s, duplicateService s ∉ l) :
    l.findSome? duplicate? = none := by
  refine List.findSome?_eq_none_iff.2 ?_
  intro f hf
  cases hs : f.duplicate? with
  | none =>
      rfl
  | some s =>
      rw [duplicate?_eq_some_iff.1 hs] at hf
      exact absurd hf (h s)

end ConfigFault

namespace PlaneConfig

open ConfigFault

variable {c : PlaneConfig} {s d : Service} {seen : List Service} {entries : List ServiceConfig}

/-- There is an entry for the service. -/
def Configured (c : PlaneConfig) (s : Service) : Prop :=
  s ∈ c.services.map (·.name)

instance : Decidable (c.Configured s) :=
  inferInstanceAs (Decidable (s ∈ c.services.map (·.name)))

/-- An entry for the service `s` says that `d` has to be up first. -/
def Requires (c : PlaneConfig) (s d : Service) : Prop :=
  ∃ e ∈ c.services, e.name = s ∧ d ∈ e.requires

/-- What validation lists: nothing when it accepts. -/
def listed (c : PlaneConfig) : List ConfigFault :=
  match c.validate with
  | .ok () => []
  | .error faults => faults

theorem listed_eq_faults (c : PlaneConfig) : c.listed = c.faults := by
  rw [listed, validate]
  cases c.faults <;> rfl

theorem validate_eq_ok_iff : c.validate = .ok () ↔ c.listed = [] := by
  rw [listed_eq_faults, validate]
  cases c.faults <;> simp

/-! ## Services configured twice -/

/-- The first service that validation lists as configured twice. -/
def firstDuplicate? (c : PlaneConfig) : Option Service :=
  c.listed.findSome? duplicate?

theorem exists_firstDuplicate_iff :
    (∃ s, c.firstDuplicate? = some s) ↔ ∃ s, duplicateService s ∈ c.listed := by
  constructor
  · rintro ⟨s, h⟩
    rcases List.exists_of_findSome?_eq_some h with ⟨f, hf, hs⟩
    rw [duplicate?_eq_some_iff.1 hs] at hf
    exact ⟨s, hf⟩
  · rintro ⟨s, hs⟩
    exact Option.isSome_iff_exists.1 (List.findSome?_isSome_iff.2 ⟨_, hs, rfl⟩)

/-- Only the faults of the entries themselves tell of services configured twice. -/
theorem firstDuplicate?_eq (c : PlaneConfig) :
    c.firstDuplicate? = (entryFaults [] c.services).findSome? duplicate? := by
  have haddress : c.addressFaults.findSome? duplicate? = none :=
    findSome?_duplicate?_eq_none (by simp [addressFaults])
  have hnumber : c.numberFaults.findSome? duplicate? = none := by
    refine findSome?_duplicate?_eq_none ?_
    rw [numberFaults]
    split <;> simp
  have hdependency :
      (dependencyFaults (c.services.map (·.name)) c.services).findSome? duplicate? = none :=
    findSome?_duplicate?_eq_none (by simp [dependencyFaults])
  rw [firstDuplicate?, listed_eq_faults, faults]
  simp [List.findSome?_append, haddress, hnumber, hdependency]

theorem findSome?_entryFaults_cons (seen : List Service) (e : ServiceConfig)
    (rest : List ServiceConfig) :
    (entryFaults seen (e :: rest)).findSome? duplicate? =
      if e.name ∈ seen then some e.name
      else (entryFaults (e.name :: seen) rest).findSome? duplicate? := by
  have haddress : (if Text.isBlank e.address then [emptyAddress e.name] else []).findSome?
      duplicate? = none := by
    split <;> rfl
  rw [entryFaults, List.findSome?_append, List.findSome?_append, haddress]
  by_cases hseen : e.name ∈ seen <;> simp [hseen, duplicate?]

/-- No service is configured twice exactly when all names differ from each other and from those
seen before. -/
theorem findSome?_entryFaults_eq_none_iff :
    (entryFaults seen entries).findSome? duplicate? = none ↔
      (entries.map (·.name)).Nodup ∧ ∀ e ∈ entries, e.name ∉ seen := by
  induction entries generalizing seen with
  | nil =>
      simp [entryFaults]
  | cons e rest ih =>
      rw [findSome?_entryFaults_cons]
      by_cases hseen : e.name ∈ seen
      · simp [hseen]
      · rw [if_neg hseen, ih]
        simp only [List.map_cons, List.nodup_cons, List.mem_cons, not_or, List.mem_map]
        grind

theorem names_nodup (h : c.firstDuplicate? = none) : (c.services.map (·.name)).Nodup := by
  rw [firstDuplicate?_eq] at h
  exact (findSome?_entryFaults_eq_none_iff.1 h).1

/-! ## Unknown requirements -/

theorem unknownDependency_mem_listed :
    unknownDependency s d ∈ c.listed ↔ c.Requires s d ∧ ¬ c.Configured d := by
  have hentry : ∀ seen entries, unknownDependency s d ∉ entryFaults seen entries := by
    intro seen entries
    induction entries generalizing seen with
    | nil =>
        simp [entryFaults]
    | cons e rest ih =>
        simp only [entryFaults, List.mem_append, not_or]
        refine ⟨⟨?_, ?_⟩, ih _⟩ <;> split <;> simp
  have hnumber : unknownDependency s d ∉ c.numberFaults := by
    rw [numberFaults]
    split <;> simp
  rw [listed_eq_faults, faults]
  simp only [List.mem_append, hentry, hnumber, addressFaults, dependencyFaults, List.mem_map,
    List.mem_flatMap, List.mem_filter, Requires, Configured]
  constructor
  · rintro (((⟨_, _, h⟩ | h) | h) | ⟨e, he, d', ⟨hd, hunknown⟩, h⟩)
    · cases h
    · cases h
    · cases h
    · cases h
      exact ⟨⟨e, he, rfl, hd⟩, by simpa using hunknown⟩
  · rintro ⟨⟨e, he, rfl, hd⟩, hunknown⟩
    exact .inr ⟨e, he, d, ⟨hd, by simpa using hunknown⟩, rfl⟩

theorem Requires.configured_target (h : c.Requires s d)
    (hknown : ∀ s d, unknownDependency s d ∉ c.listed) : c.Configured d := by
  by_contra hunknown
  exact hknown s d (unknownDependency_mem_listed.2 ⟨h, hunknown⟩)

/-! ## Validated configurations -/

theorem firstDuplicate?_of_validated (h : c.validate = .ok ()) :
    c.firstDuplicate? = none := by
  rw [firstDuplicate?, validate_eq_ok_iff.1 h]
  rfl

theorem configured_of_validated (h : c.validate = .ok ())
    (hsd : c.Requires s d) : c.Configured d := by
  refine hsd.configured_target ?_
  intro s d hmem
  rw [validate_eq_ok_iff.1 h] at hmem
  cases hmem

theorem recoveryThreshold_of_validated (h : c.validate = .ok ()) :
    c.health.recoveryThreshold.toNat ≠ 0 := by
  intro hzero
  have hfault : ConfigFault.zero "health.recovery_threshold" ∈ c.faults := by
    have hnumber : ConfigFault.zero "health.recovery_threshold" ∈ c.numberFaults := by
      simp [numberFaults, positiveNumbers, hzero]
    simp [faults, hnumber]
  rw [← listed_eq_faults, validate_eq_ok_iff.1 h] at hfault
  cases hfault

end PlaneConfig

end ServicePlane
