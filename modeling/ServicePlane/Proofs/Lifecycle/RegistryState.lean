import ServicePlane.Lifecycle.Registry
import ServicePlane.Proofs.Lifecycle.Requirement

/-!
# The state of a lifecycle registry

What is started is written down twice: as a mark on each hook and as a sequence of names. This file
states what holds between the two (`LifecycleRegistry.WellFormed`), and what registering, marking
and clearing do to what a registry shows: `startupSpecs`, `contains`, `isStarted` and
`startedSequence`.
-/

namespace ServicePlane

universe u

namespace LifecycleRegistry

open StartupOrder (names)

variable {σ : Type u} {r r' : LifecycleRegistry σ} {kind : HookKind} {name n : String}

/-- What the startup hooks declare, in the order of registration. -/
def startupSpecs (r : LifecycleRegistry σ) : List HookSpec :=
  r.startupHooks.map (·.spec)

/-! ## Looking up -/

theorem contains_eq_isSome : r.contains kind name = (r.hook? kind name).isSome := by
  rw [contains, hook?, List.isSome_find?]

theorem contains_startup_iff : r.contains .startup name = true ↔ name ∈ names r.startupSpecs := by
  simp [contains, hooks, startupSpecs, names]

theorem contains_of_isStarted (h : r.isStarted name = true) : r.contains .startup name = true := by
  rw [contains_eq_isSome]
  cases hfind : r.hook? .startup name with
  | none =>
      simp [isStarted, hfind] at h
  | some hook =>
      rfl

theorem name_of_hook? {h : Hook σ} (hfind : r.hook? kind name = some h) : h.spec.name = name := by
  have := List.find?_some hfind
  simpa using this

/-! ## Well-formed registries -/

/-- What holds of every registry between two calls. -/
structure WellFormed (r : LifecycleRegistry σ) : Prop where
  names_nodup : ∀ kind, ((r.hooks kind).map (·.spec.name)).Nodup
  sequence_nodup : r.startedSequence.Nodup
  isStarted_iff : ∀ name, r.isStarted name = true ↔ name ∈ r.startedSequence

namespace WellFormed

theorem startup_names_nodup (h : r.WellFormed) : (names r.startupSpecs).Nodup := by
  rw [names, startupSpecs, List.map_map]
  exact h.names_nodup .startup

/-- Every registered hook is found by its name. -/
theorem hook?_of_mem {hook : Hook σ} (h : r.WellFormed) (hm : hook ∈ r.hooks kind) :
    r.hook? kind hook.spec.name = some hook := by
  cases hfind : r.hook? kind hook.spec.name with
  | none =>
      have hnot := List.find?_eq_none.1 hfind hook hm
      simp at hnot
  | some other =>
      have hother : other ∈ r.hooks kind := List.mem_of_find?_eq_some hfind
      rw [List.inj_on_of_nodup_map (h.names_nodup kind) hother hm (name_of_hook? hfind)]

theorem isStarted_eq_false_iff (h : r.WellFormed) :
    r.isStarted name = false ↔ name ∉ r.startedSequence := by
  rw [← h.isStarted_iff, Bool.not_eq_true]

theorem registered_of_mem_sequence (h : r.WellFormed) (hn : name ∈ r.startedSequence) :
    name ∈ names r.startupSpecs :=
  contains_startup_iff.1 (contains_of_isStarted ((h.isStarted_iff name).2 hn))

theorem shutdownOrder_eq (h : r.WellFormed) :
    r.shutdownOrder = r.startedSequence.reverse.filter (r.contains .shutdown) := by
  refine List.filter_congr ?_
  intro name hname
  have hstarted := (h.isStarted_iff name).2 (List.mem_reverse.1 hname)
  simp [hstarted]

theorem empty : (LifecycleRegistry.empty : LifecycleRegistry σ).WellFormed where
  names_nodup := by
    intro kind
    cases kind <;> simp [LifecycleRegistry.empty, hooks]
  sequence_nodup := by
    simp [LifecycleRegistry.empty]
  isStarted_iff := by
    simp [LifecycleRegistry.empty, isStarted, hook?, hooks]

end WellFormed

/-! ## Registering -/

/-- A hook that has been registered is the last of its kind, and nothing else changes. -/
theorem register_spec {spec : HookSpec} {action : σ → HookResult × σ} {told : Telemetry}
    (h : r.register kind spec action = .ok (r', told)) :
    r.contains kind spec.name = false ∧
      (∀ k, r'.hooks k = if k = kind then r.hooks k ++ [⟨spec, false, action⟩] else r.hooks k) ∧
      r'.startedSequence = r.startedSequence := by
  rw [register] at h
  split at h
  · cases h
  · rename_i hnew
    refine ⟨by simpa using hnew, ?_⟩
    cases kind with
    | startup =>
        cases h
        refine ⟨?_, rfl⟩
        intro k
        cases k <;> simp [hooks]
    | shutdown =>
        cases h
        refine ⟨?_, rfl⟩
        intro k
        cases k <;> simp [hooks]

/-- What the startup hooks declare grows at most by a hook with a new name. -/
theorem startupSpecs_of_register {spec : HookSpec} {action : σ → HookResult × σ} {told : Telemetry}
    (h : r.register kind spec action = .ok (r', told)) :
    r'.startupSpecs = r.startupSpecs ∨
      (r'.startupSpecs = r.startupSpecs ++ [spec] ∧ spec.name ∉ names r.startupSpecs) := by
  rcases register_spec h with ⟨hnew, hhooks, _⟩
  have hstartup := hhooks .startup
  cases kind with
  | startup =>
      right
      constructor
      · simpa [startupSpecs, hooks] using congrArg (List.map (·.spec)) hstartup
      · intro hmem
        have hold : r.contains .startup spec.name = true := contains_startup_iff.2 hmem
        rw [hnew] at hold
        cases hold
  | shutdown =>
      left
      simpa [startupSpecs, hooks] using congrArg (List.map (·.spec)) hstartup

theorem isStarted_of_register {spec : HookSpec} {action : σ → HookResult × σ} {told : Telemetry}
    (h : r.register kind spec action = .ok (r', told)) : r'.isStarted name = r.isStarted name := by
  rcases register_spec h with ⟨_, hhooks, _⟩
  rw [isStarted, isStarted, hook?, hook?, hhooks]
  by_cases hkind : HookKind.startup = kind
  · rw [if_pos hkind, List.find?_append]
    cases hfind : (r.hooks .startup).find? fun h => h.spec.name == name with
    | some hook =>
        rfl
    | none =>
        -- Only the new hook can be meant, and it is not started.
        simp only [Option.none_or, List.find?_singleton]
        by_cases hname : (spec.name == name) = true <;> simp [hname]
  · rw [if_neg hkind]

theorem WellFormed.register {spec : HookSpec} {action : σ → HookResult × σ} {told : Telemetry}
    (hr : r.WellFormed) (h : r.register kind spec action = .ok (r', told)) : r'.WellFormed := by
  rcases register_spec h with ⟨hnew, hhooks, hsequence⟩
  refine ⟨?_, by rw [hsequence]; exact hr.sequence_nodup, ?_⟩
  · intro k
    rw [hhooks]
    split
    · rename_i hk
      subst hk
      rw [List.map_append, List.nodup_append]
      refine ⟨hr.names_nodup k, by simp, ?_⟩
      intro a ha b hb hab
      rcases List.mem_map.1 ha with ⟨hook, hm, rfl⟩
      have hsame : hook.spec.name = spec.name := by
        simpa using hab.trans (by simpa using hb)
      have hcontains : r.contains k spec.name = true :=
        List.any_eq_true.2 ⟨hook, hm, by simpa using hsame⟩
      rw [hnew] at hcontains
      cases hcontains
    · exact hr.names_nodup k
  · intro name
    rw [isStarted_of_register h, hsequence]
    exact hr.isStarted_iff name

/-! ## Marking and clearing -/

theorem hookNames_markStarted :
    ((r.markStarted name).hooks kind).map (·.spec.name) = (r.hooks kind).map (·.spec.name) := by
  cases kind with
  | startup =>
      simp only [hooks, markStarted, List.map_map]
      refine List.map_congr_left ?_
      intro hook _
      simp only [Function.comp_apply]
      split <;> rfl
  | shutdown =>
      rfl

@[simp]
theorem startupSpecs_markStarted : (r.markStarted name).startupSpecs = r.startupSpecs := by
  simp only [startupSpecs, markStarted, List.map_map]
  refine List.map_congr_left ?_
  intro hook _
  simp only [Function.comp_apply]
  split <;> rfl

@[simp]
theorem contains_markStarted : (r.markStarted name).contains kind n = r.contains kind n := by
  cases kind with
  | startup =>
      rw [Bool.eq_iff_iff, contains_startup_iff, contains_startup_iff, startupSpecs_markStarted]
  | shutdown =>
      rfl

theorem hook?_markStarted :
    (r.markStarted name).hook? .startup n =
      (r.hook? .startup n).map fun h =>
        if h.spec.name == name then { h with started := true } else h := by
  simp only [hook?, hooks, markStarted, List.find?_map]
  congr 1
  congr 1
  funext h
  simp only [Function.comp_apply]
  split <;> rfl

theorem isStarted_markStarted :
    (r.markStarted name).isStarted n = (r.isStarted n || (n == name && r.contains .startup n)) := by
  rw [contains_eq_isSome, isStarted, isStarted, hook?_markStarted]
  cases hold : r.hook? .startup n with
  | none =>
      simp
  | some h =>
      have hname := name_of_hook? hold
      by_cases hn : n = name
      · simp [hname, hn]
      · simp [hname, hn]

theorem WellFormed.markStarted (h : r.WellFormed) (hregistered : r.contains .startup name = true)
    (hnew : name ∉ r.startedSequence) : (r.markStarted name).WellFormed where
  names_nodup := by
    intro kind
    rw [hookNames_markStarted]
    exact h.names_nodup kind
  sequence_nodup := by
    simpa [LifecycleRegistry.markStarted] using h.sequence_nodup.concat hnew
  isStarted_iff := by
    intro n
    rw [isStarted_markStarted, Bool.or_eq_true, h.isStarted_iff]
    by_cases hn : n = name
    · subst hn
      simp [LifecycleRegistry.markStarted, hregistered]
    · simp [LifecycleRegistry.markStarted, hn]

/-- Mark hooks started, one after the other. -/
def markAll (r : LifecycleRegistry σ) (started : List String) : LifecycleRegistry σ :=
  started.foldl markStarted r

@[simp]
theorem startupSpecs_markAll (started : List String) :
    (r.markAll started).startupSpecs = r.startupSpecs := by
  induction started generalizing r with
  | nil =>
      rfl
  | cons name rest ih =>
      exact (ih (r := r.markStarted name)).trans startupSpecs_markStarted

@[simp]
theorem contains_markAll (started : List String) :
    (r.markAll started).contains kind n = r.contains kind n := by
  induction started generalizing r with
  | nil =>
      rfl
  | cons name rest ih =>
      exact (ih (r := r.markStarted name)).trans contains_markStarted

@[simp]
theorem startedSequence_markAll (started : List String) :
    (r.markAll started).startedSequence = r.startedSequence ++ started := by
  induction started generalizing r with
  | nil =>
      simp [markAll]
  | cons name rest ih =>
      have hrest := ih (r := r.markStarted name)
      simpa [LifecycleRegistry.markStarted, markAll] using hrest

theorem markAll_append (left right : List String) :
    r.markAll (left ++ right) = (r.markAll left).markAll right :=
  List.foldl_append

/-- Marking sets the marks of the named hooks and appends the names, and changes nothing else. -/
theorem markAll_eq (started : List String) :
    r.markAll started =
      { r with
        startupHooks := r.startupHooks.map fun h =>
          { h with started := h.started || started.contains h.spec.name }
        startedSequence := r.startedSequence ++ started } := by
  induction started generalizing r with
  | nil =>
      simp [markAll]
  | cons name rest ih =>
      have hrest := ih (r := r.markStarted name)
      refine hrest.trans ?_
      simp only [LifecycleRegistry.markStarted, List.map_map, List.append_assoc,
        List.singleton_append]
      congr 1
      refine List.map_congr_left ?_
      intro h _
      by_cases hname : h.spec.name = name
      · simp [hname]
      · simp [hname]

theorem isStarted_markAll_of_notMem {started : List String} (h : n ∉ started) :
    (r.markAll started).isStarted n = r.isStarted n := by
  induction started generalizing r with
  | nil =>
      rfl
  | cons name rest ih =>
      simp only [List.mem_cons, not_or] at h
      refine (ih (r := r.markStarted name) h.2).trans ?_
      simp [isStarted_markStarted, h.1]

theorem WellFormed.markAll (h : r.WellFormed) {started : List String}
    (hregistered : ∀ name ∈ started, r.contains .startup name = true)
    (hnodup : (r.startedSequence ++ started).Nodup) : (r.markAll started).WellFormed := by
  induction started generalizing r with
  | nil =>
      exact h
  | cons name rest ih =>
      have hnew : name ∉ r.startedSequence := by
        intro hmem
        exact (List.nodup_append.1 hnodup).2.2 name hmem name (by simp) rfl
      refine ih (h.markStarted (hregistered name (by simp)) hnew) ?_ ?_
      · intro n hn
        rw [contains_markStarted]
        exact hregistered n (by simp [hn])
      · simpa [LifecycleRegistry.markStarted] using hnodup

@[simp]
theorem clearStarted_clearStarted : r.clearStarted.clearStarted = r.clearStarted := by
  simp [clearStarted]

@[simp]
theorem clearStarted_markAll (started : List String) :
    (r.markAll started).clearStarted = r.clearStarted := by
  simp [markAll_eq, clearStarted]

theorem contains_clearStarted : r.clearStarted.contains kind n = r.contains kind n := by
  cases kind with
  | startup =>
      simp [contains, hooks, clearStarted, Function.comp_def]
  | shutdown =>
      rfl

/-- Whether a hook can be registered does not depend on what is started. -/
theorem register_clearStarted (spec : HookSpec) (action : σ → HookResult × σ) :
    r.clearStarted.register kind spec action =
      (r.register kind spec action).map fun done => (done.1.clearStarted, done.2) := by
  rw [register, register, contains_clearStarted]
  split
  · rfl
  · cases kind with
    | startup =>
        simp [clearStarted, Except.map]
    | shutdown =>
        rfl

theorem WellFormed.clearStarted (h : r.WellFormed) : r.clearStarted.WellFormed where
  names_nodup := by
    intro kind
    have hsame : (r.clearStarted.hooks kind).map (·.spec.name) =
        (r.hooks kind).map (·.spec.name) := by
      cases kind with
      | startup =>
          simp [hooks, LifecycleRegistry.clearStarted]
      | shutdown =>
          rfl
    rw [hsame]
    exact h.names_nodup kind
  sequence_nodup := List.nodup_nil
  isStarted_iff := by
    intro n
    simp only [isStarted, hook?, hooks, LifecycleRegistry.clearStarted, List.find?_map]
    cases hfind : r.startupHooks.find? _ with
    | none =>
        simp
    | some hook =>
        simp

end LifecycleRegistry

end ServicePlane
