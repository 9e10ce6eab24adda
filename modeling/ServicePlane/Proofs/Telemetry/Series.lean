import Mathlib.Data.List.Induction
import ServicePlane.Telemetry.Notice

/-!
# The values of series

The value a series shows depends on its own recordings alone. Here is what more recordings make of
it, for each kind of series.

* `valueOf?_append_gauge` — a gauge shows the value that was recorded last;
* `Telemetry.counter_append` — a counter grows by the number of its recordings;
* `Telemetry.valueOf?_of_samples` — a distribution shows how many samples it has got.
-/

namespace ServicePlane

namespace Measurement

variable {m : Metric} {recorded later : List Measurement} {value : Nat}

theorem valueOf?_concat (m : Metric) (recorded : List Measurement) (x : Measurement) :
    valueOf? m (recorded ++ [x]) =
      if x.metric = m then some (x.apply (valueOf? m recorded)) else valueOf? m recorded := by
  simp [valueOf?]

/-- A gauge for which all recordings say the same shows it, once there is one. -/
theorem valueOf?_append_gauge (h : ∀ x ∈ later, x.metric = m → x = .gauge m value) :
    valueOf? m (recorded ++ later) =
      if ∃ x ∈ later, x.metric = m then some value else valueOf? m recorded := by
  induction later using List.reverseRecOn with
  | nil =>
      simp
  | append_singleton later x ih =>
      have hbefore := ih fun y hy => h y (List.mem_append_left _ hy)
      rw [← List.append_assoc, valueOf?_concat]
      by_cases hx : x.metric = m
      · have hgauge : x = .gauge m value := h x (by simp) hx
        rw [if_pos hx, if_pos ⟨x, by simp, hx⟩, hgauge]
        rfl
      · have hlast : (∃ y ∈ later ++ [x], y.metric = m) ↔ ∃ y ∈ later, y.metric = m := by
          simp [or_and_right, exists_or, hx]
        rw [if_neg hx, hbefore]
        simp only [hlast]

/-- Recordings of other series do not touch a series. -/
theorem valueOf?_append_of_unrelated (h : ∀ x ∈ later, x.metric ≠ m) :
    valueOf? m (recorded ++ later) = valueOf? m recorded := by
  have hnone : ¬ ∃ x ∈ later, x.metric = m := fun ⟨x, hx, hmetric⟩ => h x hx hmetric
  rw [@valueOf?_append_gauge m recorded later 0 fun x hx hmetric => absurd hmetric (h x hx),
    if_neg hnone]

/-- A series that grows by one with each recording grows by their number. -/
theorem getD_valueOf?_append_of_grows
    (h : ∀ x ∈ later, x.metric = m → ∀ before, x.apply before = before.getD 0 + 1) :
    (valueOf? m (recorded ++ later)).getD 0 =
      (valueOf? m recorded).getD 0 + later.countP (·.metric = m) := by
  induction later using List.reverseRecOn with
  | nil =>
      simp
  | append_singleton later x ih =>
      have hbefore := ih fun y hy => h y (List.mem_append_left _ hy)
      rw [← List.append_assoc, valueOf?_concat, List.countP_append, List.countP_singleton]
      by_cases hx : x.metric = m
      · simp [hx, h x (by simp) hx, hbefore, Nat.add_assoc]
      · simp [hx, hbefore]

theorem getD_valueOf?_append (h : ∀ x ∈ later, x.metric = m → x = .count m) :
    (valueOf? m (recorded ++ later)).getD 0 =
      (valueOf? m recorded).getD 0 + later.count (.count m) := by
  have hcount : later.countP (·.metric = m) = later.count (.count m) := by
    refine List.countP_congr fun x hx => ?_
    simp only [decide_eq_true_eq, beq_iff_eq]
    constructor
    · exact h x hx
    · rintro rfl
      rfl
  rw [← hcount]
  refine getD_valueOf?_append_of_grows ?_
  intro x hx hmetric before
  rw [h x hx hmetric]
  rfl

end Measurement

namespace Telemetry

variable {t told : Telemetry} {m : Metric}

/-- What a counter shows; one that was never recorded stands at zero. -/
def counter (t : Telemetry) (m : Metric) : Nat :=
  (t.valueOf? m).getD 0

@[simp]
theorem measurements_nil : measurements [] = [] :=
  rfl

@[simp]
theorem measurements_measured (x : Measurement) (t : Telemetry) :
    measurements (.measured x :: t) = x :: measurements t :=
  rfl

@[simp]
theorem measurements_logged (record : LogRecord) (t : Telemetry) :
    measurements (.logged record :: t) = measurements t :=
  rfl

theorem measurements_map_measured (recorded : List Measurement) :
    measurements (recorded.map .measured) = recorded := by
  induction recorded with
  | nil =>
      rfl
  | cons x rest ih =>
      rw [List.map_cons, measurements_measured, ih]

theorem valueOf?_append_of_unrelated (h : ∀ x ∈ told.measurements, x.metric ≠ m) :
    valueOf? (t ++ told) m = t.valueOf? m := by
  rw [valueOf?, measurements_append]
  exact Measurement.valueOf?_append_of_unrelated h

/-- A counter grows by the number of its recordings. -/
theorem counter_append (h : ∀ x ∈ told.measurements, x.metric = m → x = .count m) :
    counter (t ++ told) m = t.counter m + told.measurements.count (.count m) := by
  rw [counter, valueOf?, measurements_append]
  exact Measurement.getD_valueOf?_append h

/-- What a distribution shows when nothing but samples was recorded. -/
theorem valueOf?_of_samples {series : List Metric} (h : t.measurements = series.map .sample) :
    (t.valueOf? m).getD 0 = series.count m := by
  have hgrows := @Measurement.getD_valueOf?_append_of_grows m [] t.measurements (by
    intro x hx _ before
    rw [h] at hx
    rcases List.mem_map.1 hx with ⟨_, _, rfl⟩
    rfl)
  rw [valueOf?, ← List.nil_append t.measurements, hgrows, h, List.countP_map]
  exact Nat.zero_add _

end Telemetry

end ServicePlane
