import Mathlib.Data.List.Nodup

/-!
# Precedence in a list

Startup orders, runs of hooks and started sequences are lists without repetitions, and what is said
about them is which entry comes before which. `Precedes l x y` says so: the two entries are a
subsequence of the list. On a list without repetitions this is a strict order, and it survives what
startup and shutdown do to lists: selecting, cutting off, appending and reversing.
-/

namespace ServicePlane

universe u

variable {α : Type u} {l l' : List α} {x y z : α}

/-- `x` stands before `y` in the list. -/
def Precedes (l : List α) (x y : α) : Prop :=
  [x, y].Sublist l

instance [DecidableEq α] : Decidable (Precedes l x y) :=
  inferInstanceAs (Decidable ([x, y].Sublist l))

namespace Precedes

/-! ## What is in the list -/

theorem mem_left (h : Precedes l x y) : x ∈ l :=
  h.subset (by simp)

theorem mem_right (h : Precedes l x y) : y ∈ l :=
  h.subset (by simp)

/-- On a list without repetitions, what stands before an entry is what its place cuts off. -/
theorem iff_mem_of_split {front back : List α} (hl : (front ++ y :: back).Nodup) :
    Precedes (front ++ y :: back) x y ↔ x ∈ front := by
  constructor
  · intro h
    rcases List.sublist_append_iff.1 h with ⟨l₁, l₂, heq, h₁, h₂⟩
    have hback : y ∉ back := by
      have := (List.nodup_append.1 hl).2.1
      exact (List.nodup_cons.1 this).1
    cases l₁ with
    | nil =>
        -- Both entries would have to stand at or behind the place of `y`.
        have hl₂ : [x, y] = l₂ := by
          simpa using heq
        subst hl₂
        cases h₂ with
        | cons _ hrest =>
            exact absurd (hrest.subset (by simp)) hback
        | cons_cons _ hrest =>
            exact absurd (hrest.subset (by simp)) hback
    | cons a rest =>
        have hxa : x = a := by
          simpa using congrArg List.head? heq
        subst hxa
        exact h₁.subset (by simp)
  · intro hx
    exact (List.singleton_sublist.2 hx).append (List.singleton_sublist.2 (by simp))

theorem irrefl (hl : l.Nodup) : ¬ Precedes l x x := by
  intro h
  have hpair : [x, x].Nodup := h.nodup hl
  simp at hpair

theorem trans (hl : l.Nodup) (hxy : Precedes l x y) (hyz : Precedes l y z) : Precedes l x z := by
  rcases List.append_of_mem hyz.mem_right with ⟨front, back, rfl⟩
  have hy : y ∈ front := (iff_mem_of_split hl).1 hyz
  rcases List.append_of_mem hy with ⟨front', back', rfl⟩
  have hl' : (front' ++ y :: (back' ++ z :: back)).Nodup := by
    simpa using hl
  have hx : x ∈ front' := (iff_mem_of_split hl').1 (by simpa using hxy)
  exact (iff_mem_of_split hl).2 (by simp [hx])

theorem asymm (hl : l.Nodup) (hxy : Precedes l x y) : ¬ Precedes l y x := by
  intro hyx
  exact irrefl hl (hxy.trans hl hyx)

/-! ## Building lists -/

theorem sublist (h : Precedes l x y) (hl : l.Sublist l') : Precedes l' x y :=
  List.Sublist.trans h hl

theorem append_right (h : Precedes l x y) (l' : List α) : Precedes (l ++ l') x y :=
  h.sublist (List.sublist_append_left l l')

theorem of_mem_append (hx : x ∈ l) (hy : y ∈ l') : Precedes (l ++ l') x y :=
  (List.singleton_sublist.2 hx).append (List.singleton_sublist.2 hy)

/-- Two entries of which the second is in the first part stand in the first part. -/
theorem of_append (h : Precedes (l ++ l') x y) (hl : (l ++ l').Nodup) (hy : y ∈ l) :
    Precedes l x y := by
  rcases List.append_of_mem hy with ⟨front, back, rfl⟩
  have hx : x ∈ front := by
    have hl' : (front ++ y :: (back ++ l')).Nodup := by
      simpa using hl
    exact (iff_mem_of_split hl').1 (by simpa using h)
  have hfront : (front ++ y :: back).Nodup := (List.nodup_append.1 hl).1
  exact (iff_mem_of_split hfront).2 hx

theorem reverse (h : Precedes l x y) : Precedes l.reverse y x := by
  exact (List.reverse_sublist.2 h : [x, y].reverse.Sublist l.reverse)

theorem reverse_iff : Precedes l.reverse y x ↔ Precedes l x y := by
  constructor
  · intro h
    simpa using h.reverse
  · intro h
    exact h.reverse

/-- Of two entries of a list, one stands before the other. -/
theorem total (hx : x ∈ l) (hy : y ∈ l) (hne : x ≠ y) : Precedes l x y ∨ Precedes l y x := by
  rcases List.append_of_mem hy with ⟨front, back, rfl⟩
  have hmem : x ∈ front ∨ x ∈ back := by
    simpa [hne] using hx
  rcases hmem with hfront | hback
  · left
    exact of_mem_append hfront (by simp)
  · right
    have hpair : Precedes (y :: back) y x := (List.singleton_sublist.2 hback).cons_cons y
    exact hpair.sublist (List.sublist_append_right front (y :: back))

/-- Which of two entries comes first can be read off backwards. -/
theorem not_iff (hl : l.Nodup) (hx : x ∈ l) (hy : y ∈ l) (hne : x ≠ y) :
    ¬ Precedes l x y ↔ Precedes l y x := by
  constructor
  · intro hnot
    rcases total hx hy hne with hxy | hyx
    · exact absurd hxy hnot
    · exact hyx
  · intro hyx
    exact hyx.asymm hl

/-- Selecting entries keeps the order of those that are selected. -/
theorem iff_of_sublist (hsub : l'.Sublist l) (hl : l.Nodup) (hx : x ∈ l') (hy : y ∈ l') :
    Precedes l' x y ↔ Precedes l x y := by
  constructor
  · intro h
    exact h.sublist hsub
  · intro h
    have hne : x ≠ y := by
      rintro rfl
      exact irrefl hl h
    rcases total hx hy hne with hxy | hyx
    · exact hxy
    · exact absurd (hyx.sublist hsub) (h.asymm hl)

end Precedes

end ServicePlane
