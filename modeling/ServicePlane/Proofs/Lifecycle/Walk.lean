import ServicePlane.Proofs.Lifecycle.Placement

/-!
# The walk to a fault

What is wrong with startup hooks, told without a placement and without a search. A hook can start
when everything that it requires can. The walk begins at the first hook that cannot start, goes on
from each hook to the first of its requirements that cannot start, and ends where it has to.

* `Startable hooks x` — the hooks that can start, as the least set that is closed under `requires`;
* `First hooks p x` — of the hooks with a property, the one with the least key;
* `Walking hooks walk x` — the walk has come along `walk` to `x`, and up to there it has met neither
  a hook twice nor a hook with an unknown requirement;
* `WalkFinds hooks e` — what the walk shows where it ends: the least unknown name, or the way round.

There is at most one way to go on from a hook, so the walk shows one fault at most
(`WalkFinds.unique`). Where every hook can start it shows none.
-/

namespace ServicePlane

namespace StartupOrder

variable {hooks : List HookSpec} {walk walk' : List String} {x x' y y' : String}

/-! ## Hooks that can start -/

/-- A hook can start when everything that it requires can. -/
inductive Startable (hooks : List HookSpec) : String → Prop where
  | intro {hook : HookSpec} (hm : hook ∈ hooks) (hreq : ∀ y ∈ hook.requires, Startable hooks y) :
      Startable hooks hook.name

/-! ## The first hook with a property -/

/-- Of the hooks with a property, `x` is the one with the least key. -/
def First (hooks : List HookSpec) (p : String → Prop) (x : String) : Prop :=
  ∃ hook ∈ hooks, hook.name = x ∧ p x ∧ ∀ other ∈ hooks, p other.name → key hook ≤ key other

namespace First

variable {p : String → Prop}

theorem prop (h : First hooks p x) : p x := by
  rcases h with ⟨_, _, _, hx, _⟩
  exact hx

theorem mem_names (h : First hooks p x) : x ∈ names hooks := by
  rcases h with ⟨hook, hm, rfl, _⟩
  exact List.mem_map_of_mem hm

theorem unique (h : First hooks p x) (h' : First hooks p y) : x = y := by
  rcases h with ⟨hook, hm, rfl, hx, hleast⟩
  rcases h' with ⟨other, hm', rfl, hy, hleast'⟩
  exact name_eq_of_key_eq (le_antisymm (hleast other hm' hy) (hleast' hook hm hx))

end First

/-! ## Walks -/

/-- From a hook, the walk goes on to the first of its requirements that cannot start. -/
def Onward (hooks : List HookSpec) (x y : String) : Prop :=
  First hooks (fun y => Requires hooks x y ∧ ¬ Startable hooks y) y

theorem onward_rightUnique : Relator.RightUnique (Onward hooks) := by
  intro x y z hy hz
  exact First.unique hy hz

/-- A walk begins at the first hook that cannot start, and goes on from hook to hook. -/
structure IsWalk (hooks : List HookSpec) (walk : List String) : Prop where
  starts : ∃ root, walk.head? = some root ∧ First hooks (fun x => ¬ Startable hooks x) root
  onward : walk.IsChain (Onward hooks)

/-- Of two chains with one beginning, along a relation that leaves no choice, one is the beginning
of the other. -/
theorem prefix_or_prefix_of_isChain {α : Type} {R : α → α → Prop} (hR : Relator.RightUnique R)
    {a : α} {l l' : List α} (h : (a :: l).IsChain R) (h' : (a :: l').IsChain R) : l <+: l' ∨ l' <+: l := by
  induction l generalizing a l' with
  | nil =>
      exact Or.inl List.nil_prefix
  | cons b rest ih =>
      cases l' with
      | nil =>
          exact Or.inr List.nil_prefix
      | cons b' rest' =>
          rcases List.isChain_cons_cons.1 h with ⟨hb, hrest⟩
          rcases List.isChain_cons_cons.1 h' with ⟨hb', hrest'⟩
          cases hR hb hb'
          simpa [List.cons_prefix_cons] using ih hrest hrest'

namespace IsWalk

theorem single (h : First hooks (fun x => ¬ Startable hooks x) x) : IsWalk hooks [x] where
  starts := ⟨x, rfl, h⟩
  onward := List.isChain_singleton x

theorem step (h : IsWalk hooks (walk ++ [x])) (hxy : Onward hooks x y) :
    IsWalk hooks (walk ++ [x] ++ [y]) where
  starts := by
    rcases h.starts with ⟨root, hroot, hfirst⟩
    exact ⟨root, by rw [List.head?_append, hroot]; rfl, hfirst⟩
  onward := List.isChain_append.2 ⟨h.onward, List.isChain_singleton y, by simpa using hxy⟩

/-- The walk keeps to registered hooks that cannot start. -/
theorem not_startable (h : IsWalk hooks walk) (hx : x ∈ walk) :
    x ∈ names hooks ∧ ¬ Startable hooks x := by
  rcases h.starts with ⟨root, hroot, hfirst⟩
  rcases List.append_of_mem hx with ⟨front, back, rfl⟩
  rcases List.eq_nil_or_concat front with rfl | ⟨before, a, rfl⟩
  · cases hroot
    exact ⟨hfirst.mem_names, hfirst.prop⟩
  · have hax : Onward hooks a x := by
      have hchain := h.onward
      rw [List.concat_append] at hchain
      exact (List.isChain_cons_cons.1 hchain.right_of_append).1
    exact ⟨hax.mem_names, hax.prop.2⟩

theorem prefix_or_prefix (h : IsWalk hooks walk) (h' : IsWalk hooks walk') :
    walk <+: walk' ∨ walk' <+: walk := by
  rcases h.starts with ⟨root, hroot, hfirst⟩
  rcases h'.starts with ⟨root', hroot', hfirst'⟩
  cases hfirst.unique hfirst'
  rcases List.head?_eq_some_iff.1 hroot with ⟨rest, rfl⟩
  rcases List.head?_eq_some_iff.1 hroot' with ⟨rest', rfl⟩
  simpa [List.cons_prefix_cons] using
    prefix_or_prefix_of_isChain onward_rightUnique h.onward h'.onward

end IsWalk

/-! ## How far the walk goes -/

/-- Everything that the hook requires is registered. -/
def Known (hooks : List HookSpec) (x : String) : Prop :=
  ∀ y, Requires hooks x y → y ∈ names hooks

/-- The walk has come along `walk` to `x`, and nothing before `x` was a reason to stop. -/
structure Walking (hooks : List HookSpec) (walk : List String) (x : String) : Prop where
  isWalk : IsWalk hooks (walk ++ [x])
  nodup : walk.Nodup
  known : ∀ a ∈ walk, Known hooks a

namespace Walking

theorem start (h : First hooks (fun x => ¬ Startable hooks x) x) : Walking hooks [] x where
  isWalk := .single h
  nodup := List.nodup_nil
  known := by simp

/-- From a hook that is new and requires registered hooks only, the walk goes on. -/
theorem step (h : Walking hooks walk x) (hnew : x ∉ walk) (hknown : Known hooks x)
    (hxy : Onward hooks x y) : Walking hooks (walk ++ [x]) y where
  isWalk := h.isWalk.step hxy
  nodup := by
    simpa using h.nodup.concat hnew
  known := by
    intro a ha
    rcases List.mem_append.1 ha with ha | ha
    · exact h.known a ha
    · rw [List.mem_singleton.1 ha]
      exact hknown

theorem not_startable (h : Walking hooks walk x) : x ∈ names hooks ∧ ¬ Startable hooks x :=
  h.isWalk.not_startable (by simp)

/-- Where the walk has to stop, it does not go on. -/
theorem eq_of_prefix (hstop : x ∈ walk ∨ ¬ Known hooks x)
    (h' : Walking hooks walk' x') (hpre : walk ++ [x] <+: walk' ++ [x']) :
    walk = walk' ∧ x = x' := by
  rcases List.prefix_concat_iff.1 hpre with heq | hshort
  · rcases List.append_inj' heq rfl with ⟨hwalk, hlast⟩
    exact ⟨hwalk, by simpa using hlast⟩
  · -- Otherwise the other walk has come past `x`, and had no reason to stop there.
    exfalso
    rcases hstop with hmem | hunknown
    · have hnodup : (walk ++ [x]).Nodup := hshort.sublist.nodup h'.nodup
      exact (List.nodup_append.1 hnodup).2.2 x hmem x (by simp) rfl
    · exact hunknown (h'.known x (hshort.subset (by simp)))

/-- There is one place at which the walk stops. -/
theorem unique (h : Walking hooks walk x) (hstop : x ∈ walk ∨ ¬ Known hooks x)
    (h' : Walking hooks walk' x') (hstop' : x' ∈ walk' ∨ ¬ Known hooks x') :
    walk = walk' ∧ x = x' := by
  rcases h.isWalk.prefix_or_prefix h'.isWalk with hpre | hpre
  · exact eq_of_prefix hstop h' hpre
  · rcases eq_of_prefix hstop' h hpre with ⟨rfl, rfl⟩
    exact ⟨rfl, rfl⟩

end Walking

/-! ## What the walk finds -/

/-- Of the requirements of a hook that are not registered, `y` is the least by its bytes. -/
structure LeastUnknown (hooks : List HookSpec) (x y : String) : Prop where
  requires : Requires hooks x y
  unknown : y ∉ names hooks
  least : ∀ z, Requires hooks x z → z ∉ names hooks → Text.utf8Bytes y ≤ Text.utf8Bytes z

namespace LeastUnknown

theorem not_known (h : LeastUnknown hooks x y) : ¬ Known hooks x := by
  intro hknown
  exact h.unknown (hknown y h.requires)

theorem unique (h : LeastUnknown hooks x y) (h' : LeastUnknown hooks x y') : y = y' :=
  Text.utf8Bytes_injective
    (le_antisymm (h.least y' h'.requires h'.unknown) (h'.least y h.requires h.unknown))

end LeastUnknown

/-- What the walk shows where it ends. At the first hook with an unknown requirement it is the least
one of them; when the walk has come round before, it is the way from the first visit of the hook to
the second. -/
inductive WalkFinds (hooks : List HookSpec) : LifecycleError → Prop where
  | unknown {walk : List String} {x y : String} (hwalking : Walking hooks walk x)
      (hleast : LeastUnknown hooks x y) : WalkFinds hooks (.missingDependency x y)
  | around {front back : List String} {x : String}
      (hwalking : Walking hooks (front ++ x :: back) x) :
      WalkFinds hooks (.circularDependency (x :: back ++ [x]))

namespace WalkFinds

variable {e e' : LifecycleError}

theorem exists_not_startable (h : WalkFinds hooks e) : ∃ x ∈ names hooks, ¬ Startable hooks x := by
  cases h with
  | unknown hwalking _ =>
      exact ⟨_, hwalking.not_startable⟩
  | around hwalking =>
      exact ⟨_, hwalking.not_startable⟩

/-- The walk shows one fault. -/
theorem unique (h : WalkFinds hooks e) (h' : WalkFinds hooks e') : e = e' := by
  cases h with
  | unknown hwalking hleast =>
      cases h' with
      | unknown hwalking' hleast' =>
          rcases hwalking.unique (Or.inr hleast.not_known) hwalking' (Or.inr hleast'.not_known)
            with ⟨rfl, rfl⟩
          rw [hleast.unique hleast']
      | around hwalking' =>
          rcases hwalking.unique (Or.inr hleast.not_known) hwalking' (Or.inl (by simp))
            with ⟨rfl, rfl⟩
          -- A hook that the walk has passed before has no unknown requirement.
          exact absurd (hwalking.known _ (by simp)) hleast.not_known
  | around hwalking =>
      cases h' with
      | unknown hwalking' hleast' =>
          rcases hwalking.unique (Or.inl (by simp)) hwalking' (Or.inr hleast'.not_known)
            with ⟨rfl, rfl⟩
          exact absurd (hwalking'.known _ (by simp)) hleast'.not_known
      | around hwalking' =>
          rcases hwalking.unique (Or.inl (by simp)) hwalking' (Or.inl (by simp)) with ⟨hwalk, rfl⟩
          -- The hook stands on the walk once, so that both ways round begin at the same place.
          have honce := (List.nodup_cons.1 (List.nodup_middle.1 hwalking.nodup)).1
          rw [List.mem_append, not_or] at honce
          rcases (List.append_cons_inj_of_notMem honce.1 honce.2).1 hwalk with ⟨_, _, hback⟩
          rw [hback]

end WalkFinds

end StartupOrder

end ServicePlane
