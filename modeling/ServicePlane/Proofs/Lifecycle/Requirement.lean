import Mathlib.Data.List.Chain
import Mathlib.Logic.Relation
import ServicePlane.Lifecycle.StartupOrder
import ServicePlane.Proofs.Lifecycle.Precedence

/-!
# Requirements between startup hooks

What the order of startup hooks is measured by, said without the algorithm that finds it:

* `Requires hooks x y` — the hook `x` declares that `y` has to run first;
* `Resolvable hooks` — every requirement is registered, and no hook leads back to itself;
* `LegalOrder hooks order` — all hooks, each once and each after its requirements;
* `Blames hooks e` — the error `e` names a fault that the hooks have.

A legal order shows that hooks are resolvable, and a fault shows that they are not.
-/

namespace ServicePlane

namespace StartupOrder

open Relation

variable {hooks : List HookSpec} {order placed : List String} {x y : String}

/-! ## The relation -/

/-- The names of hooks. -/
def names (hooks : List HookSpec) : List String :=
  hooks.map (·.name)

/-- The hook named `x` declares that `y` has to run first. -/
def Requires (hooks : List HookSpec) (x y : String) : Prop :=
  ∃ hook ∈ hooks, hook.name = x ∧ y ∈ hook.requires

theorem Requires.mem_names (h : Requires hooks x y) : x ∈ names hooks := by
  rcases h with ⟨hook, hm, hn, _⟩
  exact List.mem_map.2 ⟨hook, hm, hn⟩

/-- A further hook adds no requirements to the hooks that are there. -/
theorem Requires.of_append {spec : HookSpec} (h : Requires (hooks ++ [spec]) x y)
    (hnew : spec.name ∉ names hooks) (hx : x ∈ names hooks) : Requires hooks x y := by
  rcases h with ⟨hook, hm, rfl, hy⟩
  rcases List.mem_append.1 hm with hm | hm
  · exact ⟨hook, hm, rfl, hy⟩
  · rw [List.mem_singleton.1 hm] at hx
    exact absurd hx hnew

/-- As long as indirect requirements stay among the hooks, a further hook adds none to them. -/
theorem transGen_of_append {spec : HookSpec} (h : TransGen (Requires (hooks ++ [spec])) x y)
    (hnew : spec.name ∉ names hooks) (hx : x ∈ names hooks)
    (hclosed : ∀ z, TransGen (Requires hooks) x z → z ∈ names hooks) :
    TransGen (Requires hooks) x y := by
  induction h with
  | single hxy =>
      exact .single (hxy.of_append hnew hx)
  | tail _ hyz ih =>
      exact .tail ih (hyz.of_append hnew (hclosed _ ih))

/-- Every requirement is registered, and no hook leads back to itself. -/
structure Resolvable (hooks : List HookSpec) : Prop where
  registered : ∀ x y, Requires hooks x y → y ∈ names hooks
  acyclic : ∀ x, ¬ TransGen (Requires hooks) x x

/-! ## Finding hooks by name -/

theorem find?_eq_none_iff : find? hooks x = none ↔ x ∉ names hooks := by
  simp [find?, names]

theorem find?_isNone_iff : (find? hooks x).isNone = true ↔ x ∉ names hooks := by
  rw [Option.isNone_iff_eq_none, find?_eq_none_iff]

theorem requires_of_find? {hook : HookSpec} (h : find? hooks x = some hook)
    (hy : y ∈ hook.requires) : Requires hooks x y := by
  rcases name_of_find? h with ⟨hm, hn⟩
  exact ⟨hook, hm, hn, hy⟩

/-- Hooks with different names are told apart by name. -/
theorem eq_of_name_eq (hnames : (names hooks).Nodup) {a b : HookSpec} (ha : a ∈ hooks)
    (hb : b ∈ hooks) (h : a.name = b.name) : a = b :=
  List.inj_on_of_nodup_map hnames ha hb h

theorem find?_of_mem (hnames : (names hooks).Nodup) {hook : HookSpec} (hm : hook ∈ hooks) :
    find? hooks hook.name = some hook := by
  cases hfind : find? hooks hook.name with
  | none =>
      have hnot := find?_eq_none_iff.1 hfind
      exact absurd (List.mem_map.2 ⟨hook, hm, rfl⟩) hnot
  | some other =>
      rcases name_of_find? hfind with ⟨hother, hname⟩
      rw [eq_of_name_eq hnames hother hm hname]

theorem mem_requires_of_requires (hnames : (names hooks).Nodup) {hook : HookSpec}
    (hm : hook ∈ hooks) (h : Requires hooks hook.name y) : y ∈ hook.requires := by
  rcases h with ⟨other, hother, hname, hy⟩
  rw [← eq_of_name_eq hnames hother hm hname]
  exact hy

/-! ## Legal orders -/

/-- All hooks, each once and each after everything it requires. -/
structure LegalOrder (hooks : List HookSpec) (order : List String) : Prop where
  perm : order.Perm (names hooks)
  requirement_first : ∀ x y, Requires hooks x y → Precedes order y x

namespace LegalOrder

theorem nodup (h : LegalOrder hooks order) (hnames : (names hooks).Nodup) : order.Nodup :=
  h.perm.nodup_iff.2 hnames

/-- Indirect requirements come first as well. -/
theorem precedes_of_transGen (h : LegalOrder hooks order) (hnames : (names hooks).Nodup)
    (hxy : TransGen (Requires hooks) x y) : Precedes order y x := by
  induction hxy with
  | single hxy =>
      exact h.requirement_first _ _ hxy
  | tail _ hyz ih =>
      exact (h.requirement_first _ _ hyz).trans (h.nodup hnames) ih

theorem resolvable (h : LegalOrder hooks order) (hnames : (names hooks).Nodup) :
    Resolvable hooks where
  registered := by
    intro x y hxy
    exact h.perm.mem_iff.1 (h.requirement_first x y hxy).mem_left
  acyclic := by
    intro x hx
    exact Precedes.irrefl (h.nodup hnames) (h.precedes_of_transGen hnames hx)

end LegalOrder

/-- The beginning of a legal order: some hooks, each once and each after everything it requires. -/
structure LegalPrefix (hooks : List HookSpec) (placed : List String) : Prop where
  nodup : placed.Nodup
  mem_names : ∀ x ∈ placed, x ∈ names hooks
  requirement_first : ∀ x ∈ placed, ∀ y, Requires hooks x y → Precedes placed y x

namespace LegalPrefix

theorem nil : LegalPrefix hooks [] where
  nodup := List.nodup_nil
  mem_names := by simp
  requirement_first := by simp

/-- A further hook may be placed when everything it requires is placed. -/
theorem snoc (h : LegalPrefix hooks placed) (hx : x ∈ names hooks) (hnew : x ∉ placed)
    (hreq : ∀ y, Requires hooks x y → y ∈ placed) : LegalPrefix hooks (placed ++ [x]) where
  nodup := by
    simpa using h.nodup.concat hnew
  mem_names := by
    intro a ha
    rcases List.mem_append.1 ha with ha | ha
    · exact h.mem_names a ha
    · rw [List.mem_singleton.1 ha]
      exact hx
  requirement_first := by
    intro a ha y hay
    rcases List.mem_append.1 ha with ha | ha
    · exact (h.requirement_first a ha y hay).append_right [x]
    · rw [List.mem_singleton.1 ha] at hay ⊢
      exact Precedes.of_mem_append (hreq y hay) (by simp)

theorem legalOrder (h : LegalPrefix hooks placed) (hnames : (names hooks).Nodup)
    (hall : ∀ x ∈ names hooks, x ∈ placed) : LegalOrder hooks placed where
  perm := by
    refine (List.perm_ext_iff_of_nodup h.nodup hnames).2 ?_
    intro x
    exact ⟨h.mem_names x, hall x⟩
  requirement_first := by
    intro x y hxy
    exact h.requirement_first x (hall x hxy.mem_names) y hxy

end LegalPrefix

/-! ## Faults -/

/-- A way round: the first name again at the end, all names before the end distinct and registered,
and each name requiring the next one. -/
structure IsCycle (hooks : List HookSpec) (cycle : List String) : Prop where
  two_le_length : 2 ≤ cycle.length
  head_eq_last : cycle.head? = cycle.getLast?
  nodup : cycle.dropLast.Nodup
  registered : ∀ x ∈ cycle.dropLast, x ∈ names hooks
  chain : cycle.IsChain (Requires hooks)

theorem IsCycle.transGen {cycle : List String} (h : IsCycle hooks cycle) :
    ∃ x, TransGen (Requires hooks) x x := by
  match cycle, h with
  | x :: y :: rest, h =>
      rcases List.isChain_cons_cons.1 h.chain with ⟨hxy, hrest⟩
      have hlast : (y :: rest).getLast (by simp) = x := by
        have := h.head_eq_last
        simp only [List.head?_cons, List.getLast?_cons_cons] at this
        rw [List.getLast?_eq_some_getLast (by simp)] at this
        exact (Option.some.inj this).symm
      have hback : ReflTransGen (Requires hooks) y x :=
        List.relationReflTransGen_of_exists_isChain_cons rest hrest hlast
      exact ⟨x, TransGen.head' hxy hback⟩
  | [_], h =>
      exact absurd h.two_le_length (by simp)
  | [], h =>
      exact absurd h.two_le_length (by simp)

/-- The error names a fault that the hooks have: a requirement that is not registered, or a way
round. Other errors name none. -/
def Blames (hooks : List HookSpec) : LifecycleError → Prop
  | .missingDependency hook dependency =>
      hook ∈ names hooks ∧ Requires hooks hook dependency ∧ dependency ∉ names hooks
  | .circularDependency cycle => IsCycle hooks cycle
  | .duplicateHook _ _ => False
  | .hookFailed _ _ => False

theorem Blames.not_resolvable {e : LifecycleError} (h : Blames hooks e) : ¬ Resolvable hooks := by
  intro hr
  cases e with
  | missingDependency hook dependency =>
      rcases h with ⟨_, hreq, hmissing⟩
      exact hmissing (hr.registered hook dependency hreq)
  | circularDependency cycle =>
      rcases IsCycle.transGen h with ⟨x, hx⟩
      exact hr.acyclic x hx
  | duplicateHook name kind =>
      exact h
  | hookFailed name source =>
      exact h

end StartupOrder

end ServicePlane
