import Mathlib.Data.Prod.Lex
import ServicePlane.Proofs.Lifecycle.Visit
import ServicePlane.Proofs.Text.ByteOrder

/-!
# Placing hooks one by one

The loop of `StartupOrder.place`, told as a relation:

* `key` — what hooks are compared by, as a linear order;
* `IsNext hooks placed hook` — of the hooks that may be placed, the one with the least key;
* `Places hooks placed order` — from the placed hooks, always placing the next one leads to `order`.

`resolveStartupOrder_eq_ok_iff` says that the resolution succeeds exactly along this relation, and
`resolveStartupOrder_cases` that it names a fault otherwise. Along the relation every order is legal,
is the least among the legal ones, and does not depend on how the hooks are listed.
-/

namespace ServicePlane

namespace StartupOrder

variable {hooks hooks' : List HookSpec} {placed order order' : List String} {hook : HookSpec}

/-! ## Keys -/

/-- What hooks are compared by: their place, and at equal places the bytes of their names. -/
def key (hook : HookSpec) : Int ×ₗ List Nat :=
  toLex (hook.startupOrder.toInt, Text.utf8Bytes hook.name)

theorem before_iff {a b : HookSpec} : a.before b = true ↔ key a < key b := by
  simp only [HookSpec.before, key, Prod.Lex.toLex_lt_toLex, Bool.or_eq_true, Bool.and_eq_true,
    decide_eq_true_eq, beq_iff_eq, Int32.lt_iff_toInt_lt, Int32.toInt_inj, Text.utf8Bytes_lt_iff]

theorem name_eq_of_key_eq {a b : HookSpec} (h : key a = key b) : a.name = b.name := by
  have hpair : Text.utf8Bytes a.name = Text.utf8Bytes b.name := by
    simpa [key] using congrArg (fun k => (ofLex k).2) h
  exact Text.utf8Bytes_injective hpair

/-- The keys of hooks by their names. -/
def keys (hooks : List HookSpec) (order : List String) : List (Int ×ₗ List Nat) :=
  order.filterMap fun name => (find? hooks name).map key

theorem keys_append (left right : List String) :
    keys hooks (left ++ right) = keys hooks left ++ keys hooks right := by
  simp [keys]

theorem keys_cons (hnames : (names hooks).Nodup) (hm : hook ∈ hooks) (rest : List String) :
    keys hooks (hook.name :: rest) = key hook :: keys hooks rest := by
  simp [keys, find?_of_mem hnames hm]

/-! ## The least hook of a list -/

theorem firstBy_eq_none_iff : firstBy hooks = none ↔ hooks = [] := by
  cases hooks with
  | nil =>
      simp [firstBy]
  | cons h rest =>
      simp only [firstBy]
      split
      · simp
      · split <;> simp

theorem firstBy_spec (h : firstBy hooks = some hook) :
    hook ∈ hooks ∧ ∀ other ∈ hooks, key hook ≤ key other := by
  induction hooks generalizing hook with
  | nil =>
      cases h
  | cons first rest ih =>
      simp only [firstBy] at h
      split at h
      · rename_i hnone
        cases h
        rw [firstBy_eq_none_iff.1 hnone]
        simp
      · rename_i least hleast
        rcases ih hleast with ⟨hmem, hmin⟩
        split at h
        · rename_i hbefore
          cases h
          refine ⟨by simp [hmem], ?_⟩
          intro other hother
          rcases List.mem_cons.1 hother with rfl | hother
          · exact le_of_lt (before_iff.1 hbefore)
          · exact hmin other hother
        · rename_i hbefore
          cases h
          have hle : key first ≤ key least := not_lt.1 (fun hlt => hbefore (before_iff.2 hlt))
          refine ⟨by simp, ?_⟩
          intro other hother
          rcases List.mem_cons.1 hother with rfl | hother
          · exact le_refl _
          · exact le_trans hle (hmin other hother)

/-! ## The next hook -/

/-- A hook that may be placed: it is not placed, and everything it requires is. -/
structure Placeable (hooks : List HookSpec) (placed : List String) (hook : HookSpec) : Prop where
  mem : hook ∈ hooks
  unplaced : hook.name ∉ placed
  requires_placed : ∀ y ∈ hook.requires, y ∈ placed

/-- Of the hooks that may be placed, the one with the least key. -/
structure IsNext (hooks : List HookSpec) (placed : List String) (hook : HookSpec) : Prop where
  placeable : Placeable hooks placed hook
  least : ∀ other, Placeable hooks placed other → key hook ≤ key other

theorem mem_offPath : hook ∈ offPath hooks placed ↔ hook ∈ hooks ∧ hook.name ∉ placed := by
  simp [offPath]

theorem isPlaceable_iff : isPlaceable placed hook = true ↔ ∀ y ∈ hook.requires, y ∈ placed := by
  simp [isPlaceable]

theorem mem_filter_isPlaceable :
    hook ∈ (offPath hooks placed).filter (isPlaceable placed) ↔ Placeable hooks placed hook := by
  rw [List.mem_filter, mem_offPath, isPlaceable_iff]
  constructor
  · rintro ⟨⟨hm, hunplaced⟩, hreq⟩
    exact ⟨hm, hunplaced, hreq⟩
  · rintro ⟨hm, hunplaced, hreq⟩
    exact ⟨⟨hm, hunplaced⟩, hreq⟩

theorem isNext_of_firstBy
    (h : firstBy ((offPath hooks placed).filter (isPlaceable placed)) = some hook) :
    IsNext hooks placed hook := by
  rcases firstBy_spec h with ⟨hm, hmin⟩
  exact ⟨mem_filter_isPlaceable.1 hm, fun other hother => hmin other (mem_filter_isPlaceable.2 hother)⟩

theorem all_placed (h : offPath hooks placed = []) : ∀ x ∈ names hooks, x ∈ placed := by
  intro x hx
  rcases List.mem_map.1 hx with ⟨hook, hm, rfl⟩
  by_contra hleft
  have hmem := mem_offPath.2 ⟨hm, hleft⟩
  rw [h] at hmem
  cases hmem

theorem LegalPrefix.next (h : LegalPrefix hooks placed) (hnames : (names hooks).Nodup)
    (hnext : Placeable hooks placed hook) : LegalPrefix hooks (placed ++ [hook.name]) := by
  refine h.snoc (List.mem_map.2 ⟨hook, hnext.mem, rfl⟩) hnext.unplaced ?_
  intro y hy
  exact hnext.requires_placed y (mem_requires_of_requires hnames hnext.mem hy)

/-! ## Placing to the end -/

/-- Always placing the next hook leads from the placed hooks to an order of all. -/
inductive Places (hooks : List HookSpec) : List String → List String → Prop where
  | done {placed : List String} (hall : ∀ x ∈ names hooks, x ∈ placed) : Places hooks placed placed
  | next {placed order : List String} {hook : HookSpec} (hnext : IsNext hooks placed hook)
      (hrest : Places hooks (placed ++ [hook.name]) order) : Places hooks placed order

namespace Places

theorem prefix_order (h : Places hooks placed order) : placed <+: order := by
  induction h with
  | done _ =>
      exact List.prefix_refl _
  | next _ _ ih =>
      exact (List.prefix_append _ _).trans ih

theorem legalOrder (h : Places hooks placed order) (hnames : (names hooks).Nodup)
    (hplaced : LegalPrefix hooks placed) : LegalOrder hooks order := by
  induction h with
  | done hall =>
      exact hplaced.legalOrder hnames hall
  | next hnext _ ih =>
      exact ih (hplaced.next hnames hnext.placeable)

/-- Among the legal orders that begin with what is placed, the one that is reached is the least. -/
theorem keys_le (h : Places hooks placed order) (hnames : (names hooks).Nodup) {rest : List String}
    (hlegal : LegalOrder hooks (placed ++ rest)) : keys hooks order ≤ keys hooks (placed ++ rest) := by
  induction h generalizing rest with
  | @done placed hall =>
      have hnodup := hlegal.nodup hnames
      cases rest with
      | nil =>
          simp
      | cons x rest =>
          have hx : x ∈ placed := hall x (hlegal.perm.mem_iff.1 (by simp))
          exact absurd rfl ((List.nodup_append.1 hnodup).2.2 x hx x (by simp))
  | @next placed order hook hnext hrest ih =>
      have hnodup := hlegal.nodup hnames
      cases rest with
      | nil =>
          have hmem : hook.name ∈ placed ++ [] :=
            hlegal.perm.mem_iff.2 (List.mem_map.2 ⟨hook, hnext.placeable.mem, rfl⟩)
          exact absurd (by simpa using hmem) hnext.placeable.unplaced
      | cons x rest =>
          -- The entry at the same place of the other order could have been placed here as well.
          rcases List.mem_map.1 (hlegal.perm.mem_iff.1 (List.mem_append_right placed List.mem_cons_self))
            with ⟨other, hother, rfl⟩
          have hplaceable : Placeable hooks placed other := {
            mem := hother
            unplaced := fun hmem => (List.nodup_append.1 hnodup).2.2 _ hmem _ (by simp) rfl
            requires_placed := fun y hy =>
              (Precedes.iff_mem_of_split hnodup).1
                (hlegal.requirement_first other.name y ⟨other, hother, rfl, hy⟩) }
          rcases lt_or_eq_of_le (hnext.least other hplaceable) with hlt | heq
          · rcases hrest.prefix_order with ⟨tail, rfl⟩
            rw [List.append_assoc, List.singleton_append, keys_append, keys_append,
              keys_cons hnames hnext.placeable.mem, keys_cons hnames hother]
            exact le_of_lt (List.Lex.append_left _ (List.Lex.rel hlt) _)
          · rw [← name_eq_of_key_eq heq] at hlegal ⊢
            have hsame : placed ++ hook.name :: rest = (placed ++ [hook.name]) ++ rest := by
              simp
            rw [hsame] at hlegal ⊢
            exact ih hlegal

/-- There is one order to reach. -/
theorem unique (h : Places hooks placed order) (h' : Places hooks placed order') :
    order = order' := by
  induction h with
  | done hall =>
      cases h' with
      | done _ =>
          rfl
      | next hnext _ =>
          have hmem := hall _ (List.mem_map.2 ⟨_, hnext.placeable.mem, rfl⟩)
          exact absurd hmem hnext.placeable.unplaced
  | next hnext _ ih =>
      cases h' with
      | done hall =>
          have hmem := hall _ (List.mem_map.2 ⟨_, hnext.placeable.mem, rfl⟩)
          exact absurd hmem hnext.placeable.unplaced
      | next hnext' hrest' =>
          have hkey := le_antisymm (hnext.least _ hnext'.placeable) (hnext'.least _ hnext.placeable)
          rw [← name_eq_of_key_eq hkey] at hrest'
          exact ih hrest'

theorem congr (hsame : ∀ hook, hook ∈ hooks ↔ hook ∈ hooks') (h : Places hooks placed order) :
    Places hooks' placed order := by
  have hplaceable : ∀ placed hook, Placeable hooks placed hook ↔ Placeable hooks' placed hook := by
    intro placed hook
    constructor
    · rintro ⟨hm, hunplaced, hreq⟩
      exact ⟨(hsame hook).1 hm, hunplaced, hreq⟩
    · rintro ⟨hm, hunplaced, hreq⟩
      exact ⟨(hsame hook).2 hm, hunplaced, hreq⟩
  induction h with
  | done hall =>
      refine Places.done ?_
      intro x hx
      rcases List.mem_map.1 hx with ⟨hook, hm, rfl⟩
      exact hall hook.name (List.mem_map.2 ⟨hook, (hsame hook).2 hm, rfl⟩)
  | next hnext _ ih =>
      refine Places.next ⟨(hplaceable _ _).1 hnext.placeable, ?_⟩ ih
      intro other hother
      exact hnext.least other ((hplaceable _ _).2 hother)

end Places

/-! ## The loop -/

/-- When no hook comes next, none that is left may be placed. -/
theorem not_placeable_of_stuck
    (hstuck : firstBy ((offPath hooks placed).filter (isPlaceable placed)) = none) :
    ∀ hook ∈ hooks, hook.name ∉ placed → isPlaceable placed hook = false := by
  intro hook hm hleft
  have hempty := firstBy_eq_none_iff.1 hstuck
  have hnot := List.filter_eq_nil_iff.1 hempty hook (mem_offPath.2 ⟨hm, hleft⟩)
  simpa using hnot

/-- A hook that is left when none may be placed leads the visit to a fault. -/
theorem visit_error_of_stuck
    (hstuck : firstBy ((offPath hooks placed).filter (isPlaceable placed)) = none)
    (hroot : firstBy (offPath hooks placed) = some hook) :
    ∃ e, visit hooks placed [] hook.name [] = .error e ∧ Blames hooks e := by
  rcases mem_offPath.1 (firstBy_spec hroot).1 with ⟨hm, hunplaced⟩
  cases hvisit : visit hooks placed [] hook.name [] with
  | error e =>
      exact ⟨e, rfl, blames_of_visit_error (VisitPath.start (List.mem_map.2 ⟨hook, hm, rfl⟩)) hvisit⟩
  | ok visited =>
      exact absurd (placed_of_visit_ok (not_placeable_of_stuck hstuck) hvisit).1 hunplaced

/-- With a round for every hook that is left, the loop places all hooks or names a fault. -/
theorem place_cases (rounds : Nat) (hrounds : (offPath hooks placed).length ≤ rounds) :
    (∃ order, place hooks rounds placed = .ok order ∧ Places hooks placed order) ∨
      ∃ e, place hooks rounds placed = .error e ∧ Blames hooks e := by
  induction rounds generalizing placed with
  | zero =>
      left
      refine ⟨placed, rfl, Places.done (all_placed ?_)⟩
      exact List.eq_nil_of_length_eq_zero (by omega)
  | succ rounds ih =>
      rw [place]
      cases hnext : firstBy ((offPath hooks placed).filter (isPlaceable placed)) with
      | some hook =>
          -- The round places a hook, and for those that are left there are rounds enough.
          have hisNext := isNext_of_firstBy hnext
          have hfewer := offPath_lt hisNext.placeable.mem hisNext.placeable.unplaced
          have hleft : (offPath hooks (placed ++ [hook.name])).length ≤ rounds := by
            omega
          rcases ih hleft with ⟨order, hplace, hplaces⟩ | herror
          · exact Or.inl ⟨order, hplace, Places.next hisNext hplaces⟩
          · exact Or.inr herror
      | none =>
          cases hroot : firstBy (offPath hooks placed) with
          | none =>
              exact Or.inl ⟨placed, rfl, Places.done (all_placed (firstBy_eq_none_iff.1 hroot))⟩
          | some root =>
              -- Hooks are left, and none of them may be placed: the visit says why.
              rcases visit_error_of_stuck hnext hroot with ⟨e, hvisit, hblames⟩
              right
              refine ⟨e, ?_, hblames⟩
              simp only [hvisit]

theorem resolveStartupOrder_cases (hooks : List HookSpec) :
    (∃ order, resolveStartupOrder hooks = .ok order ∧ Places hooks [] order) ∨
      ∃ e, resolveStartupOrder hooks = .error e ∧ Blames hooks e :=
  place_cases hooks.length (List.length_filter_le _ _)

/-- The resolution succeeds exactly with the order that placing one by one reaches. -/
theorem resolveStartupOrder_eq_ok_iff (hnames : (names hooks).Nodup) :
    resolveStartupOrder hooks = .ok order ↔ Places hooks [] order := by
  constructor
  · intro h
    rcases resolveStartupOrder_cases hooks with ⟨order', hok, hplaces⟩ | ⟨e, herror, _⟩
    · rw [hok] at h
      cases h
      exact hplaces
    · rw [herror] at h
      cases h
  · intro h
    rcases resolveStartupOrder_cases hooks with ⟨order', hok, hplaces⟩ | ⟨e, _, hblames⟩
    · rw [hok, hplaces.unique h]
    · have hlegal := h.legalOrder hnames LegalPrefix.nil
      exact absurd (hlegal.resolvable hnames) hblames.not_resolvable

theorem legalOrder_of_resolve (hnames : (names hooks).Nodup)
    (h : resolveStartupOrder hooks = .ok order) : LegalOrder hooks order :=
  ((resolveStartupOrder_eq_ok_iff hnames).1 h).legalOrder hnames LegalPrefix.nil

/-- The resolution fails exactly with a fault of the hooks, and never on resolvable ones. -/
theorem exists_order_iff_resolvable (hnames : (names hooks).Nodup) :
    (∃ order, resolveStartupOrder hooks = .ok order) ↔ Resolvable hooks := by
  constructor
  · rintro ⟨order, h⟩
    exact (legalOrder_of_resolve hnames h).resolvable hnames
  · intro hr
    rcases resolveStartupOrder_cases hooks with ⟨order, hok, _⟩ | ⟨e, _, hblames⟩
    · exact ⟨order, hok⟩
    · exact absurd hr hblames.not_resolvable

end StartupOrder

end ServicePlane
