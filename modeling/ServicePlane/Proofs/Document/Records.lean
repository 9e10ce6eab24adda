import Mathlib.Data.List.Nodup
import ServicePlane.Document.Reader

/-!
# Records out of tables

What reading a table as a record comes to. Each field that is read makes a change of its own to the
record, if nothing is missing in its value. If these changes do not disturb each other and together
make up one record, then every table reads as that record that has its fields in some order, has no
field twice, misses nothing, and leaves out only what the record to start from has already.

* `unlessMissing` — the result of a reader to which nothing but fields can be missing;
* `Assembles` — changes that make up a record;
* `readEntries_table` — the entries of a table, one after the other;
* `readRecord_table` — the record, or the first field that is missing.
-/

namespace ServicePlane

variable {σ : Type}

/-- What was read, unless a field is missing. -/
def unlessMissing {α : Type} (missing : Option String) (a : α) : Except ReadError α :=
  match missing with
  | none => .ok a
  | some name => .error (.missingField name)

/-- To read the document `d` as the field is to make this change, unless a field is missing. -/
def Field.Reads (f : Field σ) (d : Document) (missing : Option String) (change : σ → σ) : Prop :=
  ∀ r, f.read d r = unlessMissing missing (change r)

/-- A field of a record, with the change that one value of it makes. -/
structure Part (σ : Type) where
  field : Field σ
  change : σ → σ

/-- The changes of the parts make up the record `a`, in whatever order they are made. -/
structure Assembles (parts : List (Part σ)) (a : σ) : Prop where
  names_nodup : (parts.map fun p => p.field.name).Nodup
  change_comm : ∀ p ∈ parts, ∀ q ∈ parts, ∀ r, p.change (q.change r) = q.change (p.change r)
  change_change : ∀ p ∈ parts, ∀ r, p.change (p.change r) = p.change r
  all_changes : ∀ r, parts.foldr (fun p r => p.change r) r = a

namespace Assembles

variable {parts : List (Part σ)} {a : σ}

/-- A record that no change changes any more is the record that they make up. -/
theorem eq_of_settled (h : Assembles parts a) {r : σ} (hr : ∀ p ∈ parts, p.change r = r) :
    r = a := by
  have hfold : ∀ ps ⊆ parts, ps.foldr (fun p r => p.change r) r = r := by
    intro ps hps
    induction ps with
    | nil =>
        rfl
    | cons p ps ih =>
        rcases List.cons_subset.1 hps with ⟨hp, hrest⟩
        rw [List.foldr_cons, ih hrest, hr p hp]
  rw [← h.all_changes r, hfold parts (List.Subset.refl parts)]

/-- A change leaves the other ones settled, and itself as well. -/
theorem settled_change (h : Assembles parts a) {p q : Part σ} (hp : p ∈ parts) (hq : q ∈ parts)
    {r : σ} (hr : p ≠ q → q.change r = r) : q.change (p.change r) = p.change r := by
  by_cases heq : p = q
  · rw [heq, h.change_change q hq]
  · calc
      q.change (p.change r) = p.change (q.change r) := h.change_comm q hq p hp r
      _ = p.change r := by rw [hr heq]

theorem eq_of_name_eq (h : Assembles parts a) {p q : Part σ} (hp : p ∈ parts) (hq : q ∈ parts)
    (hname : p.field.name = q.field.name) : p = q :=
  List.inj_on_of_nodup_map h.names_nodup hp hq hname

theorem find?_field (h : Assembles parts a) {p : Part σ} (hp : p ∈ parts) :
    (parts.map Part.field).find? (fun f => f.name == p.field.name) = some p.field := by
  cases hfind : (parts.map Part.field).find? fun f => f.name == p.field.name with
  | none =>
      have hnot := List.find?_eq_none.1 hfind p.field (List.mem_map_of_mem hp)
      simp at hnot
  | some f =>
      rcases List.mem_map.1 (List.mem_of_find?_eq_some hfind) with ⟨q, hq, rfl⟩
      have hname : q.field.name = p.field.name := by
        simpa using List.find?_some hfind
      rw [h.eq_of_name_eq hq hp hname]

end Assembles

/-- An entry of a table as a record with these parts reads it: as one of its fields, or as
something that is passed over. -/
def EntryOf (parts : List (Part σ)) (e : String × Document) (missing : Option String) : Prop :=
  (∃ p ∈ parts, p.field.name = e.1 ∧ p.field.Reads e.2 missing p.change) ∨
    (∀ p ∈ parts, p.field.name ≠ e.1) ∧ e.2.skipFault = none ∧ missing = none

/-- Entries whose texts are their keys. -/
def namedEntries (entries : List (String × Document)) : List (DocumentKey × Document) :=
  entries.map fun e => (.text e.1, e.2)

theorem readEntries_field {fields : List (Field σ)} {f : Field σ} {name : String} {d : Document}
    {missing : Option String} {seen : List String} {change : σ → σ}
    {rest : List (DocumentKey × Document)} {r : σ}
    (hfind : fields.find? (fun f => f.name == name) = some f) (hnew : name ∉ seen)
    (hread : f.Reads d missing change) :
    readEntries fields ((.text name, d) :: rest) seen r =
      (unlessMissing missing (change r)).bind (readEntries fields rest (name :: seen)) := by
  simp [readEntries, readFieldKey, hfind, hnew, hread r, bind, Except.bind]

theorem readEntries_unknown {fields : List (Field σ)} {name : String} {d : Document}
    {seen : List String} {rest : List (DocumentKey × Document)} {r : σ}
    (hfind : fields.find? (fun f => f.name == name) = none) (hskip : d.skipFault = none) :
    readEntries fields ((.text name, d) :: rest) seen r = readEntries fields rest seen r := by
  simp [readEntries, readFieldKey, hfind, hskip, bind, Except.bind]

theorem missingField?_congr {fields : List (Field σ)} {seen seen' : List String}
    (h : ∀ f ∈ fields, f.name ∈ seen ↔ f.name ∈ seen') :
    missingField? fields seen = missingField? fields seen' := by
  have hsame : fields.filter (fun f => f.required && !seen.contains f.name) =
      fields.filter fun f => f.required && !seen'.contains f.name :=
    List.filter_congr fun f hf => by simp [h f hf]
  rw [missingField?, missingField?, ← List.head?_filter, ← List.head?_filter, hsame]

theorem missingField?_eq_none_iff {fields : List (Field σ)} {seen : List String} :
    missingField? fields seen = none ↔ ∀ f ∈ fields, f.required = true → f.name ∈ seen := by
  simp [missingField?]

section Table

variable {parts : List (Part σ)} {a : σ} {ι : Type} (entry : ι → String × Document)
  (missing? : ι → Option String)

/-- Reading the rest of the entries ends at the first of them in which something is missing. If it
comes to the end, the parts of these entries are settled, and those that were settled before. -/
theorem readEntries_table (h : Assembles parts a) (items : List ι) :
    ∀ (seen : List String) (r : σ), (∀ i ∈ items, EntryOf parts (entry i) (missing? i)) →
      (items.map entry).Pairwise (fun e e' => e.1 = e'.1 → ∀ p ∈ parts, p.field.name ≠ e.1) →
      (∀ p ∈ parts, p.field.name ∈ seen → p.field.name ∉ (items.map entry).map Prod.fst) →
      ∃ seen' r', readEntries (parts.map Part.field) (namedEntries (items.map entry)) seen r =
          unlessMissing (items.findSome? missing?) (seen', r') ∧
        (∀ p ∈ parts, p.field.name ∈ seen' ↔
          p.field.name ∈ seen ∨ p.field.name ∈ (items.map entry).map Prod.fst) ∧
        ∀ p ∈ parts, p.field.name ∈ (items.map entry).map Prod.fst ∨ p.change r = r →
          p.change r' = r' := by
  induction items with
  | nil =>
      intro seen r _ _ _
      exact ⟨seen, r, rfl, by simp, by simp⟩
  | cons i rest ih =>
      intro seen r hentries honce hseen
      have hrest : ∀ i ∈ rest, EntryOf parts (entry i) (missing? i) := fun i hi =>
        hentries i (List.mem_cons_of_mem _ hi)
      have hentry := hentries i List.mem_cons_self
      simp only [List.map_cons, List.findSome?_cons, List.mem_cons, namedEntries] at honce hseen ⊢
      generalize entry i = e at hentry honce hseen ⊢
      rcases e with ⟨name, d⟩
      rcases List.pairwise_cons.1 honce with ⟨hfirst, hlater⟩
      rcases hentry with ⟨p, hp, hname, hread⟩ | ⟨hunknown, hskip, hnone⟩
      · -- The part settles with its entry, which is the only one for it.
        obtain rfl : p.field.name = name := hname
        have hnew : p.field.name ∉ seen := fun hmem => hseen p hp hmem (.inl rfl)
        have hseen' : ∀ q ∈ parts, q.field.name ∈ p.field.name :: seen →
            q.field.name ∉ (rest.map entry).map Prod.fst := by
          intro q hq hmem hlate
          rcases List.mem_cons.1 hmem with heq | hmem
          · rcases List.mem_map.1 hlate with ⟨e, he, hsame⟩
            exact hfirst e he (heq.symm.trans hsame.symm) p hp rfl
          · exact hseen q hq hmem (.inr hlate)
        rcases ih (p.field.name :: seen) (p.change r) hrest hlater hseen' with
          ⟨seen', r', hread', hall, hsettled⟩
        refine ⟨seen', r', ?_, ?_, ?_⟩
        · rw [readEntries_field (h.find?_field hp) hnew hread]
          cases missing? i with
          | none =>
              exact hread'
          | some name =>
              rfl
        · intro q hq
          rw [hall q hq, List.mem_cons]
          simp only [or_assoc, or_left_comm]
        · intro q hq hmem
          refine hsettled q hq (or_iff_not_imp_left.2 fun hmissing => ?_)
          refine h.settled_change hp hq fun hne => ?_
          rcases hmem with (heq | hlate) | hr
          · exact absurd (h.eq_of_name_eq hp hq heq.symm) hne
          · exact absurd hlate hmissing
          · exact hr
      · -- An entry that is no field changes nothing.
        have hfind : (parts.map Part.field).find? (fun f => f.name == name) = none := by
          simpa using hunknown
        have hother : ∀ q ∈ parts, q.field.name = name ∨
            q.field.name ∈ (rest.map entry).map Prod.fst ↔
              q.field.name ∈ (rest.map entry).map Prod.fst := by
          intro q hq
          simp [hunknown q hq]
        rcases ih seen r hrest hlater (fun q hq hmem hlate => hseen q hq hmem (.inr hlate)) with
          ⟨seen', r', hread', hall, hsettled⟩
        refine ⟨seen', r', ?_, ?_, ?_⟩
        · rw [readEntries_unknown hfind hskip, hnone]
          exact hread'
        · intro q hq
          rw [hall q hq, hother q hq]
        · intro q hq hmem
          rw [hother q hq] at hmem
          exact hsettled q hq hmem

/-- A table reads as the assembled record, if in the record to start from every field that may be
left out and is left out is as it should be. If something is missing in an entry, the first such one
shows, and otherwise the first field that has to be there and is not. -/
theorem readRecord_table (φ : Dialect) (h : Assembles parts a) (start : σ) {items : List ι}
    (hentries : ∀ i ∈ items, EntryOf parts (entry i) (missing? i))
    (honce : (items.map entry).Pairwise fun e e' => e.1 = e'.1 → ∀ p ∈ parts, p.field.name ≠ e.1)
    (hleft : ∀ p ∈ parts, p.field.name ∉ (items.map entry).map Prod.fst →
      p.field.required = false → p.change start = start) :
    readRecord φ (parts.map Part.field) start (.table (namedEntries (items.map entry)) none) =
      unlessMissing ((items.findSome? missing?).or
        (missingField? (parts.map Part.field) ((items.map entry).map Prod.fst))) a := by
  rcases readEntries_table entry missing? h items [] start hentries honce
    (fun _ _ hmem => absurd hmem List.not_mem_nil) with ⟨seen, r, hread, hseen, hsettled⟩
  have hsame : missingField? (parts.map Part.field) seen =
      missingField? (parts.map Part.field) ((items.map entry).map Prod.fst) := by
    refine missingField?_congr fun f hf => ?_
    rcases List.mem_map.1 hf with ⟨p, hp, rfl⟩
    simpa using hseen p hp
  simp only [readRecord, hread]
  cases items.findSome? missing? with
  | some name =>
      rfl
  | none =>
      simp only [unlessMissing, endWith, bind, Except.bind, Option.none_or, hsame]
      cases hmissing : missingField? (parts.map Part.field) ((items.map entry).map Prod.fst) with
      | some name =>
          rfl
      | none =>
          -- Nothing that has to be there is left out, so every part is settled.
          refine congrArg _ (h.eq_of_settled fun p hp => hsettled p hp ?_)
          refine or_iff_not_imp_left.2 fun hout => hleft p hp hout ?_
          rw [missingField?_eq_none_iff] at hmissing
          exact Bool.eq_false_iff.2 fun hrequired =>
            hout (hmissing p.field (List.mem_map_of_mem hp) hrequired)

end Table

end ServicePlane
