import ServicePlane.Json.Basic
import ServicePlane.Proofs.Document.Records

/-!
# Encodings with members left out and put beside

Somebody who writes a record by hand leaves out what is at its default, adds what no reader knows,
and may forget what has no default. What a reader makes of that follows from what it makes of the
parts.

* `Loosened`, `LoosenedItems` — what a value can come to in this way, field by field and item by
  item (`LooseField`);
* `Answers` — a reader takes every such value as what was encoded, unless a field is missing in it;
* `answers_record` — records, from what is read for each field (`FieldAnswers`, `RecordAnswers`);
* `answers_flat`, `answers_section` — records without records inside, and those of them in which
  everything may be left out.
-/

namespace ServicePlane

namespace Json

/-! ## Loosened values -/

/-- A field of an encoded record: at which values it may be left out, and what may stand for a value
that is there. -/
structure LooseField where
  name : String
  mayOmit : Json → Prop
  within : Json → Json → Prop

namespace LooseField

/-- A field that stands as it was encoded, or is left out at its default. -/
def plain (name : String) (default : Json) : LooseField where
  name := name
  mayOmit := (· = default)
  within := Eq

/-- A field without a default, which nobody may leave out and somebody can forget. -/
def needed (name : String) : LooseField where
  name := name
  mayOmit _ := True
  within := Eq

end LooseField

/-- Members as somebody writes them who leaves out some fields and adds other members: each field at
most once, and in any order. -/
structure LoosenedMembers (fields : List LooseField) (members written : List (String × Json)) :
    Prop where
  once : written.Pairwise fun m m' => m.1 = m'.1 → ∀ f ∈ fields, f.name ≠ m.1
  kept : ∀ f ∈ fields, ∀ m ∈ written, f.name = m.1 →
    ∃ v, (f.name, v) ∈ members ∧ f.within v m.2
  omitted : ∀ f ∈ fields, f.name ∉ written.map Prod.fst →
    ∃ v, (f.name, v) ∈ members ∧ f.mayOmit v

inductive Loosened (fields : List LooseField) : Json → Json → Prop
  | object {members written : List (String × Json)}
      (h : LoosenedMembers fields members written) :
      Loosened fields (.object members) (.object written)

/-- Every item can come to something else, and all of them stay at their places. -/
inductive LoosenedItems (within : Json → Json → Prop) : Json → Json → Prop
  | array {items written : List Json} (h : List.Forall₂ within items written) :
      LoosenedItems within (.array items) (.array written)

/-- The fields of a record all of which have defaults. -/
def plainFields : Json → List LooseField
  | .object defaults => defaults.map fun d => .plain d.1 d.2
  | _ => []

/-- A field that is such a record itself, left out at its default. -/
def LooseField.nested (name : String) (default : Json) : LooseField where
  name := name
  mayOmit := (· = default)
  within := Loosened (plainFields default)

def items : Json → List Json
  | .array items => items
  | _ => []

def members : Json → List (String × Json)
  | .object members => members
  | _ => []

theorem isNone_member? (name : String) (w : Json) :
    (w.member? name).isNone = !(w.members.map Prod.fst).contains name := by
  cases w with
  | object members =>
      rw [Bool.eq_iff_iff, Option.isNone_iff_eq_none, member?, Json.members,
        List.lookup_eq_none_iff]
      simp only [bne_iff_ne, Bool.not_eq_true', List.contains_eq_mem, decide_eq_false_iff_not,
        List.mem_map, not_exists, not_and]
      exact ⟨fun h m hm heq => h m hm heq.symm, fun h m hm heq => h m hm heq.symm⟩
  | _ =>
      rfl

/-! ## Passing over -/

mutual

/-- Values have no faults, so any of them can be passed over. -/
theorem skipFault_toDocument : (v : Json) → v.toDocument.skipFault = none
  | .null => rfl
  | .bool _ => rfl
  | .integer _ => rfl
  | .real _ => rfl
  | .text _ => rfl
  | .array items => by
      rw [toDocument, Document.skipFault, skipFaultItems_toDocuments items]
      rfl
  | .object members => by
      rw [toDocument, Document.skipFault, skipFaultEntries_toEntries members]
      rfl

theorem skipFaultItems_toDocuments : (items : List Json) →
    Document.skipFaultItems (toDocuments items) = none
  | [] => rfl
  | v :: rest => by
      rw [toDocuments, Document.skipFaultItems, skipFault_toDocument v,
        skipFaultItems_toDocuments rest]
      rfl

theorem skipFaultEntries_toEntries : (members : List (String × Json)) →
    Document.skipFaultEntries (toEntries members) = none
  | [] => rfl
  | (_, v) :: rest => by
      simp only [toEntries, Document.skipFaultEntries, skipFault_toDocument v,
        skipFaultEntries_toEntries rest, Option.none_or]

end

theorem toEntries_eq (members : List (String × Json)) :
    toEntries members = namedEntries (members.map fun m => (m.1, m.2.toDocument)) := by
  induction members with
  | nil =>
      rfl
  | cons m members ih =>
      simp [toEntries, namedEntries, ih]

/-- What is found in the one member of a name. -/
theorem findSome?_member {β : Type} {name : String} {members : List (String × Json)}
    (find : Json → Option β) (honce : members.Pairwise fun m m' => m.1 = m'.1 → m.1 ≠ name) :
    members.findSome? (fun m => if m.1 = name then find m.2 else none) =
      ((Json.object members).member? name).bind find := by
  induction members with
  | nil =>
      rfl
  | cons m rest ih =>
      rcases List.pairwise_cons.1 honce with ⟨hfirst, hlater⟩
      rw [List.findSome?_cons, ih hlater, member?, member?, List.lookup_cons]
      by_cases hname : m.1 = name
      · have hothers : rest.lookup name = none := by
          rw [List.lookup_eq_none_iff]
          intro m' hm'
          have hne : name ≠ m'.1 := fun heq => hfirst m' hm' (hname.trans heq) hname
          simpa using hne
        rw [if_pos hname, hothers, hname, beq_self_eq_true]
        change _ = find m.2
        cases find m.2 <;> rfl
      · have hne : (name == m.1) = false := by
          simpa using Ne.symm hname
        rw [if_neg hname, hne]

end Json

open Json

/-! ## Readers -/

/-- Whatever stands for an encoded value is read as what was encoded, unless a field is missing. -/
def Answers {α : Type} (within : Json → Json → Prop) (missing? : Json → Option String)
    (read : Document → Except ReadError α) (encode : α → Json) : Prop :=
  ∀ a w, within (encode a) w → read w.toDocument = unlessMissing (missing? w) a

section Combined

variable {α : Type} {read : Document → Except ReadError α} {encode : α → Json}
  {within : Json → Json → Prop} {missing? : Json → Option String}

theorem Answers.congr {missing?' : Json → Option String}
    (h : Answers within missing? read encode) (hsame : ∀ w, missing? w = missing?' w) :
    Answers within missing?' read encode := by
  intro a w hw
  rw [← hsame]
  exact h a w hw

theorem readItems_loosened (h : Answers within missing? read encode) (as : List α)
    {written : List Json} (hitems : List.Forall₂ within (as.map encode) written) :
    readItems read (toDocuments written) = unlessMissing (written.findSome? missing?) as := by
  induction as generalizing written with
  | nil =>
      cases hitems
      rfl
  | cons a as ih =>
      cases hitems with
      | @cons _ w _ rest head tail =>
          rw [toDocuments, readItems, h a w head, ih tail, List.findSome?_cons]
          -- The first item in which a field is missing ends the list.
          cases missing? w with
          | some name =>
              rfl
          | none =>
              cases rest.findSome? missing? <;> rfl

theorem Answers.list (h : Answers within missing? read encode) :
    Answers (LoosenedItems within) (fun w => w.items.findSome? missing?) (readList read)
      fun as => .array (as.map encode) := by
  intro as w hw
  cases hw with
  | @array _ written hitems =>
      rw [toDocument, readList, readItems_loosened h as hitems]
      simp only [items]
      cases written.findSome? missing? <;> rfl

end Combined

/-! ## Records -/

variable {σ : Type} {start : σ}

/-- A field answers to what stands for the encoded value `v` by the change that the value makes. If
it may be left out, this change is made already in the record to start from. -/
structure FieldAnswers (start : σ) (f : Field σ) (g : LooseField) (missing? : Json → Option String)
    (v : Json) (change : σ → σ) : Prop where
  name_eq : g.name = f.name
  reads : ∀ w, g.within v w → f.Reads w.toDocument (missing? w) change
  omitted : g.mayOmit v → f.required = false → change start = start

/-- A field that is stored out of a value answers as the reader of the value does. -/
theorem Answers.field {α : Type} {within : Json → Json → Prop} {missing? : Json → Option String}
    {read : Document → Except ReadError α} {encode : α → Json}
    (h : Answers within missing? read encode) (a : α) {name : String} {required : Bool}
    {mayOmit : Json → Prop} {store : α → σ → σ}
    (homit : mayOmit (encode a) → required = false → store a start = start) :
    FieldAnswers start (.of name required read store) ⟨name, mayOmit, within⟩ missing? (encode a)
      (store a) where
  name_eq := rfl
  reads := by
    intro w hw r
    simp only [Field.of, h a w hw]
    cases missing? w <;> rfl
  omitted := homit

/-- A field with a default, out of the record to start from. -/
theorem Answers.optional {α : Type} {within : Json → Json → Prop}
    {missing? : Json → Option String} {read : Document → Except ReadError α} {encode : α → Json}
    (h : Answers within missing? read encode) (hinj : ∀ a b, encode a = encode b → a = b)
    (a d : α) {name : String} {store : α → σ → σ} (hstart : store d start = start) :
    FieldAnswers start (.of name false read store) ⟨name, (· = encode d), within⟩ missing?
      (encode a) (store a) :=
  h.field a fun heq _ => (congrArg (store · start) (hinj a d heq)).trans hstart

/-- The fields of a record answer, one after the other, to what stands for the encoded members, and
these are the parts that it is read by. -/
inductive RecordAnswers (start : σ) (missing? : String → Json → Option String) :
    List (Field σ) → List LooseField → List (String × Json) → List (Part σ) → Prop
  | nil : RecordAnswers start missing? [] [] [] []
  | cons {f : Field σ} {g : LooseField} {v : Json} {change : σ → σ} {fields : List (Field σ)}
      {loose : List LooseField} {members : List (String × Json)} {parts : List (Part σ)}
      (head : FieldAnswers start f g (missing? f.name) v change)
      (tail : RecordAnswers start missing? fields loose members parts) :
      RecordAnswers start missing? (f :: fields) (g :: loose) ((f.name, v) :: members)
        (⟨f, change⟩ :: parts)

namespace RecordAnswers

variable {missing? : String → Json → Option String} {fields : List (Field σ)}
  {loose : List LooseField} {members : List (String × Json)} {parts : List (Part σ)}

theorem fields_eq (h : RecordAnswers start missing? fields loose members parts) :
    parts.map Part.field = fields := by
  induction h with
  | nil =>
      rfl
  | cons _ _ ih =>
      simp [ih]

theorem names_eq (h : RecordAnswers start missing? fields loose members parts) :
    loose.map LooseField.name = parts.map (fun p => p.field.name) ∧
      members.map Prod.fst = parts.map fun p => p.field.name := by
  induction h with
  | nil =>
      exact ⟨rfl, rfl⟩
  | cons head _ ih =>
      simp [ih, head.name_eq]

/-- Every part answers to what stands for the one member of its name. -/
theorem fieldAnswers (h : RecordAnswers start missing? fields loose members parts)
    (hnodup : (parts.map fun p => p.field.name).Nodup) :
    ∀ p ∈ parts, ∃ g ∈ loose, g.name = p.field.name ∧ ∀ v, (p.field.name, v) ∈ members →
      FieldAnswers start p.field g (missing? p.field.name) v p.change := by
  induction h with
  | nil =>
      simp
  | @cons f g v change fields loose members parts head tail ih =>
      rcases List.nodup_cons.1 hnodup with ⟨hnew, hrest⟩
      intro p hp
      rcases List.mem_cons.1 hp with rfl | hp
      · refine ⟨g, List.mem_cons_self, head.name_eq, ?_⟩
        intro w hw
        rcases List.mem_cons.1 hw with heq | hw
        · rw [(Prod.mk.inj heq).2]
          exact head
        · have hmem : f.name ∈ members.map Prod.fst := List.mem_map_of_mem hw
          rw [tail.names_eq.2] at hmem
          exact absurd hmem hnew
      · rcases ih hrest p hp with ⟨g', hg', hname, hanswers⟩
        refine ⟨g', List.mem_cons_of_mem _ hg', hname, ?_⟩
        intro w hw
        rcases List.mem_cons.1 hw with heq | hw
        · have hmem : f.name ∈ parts.map fun p => p.field.name :=
            List.mem_map.2 ⟨p, hp, (Prod.mk.inj heq).1⟩
          exact absurd hmem hnew
        · exact hanswers w hw

end RecordAnswers

/-- A record is read back from what stands for it, unless a field is missing: in the first of its
members in which that is so, or else among its own fields. -/
theorem answers_record (φ : Dialect) {fields : List (Field σ)} {loose : List LooseField} (start : σ)
    {members : σ → List (String × Json)} (missing? : String → Json → Option String)
    (h : ∀ a, ∃ parts, RecordAnswers start missing? fields loose (members a) parts ∧
      Assembles parts a)
    (hunknown : ∀ name, (∀ f ∈ fields, f.name ≠ name) → ∀ w, missing? name w = none) :
    Answers (Loosened loose)
      (fun w => (w.members.findSome? fun m => missing? m.1 m.2).or
        (missingField? fields (w.members.map Prod.fst)))
      (readRecord φ fields start) fun a => .object (members a) := by
  intro a w hw
  cases hw with
  | @object _ written hwritten =>
      rcases h a with ⟨parts, hparts, hassembles⟩
      let entry (m : String × Json) : String × Document := (m.1, m.2.toDocument)
      have hnames : (written.map entry).map Prod.fst = written.map Prod.fst := by
        simp [entry, Function.comp_def]
      have hanswers := hparts.fieldAnswers hassembles.names_nodup
      have hentries : ∀ m ∈ written, EntryOf parts (entry m) (missing? m.1 m.2) := by
        intro m hm
        -- A member is one of a part or one that nobody knows, and this is passed over.
        by_cases hknown : ∃ p ∈ parts, p.field.name = m.1
        · rcases hknown with ⟨p, hp, hname⟩
          rcases hanswers p hp with ⟨g, hg, hgname, hfield⟩
          rcases hwritten.kept g hg m hm (hgname.trans hname) with ⟨v, hv, hwithin⟩
          rw [hgname] at hv
          refine .inl ⟨p, hp, hname, ?_⟩
          rw [← hname]
          exact (hfield v hv).reads m.2 hwithin
        · have hother : ∀ p ∈ parts, p.field.name ≠ m.1 := by
            simpa using hknown
          refine .inr ⟨hother, skipFault_toDocument m.2, hunknown m.1 ?_ m.2⟩
          intro f hf
          rw [← hparts.fields_eq] at hf
          rcases List.mem_map.1 hf with ⟨p, hp, rfl⟩
          exact hother p hp
      have honce : (written.map entry).Pairwise fun e e' => e.1 = e'.1 →
          ∀ p ∈ parts, p.field.name ≠ e.1 := by
        rw [List.pairwise_map]
        refine hwritten.once.imp fun {m m'} hother hsame p hp => ?_
        rcases hanswers p hp with ⟨g, hg, hgname, _⟩
        rw [← hgname]
        exact hother hsame g hg
      have hleft : ∀ p ∈ parts, p.field.name ∉ (written.map entry).map Prod.fst →
          p.field.required = false → p.change start = start := by
        intro p hp hout hoptional
        rcases hanswers p hp with ⟨g, hg, hgname, hfield⟩
        rw [hnames, ← hgname] at hout
        rcases hwritten.omitted g hg hout with ⟨v, hv, homit⟩
        rw [hgname] at hv
        exact (hfield v hv).omitted homit hoptional
      have hread := readRecord_table entry (fun m => missing? m.1 m.2) φ hassembles start hentries
        honce hleft
      rw [hnames, hparts.fields_eq] at hread
      rw [toDocument, toEntries_eq]
      exact hread

/-- A record in which nothing is missing unless it is one of its own fields. -/
theorem answers_flat (φ : Dialect) {fields : List (Field σ)} {loose : List LooseField} (start : σ)
    {members : σ → List (String × Json)}
    (h : ∀ a, ∃ parts, RecordAnswers start (fun _ _ => none) fields loose (members a) parts ∧
      Assembles parts a) :
    Answers (Loosened loose) (fun w => missingField? fields (w.members.map Prod.fst))
      (readRecord φ fields start) fun a => .object (members a) := by
  refine (answers_record φ start _ h fun _ _ _ => rfl).congr fun w => ?_
  have hinside : w.members.findSome? (fun _ => (none : Option String)) = none :=
    List.findSome?_eq_none_iff.2 fun _ _ => rfl
  rw [hinside, Option.none_or]

/-- A record in which nothing has to be there. -/
theorem answers_section (φ : Dialect) {fields : List (Field σ)} {loose : List LooseField}
    (start : σ) {members : σ → List (String × Json)}
    (h : ∀ a, ∃ parts, RecordAnswers start (fun _ _ => none) fields loose (members a) parts ∧
      Assembles parts a)
    (hoptional : ∀ f ∈ fields, f.required = false) :
    Answers (Loosened loose) (fun _ => none) (readRecord φ fields start)
      fun a => .object (members a) := by
  refine (answers_flat φ start h).congr fun w => ?_
  refine missingField?_eq_none_iff.2 fun f hf hrequired => ?_
  rw [hoptional f hf] at hrequired
  cases hrequired

end ServicePlane
