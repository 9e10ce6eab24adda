import ServicePlane.Json.Decode
import ServicePlane.Proofs.Json.Loosening
import ServicePlane.Proofs.Json.Printing

/-!
# Encodings that readers undo

A reader undoes an encoding if it reads every encoded value as what was encoded, in whatever order
the members of its objects come. What holds of the parts of a type thus holds of the type.

* `Rearranged` — a value with the members of its objects in another order;
* `Undoes` — a reader and an encoding, with one lemma for each kind of reader;
* `undoes_record` — records, from what is read for each field;
* `Undoes.plain`, `Undoes.needed` — fields that may be left out, or forgotten.
-/

namespace ServicePlane

namespace Json

/-! ## The order of members -/

mutual

/-- The second value is the first one with the members of its objects in another order. -/
inductive Rearranged : Json → Json → Prop
  | null : Rearranged .null .null
  | bool (b : Bool) : Rearranged (.bool b) (.bool b)
  | integer (i : Int) : Rearranged (.integer i) (.integer i)
  | real (digits : String) : Rearranged (.real digits) (.real digits)
  | text (s : String) : Rearranged (.text s) (.text s)
  | array {items items' : List Json} (h : RearrangedItems items items') :
      Rearranged (.array items) (.array items')
  | object {members members' moved : List (String × Json)} (h : RearrangedMembers members members')
      (hmoved : members'.Perm moved) : Rearranged (.object members) (.object moved)

/-- Every item is rearranged, and stays at its place. -/
inductive RearrangedItems : List Json → List Json → Prop
  | nil : RearrangedItems [] []
  | cons {v v' : Json} {items items' : List Json} (head : Rearranged v v')
      (tail : RearrangedItems items items') : RearrangedItems (v :: items) (v' :: items')

/-- The value of every member is rearranged, and stays at its place. -/
inductive RearrangedMembers : List (String × Json) → List (String × Json) → Prop
  | nil : RearrangedMembers [] []
  | cons {name : String} {v v' : Json} {members members' : List (String × Json)}
      (head : Rearranged v v') (tail : RearrangedMembers members members') :
      RearrangedMembers ((name, v) :: members) ((name, v') :: members')

end

mutual

theorem Rearranged.refl : (v : Json) → v.Rearranged v
  | .null => .null
  | .bool b => .bool b
  | .integer i => .integer i
  | .real digits => .real digits
  | .text s => .text s
  | .array items => .array (RearrangedItems.refl items)
  | .object members => .object (RearrangedMembers.refl members) (List.Perm.refl members)

theorem RearrangedItems.refl : (items : List Json) → RearrangedItems items items
  | [] => .nil
  | v :: items => .cons (Rearranged.refl v) (RearrangedItems.refl items)

theorem RearrangedMembers.refl : (members : List (String × Json)) →
    RearrangedMembers members members
  | [] => .nil
  | (_, v) :: members => .cons (Rearranged.refl v) (RearrangedMembers.refl members)

end

theorem Rearranged.eq_null {v : Json} (h : v.Rearranged .null) : v = .null := by
  cases h
  rfl

theorem RearrangedItems.forall₂ {items items' : List Json} (h : RearrangedItems items items') :
    List.Forall₂ Rearranged items items' := by
  induction items generalizing items' with
  | nil =>
      cases h
      exact .nil
  | cons v items ih =>
      cases h with
      | cons head tail =>
          exact .cons head (ih tail)

theorem RearrangedMembers.exists_of_mem {members members' : List (String × Json)}
    (h : RearrangedMembers members members') {m : String × Json} (hm : m ∈ members') :
    ∃ v, (m.1, v) ∈ members ∧ v.Rearranged m.2 := by
  induction members generalizing members' with
  | nil =>
      cases h
      cases hm
  | cons first members ih =>
      cases h with
      | @cons _ v _ _ _ head tail =>
          rcases List.mem_cons.1 hm with rfl | hm
          · exact ⟨v, List.mem_cons_self, head⟩
          · rcases ih tail hm with ⟨w, hw, hrearranged⟩
            exact ⟨w, List.mem_cons_of_mem _ hw, hrearranged⟩

theorem RearrangedMembers.names_eq {members members' : List (String × Json)}
    (h : RearrangedMembers members members') :
    members'.map Prod.fst = members.map Prod.fst := by
  induction members generalizing members' with
  | nil =>
      cases h
      rfl
  | cons m members ih =>
      cases h with
      | cons _ tail =>
          simp [ih tail]

end Json

open Json

/-! ## Readers -/

/-- Whatever was encoded is read, in whatever order the members of its objects come. -/
def Undoes {α : Type} (read : Document → Except ReadError α) (encode : α → Json) : Prop :=
  ∀ a v, (encode a).Rearranged v → read v.toDocument = .ok a

theorem undoes_bool : Undoes readBool Json.bool := by
  intro b v h
  cases h
  rfl

theorem undoes_text : Undoes readText Json.text := by
  intro s v h
  cases h
  rfl

theorem undoes_uint64 : Undoes readUInt64 fun n => .nat n.toNat := by
  intro n v h
  cases h
  have hlow : (0 : Int) ≤ n.toNat := Int.natCast_nonneg _
  have hhigh : (n.toNat : Int) ≤ 18446744073709551615 := by
    have := n.toNat_lt
    omega
  simp [readUInt64, readInteger, Json.toDocument, hhigh, bind, Except.bind, pure, Except.pure]

theorem undoes_uint32 : Undoes readUInt32 fun n => .nat n.toNat := by
  intro n v h
  cases h
  have hhigh : (n.toNat : Int) ≤ 4294967295 := by
    have := n.toNat_lt
    omega
  simp [readUInt32, readInteger, Json.toDocument, hhigh, bind, Except.bind, pure, Except.pure]

theorem undoes_int32 : Undoes readInt32 fun n => .integer n.toInt := by
  intro n v h
  cases h
  have hlow : -2147483648 ≤ n.toInt := n.le_toInt
  have hhigh : n.toInt ≤ 2147483647 := by
    have := n.toInt_lt
    omega
  simp [readInt32, readInteger, Json.toDocument, hlow, hhigh, bind, Except.bind, pure, Except.pure]

theorem undoes_word {α : Type} {ofName? : String → Option α} {name : α → String}
    (hname : ∀ a, ofName? (name a) = some a) (φ : Dialect) (names : List String) :
    Undoes (readVariant φ ofName? names) fun a => .text (name a) := by
  intro a v h
  cases h
  simp [Json.toDocument, readVariant, readWord, hname a]

section Combined

variable {α : Type} {read : Document → Except ReadError α} {encode : α → Json}

theorem Undoes.answers (h : Undoes read encode) : Answers Rearranged (fun _ => none) read encode :=
  h

theorem Undoes.answers_self (h : Undoes read encode) : Answers Eq (fun _ => none) read encode := by
  rintro a _ rfl
  exact h a _ (Rearranged.refl _)

theorem Undoes.injective (h : Undoes read encode) {a b : α} (hab : encode a = encode b) :
    a = b := by
  have ha : read (encode b).toDocument = .ok a := hab ▸ h a _ (Rearranged.refl _)
  rw [h b _ (Rearranged.refl _)] at ha
  exact (Except.ok.inj ha).symm

theorem Undoes.option (h : Undoes read encode) (hnull : ∀ a, encode a ≠ .null) :
    Undoes (readOption read) (.option encode) := by
  intro o v hv
  cases o with
  | none =>
      cases hv
      rfl
  | some a =>
      have hread := h a v hv
      have hsome : v ≠ .null := by
        rintro rfl
        exact hnull a (Json.Rearranged.eq_null hv)
      -- What is there is read as it stands.
      cases v with
      | null =>
          exact absurd rfl hsome
      | _ =>
          simp only [Json.toDocument] at hread ⊢
          simp [readOption, hread, bind, Except.bind, pure, Except.pure]

theorem Undoes.list (h : Undoes read encode) :
    Undoes (readList read) fun as => .array (as.map encode) := by
  intro as v hv
  cases hv with
  | @array _ items hitems =>
      have hread := h.answers.list as _ (.array hitems.forall₂)
      have hinside : items.findSome? (fun _ => (none : Option String)) = none :=
        List.findSome?_eq_none_iff.2 fun _ _ => rfl
      simp only [Json.items, hinside] at hread
      exact hread

end Combined

/-! ## Records -/

variable {σ : Type} {start : σ}

/-- The fields of a record that stand as they were encoded, but for the order of what is inside. -/
def strictFields (fields : List (Field σ)) : List LooseField :=
  fields.map fun f => ⟨f.name, fun _ => False, Rearranged⟩

/-- A field that is stored out of a value reads the value that was encoded. -/
theorem Undoes.field {α : Type} {read : Document → Except ReadError α} {encode : α → Json}
    (h : Undoes read encode) (a : α) {name : String} {required : Bool} {store : α → σ → σ} :
    FieldAnswers start (.of name required read store) ⟨name, fun _ => False, Rearranged⟩
      (fun _ => none) (encode a) (store a) :=
  h.answers.field a fun hnever => hnever.elim

theorem loosenedMembers_of_rearranged {fields : List (Field σ)}
    {members members' moved : List (String × Json)}
    (hnames : members.map Prod.fst = fields.map Field.name)
    (hnodup : (fields.map Field.name).Nodup) (h : RearrangedMembers members members')
    (hmoved : members'.Perm moved) : LoosenedMembers (strictFields fields) members moved := by
  have hmovedNames : (moved.map Prod.fst).Perm (fields.map Field.name) := by
    rw [← hnames, ← h.names_eq]
    exact (hmoved.map Prod.fst).symm
  refine ⟨?_, ?_, ?_⟩
  · have hdistinct : moved.Pairwise fun m m' => m.1 ≠ m'.1 :=
      List.pairwise_map.1 (hmovedNames.nodup_iff.2 hnodup)
    exact hdistinct.imp fun hne hsame => absurd hsame hne
  · intro g hg m hm hname
    rcases List.mem_map.1 hg with ⟨f, _, rfl⟩
    rcases h.exists_of_mem (hmoved.mem_iff.2 hm) with ⟨v, hv, hrearranged⟩
    rw [hname]
    exact ⟨v, hv, hrearranged⟩
  · intro g hg hout
    rcases List.mem_map.1 hg with ⟨f, hf, rfl⟩
    exact absurd (hmovedNames.mem_iff.2 (List.mem_map_of_mem hf)) hout

/-- A record is read back, if what was written for its fields makes it up. -/
theorem undoes_record (φ : Dialect) {fields : List (Field σ)} (start : σ)
    {members : σ → List (String × Json)}
    (h : ∀ a, ∃ parts, RecordAnswers start (fun _ _ => none) fields (strictFields fields)
      (members a) parts ∧ Assembles parts a) :
    Undoes (readRecord φ fields start) fun a => .object (members a) := by
  intro a v hv
  rcases h a with ⟨parts, hparts, hassembles⟩
  have hparted : fields.map Field.name = parts.map fun p => p.field.name := by
    rw [← hparts.fields_eq, List.map_map]
    rfl
  have hnames : (members a).map Prod.fst = fields.map Field.name :=
    hparts.names_eq.2.trans hparted.symm
  cases hv with
  | @object _ members' moved hmembers hmoved =>
      have hloosened := loosenedMembers_of_rearranged hnames
        (hparted ▸ hassembles.names_nodup) hmembers hmoved
      -- All fields are there, so none of them can be missing.
      have hmissing : missingField? fields (moved.map Prod.fst) = none := by
        refine missingField?_eq_none_iff.2 fun f hf _ => ?_
        rw [← (hmoved.map Prod.fst).mem_iff, hmembers.names_eq, hnames]
        exact List.mem_map_of_mem hf
      have hread := answers_flat φ start h a _ (.object hloosened)
      simp only [Json.members, hmissing] at hread
      exact hread

/-! ## Records with defaults -/

/-- A field that stands as it was encoded, or is left out at its default. -/
theorem Undoes.plain {α : Type} {read : Document → Except ReadError α} {encode : α → Json}
    (h : Undoes read encode) (a d : α) {name : String} {store : α → σ → σ}
    (hstart : store d start = start) :
    FieldAnswers start (.of name false read store) (.plain name (encode d)) (fun _ => none)
      (encode a) (store a) :=
  h.answers_self.optional (fun _ _ => h.injective) a d hstart

/-- A field that stands as it was encoded, or was forgotten. -/
theorem Undoes.needed {α : Type} {read : Document → Except ReadError α} {encode : α → Json}
    (h : Undoes read encode) (a : α) {name : String} {store : α → σ → σ} :
    FieldAnswers start (.of name true read store) (.needed name) (fun _ => none) (encode a)
      (store a) :=
  h.answers_self.field a fun _ hoptional => absurd hoptional (by simp)

end ServicePlane
