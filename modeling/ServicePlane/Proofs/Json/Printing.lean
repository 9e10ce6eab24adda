import ServicePlane.Json.Decode
import ServicePlane.Proofs.Json.Tokens

/-!
# Printed values read back

A value that holds no other numbers than integers of a word is printed as a text whose document is
that of the value. The reader has fuel for this, because it uses up at most one unit for each
character that it has read.

* `Exact` — the values whose text says all of them;
* `valueAt_render`, `itemsAt_render`, `entriesAt_render` — a printed value, items and entries at the
  beginning of a text, one case for each kind of value;
* `documentOf_render`, `decodeText_render` — the text of a value, and what a reader makes of it;
* `decodeBytes_bytes` — the same of the bytes of a text.
-/

namespace ServicePlane.Json

/-! ## Values without rounding -/

mutual

/-- Every number in the value is an integer that fits a word. -/
def Exact : Json → Prop
  | .integer i => FitsWord i
  | .real _ => False
  | .array items => ExactItems items
  | .object members => ExactMembers members
  | _ => True

def ExactItems : List Json → Prop
  | [] => True
  | v :: rest => v.Exact ∧ ExactItems rest

def ExactMembers : List (String × Json) → Prop
  | [] => True
  | (_, v) :: rest => v.Exact ∧ ExactMembers rest

end

theorem exactItems_iff {items : List Json} : ExactItems items ↔ ∀ v ∈ items, v.Exact := by
  induction items with
  | nil =>
      simp [ExactItems]
  | cons v rest ih =>
      simp [ExactItems, ih]

theorem exactMembers_iff {members : List (String × Json)} :
    ExactMembers members ↔ ∀ m ∈ members, m.2.Exact := by
  induction members with
  | nil =>
      simp [ExactMembers]
  | cons m rest ih =>
      simp [ExactMembers, ih]

/-! ## The texts of items and entries -/

/-- The text between the brackets of an array. -/
def itemsText (items : List Json) : List Letter :=
  Letter.ofText (",".intercalate (renderItems items))

/-- The text between the braces of an object. -/
def membersText (members : List (String × Json)) : List Letter :=
  Letter.ofText (",".intercalate (renderMembers members))

theorem itemsText_cons_cons (v w : Json) (rest : List Json) :
    itemsText (v :: w :: rest) = Letter.ofText v.render ++ .char ',' :: itemsText (w :: rest) := by
  simp [itemsText, renderItems, Letter.ofText]

theorem membersText_cons_cons (m n : String × Json) (rest : List (String × Json)) :
    membersText (m :: n :: rest) =
      Letter.ofText (quote m.1) ++
        .char ':' :: Letter.ofText m.2.render ++ .char ',' :: membersText (n :: rest) := by
  simp [membersText, renderMembers, Letter.ofText]

theorem itemsText_singleton (v : Json) : itemsText [v] = Letter.ofText v.render := by
  simp [itemsText, renderItems]

theorem membersText_singleton (m : String × Json) :
    membersText [m] = Letter.ofText (quote m.1) ++ .char ':' :: Letter.ofText m.2.render := by
  simp [membersText, renderMembers, Letter.ofText]

theorem ofText_render_array (items : List Json) :
    Letter.ofText (render (.array items)) = .char '[' :: itemsText items ++ [.char ']'] := by
  simp [render, itemsText, Letter.ofText]

theorem ofText_render_object (members : List (String × Json)) :
    Letter.ofText (render (.object members)) =
      .char '\x7b' :: membersText members ++ [.char '\x7d'] := by
  simp [render, membersText, Letter.ofText]

theorem BeginsNumber.isSpace_eq_false {c : Char} (hc : BeginsNumber c) :
    isSpace (.char c) = false := by
  simp [isSpace, hc.ne (d := ' ') (by decide), hc.ne (d := '\n') (by decide),
    hc.ne (d := '\t') (by decide), hc.ne (d := '\r') (by decide)]

/-- The text of a value begins with no space and with no closing bracket. -/
theorem exists_render_cons {v : Json} (h : v.Exact) :
    ∃ l ls, Letter.ofText v.render = l :: ls ∧ isSpace l = false ∧ l ≠ .char ']' := by
  cases v with
  | null =>
      exact ⟨.char 'n', _, rfl, by decide⟩
  | bool b =>
      cases b <;> exact ⟨_, _, rfl, by decide⟩
  | integer i =>
      rcases exists_toString_cons i with ⟨c, cs, hcons, hc⟩
      have hbracket : c ≠ ']' := hc.ne (by decide)
      refine ⟨.char c, cs.map .char, ?_, hc.isSpace_eq_false, by simpa using hbracket⟩
      rw [render, Letter.ofText, hcons, List.map_cons]
  | real digits =>
      exact h.elim
  | text s =>
      rcases quotationAt_quote s [] with ⟨ls, hcons, _⟩
      exact ⟨.char '"', ls, hcons, by decide⟩
  | array items =>
      exact ⟨_, _, ofText_render_array items, by decide⟩
  | object members =>
      exact ⟨_, _, ofText_render_object members, by decide⟩

theorem exists_itemsText_cons {v : Json} (h : v.Exact) (rest : List Json) :
    ∃ l ls, itemsText (v :: rest) = l :: ls ∧ isSpace l = false ∧ l ≠ .char ']' := by
  rcases exists_render_cons h with ⟨l, ls, hcons, hl⟩
  cases rest with
  | nil =>
      exact ⟨l, ls, by rw [itemsText_singleton, hcons], hl⟩
  | cons w rest =>
      rw [itemsText_cons_cons, hcons]
      exact ⟨l, _, rfl, hl⟩

theorem exists_membersText_cons (m : String × Json) (rest : List (String × Json)) :
    ∃ ls, membersText (m :: rest) = .char '"' :: ls := by
  rcases quotationAt_quote m.1 [] with ⟨ls, hcons, _⟩
  cases rest with
  | nil =>
      rw [membersText_singleton, hcons]
      exact ⟨_, rfl⟩
  | cons n rest =>
      rw [membersText_cons_cons, hcons]
      exact ⟨_, rfl⟩

/-! ## Reading -/

theorem skipSpace_cons {l : Letter} {ls : List Letter} (h : isSpace l = false) :
    skipSpace (l :: ls) = l :: ls := by
  simp [skipSpace, h]

/-- What begins with no bracket is read as a scalar. -/
theorem valueAt_scalar {fuel : Nat} {l : Letter} {ls : List Letter} (hspace : isSpace l = false)
    (harray : l ≠ .char '[') (hobject : l ≠ .char '\x7b') :
    valueAt (fuel + 1) (l :: ls) = scalarPart (l :: ls) := by
  rw [valueAt, skipSpace_cons hspace]
  simp [harray, hobject]

theorem valueAt_array_nil (fuel : Nat) (rest : List Letter) :
    valueAt (fuel + 1) (.char '[' :: .char ']' :: rest) = (.sequence [] none, some rest) := by
  rfl

theorem valueAt_array {fuel : Nat} {l : Letter} {ls rest : List Letter} {items : List Document}
    (hspace : isSpace l = false) (hclose : l ≠ .char ']')
    (hitems : itemsAt fuel (l :: ls) = (items, none, some rest)) :
    valueAt (fuel + 1) (.char '[' :: l :: ls) = (.sequence items none, some rest) := by
  rw [valueAt, skipSpace_cons (by decide)]
  simp [skipSpace_cons hspace, hclose, hitems]

theorem valueAt_object {fuel : Nat} {ls rest : List Letter}
    {entries : List (DocumentKey × Document)}
    (hentries : entriesAt fuel (.char '"' :: ls) = (entries, none, some rest)) :
    valueAt (fuel + 1) (.char '\x7b' :: .char '"' :: ls) = (.table entries none, some rest) := by
  rw [valueAt, skipSpace_cons (by decide)]
  simp [skipSpace_cons (l := .char '"') (by decide), hentries]

theorem itemsAt_last {fuel : Nat} {ls rest : List Letter} {d : Document}
    (hitem : valueAt fuel ls = (d, some (.char ']' :: rest))) :
    itemsAt (fuel + 1) ls = ([d], none, some rest) := by
  rw [itemsAt, hitem]
  rfl

theorem itemsAt_comma {fuel : Nat} {ls rest rest' : List Letter} {d : Document}
    {items : List Document} (hitem : valueAt fuel ls = (d, some (.char ',' :: rest)))
    (hitems : itemsAt fuel rest = (items, none, some rest')) :
    itemsAt (fuel + 1) ls = (d :: items, none, some rest') := by
  rw [itemsAt, hitem]
  simp [skipSpace_cons (l := .char ',') (by decide), hitems]

theorem entriesAt_quotation {fuel : Nat} {ls rest : List Letter} {key : String}
    (hkey : quotationAt ls = .text key rest) :
    entriesAt (fuel + 1) (.char '"' :: ls) = entryAt fuel (.text key) rest := by
  rw [entriesAt, skipSpace_cons (by decide)]
  simp [hkey]

theorem entryAt_last {fuel : Nat} {ls rest : List Letter} {d : Document} (key : DocumentKey)
    (hvalue : valueAt fuel ls = (d, some (.char '\x7d' :: rest))) :
    entryAt (fuel + 1) key (.char ':' :: ls) = ([(key, d)], none, some rest) := by
  rw [entryAt, skipSpace_cons (by decide)]
  simp [hvalue, skipSpace_cons (l := .char '\x7d') (by decide)]

theorem entryAt_comma {fuel : Nat} {ls rest rest' : List Letter} {d : Document}
    {entries : List (DocumentKey × Document)} (key : DocumentKey)
    (hvalue : valueAt fuel ls = (d, some (.char ',' :: rest)))
    (hentries : entriesAt fuel rest = (entries, none, some rest')) :
    entryAt (fuel + 1) key (.char ':' :: ls) = ((key, d) :: entries, none, some rest') := by
  rw [entryAt, skipSpace_cons (by decide)]
  simp [hvalue, skipSpace_cons (l := .char ',') (by decide), hentries]

theorem delimited_cons {c : Char} (hc : c = ',' ∨ c = ']' ∨ c = '\x7d') (rest : List Letter) :
    Delimited (.char c :: rest) := by
  simpa [Delimited] using hc

-- The induction is on the value. Of the fuel only a bound is needed, the length of the text of what
-- is read, because every call inside it reads a part whose text is shorter.
mutual

/-- A printed value is read as its document, whatever follows. -/
theorem valueAt_render : (v : Json) → v.Exact → ∀ (fuel : Nat) (rest : List Letter),
    (Letter.ofText v.render).length ≤ fuel → Delimited rest →
      valueAt fuel (Letter.ofText v.render ++ rest) = (v.toDocument, some rest)
  | .null, _, fuel + 1, rest, _, _ => by
      exact valueAt_scalar (by decide) (by decide) (by decide)
  | .bool b, _, fuel + 1, rest, _, _ => by
      cases b <;> exact valueAt_scalar (by decide) (by decide) (by decide)
  | .integer i, h, fuel + 1, rest, _, hrest => by
      rcases exists_toString_cons i with ⟨c, cs, hcons, hc⟩
      have hread := scalarPart_integer h hrest
      have harray : c ≠ '[' := hc.ne (by decide)
      have hobject : c ≠ '\x7b' := hc.ne (by decide)
      rw [Letter.ofText, hcons, List.map_cons, List.cons_append] at hread
      rw [render, Letter.ofText, hcons, List.map_cons, List.cons_append]
      calc
        valueAt (fuel + 1) (.char c :: (cs.map .char ++ rest)) =
            scalarPart (.char c :: (cs.map .char ++ rest)) :=
          valueAt_scalar hc.isSpace_eq_false (by simpa using harray) (by simpa using hobject)
        _ = (.integer i, some rest) := hread
  | .real digits, h, _, _, _, _ => h.elim
  | .text s, _, fuel + 1, rest, _, _ => by
      rcases quotationAt_quote s rest with ⟨ls, hcons, hread⟩
      rw [render, hcons, List.cons_append, valueAt_scalar (by decide) (by decide) (by decide)]
      simp [scalarPart, hread, toDocument]
  | .array [], _, fuel + 1, rest, _, _ =>
      valueAt_array_nil fuel rest
  | .array (v :: items), h, fuel + 1, rest, hfuel, _ => by
      have hall : ExactItems (v :: items) := h
      rw [ofText_render_array] at hfuel ⊢
      have hitems := itemsAt_render (v :: items) hall (by simp) fuel rest (by simpa using hfuel)
      rcases exists_itemsText_cons hall.1 items with ⟨l, ls, hcons, hspace, hclose⟩
      -- The items begin with an item, so that the bracket is not closed at once.
      rw [hcons] at hitems
      simp only [hcons, List.cons_append, List.append_assoc, List.nil_append]
      exact valueAt_array hspace hclose hitems
  | .object [], _, fuel + 1, rest, _, _ => by
      rfl
  | .object (m :: members), h, fuel + 1, rest, hfuel, _ => by
      rw [ofText_render_object] at hfuel ⊢
      have hentries := entriesAt_render (m :: members) h (by simp) fuel rest
        (by simpa using hfuel)
      rcases exists_membersText_cons m members with ⟨ls, hcons⟩
      rw [hcons] at hentries
      simp only [hcons, List.cons_append, List.append_assoc, List.nil_append]
      exact valueAt_object hentries
  | v, h, 0, rest, hfuel, _ => by
      rcases exists_render_cons h with ⟨l, ls, hcons, _⟩
      simp [hcons] at hfuel

theorem itemsAt_render : (items : List Json) → ExactItems items → items ≠ [] →
    ∀ (fuel : Nat) (rest : List Letter), (itemsText items).length + 1 ≤ fuel →
      itemsAt fuel (itemsText items ++ .char ']' :: rest) = (toDocuments items, none, some rest)
  | [v], h, _, fuel + 1, rest, hfuel => by
      rw [itemsText_singleton] at hfuel ⊢
      have hitem := valueAt_render v h.1 fuel (.char ']' :: rest) (by omega)
        (delimited_cons (by decide) rest)
      exact itemsAt_last hitem
  | v :: w :: items, h, _, fuel + 1, rest, hfuel => by
      rw [itemsText_cons_cons] at hfuel ⊢
      simp only [List.length_append, List.length_cons] at hfuel
      have hitem := valueAt_render v h.1 fuel
        (.char ',' :: (itemsText (w :: items) ++ .char ']' :: rest)) (by omega)
        (delimited_cons (by decide) _)
      have hitems := itemsAt_render (w :: items) h.2 (by simp) fuel rest (by omega)
      rw [List.append_assoc, List.cons_append]
      exact itemsAt_comma hitem hitems

theorem entriesAt_render : (members : List (String × Json)) → ExactMembers members →
    members ≠ [] → ∀ (fuel : Nat) (rest : List Letter), (membersText members).length + 1 ≤ fuel →
      entriesAt fuel (membersText members ++ .char '\x7d' :: rest) =
        (toEntries members, none, some rest)
  | [(name, v)], h, _, fuel, rest, hfuel => by
      rw [membersText_singleton] at hfuel ⊢
      rcases quotationAt_quote name
        (.char ':' :: (Letter.ofText v.render ++ .char '\x7d' :: rest)) with ⟨ls, hcons, hkey⟩
      simp only [hcons, List.length_append, List.length_cons] at hfuel
      -- An entry takes two calls, one for its key and one for the rest of it.
      obtain ⟨fuel, rfl⟩ : ∃ k, fuel = k + 2 := ⟨fuel - 2, by omega⟩
      have hvalue := valueAt_render v h.1 fuel (.char '\x7d' :: rest) (by omega)
        (delimited_cons (by decide) rest)
      have hentry := entryAt_last (.text name) hvalue
      simp only [hcons, List.cons_append, List.append_assoc]
      exact (entriesAt_quotation hkey).trans hentry
  | (name, v) :: m :: members, h, _, fuel, rest, hfuel => by
      rw [membersText_cons_cons] at hfuel ⊢
      rcases quotationAt_quote name
        (.char ':' :: (Letter.ofText v.render ++
          .char ',' :: (membersText (m :: members) ++ .char '\x7d' :: rest))) with
        ⟨ls, hcons, hkey⟩
      simp only [hcons, List.length_append, List.length_cons] at hfuel
      obtain ⟨fuel, rfl⟩ : ∃ k, fuel = k + 2 := ⟨fuel - 2, by omega⟩
      have hvalue := valueAt_render v h.1 fuel
        (.char ',' :: (membersText (m :: members) ++ .char '\x7d' :: rest)) (by omega)
        (delimited_cons (by decide) _)
      have hentries := entriesAt_render (m :: members) h.2 (by simp) fuel rest (by omega)
      have hentry := entryAt_comma (.text name) hvalue hentries
      simp only [hcons, List.cons_append, List.append_assoc]
      exact (entriesAt_quotation hkey).trans hentry

end

/-- The document of the text of a value is that of the value. -/
theorem documentOf_render {v : Json} (h : v.Exact) :
    documentOf (Letter.ofText v.render) = (v.toDocument, none) := by
  have hread := valueAt_render v h (3 * (Letter.ofText v.render).length + 3) [] (by omega)
    (by simp [Delimited])
  rw [List.append_nil] at hread
  simp [documentOf, hread, skipSpace]

/-- To read the text of a value is to read the value, with the decisions for texts. -/
theorem decodeText_render {α : Type} (read : Dialect → Document → Except ReadError α) {v : Json}
    (h : v.Exact) : decodeText read v.render = read .valueText v.toDocument := by
  simp only [decodeText, decodeLetters, documentOf_render h]
  cases read .valueText v.toDocument <;> rfl

/-- The bytes of a text are read as the text. -/
theorem decodeBytes_bytes {α : Type} (read : Dialect → Document → Except ReadError α)
    (text : String) : decodeBytes read (Text.bytes text) = decodeText read text := by
  rw [decodeBytes, Letter.ofBytes_bytes, decodeText]

end ServicePlane.Json
