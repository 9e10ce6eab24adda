import Mathlib.Data.List.DropRight
import Mathlib.Data.List.Infix
import ServicePlane.Http.Message
import ServicePlane.Proofs.Http.Percent

/-!
# Where an address leads

A text that is put behind the address of a host becomes the path of a request, but not as it stands:
characters are dropped or written by their bytes, the path ends at the first question mark or number
sign, and parts that stand for a place are resolved. Only a plain text comes through as one part.

* `mem_pathOf` — what can stand in a path;
* `path_of_parse?` — a request for an address that was taken apart has the path found there;
* `givenParts_append` and `givenParts_of_plain` — the parts that a text makes;
* `exists_parse?_of_namesHost` — the address of a host with a text behind it.
-/

namespace ServicePlane.Http

/-- A character that ends nothing, separates nothing and is never dropped where it stands in the
middle of an address. -/
def IsPlain (c : Char) : Prop :=
  c ∉ ['/', '\\', '?', '#', '%', '\t', '\n', '\r']

theorem IsPlain.kept {c : Char} (h : IsPlain c) :
    c ≠ '?' ∧ c ≠ '#' ∧ c ≠ '\t' ∧ c ≠ '\n' ∧ c ≠ '\r' := by
  simp only [IsPlain, List.mem_cons, not_or] at h
  simp [h]

/-- The address of a host, with nothing behind it. -/
def NamesHost (url : String) : Prop :=
  ∃ authority named, url = "http://" ++ String.ofList authority ∧
    (∀ c ∈ authority, Url.isHostChar c = true) ∧ Url.authorityOf authority = some named

namespace Url

variable {cs : List Char} {resolved parts : List String} {part text url : String}
  {c : Char} {u : Url}

/-! ## What stands in a path -/

theorem resolveParts_cons (henclosing : isEnclosingPlace part = false)
    (hsame : isSamePlace part = false) (resolved rest : List String) :
    resolveParts resolved (part :: rest) = resolveParts (part :: resolved) rest := by
  simp [resolveParts, henclosing, hsame]

/-- Resolving makes no part but the empty one. -/
theorem mem_resolveParts (h : part ∈ resolveParts resolved parts) :
    part = "" ∨ part ∈ resolved ∨ part ∈ parts := by
  induction parts generalizing resolved with
  | nil =>
      exact .inr (.inl (by simpa [resolveParts] using h))
  | cons first rest ih =>
      -- The place at the end leaves an empty part, anywhere else it goes with what it resolves.
      rw [resolveParts] at h
      split at h
      · split at h
        · rw [List.mem_reverse, List.mem_cons] at h
          exact h.imp_right fun h => .inl (List.mem_of_mem_drop h)
        · rcases ih h with h | h | h
          · exact .inl h
          · exact .inr (.inl (List.mem_of_mem_drop h))
          · exact .inr (.inr (List.mem_cons_of_mem first h))
      · split at h
        · split at h
          · rw [List.mem_reverse, List.mem_cons] at h
            exact h.imp_right .inl
          · exact (ih h).imp_right (Or.imp_right (List.mem_cons_of_mem first))
        · rcases ih h with h | h | h
          · exact .inl h
          · rcases List.mem_cons.1 h with rfl | h
            · exact .inr (.inr List.mem_cons_self)
            · exact .inr (.inl h)
          · exact .inr (.inr (List.mem_cons_of_mem first h))

theorem mem_intercalate_iff {pieces : List (List Char)} (hc : c ≠ '/') :
    c ∈ ['/'].intercalate pieces ↔ ∃ piece ∈ pieces, c ∈ piece := by
  induction pieces with
  | nil =>
      simp [List.intercalate]
  | cons piece rest ih =>
      cases rest with
      | nil =>
          simp [List.intercalate]
      | cons next later =>
          rw [List.exists_mem_cons_iff, ← ih]
          simp [List.intercalate, hc]

/-- A path consists of the text it is made of and of what a character may be written by. -/
theorem mem_pathOf (h : c ∈ (pathOf cs).toList) :
    c = '/' ∨ c = '%' ∨ (∃ n < 16, c = hexDigit n) ∨ c ∈ cs := by
  by_cases hc : c = '/'
  · exact .inl hc
  right
  have hmem : ∃ part ∈ resolveParts [] (givenParts cs), c ∈ part.toList := by
    simpa [pathOf, String.toList_intercalate, hc, mem_intercalate_iff hc] using h
  rcases hmem with ⟨part, hpart, hmem⟩
  rcases mem_resolveParts hpart with rfl | hpart | hpart
  · simp at hmem
  · cases hpart
  · -- A given part is a piece of what is written.
    rcases List.mem_map.1 hpart with ⟨piece, hpiece, rfl⟩
    have hwritten := (mem_intercalate_iff hc).2 ⟨piece, hpiece, by simpa using hmem⟩
    rw [List.intercalate_splitOn, toList_encoded, List.flatMap_map] at hwritten
    rcases List.mem_flatMap.1 hwritten with ⟨d, hd, hwritten⟩
    rcases mem_encodedChar hwritten with hself | hpercent | hdigit
    · by_cases hback : d = '\\'
      · rw [if_pos hback] at hself
        exact absurd hself hc
      · rw [if_neg hback] at hself
        exact .inr (.inr (hself ▸ hd))
    · exact .inl hpercent
    · exact .inr (.inl hdigit)

/-! ## The request for an address -/

theorem goesOn_of_mem_pathOf (h : ∀ c ∈ cs, (c ≠ '?' && c ≠ '#') = true) :
    ∀ c ∈ (pathOf cs).toList, (c ≠ '?' && c ≠ '#') = true := by
  have hdigits : ∀ n < 16, (hexDigit n ≠ '?' && hexDigit n ≠ '#') = true := by
    decide
  intro c hc
  rcases mem_pathOf hc with rfl | rfl | ⟨n, hn, rfl⟩ | hc
  · decide
  · decide
  · exact hdigits n hn
  · exact h c hc

/-- Nothing behind the path belongs to it: a query begins with a question mark. -/
theorem takeWhile_query (cs : List Char) :
    (encoded ((cs.dropWhile fun c => c ≠ '?' && c ≠ '#').takeWhile (· ≠ '#'))).toList.takeWhile
      (fun c => c ≠ '?' && c ≠ '#') = [] := by
  cases hrest : cs.dropWhile fun c => c ≠ '?' && c ≠ '#' with
  | nil =>
      rfl
  | cons c rest =>
      have hfirst := List.head?_dropWhile_not (fun c => c ≠ '?' && c ≠ '#') cs
      rw [hrest] at hfirst
      have hc : c = '?' ∨ c = '#' := by
        simpa [or_iff_not_imp_left] using hfirst
      rcases hc with rfl | rfl
      · simp [toList_encoded, encodedChar, isEncoded]
      · simp [toList_encoded]

/-- A request for an address that was taken apart has the path that was found there. -/
theorem path_of_parse? (h : parse? text = some u) {request : Request}
    (htarget : request.target = u.target) : request.path = u.path := by
  simp only [parse?, Option.bind_eq_bind, Option.bind_eq_some_iff, Option.pure_def,
    Option.some.injEq] at h
  rcases h with ⟨⟨_, cs⟩, _, ⟨_, _⟩, _, rfl⟩
  -- Scheme and host do not matter any more; the path begins with what stands behind them.
  generalize List.dropWhile (fun c => !(c = '/' || c = '\\' || c = '?' || c = '#'))
    (List.dropWhile (fun c => c = '/' || c = '\\') cs) = behind at htarget ⊢
  have hpath : ∀ c ∈ ((behind.takeWhile fun c => c ≠ '?' && c ≠ '#').drop 1),
      (c ≠ '?' && c ≠ '#') = true :=
    fun c hc => List.mem_takeWhile_imp (p := fun c => c ≠ '?' && c ≠ '#') (List.mem_of_mem_drop hc)
  rw [Request.path, htarget, target, String.toList_append,
    List.takeWhile_append_of_pos (goesOn_of_mem_pathOf hpath), takeWhile_query, List.append_nil,
    String.ofList_toList]

/-! ## Plain parts -/

theorem givenParts_append (left right : List Char) :
    givenParts (left ++ '/' :: right) = givenParts left ++ givenParts right := by
  simp only [givenParts, toList_encoded, List.map_append, List.flatMap_append]
  rw [show (('/' :: right).map fun c => if c = '\\' then '/' else c).flatMap encodedChar =
      '/' :: (right.map fun c => if c = '\\' then '/' else c).flatMap encodedChar from rfl,
    List.splitOn_append_cons_self, List.map_append]

theorem slash_notMem_encoded (h : '/' ∉ cs) : '/' ∉ (encoded cs).toList := by
  have hdigits : ∀ n < 16, hexDigit n ≠ '/' := by
    decide
  rw [toList_encoded, List.mem_flatMap]
  rintro ⟨c, hc, hmem⟩
  rcases mem_encodedChar hmem with rfl | hpercent | ⟨n, hn, hdigit⟩
  · exact h hc
  · exact absurd hpercent (by decide)
  · exact hdigits n hn hdigit.symm

theorem givenParts_of_plain (h : ∀ c ∈ cs, IsPlain c) : givenParts cs = [encoded cs] := by
  -- There is no backslash that would become a slash, and no slash is written.
  have hback : (cs.map fun c => if c = '\\' then '/' else c) = cs := by
    rw [List.map_congr_left (g := id), List.map_id]
    intro c hc
    exact if_neg fun heq => h c hc (by simp [heq])
  have hslash : '/' ∉ (encoded cs).toList :=
    slash_notMem_encoded fun hmem => h '/' hmem (by simp)
  rw [givenParts, hback, List.splitOn_eq_singleton hslash, List.map_singleton,
    String.ofList_toList]

/-! ## A text behind the address of a host -/

/-- Nothing is dropped from an address that neither begins nor ends with what is dropped there. -/
theorem cleaned_eq {first last : Char} {middle : List Char}
    (htext : text.toList = first :: middle ++ [last]) (hfirst : isEdge first = false)
    (hlast : isEdge last = false)
    (h : ∀ c ∈ text.toList, c ≠ '\t' ∧ c ≠ '\n' ∧ c ≠ '\r') : cleaned text = text.toList := by
  have hfront : text.toList.dropWhile isEdge = text.toList := by
    rw [htext, List.cons_append, List.dropWhile_cons_of_neg (by simp [hfirst])]
  have hback : text.toList.reverse.dropWhile isEdge = text.toList.reverse := by
    rw [htext, List.reverse_append, List.reverse_singleton, List.singleton_append,
      List.dropWhile_cons_of_neg (by simp [hlast])]
  rw [cleaned, hfront, hback, List.reverse_reverse, List.filter_eq_self]
  intro c hc
  simpa [and_assoc] using h c hc

theorem ne_of_isHostChar (h : isHostChar c = true) :
    c ≠ '/' ∧ c ≠ '\\' ∧ c ≠ '?' ∧ c ≠ '#' ∧ c ≠ '\t' ∧ c ≠ '\n' ∧ c ≠ '\r' := by
  have hnot : ∀ d ∈ ['/', '\\', '?', '#', '\t', '\n', '\r'], isHostChar d = false := by
    simp [isHostChar]
  have hmem : c ∉ ['/', '\\', '?', '#', '\t', '\n', '\r'] := fun hc => by simp [hnot c hc] at h
  simpa using hmem

section Behind

variable {authority : List Char} {last : Char} (htext : text.toList = cs ++ [last])
  (hlast : isEdge last = false)
  (h : ∀ c ∈ text.toList, c ≠ '?' ∧ c ≠ '#' ∧ c ≠ '\t' ∧ c ≠ '\n' ∧ c ≠ '\r')

include htext hlast h

theorem cleaned_behind (hhost : ∀ c ∈ authority, isHostChar c = true) :
    cleaned ("http://" ++ String.ofList authority ++ "/" ++ text) =
      "http://".toList ++ (authority ++ '/' :: text.toList) := by
  have hchars : ("http://" ++ String.ofList authority ++ "/" ++ text).toList =
      'h' :: ("ttp://".toList ++ authority ++ '/' :: cs) ++ [last] := by
    simp [htext]
  rw [cleaned_eq hchars (by decide) hlast]
  · simp
  · intro c hc
    simp only [String.toList_append, String.toList_ofList, List.mem_append] at hc
    rcases hc with ((hc | hc) | hc) | hc
    · revert c
      simp
    · simp [ne_of_isHostChar (hhost c hc)]
    · revert c
      simp
    · simp [h c hc]

/-- A text that is neither cut nor shortened is the path behind the host. -/
theorem exists_parse?_of_namesHost (hurl : NamesHost url) :
    ∃ u, parse? (url ++ "/" ++ text) = some u ∧ u.secure = false ∧ u.path = pathOf text.toList := by
  rcases hurl with ⟨authority, ⟨host, port⟩, rfl, hhost, hauthority⟩
  have hscheme : schemeAt ("http://".toList ++ (authority ++ '/' :: text.toList)) =
      some (false, "//".toList ++ (authority ++ '/' :: text.toList)) :=
    rfl
  have hslashes : ("//".toList ++ (authority ++ '/' :: text.toList)).dropWhile
      (fun c => c = '/' || c = '\\') = authority ++ '/' :: text.toList := by
    cases authority with
    | nil =>
        simp [authorityOf] at hauthority
    | cons first rest =>
        simp [ne_of_isHostChar (hhost first List.mem_cons_self)]
  have hends : ∀ c ∈ authority, (!(c = '/' || c = '\\' || c = '?' || c = '#')) = true := by
    intro c hc
    simp [ne_of_isHostChar (hhost c hc)]
  have hpath : ∀ c ∈ '/' :: text.toList, (c ≠ '?' && c ≠ '#') = true := by
    intro c hc
    rcases List.mem_cons.1 hc with rfl | hc
    · decide
    · simp [h c hc]
  -- The host ends at the slash in front of the text, and the text goes on to the end.
  refine ⟨⟨false, host, port, pathOf text.toList, ""⟩, ?_, rfl, rfl⟩
  rw [parse?, cleaned_behind htext hlast h hhost, hscheme]
  simp only [Option.bind_eq_bind, Option.bind_some, hslashes]
  rw [List.takeWhile_append_of_pos hends, List.dropWhile_append_of_pos hends,
    List.takeWhile_cons_of_neg (by decide), List.dropWhile_cons_of_neg (by decide),
    List.append_nil, hauthority, List.takeWhile_eq_self_iff.2 hpath,
    List.dropWhile_eq_nil_iff.2 hpath]
  rfl

end Behind

end Url

end ServicePlane.Http
