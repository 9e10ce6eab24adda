import ServicePlane.Http.Router

/-!
# Which route answers a request

What a router does, said without its search: the parts of a path are the texts between its slashes,
and the handler that answers belongs to a route that the path fits and that serves the method.

* `Route.partsOf_eq_iff` — the parts of a path, and the path made of them;
* `matchParts_nil_iff`, `matchParts_exactly_iff`, `matchParts_anything_iff` — when parts fit a
  pattern, one lemma for each kind of pattern;
* `Router.respond_cases` — a route answers, or none does and the state stays as it is.
-/

namespace ServicePlane.Http

universe u

namespace Route

variable {pattern : List PathPart} {parts texts : List String} {path text : String}

/-! ## The parts of a path -/

theorem slash_notMem_of_mem_splitOn {cs part : List Char} (h : part ∈ cs.splitOn '/') :
    '/' ∉ part := by
  induction cs generalizing part with
  | nil =>
      simp_all
  | cons c rest ih =>
      rw [List.splitOn_cons_eq_if_modifyHead] at h
      by_cases hc : (c == '/') = true
      · rw [if_pos hc, List.mem_cons] at h
        rcases h with rfl | h
        · simp
        · exact ih h
      · rw [if_neg hc] at h
        -- The character goes in front of the first part of the rest.
        cases hsplit : rest.splitOn '/' with
        | nil =>
            rw [hsplit] at h
            cases h
        | cons first later =>
            rw [hsplit, List.modifyHead_cons, List.mem_cons] at h
            rcases h with rfl | h
            · have hfirst : '/' ∉ first := ih (by simp [hsplit])
              have hne : '/' ≠ c := by
                rintro rfl
                exact hc (by simp)
              simp [hfirst, hne]
            · exact ih (by simp [hsplit, h])

/-- Parts of a path hold no slash, and the path is what slashes between them make. -/
theorem partsOf_eq_iff :
    partsOf path = parts ↔
      parts ≠ [] ∧ (∀ part ∈ parts, '/' ∉ part.toList) ∧
        path.toList = ['/'].intercalate (parts.map String.toList) := by
  constructor
  · rintro rfl
    have htexts : (partsOf path).map String.toList = path.toList.splitOn '/' := by
      simp [partsOf, Function.comp_def]
    refine ⟨?_, ?_, ?_⟩
    · simp [partsOf, List.splitOn_ne_nil]
    · intro part hpart
      have hmem : part.toList ∈ path.toList.splitOn '/' := by
        rw [← htexts]
        exact List.mem_map_of_mem hpart
      exact slash_notMem_of_mem_splitOn hmem
    · rw [htexts, List.intercalate_splitOn]
  · rintro ⟨hne, hslash, hpath⟩
    have hsplit : path.toList.splitOn '/' = parts.map String.toList := by
      rw [hpath]
      refine List.splitOn_intercalate '/' ?_ (by simpa using hne)
      intro cs hcs
      rcases List.mem_map.1 hcs with ⟨part, hpart, rfl⟩
      exact hslash part hpart
    simp [partsOf, hsplit, Function.comp_def]

/-! ## Patterns -/

@[simp]
theorem matchParts_nil_iff : matchParts [] parts = some texts ↔ parts = [] ∧ texts = [] := by
  cases parts <;> simp [matchParts, eq_comm]

@[simp]
theorem matchParts_exactly_iff :
    matchParts (.exactly text :: pattern) parts = some texts ↔
      ∃ rest, parts = text :: rest ∧ matchParts pattern rest = some texts := by
  cases parts with
  | nil =>
      simp [matchParts]
  | cons part rest =>
      by_cases h : text = part
      · simp [matchParts, h]
      · simp [matchParts, h, Ne.symm h]

@[simp]
theorem matchParts_anything_iff :
    matchParts (.anything :: pattern) parts = some texts ↔
      ∃ part rest later, parts = part :: rest ∧ texts = part :: later ∧
        matchParts pattern rest = some later := by
  cases parts with
  | nil =>
      simp [matchParts]
  | cons part rest =>
      simp only [matchParts, Option.map_eq_some_iff]
      constructor
      · rintro ⟨later, hlater, rfl⟩
        exact ⟨part, rest, later, rfl, rfl, hlater⟩
      · rintro ⟨_, _, later, heq, rfl, hlater⟩
        cases heq
        exact ⟨later, hlater, rfl⟩

/-- Only a route for GET serves another method as well. -/
theorem method_eq_of_serves {σ : Type u} {r : Route σ} {method : String} (h : r.method ≠ "GET")
    (hserves : r.serves method = true) : method = r.method := by
  rw [serves, beq_eq_false_iff_ne.2 h, Bool.and_false, Bool.or_false] at hserves
  exact (beq_iff_eq.1 hserves).symm

/-- Only for HEAD is a route that serves a method not one for that method. -/
theorem method_eq_of_not_head {σ : Type u} {r : Route σ} {method : String} (h : method ≠ "HEAD")
    (hserves : r.serves method = true) : method = r.method := by
  rw [serves, beq_eq_false_iff_ne.2 h, Bool.false_and, Bool.or_false] at hserves
  exact (beq_iff_eq.1 hserves).symm

end Route

namespace Router

variable {σ : Type u}

/-- Either a route answers that the path fits and that serves the method, or there is none, and then
the status alone says so. -/
theorem respond_cases (routes : Router σ) (request : Request) (state : σ) :
    (∃ r ∈ routes, ∃ texts, r.captures? request.path = some texts ∧
      r.serves request.method = true ∧
      routes.respond request state = r.handler request texts state) ∨
    ((∀ r ∈ routes, ∀ texts, r.captures? request.path = some texts →
        r.serves request.method = false) ∧
      ∃ status, (status = 404 ∨ status = 405) ∧
        routes.respond request state = (.ofStatus status, state)) := by
  -- Of the routes that the path fits, with what they capture, only the members matter.
  have hfitting : ∀ f, f ∈ routes.filterMap (fun r =>
        (r.captures? request.path).map fun texts => (r, texts)) ↔
      f.1 ∈ routes ∧ f.1.captures? request.path = some f.2 := by
    rintro ⟨r, texts⟩
    simp only [List.mem_filterMap, Option.map_eq_some_iff, Prod.mk.injEq]
    constructor
    · rintro ⟨r', hr', texts', htexts', rfl, rfl⟩
      exact ⟨hr', htexts'⟩
    · rintro ⟨hr, htexts⟩
      exact ⟨r, hr, texts, htexts, rfl, rfl⟩
  rw [respond]
  generalize routes.filterMap (fun r =>
    (r.captures? request.path).map fun texts => (r, texts)) = fitting at hfitting ⊢
  cases hfind : fitting.find? fun f => f.1.serves request.method with
  | some f =>
      rcases f with ⟨r, texts⟩
      have hmem := List.mem_of_find?_eq_some hfind
      have hserves := List.find?_some hfind
      left
      refine ⟨r, ((hfitting _).1 hmem).1, texts, ((hfitting _).1 hmem).2, hserves, ?_⟩
      cases fitting with
      | nil =>
          cases hmem
      | cons first later =>
          rfl
  | none =>
      right
      constructor
      · intro r hr texts htexts
        have hnot := List.find?_eq_none.1 hfind (r, texts) ((hfitting _).2 ⟨hr, htexts⟩)
        simpa using hnot
      · cases fitting with
        | nil =>
            exact ⟨404, .inl rfl, rfl⟩
        | cons first later =>
            exact ⟨405, .inr rfl, rfl⟩

/-- What every handler keeps is kept by the answer to any request. -/
theorem respond_keeps {P : σ → Prop} {routes : Router σ} {state : σ} (request : Request)
    (hkept : ∀ r ∈ routes, ∀ request texts state, P state → P (r.handler request texts state).2)
    (h : P state) : P (routes.respond request state).2 := by
  rcases respond_cases routes request state with ⟨r, hr, texts, _, _, heq⟩ | ⟨_, status, _, heq⟩
  · rw [heq]
    exact hkept r hr request texts state h
  · rw [heq]
    exact h

theorem finish_snd (request : Request) (answer : Response × σ) :
    (finish request answer).2 = answer.2 := by
  rw [finish]
  split <;> rfl

/-- The status of an answer does not depend on whether it carries its content. -/
theorem status_finish (request : Request) (answer : Response × σ) :
    (finish request answer).1.status = answer.1.status := by
  rw [finish]
  split <;> rfl

theorem finish_of_not_head {request : Request} (h : request.method ≠ "HEAD")
    (answer : Response × σ) : finish request answer = answer :=
  if_neg h

end Router

end ServicePlane.Http
