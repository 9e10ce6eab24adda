import ServicePlane.Http.Message

/-!
# Routing

A router is a list of routes; a route is a pattern for paths with a handler for one method. Handlers
change a state `σ`. A request for a path without a route is answered with 404, and one with a method
that no route of its path has with 405. Where there is a handler for GET, it also serves HEAD, whose
responses never carry content.
-/

namespace ServicePlane.Http

universe u

/-- One part of a pattern. -/
inductive PathPart where
  /-- Exactly this text. -/
  | exactly (text : String)
  /-- Any text, also none, which the handler gets. -/
  | anything
  deriving DecidableEq, Repr

/-- What a handler does with a request, the texts that its pattern left open, and the state. -/
abbrev Handler (σ : Type u) := Request → List String → σ → Response × σ

/-- A handler for one method of the paths of a pattern. -/
structure Route (σ : Type u) where
  method : String
  pattern : List PathPart
  handler : Handler σ

namespace Route

/-- The texts that a pattern leaves open, if the parts of a path fit it. -/
def matchParts : List PathPart → List String → Option (List String)
  | [], [] => some []
  | .exactly text :: pattern, part :: parts =>
      if text = part then matchParts pattern parts else none
  | .anything :: pattern, part :: parts => (matchParts pattern parts).map (part :: ·)
  | _, _ => none

/-- The parts of a path: the texts between its slashes. -/
def partsOf (path : String) : List String :=
  (path.toList.splitOn '/').map String.ofList

/-- The texts that a route leaves open in a path, if it is one of the route. -/
def captures? {σ : Type u} (r : Route σ) (path : String) : Option (List String) :=
  matchParts r.pattern (partsOf path)

def serves {σ : Type u} (r : Route σ) (method : String) : Bool :=
  r.method == method || (method == "HEAD" && r.method == "GET")

end Route

/-- Routes, in order. -/
abbrev Router (σ : Type u) := List (Route σ)

namespace Router

variable {σ : Type u}

def respond (routes : Router σ) (request : Request) (state : σ) : Response × σ :=
  let fitting := routes.filterMap fun r => (r.captures? request.path).map fun texts => (r, texts)
  match fitting with
  -- A path without a route is unknown for every method.
  | [] => (.ofStatus 404, state)
  | _ =>
      match fitting.find? fun f => f.1.serves request.method with
      | some (r, texts) => r.handler request texts state
      | none => (.ofStatus 405, state)

/-- Answer a request; a response to HEAD loses its content. -/
def finish (request : Request) (answer : Response × σ) : Response × σ :=
  if request.method = "HEAD" then (answer.1.withoutBody, answer.2) else answer

end Router

end ServicePlane.Http
