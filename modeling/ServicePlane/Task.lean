import ServicePlane.Text.Quoted

/-!
# Tasks that end abnormally

Hooks and checks run on tasks of their own. A task that panics ends with the message of its panic,
if it had one; the number of a task is not part of what it computes and is written `N`.
-/

namespace ServicePlane

/-- How a task that panicked describes its end. -/
def panicText : Option String → String
  | some message => s!"task N panicked with message {Text.quoted message}"
  | none => "task N panicked"

end ServicePlane
