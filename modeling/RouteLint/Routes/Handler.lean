import RouteLint.Scope

/-!
# Route handlers

A route file handles requests by exporting functions that are named after the methods of HTTP.
Only declared functions count: a variable that holds a function, an overload without a body or a
class is no handler, and neither is anything exported from another module.

## Main definitions

* `httpMethods` — the names of handlers.
* `handlers` — the handlers in the scope of a file.
-/

namespace RouteLint

open Syntax

/-- The names of handlers. -/
def httpMethods : List String := ["GET", "POST", "PUT", "DELETE", "PATCH", "HEAD", "OPTIONS"]

/-- A handler: a function and the name it is exported as. -/
structure Handler where
  /-- The name it is exported as. -/
  name : String
  /-- The function. -/
  declaration : FunctionDeclaration
  deriving Repr, Inhabited

namespace Handler

/-- The handler a declaration is when exported under a name. -/
def of? (name : String) : Declaration → Option Handler
  | .function f => some ⟨name, f⟩
  | _ => none

/-- The parameter that a handler is given its route's parameters in. -/
def context? (h : Handler) : Option Parameter := h.declaration.parameters[1]?

end Handler

/-- The handlers in the scope of a file. -/
def handlers (s : Scope) : List Handler :=
  (s.exportedDeclarations.filter fun e => httpMethods.contains e.1).flatMap fun (name, ds) =>
    ds.filterMap (Handler.of? name)

end RouteLint
