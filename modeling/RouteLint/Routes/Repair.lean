import RouteLint.Source
import RouteLint.Text.Occurs

/-!
# Repairing handlers

The parameters of a route reach its handler as a promise.  Where a handler's second parameter is
annotated with an object type in place, the type of its member `params` can be wrapped; a type that
is declared elsewhere is left alone, since others may use it.

## Main definitions

* `Decline` — why nothing can be repaired.
* `planRepair` — the edit that repairs a parameter.
-/

namespace RouteLint

open Syntax

/-- The type that the parameters of a route must have. -/
def wrapper : String := "Promise"

/-- The member that the parameters of a route are given in. -/
def routeMember : String := "params"

/-- Whether a text mentions the type that the parameters of a route must have. -/
def mentionsWrapper (text : String) : Bool := Text.mentions text wrapper

/-- Why nothing can be repaired. -/
inductive Decline where
  /-- The parameter has no type. -/
  | untyped
  /-- Its type is of this kind, and no object type in place. -/
  | notInline (kind : String)
  /-- The object type has no such property. -/
  | noMember
  /-- The property has no type. -/
  | untypedMember
  /-- The type is already wrapped. -/
  | wrapped
  deriving DecidableEq, Repr

/-- The wording of a reason. -/
def Decline.message : Decline → String
  | .untyped => "parameter has no type annotation"
  | .notInline kind => "parameter type is a " ++ kind ++ ", not an inline object type"
  | .noMember => "no params member"
  | .untypedMember => "params member has no type annotation"
  | .wrapped => "params is already wrapped in " ++ wrapper

/-- The type of a member that is the property with a given name. -/
def propertyNamed (name : String) : Member → Option (Option TypeExpr)
  | .property n type => if n.text? = some name then some type else none
  | _ => none

/-- The edit that wraps a type. -/
def wrapEdit (t : TypeExpr) : Edit :=
  ⟨t.extent.start, t.extent.stop, wrapper ++ "<" ++ t.text ++ ">"⟩

/-- The edit that repairs an object type. -/
def planMembers (members : List Member) : Except Decline Edit :=
  match members.findSome? (propertyNamed routeMember) with
  | none => .error .noMember
  | some none => .error .untypedMember
  | some (some t) => if mentionsWrapper t.text then .error .wrapped else .ok (wrapEdit t)

/-- The edit that repairs a parameter. -/
def planRepair (p : Parameter) : Except Decline Edit :=
  match p.type with
  | none => .error .untyped
  | some (.object _ members) => planMembers members
  | some t => .error (.notInline t.kindName)

end RouteLint
