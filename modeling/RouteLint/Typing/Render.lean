import RouteLint.Typing.Lookup

/-!
# Types as texts

A type is shown as it is written, on one line.  A name that is an alias is shown as what it stands
for, and so is a bound type parameter; the arguments of a generic type are shown in the same way.
Names inside other types stay as they are.

## Main definitions

* `bind` — what the parameters of a declaration stand for.
* `render` — a type as a text.
-/

namespace RouteLint

open Syntax

variable {m : Type → Type} [Monad m] (g : ModuleGraph m)

/-- What the parameters of a declaration stand for: the arguments in order, and for those left out
their own fallback, under the parameters before them. -/
def bindFrom (file : Path) (before : Table String TypeRef) :
    List TypeParameter → List TypeRef → Table String TypeRef
  | [], _ => before
  | p :: ps, a :: as => bindFrom file (before.set p.name a) ps as
  | p :: ps, [] =>
    match p.fallback with
    | some t => bindFrom file (before.set p.name ⟨t, file, before⟩) ps []
    | none => bindFrom file before ps []

/-- What the parameters of a declaration stand for. -/
def bind (file : Path) (parameters : List TypeParameter) (arguments : List TypeRef) :
    Table String TypeRef :=
  bindFrom file [] parameters arguments

/-- The type an alias stands for, under its arguments. -/
def aliased (file : Path) (a : TypeAlias) (arguments : List TypeRef) : TypeRef :=
  ⟨a.value, file, bind file a.parameters arguments⟩

/-- What a name with arguments stands for, if it is an alias. -/
def aliasValue (file : Path) (name : String) (arguments : List TypeRef) : m (Option TypeRef) := do
  match ← visibleTypes g file name with
  | ⟨.alias a, declaredIn⟩ :: _ => return some (aliased declaredIn a arguments)
  | _ => return none

/-- A type as a text, following names in a limited number of steps. -/
def renderFrom : (steps : Nat) → TypeRef → m String
  | 0, r => pure r.text
  | n + 1, r =>
    match r.type with
    | .name p =>
      match r.bindings.get? p.text with
      | some b => renderFrom n b
      | none => do
        match ← aliasValue g r.file p.text [] with
        | some t => renderFrom n t
        | none => return p.text
    | .generic _ head arguments => do
      let args := arguments.map r.withType
      let known ←
        if head.plain && !r.bindings.contains head.text then aliasValue g r.file head.text args
        else pure none
      match known with
      | some t => renderFrom n t
      | none =>
        let texts ← args.mapM (renderFrom n)
        return head.text ++ "<" ++ ", ".intercalate texts ++ ">"
    | _ => pure r.text

/-- A type as a text. -/
def render (r : TypeRef) : m String := renderFrom g (maxDepth + 1) r

/-- The type of a property as a text. -/
def Property.typeText (p : Property) : m String :=
  match p.origin with
  | .property (some t) => render g t
  | .property none => pure "any"
  | .method text => pure text
  | .keyed t => render g t
  | .derived text => pure text

end RouteLint
