import RouteLint.Typing.Render

/-!
# Properties of types

Resolving a type finds its properties, as far as they are written out somewhere: in object types
and interfaces, behind aliases and type parameters, in the parts of unions and intersections, and
through a handful of generic types that are known without a declaration.

## Main definitions

* `membersOf` — the properties that members write out.
* `literalKeys` — the string literals a type consists of.
* `resolve` — text and properties of a type.
-/

namespace RouteLint

open Syntax

variable {m : Type → Type} [Monad m] (g : ModuleGraph m)

/-! ### Members -/

/-- The property a member writes out, unless its name is computed or it has none. -/
def propertyOf (r : TypeRef) : Member → Option Property
  | .property name type => name.text?.map fun n => ⟨n, .property (type.map r.withType)⟩
  | .method name piece => name.text?.map fun n => ⟨n, .method (Text.collapse piece.text)⟩
  | .signature => none

/-- The properties that members write out; of two with one name the last counts. -/
def membersOf (r : TypeRef) (members : List Member) : Table String Property :=
  (members.filterMap (propertyOf r)).foldl (fun t p => t.set p.name p) []

/-! ### Literal keys -/

mutual

/-- The alternatives of a type: the parts of a union, and of unions among them. -/
def alternatives : TypeExpr → List TypeExpr
  | .union _ parts => alternativesOf parts
  | t => [t]

/-- The alternatives of each of several types. -/
def alternativesOf : List TypeExpr → List TypeExpr
  | [] => []
  | t :: ts => alternatives t ++ alternativesOf ts

end

/-- The contents of a type that is a string literal. -/
def literalText? : TypeExpr → Option String
  | .literal _ contents => contents
  | _ => none

/-- The alias among declared types that comes first. -/
def firstAlias : List DeclaredType → Option (TypeAlias × Path)
  | [] => none
  | ⟨.alias a, file⟩ :: _ => some (a, file)
  | ⟨.interface _, _⟩ :: ds => firstAlias ds

/-- The string literals a type consists of, following names in a limited number of steps. -/
def literalKeys : (steps : Nat) → TypeRef → m (List String)
  | 0, r => pure ((alternatives r.type).filterMap literalText?)
  | n + 1, r => do
    let keys ← (alternatives r.type).mapM fun t =>
      match t with
      | .name p =>
        match r.bindings.get? p.text with
        | some b => literalKeys n b
        | none => do
          match firstAlias (← visibleTypes g r.file p.text) with
          | some (a, file) => literalKeys n ⟨a.value, file, []⟩
          | none => return []
      | _ => pure (literalText? t).toList
    return keys.flatten

/-! ### Unions and intersections -/

/-- Add a property to those of an intersection: with a property of the same name it has both
types. -/
def intersectProperty (before : Table String Property) (p : Property) :
    m (Table String Property) := do
  match before.get? p.name with
  | none => return before.set p.name p
  | some q =>
    let a ← q.typeText g
    let b ← p.typeText g
    return before.set p.name ⟨p.name, .derived (a ++ " & " ++ b)⟩

/-- What is known about an intersection from its parts. -/
def intersect (parts : List ResolvedType) : m ResolvedType := do
  let properties ← (parts.flatMap fun t => t.properties.values).foldlM (intersectProperty g) []
  return ⟨" & ".intercalate (parts.map ResolvedType.text), properties⟩

/-- Texts without repetitions, in order of first appearance. -/
def distinct (texts : List String) : List String :=
  texts.foldl (fun seen t => if seen.contains t then seen else seen ++ [t]) []

/-- The property that all parts of a union have: of any of their types. -/
def uniteProperty (p : Property) (others : List Property) : m Property := do
  let texts ← (p :: others).mapM (Property.typeText g)
  match distinct texts with
  | [_] => return p
  | ts => return ⟨p.name, .derived (" | ".intercalate ts)⟩

/-- What is known about a union from its parts. -/
def unite (parts : List ResolvedType) : m ResolvedType := do
  let text := " | ".intercalate (parts.map ResolvedType.text)
  match parts with
  | [] => return ⟨text, []⟩
  | first :: others =>
    let common := first.properties.filter fun e => others.all fun t => t.properties.contains e.1
    let properties ← common.mapM fun (name, p) => do
      let same := others.filterMap fun t => t.properties.get? name
      return (name, ← uniteProperty g p same)
    return ⟨text, properties⟩

/-! ### Declarations -/

/-- The properties of the types an interface extends; the first that has a name gives it. -/
def inherited (resolve : TypeRef → m ResolvedType) (file : Path) (bindings : Table String TypeRef)
    (before : Table String Property) (bases : List TypeExpr) : m (Table String Property) :=
  bases.foldlM (fun before base => do
    let t ← resolve ⟨base, file, bindings⟩
    return t.properties.foldl (fun before e => before.setDefault e.1 e.2) before) before

/-- Own and inherited properties of the declarations of an interface. -/
def interfaceProperties (resolve : TypeRef → m ResolvedType) (arguments : List TypeRef) :
    List DeclaredType → (own inheritedBefore : Table String Property) →
    m (Table String Property × Table String Property)
  | [], own, above => pure (own, above)
  | ⟨.alias _, _⟩ :: ds, own, above => interfaceProperties resolve arguments ds own above
  | ⟨.interface i, file⟩ :: ds, own, above => do
    let bindings := bind file i.parameters arguments
    let members := membersOf ⟨default, file, bindings⟩ i.members
    let above ← inherited resolve file bindings above i.bases
    interfaceProperties resolve arguments ds (own.merge members) above

/-- What is known about a name from its declarations.  The first decides whether the name is an
alias or an interface; an interface has the members of all its declarations, and own members hide
inherited ones. -/
def resolveDeclared (resolve : TypeRef → m ResolvedType) (text : m String)
    (declared : List DeclaredType) (arguments : List TypeRef) : m ResolvedType := do
  match declared with
  | ⟨.alias a, file⟩ :: _ => resolve (aliased file a arguments)
  | _ =>
    let (own, above) ← interfaceProperties resolve arguments declared [] []
    return ⟨← text, above.merge own⟩

/-- Generic types that have the properties of their first argument. -/
def transparentGenerics : List String := ["NonNullable", "Partial", "Readonly", "Required"]

/-- Properties that all have one type. -/
def keyedProperties (value : TypeRef) (keys : List String) : Table String Property :=
  keys.foldl (fun (t : Table String Property) k => t.set k ⟨k, .keyed value⟩) []

/-- What is known about a generic type that is declared nowhere. -/
def resolveBuiltin (resolve : TypeRef → m ResolvedType) (keys : TypeRef → m (List String))
    (text : m String) (name : String) (arguments : List TypeRef) : m ResolvedType := do
  match arguments with
  | first :: others =>
    if transparentGenerics.contains name then
      let inner ← resolve first
      return ⟨← text, inner.properties⟩
    else
      match others with
      | [value] =>
        if name = "Record" then
          let ks ← keys first
          return ⟨← text, keyedProperties value ks⟩
        else return ⟨← text, []⟩
      | _ => return ⟨← text, []⟩
  | [] => return ⟨← text, []⟩

/-! ### Resolving -/

/-- Text and properties of a type, in a limited number of steps. -/
def resolveFrom : (steps : Nat) → TypeRef → m ResolvedType
  | 0, r => pure ⟨r.text, []⟩
  | n + 1, r =>
    match r.type with
    | .parenthesized _ inner => resolveFrom n (r.withType inner)
    | .name p =>
      match r.bindings.get? p.text with
      | some b => resolveFrom n b
      | none => do
        match ← visibleTypes g r.file p.text with
        | [] => return ⟨p.text, []⟩
        | ds => resolveDeclared (resolveFrom n) (renderFrom g (n + 1) r) ds []
    | .generic _ head arguments =>
      if head.plain && !r.bindings.contains head.text then do
        let args := arguments.map r.withType
        match ← visibleTypes g r.file head.text with
        | [] =>
          resolveBuiltin (resolveFrom n) (literalKeys g n) (renderFrom g (n + 1) r) head.text args
        | ds => resolveDeclared (resolveFrom n) (renderFrom g (n + 1) r) ds args
      else do return ⟨← renderFrom g (n + 1) r, []⟩
    | .object _ members => do return ⟨← renderFrom g (n + 1) r, membersOf r members⟩
    | .intersection _ parts => do
      let ts ← parts.mapM fun t => resolveFrom n (r.withType t)
      intersect g ts
    | .union _ parts => do
      let ts ← parts.mapM fun t => resolveFrom n (r.withType t)
      unite g ts
    | _ => do return ⟨← renderFrom g (n + 1) r, []⟩

/-- Text and properties of a type. -/
def resolve (r : TypeRef) : m ResolvedType := resolveFrom g (maxDepth + 1) r

end RouteLint
