import RouteLint.Typing.Resolve

/-!
# Types of parameters

A parameter has the type it is annotated with.  Without an annotation its type is inferred from
the form of its default value.

## Main definitions

* `infer` — the type of an expression.
* `parameterType` — the type of a parameter.
* `propertyType` — the type of a property, from its declaration or as the owner has it.
-/

namespace RouteLint

open Syntax

variable {m : Type → Type} [Monad m] (g : ModuleGraph m)

/-- The text of an object type with the given properties. -/
def objectText (properties : List (String × String)) : String :=
  if properties.isEmpty then "\x7b\x7d"
  else
    "\x7b " ++ "; ".intercalate (properties.map fun (name, text) => name ++ ": " ++ text) ++
      "; \x7d"

/-- The type of an object with the given properties. -/
def objectType (properties : Table String String) : ResolvedType :=
  ⟨objectText properties, properties.map fun (name, text) => (name, ⟨name, .derived text⟩)⟩

/-- The text of a promise. -/
def promiseOf (inner : String) : String := "Promise<" ++ inner ++ ">"

mutual

/-- The type of an expression at a depth of nesting. -/
def inferAt (file : Path) (depth : Nat) : Expr → m ResolvedType
  | .parenthesized inner =>
    if depth < maxDepth then inferAt file (depth + 1) inner else pure ⟨"any", []⟩
  | .object entries =>
    if depth < maxDepth then do return objectType (← inferEntries file depth [] entries)
    else pure ⟨"any", []⟩
  | .text => pure ⟨"string", []⟩
  | .number => pure ⟨"number", []⟩
  | .truth => pure ⟨"boolean", []⟩
  | .null => pure ⟨"null", []⟩
  | .undefined => pure ⟨"undefined", []⟩
  | .asType _ type => do return ⟨← render g ⟨type, file, []⟩, []⟩
  | .asConst inner =>
    if depth < maxDepth then do return ⟨(← inferAt file (depth + 1) inner).text, []⟩
    else pure ⟨"any", []⟩
  | .satisfies inner =>
    if depth < maxDepth then do return ⟨(← inferAt file (depth + 1) inner).text, []⟩
    else pure ⟨"any", []⟩
  | .construct target =>
    pure ⟨if target = "Promise" then promiseOf "any" else "any", []⟩
  | .call object method first =>
    if object ≠ "Promise" then pure ⟨"any", []⟩
    else if method = "reject" then pure ⟨promiseOf "never", []⟩
    else if method ≠ "resolve" then pure ⟨promiseOf "any", []⟩
    else
      match first with
      | none => pure ⟨promiseOf "void", []⟩
      | some e =>
        if depth < maxDepth then do
          return ⟨promiseOf (← inferAt file (depth + 1) e).text, []⟩
        else pure ⟨promiseOf "any", []⟩
  | .member _ _ => pure ⟨"any", []⟩
  | .other => pure ⟨"any", []⟩

/-- The types of the properties of an object expression; of two with one name the last counts. -/
def inferEntries (file : Path) (depth : Nat) (before : Table String String) :
    List Entry → m (Table String String)
  | [] => pure before
  | .pair name value :: es =>
    match name.text? with
    | none => inferEntries file depth before es
    | some n => do
      let t ← inferAt file (depth + 1) value
      inferEntries file depth (before.set n t.text) es
  | .shorthand name :: es => inferEntries file depth (before.set name "any") es

end

/-- The type of an expression in a file. -/
def infer (file : Path) (e : Expr) : m ResolvedType := inferAt g file 0 e

/-- The type of a parameter: its annotation, or else what its default value shows. -/
def parameterType (file : Path) (p : Parameter) : m (Option ResolvedType) :=
  match p.type, p.value with
  | some t, _ => some <$> resolve g ⟨t, file, []⟩
  | none, some e => some <$> infer g file e
  | none, none => pure none

/-! ### Types of properties -/

/-- A text unless it is empty. -/
def nonempty (text : String) : Option String := if text.isEmpty then none else some text

/-- The type a property is written out with.  A property without a type can hold anything; a
method has no type of its own. -/
def declaredType (p : Property) : m (Option String) :=
  match p.origin with
  | .property (some t) => nonempty <$> render g t
  | .property none => pure (some "any")
  | _ => pure none

/-- The type of a property as its owner has it. -/
def ownedType (owner : ResolvedType) (p : Property) : m (Option String) :=
  match owner.properties.get? p.name with
  | none => pure none
  | some q =>
    match q.origin with
    | .property (some t) => nonempty <$> render g t
    | .property none => pure none
    | .method text => pure (nonempty text)
    | .keyed t => nonempty <$> render g t
    | .derived text => pure (nonempty text)

/-- The type of a property: as it is written out, or else as its owner has it. -/
def propertyType (owner : ResolvedType) (p : Property) : m (Option String) := do
  match ← declaredType g p with
  | some text => return some text
  | none => ownedType g owner p

end RouteLint
