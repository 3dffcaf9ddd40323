import RouteLint.Typing.Basic

/-!
# Looking up types

A name in a file stands for the types the file declares under it; if it declares none, for what
the name is imported as.  An imported name is looked up among the exports of the other module: a
listed export hides whatever is exported wholesale.

Every step from one module to the next uses up one of a limited number of steps, so that modules
that import each other in a circle lead nowhere.

## Main definitions

* `lookupType` — the declarations a name stands for in a file.
* `lookupExport` — the declarations a file exports under a name.
-/

namespace RouteLint

open Syntax

variable {m : Type → Type} [Monad m] (g : ModuleGraph m)

/-- The first result that is not empty. -/
def firstFound {α β : Type} (f : α → m (List β)) : List α → m (List β)
  | [] => pure []
  | a :: as => do
    let found ← f a
    if found.isEmpty then firstFound f as else pure found

mutual

/-- The declarations a name stands for in a file, in a limited number of steps. -/
def lookupType : (steps : Nat) → (file : Path) → (name : String) → m (List DeclaredType)
  | 0, _, _ => pure []
  | n + 1, file, name => do
    let scope ← g.scope file
    match scope.types.get? name with
    | some ds => return ds.map fun d => ⟨d, file⟩
    | none =>
      match scope.imports.get? name with
      | none => return []
      | some i =>
        match ← g.target file i.specifier with
        | none => return []
        | some target => lookupExport n target i.name

/-- The declarations a file exports under a name, in a limited number of steps. -/
def lookupExport : (steps : Nat) → (file : Path) → (name : String) → m (List DeclaredType)
  | 0, _, _ => pure []
  | n + 1, file, name => do
    let scope ← g.scope file
    match scope.exports.get? name with
    | some ⟨inside, none⟩ => lookupType n file inside
    | some ⟨inside, some specifier⟩ =>
      match ← g.target file specifier with
      | none => return []
      | some target => lookupExport n target inside
    | none =>
      firstFound (fun specifier => do
        match ← g.target file specifier with
        | none => return []
        | some target => lookupExport n target name) scope.starExports

end

/-- The declarations a name stands for in a file. -/
def visibleTypes (file : Path) (name : String) : m (List DeclaredType) :=
  lookupType g (maxDepth + 1) file name

end RouteLint
