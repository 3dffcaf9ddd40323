import RouteLint.Scope
import RouteLint.Path
import RouteLint.Text.Blank

/-!
# Types in their surroundings

A type means something only in a file, where its names are looked up, and under the bindings of
the type parameters around it.  What is known about a type after resolving it is its text and its
properties.

## Main definitions

* `TypeRef` — a type with its file and bindings.
* `Property` — a property of a type, and where it comes from.
* `ResolvedType` — text and properties of a type.
* `ModuleGraph` — what typing asks about modules.
-/

namespace RouteLint

open Syntax

/-- A type, the file it is written in, and what the type parameters around it stand for. -/
inductive TypeRef where
  /-- A type in its surroundings. -/
  | mk (type : TypeExpr) (file : Path) (bindings : List (String × TypeRef))

namespace TypeRef

/-- The type. -/
def type : TypeRef → TypeExpr
  | ⟨t, _, _⟩ => t

/-- The file it is written in. -/
def file : TypeRef → Path
  | ⟨_, f, _⟩ => f

/-- What the type parameters around it stand for. -/
def bindings : TypeRef → Table String TypeRef
  | ⟨_, _, b⟩ => b

/-- Another type in the same surroundings. -/
def withType (r : TypeRef) (t : TypeExpr) : TypeRef := ⟨t, r.file, r.bindings⟩

/-- The text of the type on one line. -/
def text (r : TypeRef) : String := Text.collapse r.type.text

instance : Inhabited TypeRef := ⟨⟨default, default, []⟩⟩

end TypeRef

/-- Where a property comes from, and what is known about its type. -/
inductive Property.Origin where
  /-- It is written out as a property, with a type or without. -/
  | property (type : Option TypeRef)
  /-- It is written out as a method, with this text. -/
  | method (text : String)
  /-- It is one of the keys of a record type, all of which have one type. -/
  | keyed (type : TypeRef)
  /-- It is put together from other properties, or inferred from a value. -/
  | derived (text : String)
  deriving Inhabited

/-- A property of a type. -/
structure Property where
  /-- Its name. -/
  name : String
  /-- Where it comes from. -/
  origin : Property.Origin
  deriving Inhabited

/-- What is known about a type. -/
structure ResolvedType where
  /-- The type as a text. -/
  text : String
  /-- Its properties by name. -/
  properties : Table String Property
  deriving Inhabited

/-- What typing asks about modules: the scope of a file, and the file an import leads to. -/
structure ModuleGraph (m : Type → Type) where
  /-- The scope of a file. -/
  scope : Path → m Scope
  /-- The file that a specifier in a file leads to. -/
  target : Path → String → m (Option Path)

/-- How far types are followed through names, brackets and arguments, and names through
modules. -/
def maxDepth : Nat := 24

/-- A declared type and the file it is declared in. -/
structure DeclaredType where
  /-- The declaration. -/
  declaration : TypeDeclaration
  /-- The file. -/
  file : Path
  deriving Inhabited

end RouteLint
