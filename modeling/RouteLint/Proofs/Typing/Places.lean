import RouteLint.Proofs.Scope.Renewal
import RouteLint.Typing.Infer

/-!
# Syntax without places

Every construct of a syntax tree keeps the place it was read from.  Its bare form is the construct
with all places left out, while the texts of types stay.  An object type that a parameter is
annotated with loses its own text too: it is what changes around a repair inside of it.

What typing looks at in a scope are the declared types, the imports and the exports; this is the
view of the scope.

## Main definitions

* `TypeExpr.bare`, `Expr.bare`, `Parameter.bare`, `Module.bare` — trees without places.
* `Scope.view` — what typing sees of a scope.
* `TypeRef.bare`, `ResolvedType.bare` — the objects of typing without places.

## Main results

* `Scope.view_eq_of_bare_eq` — typing sees no places.
-/

namespace RouteLint.Syntax

/-- A piece without its place. -/
def Piece.bare (p : Piece) : Piece := ⟨default, p.text⟩

@[simp] theorem Piece.bare_text (p : Piece) : p.bare.text = p.text := rfl

/-! ### Types -/

mutual

/-- A type without places. -/
def TypeExpr.bare : TypeExpr → TypeExpr
  | .object p ms => .object p.bare (bareMembers ms)
  | .name p => .name p.bare
  | .generic p head ts => .generic p.bare head (bareTypes ts)
  | .union p ts => .union p.bare (bareTypes ts)
  | .intersection p ts => .intersection p.bare (bareTypes ts)
  | .parenthesized p t => .parenthesized p.bare t.bare
  | .literal p contents => .literal p.bare contents
  | .comment p => .comment p.bare
  | .other p kind => .other p.bare kind

/-- A member without places. -/
def Member.bare : Member → Member
  | .property name (some t) => .property name (some t.bare)
  | .property name none => .property name none
  | .method name p => .method name p.bare
  | .signature => .signature

/-- Types without places. -/
def bareTypes : List TypeExpr → List TypeExpr
  | [] => []
  | t :: ts => t.bare :: bareTypes ts

/-- Members without places. -/
def bareMembers : List Member → List Member
  | [] => []
  | m :: ms => m.bare :: bareMembers ms

end

@[simp] theorem bareTypes_eq_map (ts : List TypeExpr) : bareTypes ts = ts.map TypeExpr.bare := by
  induction ts with
  | nil => rfl
  | cons t ts ih => rw [bareTypes, ih, List.map_cons]

@[simp] theorem bareMembers_eq_map (ms : List Member) : bareMembers ms = ms.map Member.bare := by
  induction ms with
  | nil => rfl
  | cons m ms ih => rw [bareMembers, ih, List.map_cons]

@[simp] theorem TypeExpr.bare_text (t : TypeExpr) : t.bare.text = t.text := by
  cases t <;> rfl

@[simp] theorem Member.bare_property (name : PropertyName) (t : Option TypeExpr) :
    Member.bare (.property name t) = .property name (t.map TypeExpr.bare) := by
  cases t <;> rfl

/-! ### Expressions -/

mutual

/-- An expression without places. -/
def Expr.bare : Expr → Expr
  | .parenthesized e => .parenthesized e.bare
  | .object es => .object (bareEntries es)
  | .text => .text
  | .number => .number
  | .truth => .truth
  | .null => .null
  | .undefined => .undefined
  | .asConst e => .asConst e.bare
  | .asType e t => .asType e.bare t.bare
  | .satisfies e => .satisfies e.bare
  | .construct target => .construct target
  | .member object property => .member object property
  | .call object method (some e) => .call object method (some e.bare)
  | .call object method none => .call object method none
  | .other => .other

/-- An entry without places. -/
def Entry.bare : Entry → Entry
  | .pair name e => .pair name e.bare
  | .shorthand name => .shorthand name

/-- Entries without places. -/
def bareEntries : List Entry → List Entry
  | [] => []
  | e :: es => e.bare :: bareEntries es

end

/-! ### Declarations -/

/-- A parameter without places, and without the text of an object type it is annotated with. -/
def Parameter.bare (p : Parameter) : Parameter :=
  { p with
    extent := default
    type :=
      match p.type with
      | some (.object _ ms) => some (.object default (ms.map Member.bare))
      | t => t.map TypeExpr.bare
    value := p.value.map Expr.bare }

/-- A type parameter without places. -/
def TypeParameter.bare (p : TypeParameter) : TypeParameter :=
  { p with fallback := p.fallback.map TypeExpr.bare }

/-- A function without places. -/
def FunctionDeclaration.bare (f : FunctionDeclaration) : FunctionDeclaration :=
  { f with extent := default, parameters := f.parameters.map Parameter.bare }

/-- An alias without places. -/
def TypeAlias.bare (a : TypeAlias) : TypeAlias :=
  { a with
    extent := default
    parameters := a.parameters.map TypeParameter.bare
    value := a.value.bare }

/-- An interface without places. -/
def Interface.bare (i : Interface) : Interface :=
  { i with
    extent := default
    parameters := i.parameters.map TypeParameter.bare
    bases := i.bases.map TypeExpr.bare
    members := i.members.map Member.bare }

/-- A declared type without places. -/
def TypeDeclaration.bare : TypeDeclaration → TypeDeclaration
  | .alias a => .alias a.bare
  | .interface i => .interface i.bare

/-- A declared value without its place. -/
def ValueDeclaration.bare (v : ValueDeclaration) : ValueDeclaration := { v with extent := default }

@[simp] theorem TypeDeclaration.bare_name (d : TypeDeclaration) : d.bare.name = d.name := by
  cases d <;> rfl

/-- Leaving places out of declarations. -/
def Renewal.bare : Renewal where
  type := TypeDeclaration.bare
  function := FunctionDeclaration.bare
  value := ValueDeclaration.bare
  type_name := TypeDeclaration.bare_name
  function_name _ := rfl
  value_name _ := rfl

/-- A module without places. -/
def Module.bare (m : Module) : Module := m.renew .bare

end RouteLint.Syntax

namespace RouteLint

open Syntax

/-! ### Scopes -/

/-- What typing sees of a scope: its types without places, its imports and its exports. -/
def Scope.view (s : Scope) : Scope := { s.renew .bare with functions := [], values := [] }

/-- Modules that differ only in places have scopes that typing cannot tell apart. -/
theorem Scope.view_eq_of_bare_eq {m m' : Module} (h : m.bare = m'.bare) :
    (ofModule m).view = (ofModule m').view := by
  unfold view
  rw [← ofModule_renew, ← ofModule_renew]
  exact congrArg (fun m => { ofModule m with functions := [], values := [] }) h

/-- A handler without places. -/
def Handler.bare (h : Handler) : Handler := h.renew .bare

theorem Handler.context?_bare (h : Handler) : h.bare.context? = h.context?.map Parameter.bare :=
  List.getElem?_map

/-! ### The objects of typing -/

/-- A declared type without places. -/
def DeclaredType.bare (d : DeclaredType) : DeclaredType :=
  { d with declaration := d.declaration.bare }

mutual

/-- A type in its surroundings without places. -/
def TypeRef.bare : TypeRef → TypeRef
  | .mk t file bindings => .mk t.bare file (bareBindings bindings)

/-- Bindings without places. -/
def bareBindings : List (String × TypeRef) → List (String × TypeRef)
  | [] => []
  | (name, r) :: bs => (name, r.bare) :: bareBindings bs

end

theorem bareBindings_eq_mapValues (bs : Table String TypeRef) :
    bareBindings bs = bs.mapValues TypeRef.bare := by
  induction bs with
  | nil => rfl
  | cons e bs ih => rw [bareBindings, ih, Table.mapValues_cons]

namespace TypeRef

@[simp] theorem bare_mk (t : TypeExpr) (file : Path) (bs : Table String TypeRef) :
    bare ⟨t, file, bs⟩ = ⟨t.bare, file, bs.mapValues bare⟩ := by
  rw [bare, bareBindings_eq_mapValues]

@[simp] theorem bare_type (r : TypeRef) : r.bare.type = r.type.bare := by
  obtain ⟨t, file, bs⟩ := r
  rw [bare_mk, type, type]

@[simp] theorem bare_file (r : TypeRef) : r.bare.file = r.file := by
  obtain ⟨t, file, bs⟩ := r
  rw [bare_mk]
  rfl

@[simp] theorem bare_bindings (r : TypeRef) : r.bare.bindings = r.bindings.mapValues bare := by
  obtain ⟨t, file, bs⟩ := r
  rw [bare_mk, bindings, bindings]

@[simp] theorem bare_text (r : TypeRef) : r.bare.text = r.text := by
  rw [text, bare_type, TypeExpr.bare_text, text]

theorem bare_withType (r : TypeRef) (t : TypeExpr) :
    (r.withType t).bare = r.bare.withType t.bare := by
  rw [withType, bare_mk, withType, bare_file, bare_bindings]

theorem map_bare_withType (r : TypeRef) (ts : List TypeExpr) :
    (ts.map r.withType).map bare = (ts.map TypeExpr.bare).map r.bare.withType := by
  rw [List.map_map, List.map_map]
  exact List.map_congr_left fun t _ => bare_withType r t

end TypeRef

/-- Where a property comes from, without places. -/
def Property.Origin.bare : Property.Origin → Property.Origin
  | .property t => .property (t.map TypeRef.bare)
  | .method text => .method text
  | .keyed t => .keyed t.bare
  | .derived text => .derived text

/-- A property without places. -/
def Property.bare (p : Property) : Property := { p with origin := p.origin.bare }

@[simp] theorem Property.bare_name (p : Property) : p.bare.name = p.name := rfl

/-- What is known about a type, without places. -/
def ResolvedType.bare (t : ResolvedType) : ResolvedType :=
  { t with properties := t.properties.mapValues Property.bare }

end RouteLint
