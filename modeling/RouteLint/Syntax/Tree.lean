/-!
# Syntax trees of modules

A module is read as far as the analysis looks into it: what it imports, exports and declares, the
parameters of its functions, its types, and the default values of parameters.  Function bodies,
classes and all other statements are read only to find where they end.

Every type keeps the text it was written with, since types are shown as they were written, and its
place, since a repair puts text around it.

## Main definitions

* `Extent`, `Piece` — the place of a construct, and its text.
* `TypeExpr`, `Member` — types and the members of object types.
* `Expr`, `Entry` — expressions, as far as a type can be inferred from them.
* `Parameter`, `FunctionDeclaration`, `TypeDeclaration`, `ValueDeclaration` — what is declared.
* `Statement`, `Module` — the statements of a module.
-/

namespace RouteLint.Syntax

/-- Where a construct stands in its source: bytes from `start` up to `stop`, and the place of its
first byte as a row and a column, both counted from zero and the column in bytes. -/
structure Extent where
  /-- The first byte. -/
  start : Nat
  /-- The byte after the last. -/
  stop : Nat
  /-- Line breaks before the first byte. -/
  row : Nat
  /-- Bytes between the last line break and the first byte. -/
  column : Nat
  deriving DecidableEq, Repr, Inhabited

/-- A construct's place and the text written there. -/
structure Piece where
  /-- Where it stands. -/
  extent : Extent
  /-- What is written there. -/
  text : String
  deriving DecidableEq, Repr, Inhabited

/-- How a property is named. -/
inductive PropertyName where
  /-- By a word or a number. -/
  | identifier (text : String)
  /-- By the contents of a string literal. -/
  | quoted (text : String)
  /-- By an expression in brackets. -/
  | computed
  deriving DecidableEq, Repr, Inhabited

/-- The name, unless it is computed. -/
def PropertyName.text? : PropertyName → Option String
  | .identifier s => some s
  | .quoted s => some s
  | .computed => none

/-- The kinds of types that are never looked into. -/
inductive TypeKind where
  | array
  | call
  | conditional
  | constructor
  | function
  | indexQuery
  | infer
  | lookup
  | member
  | predefined
  | qualified
  | query
  | readonly
  | template
  | this
  | tuple
  deriving DecidableEq, Repr, Inhabited

/-- The name of a kind in messages. -/
def TypeKind.name : TypeKind → String
  | .array => "array_type"
  | .call => "call_expression"
  | .conditional => "conditional_type"
  | .constructor => "constructor_type"
  | .function => "function_type"
  | .indexQuery => "index_type_query"
  | .infer => "infer_type"
  | .lookup => "lookup_type"
  | .member => "member_expression"
  | .predefined => "predefined_type"
  | .qualified => "nested_type_identifier"
  | .query => "type_query"
  | .readonly => "readonly_type"
  | .template => "template_literal_type"
  | .this => "this_type"
  | .tuple => "tuple_type"

/-- The name of a generic type: a plain name can be looked up, a qualified one cannot. -/
structure TypeHead where
  /-- The name as written. -/
  text : String
  /-- Whether it is one identifier. -/
  plain : Bool
  deriving DecidableEq, Repr, Inhabited

mutual

/-- A type as written. -/
inductive TypeExpr where
  /-- Members in braces. -/
  | object (piece : Piece) (members : List Member)
  /-- A name. -/
  | name (piece : Piece)
  /-- A name with type arguments. -/
  | generic (piece : Piece) (head : TypeHead) (arguments : List TypeExpr)
  /-- Alternatives; a comment that stands among them is one of the parts. -/
  | union (piece : Piece) (parts : List TypeExpr)
  /-- Types that hold together; a comment that stands among them is one of the parts. -/
  | intersection (piece : Piece) (parts : List TypeExpr)
  /-- A type in parentheses. -/
  | parenthesized (piece : Piece) (inner : TypeExpr)
  /-- A literal, with its contents if it is a string. -/
  | literal (piece : Piece) (contents : Option String)
  /-- A comment among the parts of a union or an intersection. -/
  | comment (piece : Piece)
  /-- Any other type. -/
  | other (piece : Piece) (kind : TypeKind)

/-- A member of an object type. -/
inductive Member where
  /-- A property with its type, if one is given. -/
  | property (name : PropertyName) (type : Option TypeExpr)
  /-- A method, with the whole of its text. -/
  | method (name : PropertyName) (piece : Piece)
  /-- A signature without a name. -/
  | signature

end

deriving instance Repr for TypeExpr, Member

instance : Inhabited TypeExpr := ⟨.name default⟩

instance : Inhabited Member := ⟨.signature⟩

namespace TypeExpr

/-- The place and text of a type. -/
def piece : TypeExpr → Piece
  | .object p _ => p
  | .name p => p
  | .generic p _ _ => p
  | .union p _ => p
  | .intersection p _ => p
  | .parenthesized p _ => p
  | .literal p _ => p
  | .comment p => p
  | .other p _ => p

/-- The text of a type. -/
def text (t : TypeExpr) : String := t.piece.text

/-- Where a type stands. -/
def extent (t : TypeExpr) : Extent := t.piece.extent

/-- The name of a type's kind in messages. -/
def kindName : TypeExpr → String
  | .object _ _ => "object_type"
  | .name _ => "type_identifier"
  | .generic _ _ _ => "generic_type"
  | .union _ _ => "union_type"
  | .intersection _ _ => "intersection_type"
  | .parenthesized _ _ => "parenthesized_type"
  | .literal _ _ => "literal_type"
  | .comment _ => "comment"
  | .other _ kind => kind.name

end TypeExpr

mutual

/-- An expression, as far as its type can be inferred from its form. -/
inductive Expr where
  /-- An expression in parentheses. -/
  | parenthesized (inner : Expr)
  /-- Entries in braces. -/
  | object (entries : List Entry)
  /-- A string or a template. -/
  | text
  /-- A number. -/
  | number
  /-- A truth value. -/
  | truth
  /-- The null value. -/
  | null
  /-- The undefined value. -/
  | undefined
  /-- An expression taken as a constant. -/
  | asConst (inner : Expr)
  /-- An expression taken as a type. -/
  | asType (inner : Expr) (type : TypeExpr)
  /-- An expression checked against a type. -/
  | satisfies (inner : Expr)
  /-- A constructed object, by the text of its constructor. -/
  | construct (target : String)
  /-- A property of an object, by the texts of both. -/
  | member (object property : String)
  /-- A call of a member, with its first argument. -/
  | call (object method : String) (first : Option Expr)
  /-- Any other expression. -/
  | other

/-- An entry of an object expression that names a property. -/
inductive Entry where
  /-- A name with its value. -/
  | pair (name : PropertyName) (value : Expr)
  /-- A variable whose name is the property's name. -/
  | shorthand (name : String)

end

deriving instance Repr for Expr, Entry

instance : Inhabited Expr := ⟨.other⟩

/-- A parameter of a function. -/
structure Parameter where
  /-- Where it stands, with its decorators and modifiers. -/
  extent : Extent
  /-- Whether it is marked as optional. -/
  optional : Bool
  /-- The type it is annotated with. -/
  type : Option TypeExpr
  /-- Its default value. -/
  value : Option Expr
  deriving Repr, Inhabited

/-- The name of a parameter's kind. -/
def Parameter.kindName (p : Parameter) : String :=
  if p.optional then "optional_parameter" else "required_parameter"

/-- A parameter of a generic type, with the type it stands for if none is given. -/
structure TypeParameter where
  /-- Its name. -/
  name : String
  /-- What it stands for if no argument is given. -/
  fallback : Option TypeExpr
  deriving Repr, Inhabited

/-- A declared function with a body. -/
structure FunctionDeclaration where
  /-- Where it stands. -/
  extent : Extent
  /-- Its name. -/
  name : String
  /-- Whether it is a generator. -/
  generator : Bool
  /-- Its parameters. -/
  parameters : List Parameter
  deriving Repr, Inhabited

/-- The name of a function's kind. -/
def FunctionDeclaration.kindName (f : FunctionDeclaration) : String :=
  if f.generator then "generator_function_declaration" else "function_declaration"

/-- A name for a type. -/
structure TypeAlias where
  /-- Where it stands. -/
  extent : Extent
  /-- The name. -/
  name : String
  /-- Its parameters. -/
  parameters : List TypeParameter
  /-- The type it names. -/
  value : TypeExpr
  deriving Repr, Inhabited

/-- One declaration of an interface. -/
structure Interface where
  /-- Where it stands. -/
  extent : Extent
  /-- The name. -/
  name : String
  /-- Its parameters. -/
  parameters : List TypeParameter
  /-- The types it extends. -/
  bases : List TypeExpr
  /-- The members it declares itself. -/
  members : List Member
  deriving Repr, Inhabited

/-- A declared type. -/
inductive TypeDeclaration where
  /-- An alias. -/
  | alias (a : TypeAlias)
  /-- An interface. -/
  | interface (i : Interface)
  deriving Repr, Inhabited

namespace TypeDeclaration

/-- The declared name. -/
def name : TypeDeclaration → String
  | .alias a => a.name
  | .interface i => i.name

/-- Where the declaration stands. -/
def extent : TypeDeclaration → Extent
  | .alias a => a.extent
  | .interface i => i.extent

/-- The name of the declaration's kind. -/
def kindName : TypeDeclaration → String
  | .alias _ => "type_alias_declaration"
  | .interface _ => "interface_declaration"

end TypeDeclaration

/-- The kinds of declared values that are not functions with a body. -/
inductive ValueKind where
  | variable
  | plainClass
  | abstractClass
  | enumeration
  | functionSignature
  deriving DecidableEq, Repr, Inhabited

/-- The name of a kind. -/
def ValueKind.name : ValueKind → String
  | .variable => "variable_declarator"
  | .plainClass => "class_declaration"
  | .abstractClass => "abstract_class_declaration"
  | .enumeration => "enum_declaration"
  | .functionSignature => "function_signature"

/-- A declared value that is not a function with a body. -/
structure ValueDeclaration where
  /-- Where it stands. -/
  extent : Extent
  /-- Its name. -/
  name : String
  /-- Its kind. -/
  kind : ValueKind
  deriving DecidableEq, Repr, Inhabited

/-- Something a module declares under a name. -/
inductive Declaration where
  /-- A type. -/
  | type (d : TypeDeclaration)
  /-- A function. -/
  | function (d : FunctionDeclaration)
  /-- Any other value. -/
  | value (d : ValueDeclaration)
  deriving Repr, Inhabited

namespace Declaration

/-- The declared name. -/
def name : Declaration → String
  | .type d => d.name
  | .function d => d.name
  | .value d => d.name

/-- Where the declaration stands. -/
def extent : Declaration → Extent
  | .type d => d.extent
  | .function d => d.extent
  | .value d => d.extent

/-- The name of the declaration's kind. -/
def kindName : Declaration → String
  | .type d => d.kindName
  | .function d => d.kindName
  | .value d => d.kind.name

end Declaration

/-- A name in an import or export list. -/
inductive ModuleName where
  /-- A word. -/
  | identifier (text : String)
  /-- The contents of a string literal, and the mark around them. -/
  | quoted (mark : Char) (contents : String)
  deriving DecidableEq, Repr, Inhabited

namespace ModuleName

/-- The name without quotes. -/
def value : ModuleName → String
  | .identifier s => s
  | .quoted _ s => s

/-- The name as written. -/
def written : ModuleName → String
  | .identifier s => s
  | .quoted mark s => mark.toString ++ s ++ mark.toString

end ModuleName

/-- A name an import makes known, and the name it has in the other module. -/
structure ImportedName where
  /-- The name made known here. -/
  here : String
  /-- The name it has there. -/
  there : ModuleName
  deriving DecidableEq, Repr, Inhabited

/-- A name in an export list, with the name it is exported as if that is another. -/
structure ExportedName where
  /-- The name of what is exported. -/
  name : ModuleName
  /-- The name it is exported as. -/
  renamed : Option ModuleName
  deriving DecidableEq, Repr, Inhabited

/-- How a declaration is exported. -/
inductive Exporting where
  /-- It is not. -/
  | none
  /-- Under its own name. -/
  | named
  /-- As the default of the module. -/
  | default
  deriving DecidableEq, Repr, Inhabited

/-- A statement at the top of a module. -/
inductive Statement where
  /-- Names imported from a module. -/
  | imports (specifier : String) (names : List ImportedName)
  /-- Names exported, from another module if a specifier is given. -/
  | exports (names : List ExportedName) (specifier : Option String)
  /-- Everything another module exports. -/
  | exportsAll (specifier : String)
  /-- Declarations, exported or not. -/
  | declares (exporting : Exporting) (declarations : List Declaration)
  /-- Any other statement. -/
  | other
  deriving Repr, Inhabited

/-- A module: its statements, and whether some of its text could not be read. -/
structure Module where
  /-- The statements in order. -/
  statements : List Statement
  /-- Whether some text belongs to no statement. -/
  malformed : Bool
  deriving Repr, Inhabited

end RouteLint.Syntax
