import Mathlib.Logic.Relation
import RouteLint.Proofs.Typing.ObjectMembers

/-!
# The members that types have

Which members a type has is said here by rules, without resolving it.  The rules go by what names
stand for in files, which is all that they need to know of a project.  A type that leads back to
itself and to nothing else has no members, since there is no end at which to find one.

Resolving a type is given a limited number of steps, and it understands the keys of a record only
if they are written plainly; so it is also said here which types it can do justice to.

## Main definitions

* `Visibility` — what names stand for in files.
* `Refers`, `Follows` — what a type refers to by its name, and the type that this stands for.
* `Shares` — types whose members another type has as well.
* `Denotes` — the string literals that a type consists of.
* `HasOwn` — the members that a type has by itself.
* `HasMember` — **the members of a type.**
* `Leads`, `LeadsKeys` — the types that matter for the members, or the literals, of a type.
* `Settled`, `KeysSettled` — types that are understood in a limited number of steps.
* `PlainKey` — types as they may stand among the keys of a record.
* `Uncommented`, `PlainlyKeyed` — types without comments in unions, and without involved keys.
* `Circular` — types that lead only to each other.

## Main results

* `Circular.not_hasMember` — types that lead in a circle have no members.
-/

namespace RouteLint

open Syntax

/-- What names stand for in files: the declarations of a name. -/
abbrev Visibility := Path → String → List DeclaredType → Prop

section Rules

variable (V : Visibility)

/-! ### Names -/

/-- A type refers by a name that is no type parameter to some declarations, and gives them
arguments. -/
@[grind cases] inductive Refers : TypeRef → String → List DeclaredType → List TypeRef → Prop
  | name {r : TypeRef} {p : Piece} {ds : List DeclaredType} (hr : r.type = .name p)
    (hfree : r.bindings.get? p.text = none) (hds : V r.file p.text ds) : Refers r p.text ds []
  | generic {r : TypeRef} {p : Piece} {head : TypeHead} {ts : List TypeExpr}
    {ds : List DeclaredType} (hr : r.type = .generic p head ts) (hplain : head.plain = true)
    (hfree : r.bindings.get? head.text = none) (hds : V r.file head.text ds) :
    Refers r head.text ds (ts.map r.withType)

/-- The type that a name stands for: that of a type parameter, or of an alias under its
arguments. -/
@[grind cases] inductive Follows : TypeRef → TypeRef → Prop
  | parameter {r b : TypeRef} {p : Piece} (hr : r.type = .name p)
    (hbound : r.bindings.get? p.text = some b) : Follows r b
  | alias {r : TypeRef} {name : String} {a : TypeAlias} {file : Path} {ds : List DeclaredType}
    {args : List TypeRef} (h : Refers V r name (⟨.alias a, file⟩ :: ds) args) :
    Follows r (aliased file a args)

/-- Declarations that do not make a name an alias: the first of them decides. -/
def NoAlias (ds : List DeclaredType) : Prop := ∀ a file, ds.head? ≠ some ⟨.alias a, file⟩

/-! ### Members -/

/-- Types whose members another type has as well: the one in its brackets, the one that it stands
for, those that its declarations extend, the parts of an intersection, and the argument of a generic
type that is known to keep members and is declared nowhere. -/
@[grind cases] inductive Shares : TypeRef → TypeRef → Prop
  | parenthesized {r : TypeRef} {p : Piece} {inner : TypeExpr}
    (hr : r.type = .parenthesized p inner) : Shares r (r.withType inner)
  | follows {r r' : TypeRef} (h : Follows V r r') : Shares r r'
  | base {r : TypeRef} {name : String} {ds : List DeclaredType} {args : List TypeRef}
    {i : Interface} {file : Path} {t : TypeExpr} (h : Refers V r name ds args) (hds : NoAlias ds)
    (hi : ⟨.interface i, file⟩ ∈ ds) (ht : t ∈ i.bases) :
    Shares r ⟨t, file, bind file i.parameters args⟩
  | part {r : TypeRef} {p : Piece} {parts : List TypeExpr} {t : TypeExpr}
    (hr : r.type = .intersection p parts) (ht : t ∈ parts) : Shares r (r.withType t)
  | argument {r : TypeRef} {name : String} {first : TypeRef} {others : List TypeRef}
    (h : Refers V r name [] (first :: others))
    (hname : name ∈ ["NonNullable", "Partial", "Readonly", "Required"]) : Shares r first

/-- The parts of a type that consists of literals: the alternatives of a union, and what is in
brackets. -/
inductive KeyPart : TypeRef → TypeRef → Prop
  | alternative {r : TypeRef} {p : Piece} {parts : List TypeExpr} {t : TypeExpr}
    (hr : r.type = .union p parts) (ht : t ∈ parts) : KeyPart r (r.withType t)
  | parenthesized {r : TypeRef} {p : Piece} {inner : TypeExpr}
    (hr : r.type = .parenthesized p inner) : KeyPart r (r.withType inner)

/-- The string literals that a type consists of. -/
inductive Denotes : TypeRef → String → Prop
  | literal {r : TypeRef} {p : Piece} {s : String} (hr : r.type = .literal p (some s)) :
    Denotes r s
  | part {r r' : TypeRef} {s : String} (h : KeyPart r r') (hs : Denotes r' s) : Denotes r s
  | follows {r r' : TypeRef} {s : String} (h : Follows V r r') (hs : Denotes r' s) : Denotes r s

/-- A record type that is declared nowhere, with its keys. -/
def HasKeys (r keys : TypeRef) : Prop := ∃ value, Refers V r "Record" [] [keys, value]

/-- A comment among the parts of a union is no alternative. -/
def IsAlternative (t : TypeExpr) : Prop := ∀ p, t ≠ .comment p

/-- The members that a type has by itself. -/
@[grind cases] inductive HasOwn : TypeRef → String → Prop
  /-- A member is written in an object type, as a property or a method. -/
  | object {r : TypeRef} {p : Piece} {ms : List Member} {m : Member} {x : String}
    (hr : r.type = .object p ms) (hm : m ∈ ms) (hx : m.name? = some x) : HasOwn r x
  /-- A member is written in one of the declarations of an interface. -/
  | declared {r : TypeRef} {name : String} {ds : List DeclaredType} {args : List TypeRef}
    {i : Interface} {file : Path} {m : Member} {x : String} (h : Refers V r name ds args)
    (hds : NoAlias ds) (hi : ⟨.interface i, file⟩ ∈ ds) (hm : m ∈ i.members)
    (hx : m.name? = some x) : HasOwn r x
  /-- A member is one of the keys of a record. -/
  | key {r keys : TypeRef} {x : String} (h : HasKeys V r keys) (hx : Denotes V keys x) :
    HasOwn r x

/-- The members of a type. -/
inductive HasMember : TypeRef → String → Prop
  /-- A member that the type has by itself. -/
  | own {r : TypeRef} {x : String} (h : HasOwn V r x) : HasMember r x
  /-- A member comes from another type. -/
  | shared {r r' : TypeRef} {x : String} (h : Shares V r r') (hx : HasMember r' x) : HasMember r x
  /-- A member is common to all alternatives of a union. -/
  | union {r : TypeRef} {p : Piece} {parts : List TypeExpr} {x : String}
    (hr : r.type = .union p parts) (hsome : ∃ t ∈ parts, IsAlternative t)
    (hall : ∀ t ∈ parts, IsAlternative t → HasMember (r.withType t) x) : HasMember r x

/-! ### What matters for a type -/

/-- The types whose members matter for those of a type. -/
inductive Leads : TypeRef → TypeRef → Prop
  | shares {r r' : TypeRef} (h : Shares V r r') : Leads r r'
  | alternative {r : TypeRef} {p : Piece} {parts : List TypeExpr} {t : TypeExpr}
    (hr : r.type = .union p parts) (ht : t ∈ parts) : Leads r (r.withType t)

/-- The types whose literals matter for those of a type. -/
inductive LeadsKeys : TypeRef → TypeRef → Prop
  | part {r r' : TypeRef} (h : KeyPart r r') : LeadsKeys r r'
  | follows {r r' : TypeRef} (h : Follows V r r') : LeadsKeys r r'

/-- The literals of a type are understood if no more than so many names are followed. -/
inductive KeysSettled : Nat → TypeRef → Prop
  | mk {n : Nat} {r : TypeRef} (hparts : ∀ r', KeyPart r r' → KeysSettled n r')
    (hlimit : n = 0 → ∀ r', ¬Follows V r r')
    (hnext : ∀ k r', n = k + 1 → Follows V r r' → KeysSettled k r') : KeysSettled n r

/-- A type is understood in so many steps, each of which goes from a type to those that matter for
it: no chain of them is longer. -/
inductive Settled : Nat → TypeRef → Prop
  | mk {n : Nat} {r : TypeRef} (hleads : ∀ r', Leads V r r' → Settled n r')
    (hkeys : ∀ keys, HasKeys V r keys → KeysSettled V n keys) : Settled (n + 1) r

/-- In no union that matters for a type stands a comment. -/
def Uncommented (r : TypeRef) : Prop :=
  ∀ r', Relation.ReflTransGen (Leads V) r r' → ∀ p parts, r'.type = .union p parts →
    ∀ t ∈ parts, IsAlternative t

/-- A type as it may stand among the keys of a record: it has no brackets, it is no alias with
arguments, and if it is the name of an alias, then of one that binds no type parameters and is not
declared after an interface of the same name. -/
structure PlainKey (r : TypeRef) : Prop where
  brackets : ∀ p inner, r.type ≠ .parenthesized p inner
  arguments : ∀ p head ts, r.type = .generic p head ts → ∀ r', ¬Follows V r r'
  parameters : ∀ p, r.type = .name p → ∀ a file ds,
    Refers V r p.text (⟨.alias a, file⟩ :: ds) [] → bind file a.parameters [] = []
  hidden : ∀ p, r.type = .name p → ∀ ds, Refers V r p.text ds [] → NoAlias ds →
    firstAlias ds = none

/-- All keys that matter for a type are plain. -/
def PlainKeys (r : TypeRef) : Prop :=
  ∀ key, Relation.ReflTransGen (LeadsKeys V) r key → PlainKey V key

/-- The keys of all records that matter for a type are plain, and so is all that matters for
them. -/
def PlainlyKeyed (r : TypeRef) : Prop :=
  ∀ r', Relation.ReflTransGen (Leads V) r r' → ∀ keys, HasKeys V r' keys → PlainKeys V keys

/-! ### Types that lead in a circle -/

/-- Types that have no members by themselves and lead only to each other. -/
structure Circular (S : TypeRef → Prop) : Prop where
  leads : ∀ r r', S r → Leads V r r' → S r'
  own : ∀ r x, S r → ¬HasOwn V r x

variable {V}

/-- Types that lead in a circle have no members. -/
theorem Circular.not_hasMember {S : TypeRef → Prop} (hS : Circular V S) {r : TypeRef} (hr : S r)
    {x : String} : ¬HasMember V r x := by
  intro h
  induction h with
  | own h => exact hS.own _ _ hr h
  | shared h _ ih => exact ih (hS.leads _ _ hr (.shares h))
  | union htype hsome _ ih =>
    obtain ⟨t, ht, halt⟩ := hsome
    exact ih t ht halt (hS.leads _ _ hr (.alternative htype ht))

end Rules

end RouteLint
