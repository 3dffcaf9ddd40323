import RouteLint.Proofs.Typing.Members

/-!
# Members by the form of a type

What the rules for members come to for a type of one form or another.  For the names of declared
types it is used that a name stands for one list of declarations.

## Main definitions

* `Visibility.Definite` — every name stands for one list of declarations at most.
* `IsBase` — a type that declarations of an interface extend.

## Main results

* `hasMember_alias_iff`, `hasMember_interface_iff`, `hasMember_builtin_iff` — the members of a type
  that is referred to by its name.
* `hasMember_union_iff`, `hasMember_intersection_iff` — the members of unions and intersections.
* `denotes_iff` — the literals that a plain key consists of.
-/

namespace RouteLint

open Syntax

/-- In every file a name stands for one list of declarations at most. -/
def Visibility.Definite (V : Visibility) : Prop :=
  ∀ file name ds es, V file name ds → V file name es → ds = es

/-- A type that one of the declarations of an interface extends. -/
def IsBase (ds : List DeclaredType) (args : List TypeRef) (r : TypeRef) : Prop :=
  ∃ i file, ⟨.interface i, file⟩ ∈ ds ∧ ∃ t ∈ i.bases, r = ⟨t, file, bind file i.parameters args⟩

/-- One of the declarations of an interface has a member of that name. -/
def IsOwn (ds : List DeclaredType) (x : String) : Prop :=
  ∃ i file, ⟨.interface i, file⟩ ∈ ds ∧ ∃ m ∈ i.members, m.name? = some x

variable {V : Visibility} {r r' : TypeRef} {p : Piece} {name x : String}
  {ds : List DeclaredType} {args : List TypeRef}

/-! ### Declarations of interfaces -/

theorem isOwn_alias {a : TypeAlias} {file : Path} :
    IsOwn (⟨.alias a, file⟩ :: ds) x ↔ IsOwn ds x := by
  simp [IsOwn]

theorem isOwn_interface {i : Interface} {file : Path} :
    IsOwn (⟨.interface i, file⟩ :: ds) x ↔ (∃ m ∈ i.members, m.name? = some x) ∨ IsOwn ds x := by
  grind [IsOwn]

theorem isBase_alias {a : TypeAlias} {file : Path} :
    IsBase (⟨.alias a, file⟩ :: ds) args r ↔ IsBase ds args r := by
  simp [IsBase]

theorem isBase_interface {i : Interface} {file : Path} :
    IsBase (⟨.interface i, file⟩ :: ds) args r ↔
      (∃ t ∈ i.bases, r = ⟨t, file, bind file i.parameters args⟩) ∨ IsBase ds args r := by
  grind [IsBase]

theorem exists_isBase_interface {i : Interface} {file : Path} {P : TypeRef → Prop} :
    (∃ r, IsBase (⟨.interface i, file⟩ :: ds) args r ∧ P r) ↔
      (∃ t ∈ i.bases, P ⟨t, file, bind file i.parameters args⟩) ∨ ∃ r, IsBase ds args r ∧ P r := by
  grind [isBase_interface]

/-! ### Types that are written out

A type fits the rules for its own form only, so from left to right each statement is a split on the
rules, in which all but one are about types of another form. -/

theorem hasMember_object_iff {ms : List Member} (hr : r.type = .object p ms) :
    HasMember V r x ↔ ∃ m ∈ ms, m.name? = some x := by
  constructor
  · intro h
    cases h <;> grind [HasKeys]
  · rintro ⟨m, hm, hx⟩
    exact .own (.object hr hm hx)

theorem hasMember_parenthesized_iff {inner : TypeExpr} (hr : r.type = .parenthesized p inner) :
    HasMember V r x ↔ HasMember V (r.withType inner) x := by
  constructor
  · intro h
    cases h <;> grind [HasKeys]
  · exact .shared (.parenthesized hr)

theorem hasMember_intersection_iff {parts : List TypeExpr} (hr : r.type = .intersection p parts) :
    HasMember V r x ↔ ∃ t ∈ parts, HasMember V (r.withType t) x := by
  constructor
  · intro h
    cases h <;> grind [HasKeys]
  · rintro ⟨t, ht, hx⟩
    exact .shared (.part hr ht) hx

/-- A union without comments has the members that all its parts have. -/
theorem hasMember_union_iff {parts : List TypeExpr} (hr : r.type = .union p parts)
    (hparts : ∀ t ∈ parts, IsAlternative t) :
    HasMember V r x ↔ parts ≠ [] ∧ ∀ t ∈ parts, HasMember V (r.withType t) x := by
  constructor
  · intro h
    cases h <;> grind [HasKeys]
  · rintro ⟨hne, hall⟩
    obtain ⟨t, ht⟩ := List.exists_mem_of_ne_nil parts hne
    exact .union hr ⟨t, ht, hparts t ht⟩ fun t ht _ => hall t ht

/-- Types that members could come from by no rule. -/
def Formless : TypeExpr → Prop
  | .literal _ _ | .comment _ | .other _ _ => True
  | _ => False

theorem not_hasMember_formless (hr : Formless r.type) : ¬HasMember V r x := by
  intro h
  cases h <;> grind [HasKeys, Formless]

/-! ### Types that are referred to -/

theorem hasMember_parameter_iff {b : TypeRef} (hr : r.type = .name p)
    (hbound : r.bindings.get? p.text = some b) : HasMember V r x ↔ HasMember V b x := by
  constructor
  · intro h
    cases h <;> grind [HasKeys]
  · exact .shared (.follows (.parameter hr hbound))

/-- A generic type has no members if its head is not a plain name or is a type parameter. -/
theorem not_hasMember_generic {head : TypeHead} {ts : List TypeExpr}
    (hr : r.type = .generic p head ts) (hhead : ¬(head.plain && !r.bindings.contains head.text)) :
    ¬HasMember V r x := by
  intro hx
  cases hx <;> grind [HasKeys, Table.contains]

theorem Refers.unique (hV : V.Definite) (h : Refers V r name ds args) {name' : String}
    {ds' : List DeclaredType} {args' : List TypeRef} (h' : Refers V r name' ds' args') :
    name' = name ∧ ds' = ds ∧ args' = args := by
  cases h <;> cases h' <;> grind [Visibility.Definite]

theorem hasMember_alias_iff (hV : V.Definite) {a : TypeAlias} {file : Path}
    (h : Refers V r name (⟨.alias a, file⟩ :: ds) args) :
    HasMember V r x ↔ HasMember V (aliased file a args) x := by
  constructor
  · intro hx
    cases hx <;> grind [HasKeys, NoAlias, Refers.unique]
  · exact .shared (.follows (.alias h))

/-- What is declared as an interface has the members of all declarations and of what they
extend. -/
theorem hasMember_interface_iff (hV : V.Definite) (h : Refers V r name ds args) (hne : ds ≠ [])
    (hds : NoAlias ds) :
    HasMember V r x ↔ IsOwn ds x ∨ ∃ r', IsBase ds args r' ∧ HasMember V r' x := by
  constructor
  · intro hx
    cases hx <;> grind [HasKeys, NoAlias, Refers.unique, IsOwn, IsBase]
  · rintro (⟨i, file, hi, m, hm, hx⟩ | ⟨r', ⟨i, file, hi, t, ht, rfl⟩, hx⟩)
    · exact .own (.declared h hds hi hm hx)
    · exact .shared (.base h hds hi ht) hx

theorem Refers.hasKeys_iff (hV : V.Definite) (h : Refers V r name ds args) {keys : TypeRef} :
    HasKeys V r keys ↔ name = "Record" ∧ ds = [] ∧ ∃ value, args = [keys, value] := by
  constructor
  · rintro ⟨value, hkeys⟩
    obtain ⟨hname, hds, hargs⟩ := Refers.unique hV h hkeys
    exact ⟨hname.symm, hds.symm, value, hargs.symm⟩
  · rintro ⟨rfl, rfl, value, rfl⟩
    exact ⟨value, h⟩

/-- What a type that refers to declarations leads to. -/
theorem Refers.leads_iff (hV : V.Definite) (h : Refers V r name ds args) :
    Leads V r r' ↔
      (∃ a file rest, ds = ⟨.alias a, file⟩ :: rest ∧ r' = aliased file a args) ∨
      (NoAlias ds ∧ IsBase ds args r') ∨
      ds = [] ∧ name ∈ transparentGenerics ∧ args.head? = some r' := by
  constructor
  · intro hleads
    cases hleads <;> grind [Refers.unique, IsBase, transparentGenerics]
  · rintro (⟨a, file, rest, rfl, rfl⟩ | ⟨hds, i, file, hi, t, ht, rfl⟩ | ⟨rfl, hname, hargs⟩)
    · exact .shares (.follows (.alias h))
    · exact .shares (.base h hds hi ht)
    · obtain ⟨others, rfl⟩ := List.head?_eq_some_iff.1 hargs
      exact .shares (.argument h hname)

/-- What is declared nowhere has members if it is one of the generic types that are known. -/
theorem hasMember_builtin_iff (hV : V.Definite) (h : Refers V r name [] args) :
    HasMember V r x ↔
      (name ∈ transparentGenerics ∧ ∃ first others, args = first :: others ∧
        HasMember V first x) ∨
      name = "Record" ∧ ∃ keys value, args = [keys, value] ∧ Denotes V keys x := by
  constructor
  · intro hx
    cases hx <;> grind [Refers.hasKeys_iff, NoAlias, Refers.unique, transparentGenerics]
  · rintro (⟨hname, first, others, rfl, hx⟩ | ⟨rfl, keys, value, rfl, hx⟩)
    · exact .shared (.argument h hname) hx
    · exact .own (.key ⟨value, h⟩ hx)

/-! ### Literals -/

theorem alternatives_eq_self {t : TypeExpr} (ht : ∀ p parts, t ≠ .union p parts) :
    alternatives t = [t] := by
  cases t with
  | union p parts => exact absurd rfl (ht p parts)
  | object | name | generic | intersection | parenthesized | literal | comment | other => rfl

theorem alternativesOf_eq_flatMap (ts : List TypeExpr) :
    alternativesOf ts = ts.flatMap alternatives := by
  induction ts with
  | nil => rfl
  | cons t ts ih => rw [alternativesOf, ih, List.flatMap_cons]

/-- The alternatives of a type are parts of it, and no unions. -/
theorem keyPart_of_mem_alternatives (r : TypeRef) (e : TypeExpr) :
    ∀ t ∈ alternatives e, Relation.ReflTransGen KeyPart (r.withType e) (r.withType t) ∧
      ∀ p parts, t ≠ .union p parts := by
  refine alternatives.induct
    (fun e => ∀ t ∈ alternatives e, Relation.ReflTransGen KeyPart (r.withType e) (r.withType t) ∧
      ∀ p parts, t ≠ .union p parts)
    (fun es => ∀ e ∈ es, ∀ t ∈ alternatives e,
      Relation.ReflTransGen KeyPart (r.withType e) (r.withType t) ∧ ∀ p parts, t ≠ .union p parts)
    (fun p parts ih => ?union) (fun e he => ?alone) (by simp)
    (fun e es ih ihs => List.forall_mem_cons.2 ⟨ih, ihs⟩) e
  case union =>
    intro t ht
    rw [alternatives, alternativesOf_eq_flatMap] at ht
    obtain ⟨e, he, ht⟩ := List.mem_flatMap.1 ht
    obtain ⟨hpart, hunion⟩ := ih e he t ht
    exact ⟨.head (.alternative rfl he) hpart, hunion⟩
  case alone =>
    intro t ht
    rw [alternatives_eq_self he, List.mem_singleton] at ht
    subst ht
    exact ⟨.refl, he⟩

@[simp] theorem TypeRef.withType_type (r : TypeRef) : r.withType r.type = r := by
  cases r
  rfl

/-- What a type denotes is denoted by one of its alternatives. -/
theorem Denotes.alternative (h : Denotes V r x) :
    ∃ t ∈ alternatives r.type, Denotes V (r.withType t) x := by
  -- anything but a union is its own alternative, whatever it denotes
  have hself : ∀ {r : TypeRef}, (∀ p parts, r.type ≠ .union p parts) → Denotes V r x →
      ∃ t ∈ alternatives r.type, Denotes V (r.withType t) x := fun {r} hr h => by
    rw [alternatives_eq_self hr]
    exact ⟨r.type, List.mem_singleton_self _, r.withType_type.symm ▸ h⟩
  induction h with
  | literal hr => exact hself (by simp [hr]) (.literal hr)
  | follows h hs _ =>
    refine hself ?_ (.follows h hs)
    cases h <;> grind
  | part h hs ih =>
    cases h with
    | parenthesized hr => exact hself (by simp [hr]) (.part (.parenthesized hr) hs)
    | alternative hr ht =>
      obtain ⟨t', ht', hs'⟩ := ih hself
      rw [hr, alternatives, alternativesOf_eq_flatMap]
      exact ⟨t', List.mem_flatMap.2 ⟨_, ht, ht'⟩, hs'⟩

theorem Follows.unique (hV : V.Definite) (h : Follows V r r') {r'' : TypeRef}
    (h' : Follows V r r'') : r'' = r' := by
  cases h <;> cases h' <;> grind [Refers.unique]

theorem not_follows (hname : ∀ p, r.type ≠ .name p)
    (hgeneric : ∀ p head ts, r.type ≠ .generic p head ts) : ¬Follows V r r' := by
  intro h
  cases h <;> grind

/-- A name denotes what it stands for denotes. -/
theorem denotes_follows_iff (hV : V.Definite) (h : Follows V r r') :
    Denotes V r x ↔ Denotes V r' x := by
  constructor
  · intro hx
    cases hx <;> grind [Follows.unique, cases KeyPart]
  · exact .follows h

theorem denotes_literal_iff (hparts : ∀ r', ¬KeyPart r r') (hfollows : ∀ r', ¬Follows V r r') :
    Denotes V r x ↔ literalText? r.type = some x := by
  constructor
  · intro hx
    cases hx <;> grind [literalText?]
  · intro hx
    cases hr : r.type <;> grind [literalText?, Denotes.literal]

/-- What stands in a part of a type is denoted by it. -/
theorem Denotes.of_parts (h : Relation.ReflTransGen KeyPart r r') (hx : Denotes V r' x) :
    Denotes V r x := by
  induction h using Relation.ReflTransGen.head_induction_on with
  | refl => exact hx
  | head hpart _ ih => exact .part hpart ih

theorem KeysSettled.parts {n : Nat} (hr : KeysSettled V n r)
    (h : Relation.ReflTransGen KeyPart r r') : KeysSettled V n r' := by
  induction h with
  | refl => exact hr
  | tail _ hpart ih =>
    cases ih with
    | mk hparts _ _ => exact hparts _ hpart

theorem KeysSettled.not_follows (hr : KeysSettled V 0 r) : ¬Follows V r r' := by
  cases hr with
  | mk _ hlimit _ => exact hlimit rfl r'

theorem KeysSettled.follows {n : Nat} (hr : KeysSettled V (n + 1) r) (h : Follows V r r') :
    KeysSettled V n r' := by
  cases hr with
  | mk _ _ hnext => exact hnext n r' rfl h

/-! ### Plain keys -/

theorem PlainKeys.self (hr : PlainKeys V r) : PlainKey V r := hr r .refl

theorem PlainKeys.parts (hr : PlainKeys V r) (h : Relation.ReflTransGen KeyPart r r') :
    PlainKeys V r' :=
  fun key hkey => hr key ((Relation.ReflTransGen.mono (fun _ _ => .part) _ _ h).trans hkey)

theorem PlainKeys.follows (hr : PlainKeys V r) (h : Follows V r r') : PlainKeys V r' :=
  fun key hkey => hr key (.head (.follows h) hkey)

/-- The alternatives of a type with plain keys. -/
theorem PlainKeys.alternative (hr : PlainKeys V r) {t : TypeExpr} (ht : t ∈ alternatives r.type) :
    PlainKeys V (r.withType t) ∧ ∀ p parts, t ≠ .union p parts := by
  obtain ⟨hpart, hunion⟩ := keyPart_of_mem_alternatives r r.type t ht
  rw [TypeRef.withType_type] at hpart
  exact ⟨hr.parts hpart, hunion⟩

/-- A plain key has no parts unless it is a union. -/
theorem PlainKey.not_keyPart (hr : PlainKey V r) (hunion : ∀ p parts, r.type ≠ .union p parts) :
    ¬KeyPart r r' := by
  rintro (⟨h, -⟩ | h)
  · exact hunion _ _ h
  · exact hr.brackets _ _ h

/-- The first alias among the declarations of a plain key is what the key stands for. -/
theorem PlainKey.firstAlias (hr : PlainKey V r) (htype : r.type = .name p)
    (h : Refers V r p.text ds []) :
    (∃ a file rest, ds = ⟨.alias a, file⟩ :: rest ∧ firstAlias ds = some (a, file) ∧
      aliased file a [] = ⟨a.value, file, []⟩) ∨
    NoAlias ds ∧ firstAlias ds = none := by
  rcases ds with _ | ⟨⟨a | i, file⟩, rest⟩
  · exact .inr ⟨by simp [NoAlias], rfl⟩
  · exact .inl ⟨a, file, rest, rfl, rfl, by rw [aliased, hr.parameters p htype a file rest h]⟩
  · have hds : NoAlias (⟨.interface i, file⟩ :: rest) := by simp [NoAlias]
    exact .inr ⟨hds, hr.hidden p htype _ h hds⟩

/-- A name without an alias stands for no other type. -/
theorem not_follows_of_noAlias (hV : V.Definite) (h : Refers V r name ds args)
    (hds : NoAlias ds) : ¬Follows V r r' := by
  intro hf
  cases hf <;> grind [Refers.unique, NoAlias]

end RouteLint
