import RouteLint.Proofs.Project.ResolvedMembers
import RouteLint.Proofs.Typing.ProperTables
import RouteLint.Routes.Check

/-!
# Readings of a property

The type of a property can be read off its declaration, and it can be looked up again in the type
that it belongs to.  In the properties that the type of a parameter has, the two never contradict
each other, and what a property is judged by is the text that it shows, wherever it comes from.

## Main definitions

* `Bench.Resolves`, `Bench.Owns` — what a type is resolved to, and the type of a parameter.

## Main results

* `Bench.Yields.propertyType` — the type of a property is the text that it shows.
* `parameterType_readings` — **the readings of a property agree.**
-/

namespace RouteLint

open Syntax Project

variable {b : Bench}

/-! ### Results of readings -/

theorem Bench.Yields.map {α β : Type} {x : Work α} {r : Except Project.Error α}
    (h : b.Yields x r) (f : α → β) : b.Yields (f <$> x) (r.map f) := by
  rw [map_eq_pure_bind]
  cases r with
  | error err => exact h.bind_error
  | ok a => exact h.bind (.pure (f a))

/-- What a property shows is the same now and later. -/
theorem Bench.Tidy.yields_typeText (hb : b.Tidy) (p : Property) :
    b.Yields (p.typeText Project.graph) (outcome (p.typeText Project.graph) b).1 :=
  .of_ensures (hb.shows.typeText p)

/-- **The type of a property is the text that it shows**, unless that is empty. -/
theorem Bench.Yields.propertyType {owner : ResolvedType} {p : Property}
    {r : Except Project.Error String} (hp : owner.properties.get? p.name = some p)
    (hr : b.Yields (p.typeText Project.graph) r) :
    b.Yields (propertyType Project.graph owner p) (r.map nonempty) := by
  obtain ⟨name, origin⟩ := p
  unfold RouteLint.propertyType ownedType declaredType
  rw [hp]
  cases origin with
  | property t =>
    cases t with
    | none =>
      cases hr.eq
      exact .bind (.pure (some "any")) (.pure (some "any"))
    | some t =>
      have hshown : b.Yields (nonempty <$> render Project.graph t) (r.map nonempty) :=
        hr.map nonempty
      cases r with
      | error err => exact hshown.bind_error
      | ok text =>
        refine hshown.bind ?_
        cases htext : nonempty text with
        | some s =>
          have hs : (Except.ok text : Except Project.Error String).map nonempty = .ok (some s) :=
            congrArg Except.ok htext
          rw [hs]
          exact .pure (some s)
        | none =>
          -- a type that shows as an empty text is looked at once more
          exact hshown
  | keyed t => exact .bind (.pure none) (hr.map nonempty)
  | method text | derived text =>
    cases hr.eq
    exact .bind (.pure none) (.pure (nonempty text))

/-- What a type is resolved to at a bench. -/
def Bench.Resolves (b : Bench) (n : Nat) (r : TypeRef) (t : ResolvedType) : Prop :=
  (outcome (resolveFrom Project.graph n r) b).1 = .ok t

/-- The type that a parameter has at a bench. -/
def Bench.Owns (b : Bench) (file : Path) (p : Parameter) (t : ResolvedType) : Prop :=
  (outcome (parameterType Project.graph file p) b).1 = .ok (some t)

/-- Resolving a type has one result, now and later, and its properties are proper. -/
theorem Bench.Tidy.resolves (hb : b.Tidy) (n : Nat) (r : TypeRef) :
    b.Yields (resolveFrom Project.graph n r) (outcome (resolveFrom Project.graph n r) b).1 ∧
      ∀ t, b.Resolves n r t → Proper t.properties := by
  obtain ⟨result, hresult, hproper⟩ := resolveFrom_proper hb.shows n r
  exact ⟨hresult.eq ▸ hresult, fun t ht => hproper t (hresult.eq.trans ht)⟩

/-- So has the type of a parameter. -/
theorem Bench.Tidy.owns (hb : b.Tidy) {file : Path} {p : Parameter} {t : ResolvedType}
    (h : b.Owns file p t) :
    b.Yields (parameterType Project.graph file p) (.ok (some t)) ∧ Proper t.properties := by
  obtain ⟨result, hresult, hproper⟩ := parameterType_proper hb.shows file p
  have heq : result = .ok (some t) := hresult.eq.trans h
  exact ⟨heq ▸ hresult, hproper _ heq t rfl⟩

theorem Bench.owns_iff_resolves {file : Path} {p : Parameter} {type : TypeExpr}
    (hp : p.type = some type) {t : ResolvedType} :
    b.Owns file p t ↔ b.Resolves (maxDepth + 1) ⟨type, file, []⟩ t := by
  unfold Bench.Owns Bench.Resolves parameterType
  rw [hp]
  dsimp only
  rw [outcome_map, resolve]
  constructor
  · intro h
    obtain ⟨u, hu, heq⟩ := except_ok_of_map h
    cases heq
    exact hu
  · intro h
    rw [h]
    rfl

/-- The parameters of a route have the type that the property of the owner shows. -/
theorem Bench.Tidy.yields_routeParams (hb : b.Tidy) {file : Path} {context : Parameter}
    {t : ResolvedType} (ht : b.Owns file context t) {p : Property}
    (hp : t.properties.get? routeMember = some p) :
    b.Yields (routeParams Project.graph file context)
      ((outcome (p.typeText Project.graph) b).1.map nonempty) := by
  obtain ⟨howner, hproper⟩ := hb.owns ht
  have hself : t.properties.get? p.name = some p := by rw [hproper.name_of_get? hp, hp]
  unfold routeParams
  refine howner.bind ?_
  dsimp only
  rw [hp]
  exact (hb.yields_typeText p).propertyType hself

/-- A text that the declaration of a property gives is the one that its owner has it with. -/
theorem declaredType_eq_ownedType {owner : ResolvedType} {p : Property}
    (hp : owner.properties.get? p.name = some p) {declared owned : String}
    (hdeclared : (outcome (declaredType Project.graph p) b).1 = .ok (some declared))
    (howned : (outcome (ownedType Project.graph owner p) b).1 = .ok (some owned)) :
    declared = owned := by
  obtain ⟨name, origin⟩ := p
  unfold ownedType at howned
  rw [hp] at howned
  cases origin with
  | property t =>
    cases t with
    | none => cases howned
    | some t =>
      -- both show the same type
      have hsame : (outcome (nonempty <$> render Project.graph t) b).1 = .ok (some declared) :=
        hdeclared
      exact Option.some.inj (Except.ok.inj (hsame.symm.trans howned))
  | method | keyed | derived => cases hdeclared

/-- **The readings of a property agree.**  Each property that the type of a parameter has stands
under its own name and is the only one there; it is judged by the text that it shows; and if its
declaration gives a text and its owner gives one, they are the same. -/
theorem parameterType_readings (hb : b.Tidy) {file : Path} {p : Parameter} {t : ResolvedType}
    (h : b.Owns file p t) : t.properties.Distinct ∧
    ∀ e ∈ t.properties, e.2.name = e.1 ∧ ∀ b' : Bench, b.Grows b' →
      (outcome (propertyType Project.graph t e.2) b').1 =
        (outcome (e.2.typeText Project.graph) b').1.map nonempty ∧
      ∀ declared owned,
        (outcome (declaredType Project.graph e.2) b').1 = .ok (some declared) →
        (outcome (ownedType Project.graph t e.2) b').1 = .ok (some owned) → declared = owned := by
  have ht := (hb.owns h).2
  refine ⟨ht.distinct, fun e he => ⟨ht.named e he, fun b' hgrows => ⟨?_, ?_⟩⟩⟩
  · exact (((hgrows.tidy hb).yields_typeText e.2).propertyType (ht.get?_of_mem he)).eq.symm
  · exact fun declared owned => declaredType_eq_ownedType (ht.get?_of_mem he)

/-! ### Properties from everywhere -/

namespace Gathered

/-- A type with properties that are written out, merged, inherited, kept by a generic type, keys of
a record, and common to the parts of a union:
```
| type T={a:x;m():y}&{a:w}&Readonly<B>&Record<"k",w>&({u:v}|{u:w})
| interface B extends C{c:z}
| interface C{e:x}
``` -/
def file : String :=
  "type T=\x7ba:x;m():y\x7d&\x7ba:w\x7d&Readonly<B>&Record<\"k\",w>&(\x7bu:v\x7d|\x7bu:w\x7d)\n" ++
    "interface B extends C\x7bc:z\x7d\ninterface C\x7be:x\x7d\n"

/-- A parameter with the type. -/
def parameter : Parameter := ⟨default, false, some (.name ⟨default, "T"⟩), none⟩

/-- The names of its properties. -/
def found : Option (Option (List String)) :=
  (outcome (parameterType Project.graph Sole.path parameter) (Sole.bench file)).1.toOption.map
    (Option.map fun t => t.properties.keys)

set_option maxRecDepth 100000 in
theorem found_eq : found = some (some ["a", "m", "e", "c", "k", "u"]) := by
  rw [found, Sole.bench_eq]
  decide +kernel

end Gathered

/-- The readings of six properties of different origins agree. -/
theorem parameterType_readings_gathered :
    (Sole.bench Gathered.file).Tidy ∧
    ∃ t, (Sole.bench Gathered.file).Owns Sole.path Gathered.parameter t ∧
      t.properties.keys = ["a", "m", "e", "c", "k", "u"] ∧
      ∀ e ∈ t.properties, e.2.name = e.1 ∧
        (outcome (propertyType Project.graph t e.2) (Sole.bench Gathered.file)).1 =
          (outcome (e.2.typeText Project.graph) (Sole.bench Gathered.file)).1.map nonempty := by
  obtain ⟨owner, howner, hkeys⟩ := Option.map_eq_some_iff.1 Gathered.found_eq
  obtain ⟨t, rfl, hkeys⟩ := Option.map_eq_some_iff.1 hkeys
  have ht : (Sole.bench Gathered.file).Owns Sole.path Gathered.parameter t :=
    except_ok_of_toOption howner
  have hkeys := Option.some.inj hkeys
  have hreadings := (parameterType_readings (Sole.tidy _) ht).2
  refine ⟨Sole.tidy _, t, ht, hkeys, fun e he => ⟨(hreadings e he).1, ?_⟩⟩
  exact ((hreadings e he).2 _ (.refl _)).1

end RouteLint
