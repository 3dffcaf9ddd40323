import RouteLint.Proofs.Typing.MemberForms
import RouteLint.Proofs.Typing.PropertyTables

/-!
# Arguments of generic aliases

An alias with type parameters may stand for another one and pass its own parameters on, and so may
that one.  Down such a chain, through files and whatever the parameters are called, a parameter of
the last alias comes from an argument that was given further up, or from a fallback where none was
given.  The rules below say from which, by positions in lists alone: names matter only where a
parameter is passed on under the name that it has there.

Showing a type follows names from parameters to arguments; it comes to what a parameter is traced to
in as many steps as there are links in between.

## Main definitions

* `StandsFor` — what a type parameter of an alias stands for under given arguments.
* `Chain` — aliases that stand for each other.
* `Traces` — **the type that a type parameter at the end of a chain is traced to.**
* `ShownWithin` — types that are shown without coming to the limit.

## Main results

* `StandsFor.get?_bindings` — parameters are bound to what they stand for.
* `Traces.renderFrom` — a parameter is shown as what it is traced to.
* `aliasValue_ensures` — what showing a type finds out about a name.
-/

namespace RouteLint

open Syntax

/-! ### Rules -/

/-- What a type parameter of an alias stands for under given arguments: the one at its position, or
if there are not so many, its fallback, in the file of the alias and under the parameters before
it. -/
inductive StandsFor (file : Path) (a : TypeAlias) (args : List TypeRef) : String → TypeRef → Prop
  | argument {before after : List TypeParameter} {q : TypeParameter} {x : TypeRef}
    (h : a.parameters = before ++ q :: after) (hlast : ∀ p ∈ after, p.name ≠ q.name)
    (hx : args[before.length]? = some x) : StandsFor file a args q.name x
  | omitted {before after : List TypeParameter} {q : TypeParameter} {t : TypeExpr}
    (h : a.parameters = before ++ q :: after) (hlast : ∀ p ∈ after, p.name ≠ q.name)
    (hshort : args.length ≤ before.length) (ht : q.fallback = some t) :
    StandsFor file a args q.name ⟨t, file, bind file before args⟩

section Rules

variable (V : Visibility)

/-- A chain of so many aliases leads from the use of the first to what the last stands for. -/
inductive Chain (use : TypeRef) : Nat → TypeRef → Prop
  | use : Chain use 0 use
  | link {k : Nat} {r : TypeRef} {name : String} {a : TypeAlias} {file : Path}
    {ds : List DeclaredType} {args : List TypeRef} (h : Chain use k r)
    (hr : Refers V r name (⟨.alias a, file⟩ :: ds) args) : Chain use (k + 1) (aliased file a args)

/-- The type that a type parameter of the last alias of a chain is traced to: what the parameter
stands for, or where that is a parameter that is passed on, what that one is traced to.  It is
counted how many links are gone through. -/
inductive Traces (use : TypeRef) : Nat → TypeRef → String → TypeRef → Prop
  | stands {k : Nat} {r x : TypeRef} {name parameter : String} {a : TypeAlias} {file : Path}
    {ds : List DeclaredType} {args : List TypeRef} (h : Chain V use k r)
    (hr : Refers V r name (⟨.alias a, file⟩ :: ds) args) (hx : StandsFor file a args parameter x) :
    Traces use 1 (aliased file a args) parameter x
  | passed {n : Nat} {r x : TypeRef} {p : Piece} {name parameter : String} {a : TypeAlias}
    {file : Path} {ds : List DeclaredType} {args : List TypeRef} (h : Traces use n r p.text x)
    (hr : Refers V r name (⟨.alias a, file⟩ :: ds) args)
    (hp : StandsFor file a args parameter (r.withType (.name p))) :
    Traces use (n + 1) (aliased file a args) parameter x

/-- A type is shown without coming to the limit, if a type that stands for another one is followed
in one step, and where none is followed, arguments take one step. -/
inductive ShownWithin : Nat → TypeRef → Prop
  | mk {n : Nat} {r : TypeRef} (hnext : ∀ r', Follows V r r' → ShownWithin n r')
    (hargs : (∀ r', ¬Follows V r r') → ∀ p head ts, r.type = .generic p head ts →
      ∀ t ∈ ts, ShownWithin n (r.withType t)) : ShownWithin (n + 1) r

end Rules

/-! ### Bindings -/

theorem bindFrom_append (file : Path) (ps qs : List TypeParameter) (args : List TypeRef)
    (before : Table String TypeRef) : bindFrom file before (ps ++ qs) args =
      bindFrom file (bindFrom file before ps args) qs (args.drop ps.length) := by
  induction ps generalizing before args with
  | nil => rfl
  | cons p ps ih =>
    cases args with
    | cons a args => exact ih args _
    | nil =>
      rw [List.drop_nil, List.cons_append, bindFrom, bindFrom]
      cases p.fallback with
      | some t =>
        dsimp only
        rw [ih, List.drop_nil]
      | none =>
        dsimp only
        rw [ih, List.drop_nil]

/-- Parameters with other names do not change what a name is bound to. -/
theorem get?_bindFrom_of_ne (file : Path) {ps : List TypeParameter} {x : String}
    (h : ∀ p ∈ ps, p.name ≠ x) (args : List TypeRef) (before : Table String TypeRef) :
    (bindFrom file before ps args).get? x = before.get? x := by
  induction ps generalizing before args with
  | nil => rfl
  | cons p ps ih =>
    obtain ⟨hp, hps⟩ := List.forall_mem_cons.1 h
    cases args with
    | cons a args =>
      rw [bindFrom, ih hps, Table.get?_set_of_ne _ _ hp]
    | nil =>
      rw [bindFrom]
      cases p.fallback with
      | some t =>
        dsimp only
        rw [ih hps, Table.get?_set_of_ne _ _ hp]
      | none => exact ih hps [] before

/-- **Parameters are bound to what they stand for.** -/
theorem StandsFor.get?_bindings {file : Path} {a : TypeAlias} {args : List TypeRef} {name : String}
    {x : TypeRef} (h : StandsFor file a args name x) :
    (aliased file a args).bindings.get? name = some x := by
  show (bind file a.parameters args).get? name = some x
  -- the parameter is bound when its turn comes, and none of those after it has its name
  cases h with
  | argument h hlast hx =>
    rw [bind, h, bindFrom_append, List.drop_eq_getElem?_toList_append, hx]
    show (bindFrom file (Table.set _ _ x) _ _).get? _ = some x
    rw [get?_bindFrom_of_ne file hlast, Table.get?_set_self]
  | omitted h hlast hshort ht =>
    rw [bind, h, bindFrom_append, List.drop_eq_nil_of_le hshort, bindFrom, ht]
    dsimp only
    rw [get?_bindFrom_of_ne file hlast, Table.get?_set_self]
    rfl

/-! ### Showing parameters -/

variable {m : Type → Type} [Monad m] {A : Assurance m} {g : ModuleGraph m} {V : Visibility}

theorem renderFrom_parameter {r b : TypeRef} {p : Piece} (hr : r.type = .name p)
    (hb : r.bindings.get? p.text = some b) (n : Nat) :
    renderFrom g (n + 1) r = renderFrom g n b := by
  rw [renderFrom, hr]
  dsimp only
  rw [hb]

/-- **A parameter is shown as what it is traced to.** -/
theorem Traces.renderFrom {use r x : TypeRef} {k : Nat} {parameter : String}
    (h : Traces V use k r parameter x) (n : Nat) {p : Piece} (hp : p.text = parameter) :
    renderFrom g (n + k) (r.withType (.name p)) = renderFrom g n x := by
  induction h generalizing p with
  | stands _ _ hx => exact renderFrom_parameter rfl (hp ▸ hx.get?_bindings) n
  | passed _ _ hstands ih =>
    rw [← ih rfl]
    exact renderFrom_parameter rfl (hp ▸ hstands.get?_bindings) _

/-- What is found out about a name in a file: the alias that it stands for, or that it is none. -/
def IsAliasValue (V : Visibility) (file : Path) (name : String) (args : List TypeRef) :
    Option TypeRef → Prop
  | some t => ∃ a declaredIn ds, V file name (⟨.alias a, declaredIn⟩ :: ds) ∧
      t = aliased declaredIn a args
  | none => ∃ ds, V file name ds ∧ NoAlias ds

theorem aliasValue_ensures (h : A.Shows g V) (file : Path) (name : String) (args : List TypeRef) :
    A.Ensures (aliasValue g file name args) (IsAliasValue V file name args) := by
  unfold aliasValue
  refine A.bind (h.types file name) fun ds hds => ?_
  rcases ds with _ | ⟨⟨a | i, declaredIn⟩, ds⟩
  · exact A.pure ⟨[], hds, by simp [NoAlias]⟩
  · exact A.pure ⟨a, declaredIn, ds, hds, rfl⟩
  · exact A.pure ⟨_, hds, by simp [NoAlias]⟩

end RouteLint
