import RouteLint.Proofs.Coupling
import RouteLint.Proofs.Typing.Places

/-!
# Typing asks a graph of modules

Typing is written for every monad, and all it does with one is to ask a graph of modules for scopes
and for the targets of imports.  So if two graphs answer alike, up to places in the scopes and up
to what typing does not look at, then whatever typing does over one graph it does over the other:
the same names are looked up, the same texts come out, and the same types up to places.

Each function of typing gets one lemma, in the order of their definitions: here those that look
up names and show types as texts.

## Main definitions

* `Coupling.Answers` — two graphs that answer alike.
* `Sight` — a way to see scopes.

## Main results

* `Coupling.lookup` — looking up names and exports, however scopes are seen.
* `Coupling.Answers.visibleTypes` — looking up a name.
* `Coupling.Answers.render` — showing a type as a text.
-/

namespace RouteLint

open Syntax

variable {m n : Type → Type} [Monad m] [Monad n] (C : Coupling m n)

/-- Two graphs of modules that answer alike, as far as typing can see. -/
structure Coupling.Answers (g : ModuleGraph m) (g' : ModuleGraph n) : Prop where
  /-- Scopes have the same view. -/
  scope : ∀ file, C.Maps Scope.view (g.scope file) (g'.scope file)
  /-- Imports lead to the same files. -/
  target : ∀ file specifier, C.Maps id (g.target file specifier) (g'.target file specifier)

/-! ### Scopes as they are seen -/

/-- A way to see scopes: types have some form, and imports and exports are as they are. -/
structure Sight where
  /-- A scope as it is seen. -/
  scope : Scope → Scope
  /-- The form of a type. -/
  type : TypeDeclaration → TypeDeclaration
  types : ∀ s name, (scope s).types.get? name = (s.types.get? name).map (List.map type)
  imports : ∀ s, (scope s).imports = s.imports
  exports : ∀ s, (scope s).exports = s.exports
  starExports : ∀ s, (scope s).starExports = s.starExports

namespace Sight

/-- Seeing scopes as typing does, without places. -/
def bare : Sight where
  scope := Scope.view
  type := TypeDeclaration.bare
  types _ _ := Table.get?_mapValues _ _ _
  imports _ := rfl
  exports _ := rfl
  starExports _ := rfl

/-- Seeing scopes as they are. -/
def whole : Sight where
  scope := id
  type := id
  types s name := by rw [List.map_id_fun, Option.map_id]; rfl
  imports _ := rfl
  exports _ := rfl
  starExports _ := rfl

/-- A declared type as it is seen. -/
def declared (v : Sight) (d : DeclaredType) : DeclaredType :=
  { d with declaration := v.type d.declaration }

end Sight

namespace Coupling

variable {C} {g : ModuleGraph m} {g' : ModuleGraph n}

/-! ### Looking up names -/

theorem firstFound {α β γ : Type} {ψ : β → γ} {f : α → m (List β)} {f' : α → n (List γ)}
    (h : ∀ a, C.Maps (List.map ψ) (f a) (f' a)) (as : List α) :
    C.Maps (List.map ψ) (RouteLint.firstFound f as) (RouteLint.firstFound f' as) := by
  induction as with
  | nil => exact C.pure' rfl
  | cons a as ih =>
    rw [RouteLint.firstFound, RouteLint.firstFound]
    refine C.bind (h a) fun found => ?_
    rw [List.isEmpty_map]
    cases found.isEmpty with
    | true => exact ih
    | false => exact C.pure' rfl

/-- Names and exports are looked up alike; each of the two uses the other with fewer steps. -/
theorem lookup (v : Sight) (hscope : ∀ file, C.Maps v.scope (g.scope file) (g'.scope file))
    (htarget : ∀ file specifier, C.Maps id (g.target file specifier) (g'.target file specifier))
    (steps : Nat) :
    (∀ file name, C.Maps (List.map v.declared) (lookupType g steps file name)
      (lookupType g' steps file name)) ∧
    (∀ file name, C.Maps (List.map v.declared) (lookupExport g steps file name)
      (lookupExport g' steps file name)) := by
  induction steps with
  | zero =>
    constructor
    · intro file name
      rw [lookupType, lookupType]
      exact C.pure' rfl
    · intro file name
      rw [lookupExport, lookupExport]
      exact C.pure' rfl
  | succ k ih =>
    obtain ⟨ihType, ihExport⟩ := ih
    constructor
    · intro file name
      rw [lookupType, lookupType]
      refine C.bind (hscope file) fun s => ?_
      rw [v.types, v.imports]
      cases s.types.get? name with
      | some ds => exact C.pure' (by simp [Sight.declared])
      | none =>
        simp only [Option.map_none]
        cases s.imports.get? name with
        | none => exact C.pure' rfl
        | some i =>
          refine C.bind (htarget file i.specifier) fun target => ?_
          cases target with
          | none => exact C.pure' rfl
          | some target => exact ihExport target i.name
    · intro file name
      rw [lookupExport, lookupExport]
      refine C.bind (hscope file) fun s => ?_
      rw [v.exports, v.starExports]
      cases s.exports.get? name with
      | some e =>
        obtain ⟨inside, specifier⟩ := e
        cases specifier with
        | none => exact ihType file inside
        | some specifier =>
          refine C.bind (htarget file specifier) fun target => ?_
          cases target with
          | none => exact C.pure' rfl
          | some target => exact ihExport target inside
      | none =>
        refine firstFound (fun specifier => ?_) s.starExports
        refine C.bind (htarget file specifier) fun target => ?_
        cases target with
        | none => exact C.pure' rfl
        | some target => exact ihExport target name

/-- Over graphs that give the same scopes and targets a name stands for the same types. -/
theorem visibleTypes_same (hscope : ∀ file, C.Maps id (g.scope file) (g'.scope file))
    (htarget : ∀ file specifier, C.Maps id (g.target file specifier) (g'.target file specifier))
    (file : Path) (name : String) :
    C.Maps id (visibleTypes g file name) (visibleTypes g' file name) := by
  have hmap := (lookup (C := C) .whole hscope htarget (maxDepth + 1)).1 file name
  rwa [show List.map Sight.whole.declared = id from List.map_id_fun] at hmap

theorem Answers.visibleTypes (h : C.Answers g g') (file : Path) (name : String) :
    C.Maps (List.map DeclaredType.bare) (visibleTypes g file name) (visibleTypes g' file name) :=
  (lookup .bare h.scope h.target (maxDepth + 1)).1 file name

/-! ### Types as texts -/

theorem mapValues_bindFrom (file : Path) (ps : List TypeParameter) (as : List TypeRef)
    (before : Table String TypeRef) :
    (bindFrom file before ps as).mapValues TypeRef.bare =
      bindFrom file (before.mapValues TypeRef.bare) (ps.map TypeParameter.bare)
        (as.map TypeRef.bare) := by
  induction ps generalizing as before with
  | nil => cases as <;> rfl
  | cons p ps ih =>
    cases as with
    | cons a as =>
      rw [bindFrom, ih, List.map_cons, List.map_cons, bindFrom, Table.mapValues_set]
      rfl
    | nil =>
      obtain ⟨name, fallback⟩ := p
      cases fallback with
      | none =>
        simp only [bindFrom, List.map_cons, List.map_nil, TypeParameter.bare, Option.map_none]
        exact ih [] before
      | some t =>
        simp only [bindFrom, List.map_cons, List.map_nil, TypeParameter.bare, Option.map_some]
        rw [ih [], Table.mapValues_set, TypeRef.bare_mk, List.map_nil]

theorem mapValues_bind (file : Path) (ps : List TypeParameter) (as : List TypeRef) :
    (RouteLint.bind file ps as).mapValues TypeRef.bare =
      RouteLint.bind file (ps.map TypeParameter.bare) (as.map TypeRef.bare) :=
  mapValues_bindFrom file ps as []

theorem aliased_bare (file : Path) (a : TypeAlias) (as : List TypeRef) :
    (aliased file a as).bare = aliased file a.bare (as.map TypeRef.bare) := by
  unfold aliased
  rw [TypeRef.bare_mk, mapValues_bind]
  rfl

theorem Answers.aliasValue (h : C.Answers g g') (file : Path) (name : String)
    (as : List TypeRef) :
    C.Maps (Option.map TypeRef.bare) (aliasValue g file name as)
      (aliasValue g' file name (as.map TypeRef.bare)) := by
  unfold RouteLint.aliasValue
  refine C.bind (h.visibleTypes file name) fun ds => ?_
  match ds with
  | [] => exact C.pure' rfl
  | ⟨.alias a, declaredIn⟩ :: ds => exact C.pure' (congrArg some (aliased_bare declaredIn a as))
  | ⟨.interface i, declaredIn⟩ :: ds => exact C.pure' rfl

variable [LawfulMonad m] [LawfulMonad n]

theorem Answers.renderFrom (h : C.Answers g g') (steps : Nat) (r : TypeRef) :
    C.Maps id (renderFrom g steps r) (renderFrom g' steps r.bare) := by
  induction steps generalizing r with
  | zero =>
    rw [RouteLint.renderFrom, RouteLint.renderFrom, TypeRef.bare_text]
    exact C.pure' rfl
  | succ k ih =>
    -- types that are neither a name nor generic are shown as they are written
    have hwritten : C.Maps id (Pure.pure r.text : m String) (Pure.pure r.bare.text : n String) := by
      rw [TypeRef.bare_text]
      exact C.pure' rfl
    rw [RouteLint.renderFrom, RouteLint.renderFrom, TypeRef.bare_type, TypeRef.bare_bindings,
      TypeRef.bare_file]
    cases r.type with
    | name p =>
      simp only [TypeExpr.bare, Piece.bare_text, Table.get?_mapValues]
      cases r.bindings.get? p.text with
      | some b => exact ih b
      | none =>
        refine C.bind (h.aliasValue r.file p.text []) fun t => ?_
        cases t with
        | none => exact C.pure' rfl
        | some t => exact ih t
    | generic p head ts =>
      simp only [TypeExpr.bare, bareTypes_eq_map, Table.contains_mapValues]
      rw [← TypeRef.map_bare_withType]
      -- a head that is no alias
      have hplain : C.Maps id
          (do
            let texts ← (ts.map r.withType).mapM (RouteLint.renderFrom g k)
            return head.text ++ "<" ++ ", ".intercalate texts ++ ">")
          (do
            let texts ← ((ts.map r.withType).map TypeRef.bare).mapM (RouteLint.renderFrom g' k)
            return head.text ++ "<" ++ ", ".intercalate texts ++ ">") := by
        refine C.bind (C.mapM TypeRef.bare _ fun a _ => ih a) fun texts => ?_
        rw [List.map_id]
        exact C.pure' rfl
      split
      · refine C.bind (h.aliasValue r.file head.text _) fun known => ?_
        cases known with
        | some t => exact ih t
        | none => exact hplain
      · rw [pure_bind, pure_bind]
        exact hplain
    | object | union | intersection | parenthesized | literal | comment | other => exact hwritten

theorem Answers.render (h : C.Answers g g') (r : TypeRef) :
    C.Maps id (render g r) (render g' r.bare) :=
  h.renderFrom (maxDepth + 1) r

theorem Answers.typeText (h : C.Answers g g') (p : Property) :
    C.Maps id (p.typeText g) (p.bare.typeText g') := by
  obtain ⟨name, origin⟩ := p
  cases origin with
  | property t =>
    cases t with
    | none => exact C.pure' rfl
    | some t => exact h.render t
  | method text => exact C.pure' rfl
  | keyed t => exact h.render t
  | derived text => exact C.pure' rfl

end Coupling

end RouteLint
