import RouteLint.Proofs.Data.Attempts
import RouteLint.Typing.Render

/-!
# Glossaries

A name in a type is bound to an argument, or declared as an alias, or neither.  What is known about
declarations is collected in a glossary, which may leave names open; so one glossary can hold in two
projects that differ in other declarations.

Showing a type by a glossary gives no answer where a name is left open or where the limit of steps
is reached.  Every answer that it gives is that of `render`.

## Main definitions

* `Glossary`, `ModuleGraph.glossary` — what names are known to be.
* `Glossary.meaning` — what a type stands for, by its name.
* `Glossary.show?` — a type as a text, if the limit of steps is not reached.
* `Glossary.HoldsIn` — glossaries that a graph of modules bears out.

## Main results

* `Glossary.show?_succ` — what is shown does not depend on the number of steps.
* `Glossary.HoldsIn.renderFrom` — **showing a type by a glossary is rendering it.**
-/

namespace RouteLint

open Syntax

/-! ### Glossaries -/

/-- What names are known to be: in a file, a name is an alias that some file declares, or it is no
alias.  Nothing is known about other names. -/
def Glossary : Type := Path → String → Option (Option (TypeAlias × Path))

/-- All that a graph of modules tells about names. -/
def ModuleGraph.glossary {ε : Type} (g : ModuleGraph (Except ε)) : Glossary := fun file name =>
  match visibleTypes g file name with
  | .ok (⟨.alias a, declaredIn⟩ :: _) => some (some (a, declaredIn))
  | .ok _ => some none
  | .error _ => none

/-- What the scope of a file tells about names in the file, without looking into other files. -/
def Scope.glossary (s : Scope) (file : Path) : Glossary := fun file' name =>
  if file' = file then
    match s.types.get? name, s.imports.get? name with
    | some (.alias a :: _), _ => some (some (a, file))
    | some _, _ => some none
    | none, none => some none
    | none, some _ => none
  else none

/-- A name, with arguments or without. -/
def Syntax.TypeExpr.isNamed : TypeExpr → Bool
  | .name _ => true
  | .generic _ _ _ => true
  | _ => false

namespace Glossary

variable (k : Glossary)

/-- What the name of a generic type is known to be.  A name that is bound or qualified is no
alias. -/
def head (r : TypeRef) (name : TypeHead) : Option (Option (TypeAlias × Path)) :=
  if name.plain && !r.bindings.contains name.text then k r.file name.text else some none

/-- What a type stands for by its name, if that is known: an argument, the value of an alias, or
nothing else. -/
def meaning (r : TypeRef) : Option (Option TypeRef) :=
  match r.type with
  | .name p =>
    match r.bindings.get? p.text with
    | some b => some (some b)
    | none => (k r.file p.text).map (Option.map fun e => aliased e.2 e.1 [])
  | .generic _ name ts =>
    (k.head r name).map (Option.map fun e => aliased e.2 e.1 (ts.map r.withType))
  | _ => some none

/-- A type as a text, if all its names are known and the limit of steps is not reached. -/
def show? : (steps : Nat) → TypeRef → Option String
  | 0, _ => none
  | n + 1, r =>
    match k.meaning r with
    | none => none
    | some (some b) => show? n b
    | some none =>
      match r.type with
      | .name p => some p.text
      | .generic _ name ts =>
        ((ts.map r.withType).mapM (show? n)).map fun texts =>
          name.text ++ "<" ++ ", ".intercalate texts ++ ">"
      | _ => some r.text

/-- A graph of modules tells what the glossary does, and maybe more. -/
def HoldsIn {ε : Type} (g : ModuleGraph (Except ε)) : Prop :=
  ∀ file name entry, k file name = some entry → g.glossary file name = some entry

variable {k} {ε : Type} {g : ModuleGraph (Except ε)} {n : Nat} {r b : TypeRef} {s : String}

theorem head_congr {r' : TypeRef} {name : TypeHead} (hfile : r.file = r'.file)
    (hbound : r.bindings.contains name.text = r'.bindings.contains name.text) :
    k.head r name = k.head r' name := by
  rw [head, head, hfile, hbound]

theorem meaning_of_not_named (h : r.type.isNamed = false) : k.meaning r = some none := by
  unfold meaning
  revert h
  cases r.type with
  | name | generic => exact fun h => Bool.noConfusion h
  | object | union | intersection | parenthesized | literal | comment | other => exact fun _ => rfl

theorem meaning_name_bound {p : Piece} {file : Path} {bs : Table String TypeRef}
    (h : bs.get? p.text = some b) : k.meaning ⟨.name p, file, bs⟩ = some (some b) := by
  unfold meaning
  dsimp only [TypeRef.type, TypeRef.bindings]
  rw [h]

theorem meaning_name_free {p : Piece} {file : Path} {bs : Table String TypeRef}
    (h : bs.get? p.text = none) : k.meaning ⟨.name p, file, bs⟩ =
      (k file p.text).map (Option.map fun e => aliased e.2 e.1 []) := by
  unfold meaning
  dsimp only [TypeRef.type, TypeRef.bindings]
  rw [h]
  rfl

/-- Nothing is shown in no steps. -/
theorem exists_succ (h : k.show? n r = some s) : ∃ m, n = m + 1 := by
  cases n with
  | zero => cases h
  | succ m => exact ⟨m, rfl⟩

theorem show?_of_meaning (h : k.meaning r = some (some b)) : k.show? (n + 1) r = k.show? n b := by
  rw [show?, h]

theorem show?_name {p : Piece} (h : k.meaning r = some none) (hr : r.type = .name p) :
    k.show? (n + 1) r = some p.text := by
  rw [show?, h, hr]

theorem show?_generic {p : Piece} {name : TypeHead} {ts : List TypeExpr}
    (h : k.meaning r = some none) (hr : r.type = .generic p name ts) :
    k.show? (n + 1) r = ((ts.map r.withType).mapM (k.show? n)).map fun texts =>
      name.text ++ "<" ++ ", ".intercalate texts ++ ">" := by
  rw [show?, h, hr]

theorem show?_of_not_named (h : r.type.isNamed = false) : k.show? (n + 1) r = some r.text := by
  rw [show?, meaning_of_not_named h]
  revert h
  cases r.type with
  | name | generic => exact fun h => Bool.noConfusion h
  | object | union | intersection | parenthesized | literal | comment | other => exact fun _ => rfl

end Glossary

/-- What a scope tells about names holds wherever the file has that scope. -/
theorem Scope.holdsIn_glossary {ε : Type} {g : ModuleGraph (Except ε)} {file : Path} {s : Scope}
    (hs : g.scope file = .ok s) : (s.glossary file).HoldsIn g := by
  intro file' name entry h
  unfold glossary at h
  split at h
  · next heq =>
    subst heq
    unfold ModuleGraph.glossary visibleTypes
    rw [lookupType, except_bind_of_ok hs]
    revert h
    cases s.types.get? name with
    | none =>
      cases s.imports.get? name with
      | none =>
        intro h
        cases h
        rfl
      | some i => exact fun h => nomatch h
    | some ds =>
      intro h
      match ds, h with
      | [], h =>
        cases h
        rfl
      | .alias a :: _, h =>
        cases h
        rfl
      | .interface i :: _, h =>
        cases h
        rfl
  · cases h

/-! ### Attempts for lists -/

/-- Attempts for the elements of a list succeed if each of them does. -/
theorem mapM_eq_some_iff {ι α : Type} {f : ι → Option α} {l : List ι} {as : List α} :
    l.mapM f = some as ↔ List.Forall₂ (fun i a => f i = some a) l as := by
  induction l generalizing as with
  | nil =>
    rw [List.mapM_nil, List.forall₂_nil_left_iff]
    exact ⟨fun h => (Option.some.inj h).symm, fun h => h ▸ rfl⟩
  | cons i l ih =>
    rw [List.mapM_cons]
    constructor
    · intro h
      obtain ⟨a, ha, h⟩ := Option.bind_eq_some_iff.1 h
      obtain ⟨rest, hrest, hcons⟩ := Option.bind_eq_some_iff.1 h
      cases hcons
      exact .cons ha (ih.1 hrest)
    · intro h
      cases h with
      | cons ha hrest =>
        rw [ha, ih.2 hrest]
        rfl

/-- Attempts for related elements: if they succeed for the first list, and for each element with a
result that is related to one for the other element, then they succeed for the second. -/
theorem mapM_some_of_forall₂ {α β γ δ : Type} {R : α → β → Prop} {S : γ → δ → Prop}
    {f : α → Option γ} {f' : β → Option δ} {l : List α} {l' : List β} (h : List.Forall₂ R l l')
    (hf : ∀ a b c, R a b → f a = some c → ∃ d, f' b = some d ∧ S c d) {cs : List γ}
    (hcs : l.mapM f = some cs) : ∃ ds, l'.mapM f' = some ds ∧ List.Forall₂ S cs ds := by
  rw [mapM_eq_some_iff] at hcs
  induction h generalizing cs with
  | nil =>
    cases hcs
    exact ⟨[], rfl, .nil⟩
  | @cons a b l l' hab _ ih =>
    cases hcs with
    | cons hc hcs =>
      obtain ⟨d, hd, hcd⟩ := hf a b _ hab hc
      obtain ⟨ds, hds, hrest⟩ := ih hcs
      rw [mapM_eq_some_iff] at hds
      exact ⟨d :: ds, mapM_eq_some_iff.2 (.cons hd hds), .cons hcd hrest⟩

theorem mapM_ok_of_some {ε ι α : Type} {f : ι → Option α} {f' : ι → Except ε α} {l : List ι}
    (hf : ∀ i a, f i = some a → f' i = .ok a) {as : List α} (h : l.mapM f = some as) :
    l.mapM f' = .ok as := by
  rw [mapM_eq_some_iff] at h
  induction h with
  | nil => rfl
  | cons ha _ ih =>
    rw [List.mapM_cons, hf _ _ ha, ih]
    rfl

/-! ### Showing by a glossary -/

namespace Glossary

variable {k : Glossary} {ε : Type} {g : ModuleGraph (Except ε)} {n : Nat} {r : TypeRef} {s : String}

/-- With more steps the same is shown. -/
theorem show?_succ (h : k.show? n r = some s) : k.show? (n + 1) r = some s := by
  induction n generalizing r s with
  | zero => cases h
  | succ n ih =>
    cases hmeaning : k.meaning r with
    | none =>
      rw [show?, hmeaning] at h
      cases h
    | some standing =>
      cases standing with
      | some b =>
        rw [show?_of_meaning hmeaning] at h ⊢
        exact ih h
      | none =>
        cases hr : r.type with
        | generic p name ts =>
          rw [show?_generic hmeaning hr, Option.map_eq_some_iff] at h ⊢
          obtain ⟨texts, htexts, hs⟩ := h
          have hsame : List.Forall₂ Eq (ts.map r.withType) (ts.map r.withType) :=
            List.forall₂_same.2 fun _ _ => rfl
          obtain ⟨texts', htexts', heq⟩ := mapM_some_of_forall₂ (S := Eq) hsame
            (fun a b c hab hc => ⟨c, hab ▸ ih hc, rfl⟩) htexts
          rw [List.forall₂_eq_eq_eq] at heq
          exact ⟨texts', htexts', heq ▸ hs⟩
        | name =>
          rw [show?_name hmeaning hr] at h ⊢
          exact h
        | object | union | intersection | parenthesized | literal | comment | other =>
          have hnamed : r.type.isNamed = false := by rw [hr]; rfl
          rw [show?_of_not_named hnamed] at h ⊢
          exact h

theorem HoldsIn.aliasValue (hk : k.HoldsIn g) {file : Path} {name : String}
    {entry : Option (TypeAlias × Path)} (h : k file name = some entry) (arguments : List TypeRef) :
    aliasValue g file name arguments = .ok (entry.map fun e => aliased e.2 e.1 arguments) := by
  have htold := hk file name entry h
  unfold ModuleGraph.glossary at htold
  unfold RouteLint.aliasValue
  cases hds : visibleTypes g file name with
  | error err =>
    rw [hds] at htold
    cases htold
  | ok ds =>
    rw [hds] at htold
    match ds, htold with
    | [], rfl => rfl
    | ⟨.alias a, declaredIn⟩ :: _, rfl => rfl
    | ⟨.interface i, declaredIn⟩ :: _, rfl => rfl

/-- **Showing a type by a glossary is rendering it**, wherever the glossary holds. -/
theorem HoldsIn.renderFrom (hk : k.HoldsIn g) (h : k.show? n r = some s) :
    renderFrom g n r = .ok s := by
  induction n generalizing r s with
  | zero => cases h
  | succ n ih =>
    rw [RouteLint.renderFrom]
    cases hr : r.type with
    | name p =>
      rw [show?, meaning, hr] at h
      dsimp only at h ⊢
      cases hb : r.bindings.get? p.text with
      | some b =>
        rw [hb] at h
        exact ih h
      | none =>
        rw [hb] at h
        cases hentry : k r.file p.text with
        | none =>
          rw [hentry] at h
          cases h
        | some entry =>
          rw [hentry] at h
          dsimp only
          rw [except_bind_of_ok (hk.aliasValue hentry [])]
          cases entry with
          | none =>
            cases h
            rfl
          | some e => exact ih h
    | generic p name ts =>
      -- what follows once it is known whether the name is an alias
      have hknown : ∀ entry, k.head r name = some entry →
          (match entry.map fun e => aliased e.2 e.1 (ts.map r.withType) with
            | some t => RouteLint.renderFrom g n t
            | none => do
              let texts ← (ts.map r.withType).mapM (RouteLint.renderFrom g n)
              return name.text ++ "<" ++ ", ".intercalate texts ++ ">") = Except.ok s := by
        intro entry hentry
        have hmeaning : k.meaning r =
            some (entry.map fun e => aliased e.2 e.1 (ts.map r.withType)) := by
          rw [meaning, hr]
          dsimp only
          rw [hentry, Option.map_some]
        cases entry with
        | some e =>
          rw [show?_of_meaning hmeaning] at h
          exact ih h
        | none =>
          rw [show?_generic hmeaning hr, Option.map_eq_some_iff] at h
          obtain ⟨texts, htexts, rfl⟩ := h
          dsimp only [Option.map_none]
          rw [except_bind_of_ok (mapM_ok_of_some (fun a text ha => ih ha) htexts)]
          rfl
      dsimp only
      unfold head at hknown
      split
      · next hplain =>
        rw [if_pos hplain] at hknown
        cases hentry : k r.file name.text with
        | none =>
          rw [show?, meaning, hr] at h
          dsimp only at h
          rw [head, if_pos hplain, hentry] at h
          cases h
        | some entry =>
          rw [except_bind_of_ok (hk.aliasValue hentry _)]
          exact hknown entry hentry
      · next hplain =>
        rw [if_neg hplain] at hknown
        exact hknown none rfl
    | object | union | intersection | parenthesized | literal | comment | other =>
      have hnamed : r.type.isNamed = false := by rw [hr]; rfl
      rw [show?_of_not_named hnamed] at h
      cases h
      rfl

end Glossary

end RouteLint
