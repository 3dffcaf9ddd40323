import Mathlib.Data.List.Forall2
import RouteLint.Proofs.Coupling

/-!
# What computations ensure

A computation ensures something if whatever it returns has that property.  All that is asked of a
notion of ensuring is that it holds of returned values and goes through computations that follow
each other.  As with couplings, what a program ensures that is written for every monad is then
found out from what its questions ensure.

## Main definitions

* `Assurance` — a notion of ensuring.
* `Assurance.mute` — ensuring nothing in particular, as a coupling.
* `Assurance.plain` — the properties of values that are computed without more ado.

## Main results

* `Assurance.mapM`, `Assurance.foldlM` — what is ensured goes through lists.
-/

namespace RouteLint

/-- A notion of what a computation ensures about its results. -/
structure Assurance (m : Type → Type) [Monad m] where
  /-- Whatever the computation returns has the property. -/
  Ensures : {α : Type} → m α → (α → Prop) → Prop
  /-- A returned value has the properties that it has. -/
  pure : ∀ {α : Type} {P : α → Prop} {a : α}, P a → Ensures (pure a) P
  /-- What follows may rely on what was ensured before. -/
  bind : ∀ {α β : Type} {P : α → Prop} {Q : β → Prop} {x : m α} {f : α → m β}, Ensures x P →
    (∀ a, P a → Ensures (f a) Q) → Ensures (x >>= f) Q

namespace Assurance

variable {m : Type → Type} [Monad m] (A : Assurance m) {α β ι : Type}

/-- What is computed without more ado has the properties that it has. -/
def plain : Assurance Id where
  Ensures x P := P x.run
  pure h := h
  bind hx hf := hf _ hx

/-- Ensuring nothing in particular, beside computations that say nothing. -/
def mute : Coupling m Mute where
  Maps _ x _ := A.Ensures x fun _ => True
  pure _ _ := A.pure trivial
  bind hx hf := A.bind hx fun a _ => hf a

variable {A}

theorem mono [LawfulMonad m] {P Q : α → Prop} {x : m α} (hx : A.Ensures x P)
    (h : ∀ a, P a → Q a) : A.Ensures x Q := by
  rw [← bind_pure x]
  exact A.bind hx fun a ha => A.pure (h a ha)

/-- What is ensured for the elements of a list, one after the other. -/
theorem mapM [LawfulMonad m] {R : ι → α → Prop} {f : ι → m α} (l : List ι)
    (h : ∀ i ∈ l, A.Ensures (f i) (R i)) : A.Ensures (l.mapM f) (List.Forall₂ R l) := by
  induction l with
  | nil =>
    rw [List.mapM_nil]
    exact A.pure .nil
  | cons i l ih =>
    rw [List.mapM_cons]
    refine A.bind (h i List.mem_cons_self) fun a ha => ?_
    refine A.bind (ih fun j hj => h j (List.mem_cons_of_mem _ hj)) fun as has => ?_
    exact A.pure (.cons ha has)

/-- A value that is changed for each element of a list: what is known of it after some elements is
kept by one more. -/
theorem foldlM {P : List ι → β → Prop} {f : β → ι → m β}
    (hf : ∀ before i b, P before b → A.Ensures (f b i) (P (before ++ [i]))) {b : β}
    (hb : P [] b) (l : List ι) : A.Ensures (l.foldlM f b) (P l) := by
  have hall : ∀ before b, P before b → A.Ensures (l.foldlM f b) (P (before ++ l)) := by
    clear hb b
    induction l with
    | nil =>
      intro before b hb
      rw [List.append_nil]
      exact A.pure hb
    | cons i l ih =>
      intro before b hb
      rw [List.foldlM_cons]
      refine A.bind (hf before i b hb) fun c hc => ?_
      rw [List.append_cons]
      exact ih (before ++ [i]) c hc
  exact hall [] b hb

/-- The same for changes that are made without more ado. -/
theorem foldl {P : List ι → β → Prop} {f : β → ι → β}
    (hf : ∀ before i b, P before b → P (before ++ [i]) (f b i)) {b : β} (hb : P [] b)
    (l : List ι) : P l (l.foldl f b) := by
  rw [List.foldl_eq_foldlM]
  exact foldlM (A := .plain) hf hb l

end Assurance

end RouteLint
