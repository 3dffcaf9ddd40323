import Mathlib.Data.List.Forall2
import Mathlib.Data.Option.Basic
import RouteLint.Data.Table

/-!
# Related results and related tables

Two computations that may fail are related if both fail with the same error or both succeed with
related results.  Two tables are related if they have the same keys in the same order, with related
values.  Whatever is done to computations, lists and tables on both sides keeps them related.

## Main definitions

* `Related` — computations that fail alike or have related results.
* `Table.Related` — tables with the same keys and related values.

## Main results

* `Related.bind`, `Related.mapM`, `Related.foldlM` — computations after each other, and for lists.
* `optionRel_cases` — values that are both missing, or both there and related.
* `Table.Related.get?`, `Table.Related.set`, `Table.Related.merge` — reading and writing tables.
-/

namespace RouteLint

/-! ### Computations -/

/-- Computations that fail alike or have related results. -/
inductive Related {ε α β : Type} (R : α → β → Prop) : Except ε α → Except ε β → Prop
  | ok {a : α} {b : β} (h : R a b) : Related R (.ok a) (.ok b)
  | error (err : ε) : Related R (.error err) (.error err)

namespace Related

variable {ε α β γ δ ι κ : Type} {R : α → β → Prop} {S : γ → δ → Prop} {P : ι → κ → Prop}
variable {x : Except ε α} {y : Except ε β}

theorem imp {R' : α → β → Prop} (h : Related R x y) (hR : ∀ a b, R a b → R' a b) :
    Related R' x y := by
  cases h with
  | ok h => exact .ok (hR _ _ h)
  | error err => exact .error err

/-- Computations after each other. -/
theorem bind (h : Related R x y) {f : α → Except ε γ} {g : β → Except ε δ}
    (hf : ∀ a b, R a b → Related S (f a) (g b)) : Related S (x >>= f) (y >>= g) := by
  cases h with
  | ok h => exact hf _ _ h
  | error err => exact .error err

theorem map (h : Related R x y) {f : α → γ} {g : β → δ} (hf : ∀ a b, R a b → S (f a) (g b)) :
    Related S (f <$> x) (g <$> y) := by
  cases h with
  | ok h => exact .ok (hf _ _ h)
  | error err => exact .error err

/-- Computations for related elements, one after the other. -/
theorem mapM {l : List ι} {l' : List κ} (hl : List.Forall₂ P l l') {f : ι → Except ε α}
    {g : κ → Except ε β} (hf : ∀ i j, P i j → Related R (f i) (g j)) :
    Related (List.Forall₂ R) (l.mapM f) (l'.mapM g) := by
  induction hl with
  | nil => exact .ok .nil
  | cons hij _ ih =>
    rw [List.mapM_cons, List.mapM_cons]
    refine (hf _ _ hij).bind fun a b hab => ?_
    exact ih.bind fun as bs hrest => .ok (.cons hab hrest)

/-- A value that is changed for each of related elements, one after the other. -/
theorem foldlM {l : List ι} {l' : List κ} (hl : List.Forall₂ P l l') {f : α → ι → Except ε α}
    {g : β → κ → Except ε β} (hf : ∀ a b i j, R a b → P i j → Related R (f a i) (g b j)) {a : α}
    {b : β} (hab : R a b) : Related R (l.foldlM f a) (l'.foldlM g b) := by
  induction hl generalizing a b with
  | nil => exact .ok hab
  | cons hij _ ih =>
    rw [List.foldlM_cons, List.foldlM_cons]
    exact (hf _ _ _ _ hab hij).bind fun a' b' hab' => ih hab'

theorem cases (h : Related R x y) :
    (∃ a b, x = .ok a ∧ y = .ok b ∧ R a b) ∨ ∃ err, x = .error err ∧ y = .error err := by
  cases h with
  | ok h => exact .inl ⟨_, _, rfl, rfl, h⟩
  | error err => exact .inr ⟨err, rfl, rfl⟩

theorem map_const (h : Related R x y) (c : γ) : x.map (fun _ => c) = y.map fun _ => c := by
  cases h <;> rfl

theorem isOk_eq (h : Related R x y) : x.isOk = y.isOk := by
  cases h <;> rfl

theorem exists_ok (h : Related R x y) {a : α} (ha : x = .ok a) : ∃ b, y = .ok b ∧ R a b := by
  subst ha
  cases h with
  | ok h => exact ⟨_, rfl, h⟩

end Related

/-! ### Options -/

theorem optionRel_refl {α : Type} {R : α → α → Prop} (h : ∀ a, R a a) : ∀ x, Option.Rel R x x
  | none => .none
  | some a => .some (h a)

theorem optionRel_cases {α β : Type} {R : α → β → Prop} {x : Option α} {y : Option β}
    (h : Option.Rel R x y) :
    (x = none ∧ y = none) ∨ ∃ a b, x = some a ∧ y = some b ∧ R a b := by
  cases h with
  | none => exact .inl ⟨rfl, rfl⟩
  | some h => exact .inr ⟨_, _, rfl, rfl, h⟩

/-! ### Tables -/

namespace Table

variable {κ α β : Type}

/-- Tables with the same keys in the same order, and with related values. -/
def Related (R : κ → α → β → Prop) (t : Table κ α) (t' : Table κ β) : Prop :=
  List.Forall₂ (fun e e' => e.1 = e'.1 ∧ R e.1 e.2 e'.2) t t'

namespace Related

variable {R : κ → α → β → Prop} {t u : Table κ α} {t' u' : Table κ β}

theorem nil : Related R ([] : Table κ α) [] := List.Forall₂.nil

theorem cons {k : κ} {a : α} {b : β} (hab : R k a b) (h : Related R t t') :
    Related R ((k, a) :: t) ((k, b) :: t') := List.Forall₂.cons ⟨rfl, hab⟩ h

theorem values (h : Related R t t') :
    List.Forall₂ (fun a b => ∃ k, R k a b) t.values t'.values := by
  unfold Table.values
  rw [List.forall₂_map_left_iff, List.forall₂_map_right_iff]
  exact List.Forall₂.imp (fun e _ he => ⟨e.1, he.2⟩) h

variable [DecidableEq κ]

theorem get? (h : Related R t t') (x : κ) : Option.Rel (R x) (t.get? x) (t'.get? x) := by
  induction h with
  | nil => exact .none
  | @cons e e' t t' he _ ih =>
    obtain ⟨k, a⟩ := e
    obtain ⟨k', b⟩ := e'
    obtain ⟨rfl, hab⟩ := he
    rw [Table.get?_cons, Table.get?_cons]
    by_cases hk : k = x
    · subst hk
      rw [if_pos rfl, if_pos rfl]
      exact .some hab
    · rw [if_neg hk, if_neg hk]
      exact ih

theorem contains (h : Related R t t') (x : κ) : t.contains x = t'.contains x := by
  unfold Table.contains
  rcases optionRel_cases (h.get? x) with ⟨hget, hget'⟩ | ⟨a, b, hget, hget', -⟩
  · rw [hget, hget']
    rfl
  · rw [hget, hget']
    rfl

theorem set (h : Related R t t') {x : κ} {a : α} {b : β} (hab : R x a b) :
    Related R (t.set x a) (t'.set x b) := by
  induction h with
  | nil => exact cons hab nil
  | @cons e e' t t' he hrest ih =>
    obtain ⟨k, v⟩ := e
    obtain ⟨k', v'⟩ := e'
    obtain ⟨rfl, hv⟩ := he
    rw [Table.set, Table.set]
    by_cases hk : k = x
    · subst hk
      rw [if_pos rfl, if_pos rfl]
      exact cons hab hrest
    · rw [if_neg hk, if_neg hk]
      exact cons hv ih

theorem setDefault (h : Related R t t') {x : κ} {a : α} {b : β} (hab : R x a b) :
    Related R (t.setDefault x a) (t'.setDefault x b) := by
  unfold Table.setDefault
  rw [h.contains x]
  split
  · exact h
  · exact h.set hab

theorem merge (h : Related R t t') (hu : Related R u u') :
    Related R (t.merge u) (t'.merge u') :=
  List.rel_foldl (P := Related R)
    (fun _ _ ht _ _ he => by rw [← he.1]; exact ht.set he.2) h hu

theorem list {Q : α → β → Prop} {t : Table κ (List α)} {t' : Table κ (List β)}
    (h : Related (fun _ => List.Forall₂ Q) t t') (x : κ) :
    List.Forall₂ Q (t.list x) (t'.list x) := by
  unfold Table.list
  rcases optionRel_cases (h.get? x) with ⟨hget, hget'⟩ | ⟨as, bs, hget, hget', has⟩
  · rw [hget, hget']
    exact .nil
  · rw [hget, hget']
    exact has

/-- Tables of lists, with one more value put at the end of one. -/
theorem append {Q : α → β → Prop} {t : Table κ (List α)} {t' : Table κ (List β)}
    (h : Related (fun _ => List.Forall₂ Q) t t') {x : κ} {a : α} {b : β} (hab : Q a b) :
    Related (fun _ => List.Forall₂ Q) (t.append x a) (t'.append x b) := by
  unfold Table.append
  exact h.set (List.rel_append (h.list x) (.cons hab .nil))

end Related

end Table

end RouteLint
