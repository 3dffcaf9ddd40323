/-!
# Coupled computations

Two monads are coupled by saying, for computations `x` in one and `y` in the other and for a map of
results, that `y` does what `x` does and returns what the map makes of the result of `x`.  All that
is asked of such a notion is that it holds of returned values and is kept when computations follow
each other.  A program that is written for every monad, and uses it in no other way, is then
coupled to itself as soon as the questions it asks are.

## Main definitions

* `Coupling` — a notion of coupled computations.
* `Mute` — computations that say nothing, to couple others with.

## Main results

* `Coupling.mapM`, `Coupling.foldlM` — couplings go through lists.
-/

namespace RouteLint

/-- A notion of coupled computations of two monads. -/
structure Coupling (m n : Type → Type) [Monad m] [Monad n] where
  /-- Computations that do the same, up to a map of their results. -/
  Maps : {α β : Type} → (α → β) → m α → n β → Prop
  /-- Returned values are coupled. -/
  pure : ∀ {α β : Type} (ψ : α → β) (a : α), Maps ψ (pure a) (pure (ψ a))
  /-- Coupled computations stay coupled when coupled computations follow. -/
  bind : ∀ {α β γ δ : Type} {ψ : α → β} {χ : γ → δ} {x : m α} {y : n β} {f : α → m γ}
    {g : β → n δ}, Maps ψ x y → (∀ a, Maps χ (f a) (g (ψ a))) → Maps χ (x >>= f) (y >>= g)

namespace Coupling

variable {m n : Type → Type} [Monad m] [Monad n] (C : Coupling m n)
variable {α β γ δ ι ι' : Type}

/-- A returned value, where the map of results is known to give the other one. -/
theorem pure' {ψ : α → β} {a : α} {b : β} (h : ψ a = b) :
    C.Maps ψ (Pure.pure a) (Pure.pure b) :=
  h ▸ C.pure ψ a

variable [LawfulMonad m] [LawfulMonad n]

theorem map {ψ : α → β} {χ : γ → δ} {x : m α} {y : n β} {f : α → γ} {g : β → δ}
    (h : C.Maps ψ x y) (hfg : ∀ a, χ (f a) = g (ψ a)) : C.Maps χ (f <$> x) (g <$> y) := by
  rw [map_eq_pure_bind, map_eq_pure_bind]
  exact C.bind h fun a => C.pure' (hfg a)

/-- Computations for the elements of a list, one after the other. -/
theorem mapM {ψ : α → β} (φ : ι → ι') {f : ι → m α} {g : ι' → n β} (l : List ι)
    (h : ∀ i ∈ l, C.Maps ψ (f i) (g (φ i))) :
    C.Maps (List.map ψ) (l.mapM f) ((l.map φ).mapM g) := by
  induction l with
  | nil =>
    rw [List.map_nil, List.mapM_nil, List.mapM_nil]
    exact C.pure' rfl
  | cons i l ih =>
    rw [List.map_cons, List.mapM_cons, List.mapM_cons]
    refine C.bind (h i List.mem_cons_self) fun a => ?_
    refine C.bind (ih fun j hj => h j (List.mem_cons_of_mem _ hj)) fun as => ?_
    exact C.pure' rfl

/-- Computations for the elements of one list. -/
theorem mapM_same {ψ : α → β} {f : ι → m α} {g : ι → n β} (l : List ι)
    (h : ∀ i ∈ l, C.Maps ψ (f i) (g i)) : C.Maps (List.map ψ) (l.mapM f) (l.mapM g) := by
  have hmap := C.mapM (g := g) id l h
  rwa [List.map_id] at hmap

omit [LawfulMonad m] [LawfulMonad n] in
/-- A value that is changed for each element of a list, one after the other. -/
theorem foldlM {ψ : α → β} (φ : ι → ι') {f : α → ι → m α} {g : β → ι' → n β}
    (h : ∀ a i, C.Maps ψ (f a i) (g (ψ a) (φ i))) (l : List ι) (a : α) :
    C.Maps ψ (l.foldlM f a) ((l.map φ).foldlM g (ψ a)) := by
  induction l generalizing a with
  | nil => exact C.pure ψ a
  | cons i l ih =>
    rw [List.map_cons, List.foldlM_cons, List.foldlM_cons]
    exact C.bind (h a i) fun b => ih b

/-- Computations of one monad of which one has the results that a map makes of the other's. -/
def image (m : Type → Type) [Monad m] [LawfulMonad m] : Coupling m m where
  Maps ψ x y := y = ψ <$> x
  pure ψ a := (map_pure ψ a).symm
  bind hx hf := by
    rw [hx, map_bind, bind_map_left]
    exact bind_congr hf

end Coupling

/-! ### Computations that say nothing -/

/-- Computations that say nothing. -/
def Mute (_ : Type) : Type := Unit

instance : Monad Mute where
  pure _ := ()
  bind _ _ := ()

instance : LawfulMonad Mute where
  map_const := rfl
  id_map _ := rfl
  seqLeft_eq _ _ := rfl
  seqRight_eq _ _ := rfl
  pure_seq _ _ := rfl
  bind_pure_comp _ _ := rfl
  bind_map _ _ := rfl
  pure_bind _ _ := rfl
  bind_assoc _ _ _ := rfl

end RouteLint
