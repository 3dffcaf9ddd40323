import Mathlib.Data.List.Forall2

/-!
# Computations that may fail

Where computations for the elements of a list may fail, all of them succeed or the first failure is
the failure of the whole.  What is said here is how such lists of computations are taken apart and
put together.

## Main results

* `mapM_eq_ok`, `mapM_eq_error` — when computations for the elements of a list succeed.
* `forall₂_of_mapM_eq_ok`, `ok_of_mapM_eq_ok` — what is known if they do.
* `mapM_flatMap_except` — lists of lists.
-/

namespace RouteLint

theorem except_bind_of_ok {ε α β : Type} {x : Except ε α} {a : α} (h : x = .ok a)
    (f : α → Except ε β) : x >>= f = f a := by
  rw [h]
  rfl

theorem except_bind_of_error {ε α β : Type} {x : Except ε α} {err : ε} (h : x = .error err)
    (f : α → Except ε β) : x >>= f = .error err := by
  rw [h]
  rfl

theorem except_bind_eq_ok {ε α β : Type} {x : Except ε α} {f : α → Except ε β} {b : β}
    (h : x >>= f = .ok b) : ∃ a, x = .ok a ∧ f a = .ok b := by
  cases x with
  | error err => cases h
  | ok a => exact ⟨a, rfl, h⟩

theorem except_bind_ne_error {ε α β : Type} {x : Except ε α} {f : α → Except ε β} {err : ε}
    (hx : x ≠ .error err) (hf : ∀ a, f a ≠ .error err) : x >>= f ≠ .error err := by
  intro h
  cases x with
  | error err' =>
    cases h
    exact hx rfl
  | ok a => exact hf a h

theorem except_ok_of_toOption {ε α : Type} {x : Except ε α} {a : α} (h : x.toOption = some a) :
    x = .ok a := by
  cases x with
  | error e => cases h
  | ok b =>
    cases h
    rfl

theorem mapM_map_except {ε ι α β : Type} (ψ : α → β) (g : ι → Except ε α) (l : List ι) :
    (l.mapM fun i => (g i).map ψ) = (l.mapM g).map (List.map ψ) := by
  induction l with
  | nil => rfl
  | cons i l ih =>
    rw [List.mapM_cons, List.mapM_cons, ih]
    cases g i with
    | error err => rfl
    | ok a => cases l.mapM g <;> rfl

theorem except_ok_of_map {ε α β : Type} {x : Except ε α} {ψ : α → β} {y : β}
    (h : x.map ψ = .ok y) : ∃ a, x = .ok a ∧ ψ a = y := by
  cases x with
  | error err => cases h
  | ok a => exact ⟨a, rfl, Except.ok.inj h⟩

theorem except_error_of_map {ε α β : Type} {x : Except ε α} {ψ : α → β} {err : ε}
    (h : x.map ψ = .error err) : ∃ err, x = .error err := by
  cases x with
  | error err' => exact ⟨err', rfl⟩
  | ok a => cases h

/-- Computations for the elements of lists, list by list or all in one list. -/
theorem mapM_flatMap_except {ε ι κ α β : Type} (f : ι → List κ) (g : κ → Except ε α)
    (F : α → Option β) (l : List ι) :
    (l.mapM fun i => ((f i).mapM g).map (List.filterMap F)).map List.flatten =
      ((l.flatMap f).mapM g).map (List.filterMap F) := by
  induction l with
  | nil => rfl
  | cons i l ih =>
    rw [List.flatMap_cons, List.mapM_append, List.mapM_cons]
    cases (f i).mapM g with
    | error err => rfl
    | ok as =>
      cases hrest : (l.flatMap f).mapM g with
      | error err =>
        rw [hrest] at ih
        cases hl : l.mapM fun i => ((f i).mapM g).map (List.filterMap F) <;> rw [hl] at ih <;>
          cases ih
        rfl
      | ok bs =>
        rw [hrest] at ih
        cases hl : l.mapM fun i => ((f i).mapM g).map (List.filterMap F) with
        | error err =>
          rw [hl] at ih
          cases ih
        | ok yss =>
          rw [hl] at ih
          have hflat : yss.flatten = bs.filterMap F := Except.ok.inj ih
          show Except.ok (as.filterMap F ++ yss.flatten) = Except.ok ((as ++ bs).filterMap F)
          rw [hflat, List.filterMap_append]

/-- Computations that all succeed. -/
theorem mapM_eq_ok {ε ι α : Type} {f : ι → Except ε α} {l : List ι}
    (h : ∀ i ∈ l, ∃ a, f i = .ok a) : l.mapM f = .ok (l.filterMap fun i => (f i).toOption) := by
  induction l with
  | nil => rfl
  | cons i l ih =>
    obtain ⟨a, ha⟩ := h i List.mem_cons_self
    rw [List.mapM_cons, ih fun j hj => h j (List.mem_cons_of_mem _ hj), List.filterMap_cons, ha]
    rfl

theorem mapM_eq_map_of_ok {ε ι α : Type} {f : ι → Except ε α} {g : ι → α} {l : List ι}
    (h : ∀ i ∈ l, f i = .ok (g i)) : l.mapM f = .ok (l.map g) := by
  induction l with
  | nil => rfl
  | cons i l ih =>
    rw [List.mapM_cons, except_bind_of_ok (h i List.mem_cons_self),
      except_bind_of_ok (ih fun j hj => h j (List.mem_cons_of_mem _ hj))]
    rfl

/-- Computations that return what they are made for. -/
theorem mapM_map_eq_ok {ε ι α : Type} {f : ι → Except ε α} {g : α → ι} {l : List α}
    (h : ∀ a ∈ l, f (g a) = .ok a) : (l.map g).mapM f = .ok l := by
  induction l with
  | nil => rfl
  | cons a l ih =>
    rw [List.map_cons, List.mapM_cons, h a List.mem_cons_self,
      ih fun b hb => h b (List.mem_cons_of_mem _ hb)]
    rfl

/-- What computations that succeed return. -/
theorem forall₂_of_mapM_eq_ok {ε ι α : Type} {f : ι → Except ε α} {l : List ι} {as : List α}
    (h : l.mapM f = .ok as) : List.Forall₂ (fun i a => f i = .ok a) l as := by
  induction l generalizing as with
  | nil =>
    cases h
    exact .nil
  | cons i l ih =>
    rw [List.mapM_cons] at h
    obtain ⟨a, ha, h⟩ := except_bind_eq_ok h
    obtain ⟨bs, hbs, h⟩ := except_bind_eq_ok h
    cases h
    exact .cons ha (ih hbs)

theorem mapM_eq_ok_iff {ε ι α : Type} {f : ι → Except ε α} {l : List ι} {as : List α} :
    l.mapM f = .ok as ↔ List.Forall₂ (fun i a => f i = .ok a) l as := by
  refine ⟨forall₂_of_mapM_eq_ok, fun h => ?_⟩
  induction h with
  | nil => rfl
  | cons ha _ ih =>
    rw [List.mapM_cons, except_bind_of_ok ha, except_bind_of_ok ih]
    rfl

theorem exists_left_of_forall₂ {α β : Type} {R : α → β → Prop} {l : List α} {l' : List β}
    (h : List.Forall₂ R l l') {b : β} (hb : b ∈ l') : ∃ a ∈ l, R a b := by
  induction h with
  | nil => exact absurd hb List.not_mem_nil
  | cons hab _ ih =>
    rcases List.mem_cons.1 hb with rfl | hb
    · exact ⟨_, List.mem_cons_self, hab⟩
    · obtain ⟨a, ha, hR⟩ := ih hb
      exact ⟨a, List.mem_cons_of_mem _ ha, hR⟩

theorem forall₂_mem {α β : Type} {R : α → β → Prop} {l : List α} {l' : List β}
    (h : List.Forall₂ R l l') : List.Forall₂ (fun a b => a ∈ l ∧ b ∈ l' ∧ R a b) l l' := by
  induction h with
  | nil => exact .nil
  | cons hab _ ih =>
    refine .cons ⟨List.mem_cons_self, List.mem_cons_self, hab⟩ (ih.imp fun a b hR => ?_)
    exact ⟨List.mem_cons_of_mem _ hR.1, List.mem_cons_of_mem _ hR.2.1, hR.2.2⟩

/-- Computations of which one fails. -/
theorem mapM_eq_error {ε ι α : Type} {f : ι → Except ε α} {l : List ι} {i : ι} (hi : i ∈ l)
    {err : ε} (h : f i = .error err) : ∃ err, l.mapM f = .error err := by
  induction l with
  | nil => exact absurd hi List.not_mem_nil
  | cons j l ih =>
    rw [List.mapM_cons]
    cases hj : f j with
    | error err' => exact ⟨err', rfl⟩
    | ok a =>
      rcases List.mem_cons.1 hi with rfl | hi
      · rw [h] at hj
        cases hj
      · obtain ⟨err', hl⟩ := ih hi
        exact ⟨err', by rw [hl]; rfl⟩

theorem mapM_congr_except {ε ι α : Type} {f g : ι → Except ε α} {l : List ι}
    (h : ∀ i ∈ l, f i = g i) : l.mapM f = l.mapM g := by
  induction l with
  | nil => rfl
  | cons i l ih =>
    rw [List.mapM_cons, List.mapM_cons, h i List.mem_cons_self,
      ih fun j hj => h j (List.mem_cons_of_mem _ hj)]

/-- If computations fail as one, one of them fails so. -/
theorem exists_of_mapM_eq_error {ε ι α : Type} {f : ι → Except ε α} {l : List ι} {err : ε}
    (h : l.mapM f = .error err) : ∃ i ∈ l, f i = .error err := by
  induction l with
  | nil => cases h
  | cons i l ih =>
    rw [List.mapM_cons] at h
    cases hi : f i with
    | error err' =>
      rw [hi] at h
      cases h
      exact ⟨i, List.mem_cons_self, hi⟩
    | ok a =>
      rw [except_bind_of_ok hi] at h
      cases hl : l.mapM f with
      | error err' =>
        rw [hl] at h
        cases h
        obtain ⟨j, hj, hfj⟩ := ih hl
        exact ⟨j, List.mem_cons_of_mem _ hj, hfj⟩
      | ok as =>
        rw [hl] at h
        cases h

/-- Computations whose results are put together one after the other. -/
theorem foldlM_eq_mapM {ε ι α β : Type} (f : ι → Except ε α) (g : β → α → β) (l : List ι) (b : β) :
    l.foldlM (fun before i => do return g before (← f i)) b =
      (fun as : List α => as.foldl g b) <$> l.mapM f := by
  induction l generalizing b with
  | nil => rfl
  | cons i l ih =>
    rw [List.foldlM_cons, List.mapM_cons]
    cases f i with
    | error err => rfl
    | ok a =>
      show l.foldlM _ (g b a) = _
      rw [ih]
      cases l.mapM f <;> rfl

/-- If all computations succeed each of them does. -/
theorem ok_of_mapM_eq_ok {ε ι α : Type} {f : ι → Except ε α} {l : List ι} {as : List α}
    (h : l.mapM f = .ok as) : ∀ i ∈ l, ∃ a, f i = .ok a := by
  intro i hi
  cases hfi : f i with
  | ok a => exact ⟨a, rfl⟩
  | error err =>
    obtain ⟨err', herr⟩ := mapM_eq_error hi hfi
    rw [h] at herr
    cases herr

theorem map_filterMap_toOption {ε ι α : Type} {f : ι → Except ε α} {g : α → ι} {l : List ι}
    (h : ∀ i ∈ l, ∃ a, f i = .ok a ∧ g a = i) :
    (l.filterMap fun i => (f i).toOption).map g = l := by
  induction l with
  | nil => rfl
  | cons i l ih =>
    obtain ⟨a, ha, hg⟩ := h i List.mem_cons_self
    rw [List.filterMap_cons, ha]
    show g a :: _ = i :: l
    rw [hg, ih fun j hj => h j (List.mem_cons_of_mem _ hj)]

end RouteLint
