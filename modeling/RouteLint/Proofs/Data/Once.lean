import Mathlib.Data.List.Nodup

/-!
# Lists without repetitions

Something is put at the end of a list unless the list holds it.  A list built in this way has the
elements that were put into it, each once and in the order in which they first came.

## Main definitions

* `putOnce`, `once` — putting one element, and putting all elements of a list.

## Main results

* `mem_once`, `nodup_once` — every element, and each once.
-/

namespace RouteLint

variable {α : Type} [DecidableEq α]

/-- Put an element at the end of a list unless the list holds it. -/
def putOnce (l : List α) (a : α) : List α := if l.contains a then l else l ++ [a]

/-- The elements of a list, each once and in the order in which they first come. -/
def once (l : List α) : List α := l.foldl putOnce []

@[simp] theorem once_nil : once ([] : List α) = [] := rfl

theorem once_append_singleton (l : List α) (a : α) : once (l ++ [a]) = putOnce (once l) a := by
  rw [once, List.foldl_append]
  rfl

theorem once_append (l l' : List α) : once (l ++ l') = l'.foldl putOnce (once l) :=
  List.foldl_append

theorem prefix_foldl_putOnce (l before : List α) : before <+: l.foldl putOnce before := by
  induction l generalizing before with
  | nil => exact List.prefix_refl _
  | cons a l ih =>
    refine List.IsPrefix.trans ?_ (ih (putOnce before a))
    unfold putOnce
    split
    · exact List.prefix_refl _
    · exact List.prefix_append _ _

@[simp] theorem mem_putOnce {l : List α} {a x : α} : x ∈ putOnce l a ↔ x ∈ l ∨ x = a := by
  unfold putOnce
  split
  · next h =>
    rw [List.contains_iff_mem] at h
    exact ⟨.inl, fun hx => hx.elim id fun hxa => hxa ▸ h⟩
  · rw [List.mem_append, List.mem_singleton]

theorem nodup_putOnce {l : List α} (h : l.Nodup) (a : α) : (putOnce l a).Nodup := by
  unfold putOnce
  split
  · exact h
  · next hmem =>
    rw [List.contains_iff_mem] at hmem
    exact h.append (List.nodup_singleton a) (List.disjoint_singleton.2 hmem)

theorem mem_foldl_putOnce {l before : List α} {x : α} :
    x ∈ l.foldl putOnce before ↔ x ∈ before ∨ x ∈ l := by
  induction l generalizing before with
  | nil => rw [List.foldl_nil, or_iff_left List.not_mem_nil]
  | cons a l ih => rw [List.foldl_cons, ih, mem_putOnce, List.mem_cons, or_assoc]

theorem mem_once {l : List α} {x : α} : x ∈ once l ↔ x ∈ l := by
  rw [once, mem_foldl_putOnce, or_iff_right List.not_mem_nil]

theorem nodup_once (l : List α) : (once l).Nodup := by
  have h : ∀ before : List α, before.Nodup → (l.foldl putOnce before).Nodup := by
    induction l with
    | nil => exact fun _ h => h
    | cons a l ih => exact fun before h => ih _ (nodup_putOnce h a)
  exact h [] List.nodup_nil

/-- What is put into a list stands after what was there, in its order. -/
theorem foldl_putOnce_eq {l : List α} (h : l.Nodup) (before : List α) :
    l.foldl putOnce before = before ++ l.filter fun a => !before.contains a := by
  induction l generalizing before with
  | nil => rw [List.foldl_nil, List.filter_nil, List.append_nil]
  | cons a l ih =>
    obtain ⟨ha, hl⟩ := List.nodup_cons.1 h
    rw [List.foldl_cons, ih hl, List.filter_cons]
    by_cases hmem : before.contains a = true
    · rw [putOnce, if_pos hmem, if_neg (by simp only [hmem]; decide)]
    · have hfilter : (l.filter fun x => !(before ++ [a]).contains x) =
          l.filter fun x => !before.contains x := by
        refine List.filter_congr fun x hx => ?_
        have hxa : x ≠ a := fun hxa => ha (hxa ▸ hx)
        simp [hxa]
      rw [putOnce, if_neg hmem, if_pos (by simpa using hmem), hfilter, List.append_assoc,
        List.singleton_append]

theorem once_eq_nil {l : List α} : once l = [] ↔ l = [] := by
  rw [List.eq_nil_iff_forall_not_mem, List.eq_nil_iff_forall_not_mem]
  exact forall_congr' fun x => not_congr mem_once

end RouteLint
