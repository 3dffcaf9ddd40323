import Mathlib.Data.List.Forall2
import Mathlib.Data.List.Lex

/-!
# Lists in the order of ranks

What a list holds, and in which order, can be said by a relation between elements and their ranks.
A rank is a list of numbers, and ranks are compared from the left.  A list that is put together from
lists has the ranks of those, each with the position of its list in front; so the order that nested
loops give is the order of ranks.

## Main definitions

* `Ranked` — a list holds the elements of a relation in the order of their ranks.

## Main results

* `Ranked.flatMap` — lists put together.
* `Ranked.of_split`, `Ranked.exists_split` — what stands before an element has smaller ranks.
* `Ranked.find?_eq_some_iff` — the first element with a property is the one of the smallest rank.
-/

namespace RouteLint

/-- A list holds what a relation relates to a rank, in the order of the ranks. -/
def Ranked {α : Type} (R : List Nat → α → Prop) (l : List α) : Prop :=
  ∃ es : List (List Nat × α), es.map Prod.snd = l ∧ (∀ r a, (r, a) ∈ es ↔ R r a) ∧
    es.Pairwise fun x y => x.1 < y.1

namespace Ranked

variable {ι α : Type} {R S : List Nat → α → Prop} {l : List α}

theorem congr (h : Ranked R l) (hRS : ∀ r a, R r a ↔ S r a) : Ranked S l := by
  obtain ⟨es, hl, hmem, hsorted⟩ := h
  exact ⟨es, hl, fun r a => (hmem r a).trans (hRS r a), hsorted⟩

theorem nil : Ranked (fun _ (_ : α) => False) [] :=
  ⟨[], rfl, fun _ _ => List.mem_nil_iff _, .nil⟩

theorem singleton (a : α) : Ranked (fun r b => r = [] ∧ b = a) [a] :=
  ⟨[([], a)], rfl, fun r b => by rw [List.mem_singleton, Prod.mk.injEq],
    List.pairwise_singleton _ _⟩

/-- Lists put together, counted from some number on. -/
theorem flatMapFrom {T : ι → List Nat → α → Prop} {f : ι → List α} (xs : List ι)
    (h : ∀ x ∈ xs, Ranked (T x) (f x)) (n : Nat) :
    Ranked (fun r a => ∃ k x s, xs[k]? = some x ∧ T x s a ∧ r = (n + k) :: s) (xs.flatMap f) := by
  induction xs generalizing n with
  | nil => exact nil.congr fun r a => by simp
  | cons x xs ih =>
    obtain ⟨es, hes, hmem, hsorted⟩ := h x List.mem_cons_self
    obtain ⟨fs, hfs, hmem', hsorted'⟩ := ih (fun y hy => h y (List.mem_cons_of_mem _ hy)) (n + 1)
    refine ⟨es.map (fun e => (n :: e.1, e.2)) ++ fs, ?_, fun r a => ?_, ?_⟩
    · rw [List.map_append, List.map_map, List.flatMap_cons, hfs, ← hes]
      rfl
    · rw [List.mem_append, List.mem_map, hmem']
      constructor
      · rintro (⟨⟨s, b⟩, he, heq⟩ | ⟨k, y, s, hk, hs, rfl⟩)
        · cases heq
          exact ⟨0, x, s, rfl, (hmem s b).1 he, rfl⟩
        · exact ⟨k + 1, y, s, hk, hs, by rw [Nat.add_right_comm, Nat.add_assoc]⟩
      · rintro ⟨k, y, s, hk, hs, rfl⟩
        cases k with
        | zero =>
          cases hk
          exact .inl ⟨(s, a), (hmem s a).2 hs, rfl⟩
        | succ k => exact .inr ⟨k, y, s, hk, hs, by rw [Nat.add_right_comm, Nat.add_assoc]⟩
    · refine List.pairwise_append.2 ⟨List.pairwise_map.2 (hsorted.imp fun hlt => ?_), hsorted', ?_⟩
      · exact List.cons_lt_cons_iff.2 (.inr ⟨rfl, hlt⟩)
      · -- what comes from a later list has a greater number in front
        intro e he f hf
        obtain ⟨e', -, rfl⟩ := List.mem_map.1 he
        obtain ⟨k, y, s, -, -, hrank⟩ := (hmem' f.1 f.2).1 hf
        rw [hrank]
        exact List.cons_lt_cons_iff.2 (.inl (by omega))

/-- **Lists put together**: the position of a list comes in front of the ranks in it. -/
theorem flatMap {T : ι → List Nat → α → Prop} {f : ι → List α} {xs : List ι}
    (h : ∀ x ∈ xs, Ranked (T x) (f x)) :
    Ranked (fun r a => ∃ k x s, xs[k]? = some x ∧ T x s a ∧ r = k :: s) (xs.flatMap f) :=
  (flatMapFrom xs h 0).congr fun r a => by simp only [Nat.zero_add]

/-- Lists with relations of their own, put together. -/
theorem flatten {Rs : List (List Nat → α → Prop)} {ls : List (List α)}
    (h : List.Forall₂ Ranked Rs ls) :
    Ranked (fun r a => ∃ k R s, Rs[k]? = some R ∧ R s a ∧ r = k :: s) ls.flatten := by
  have hpairs : ∀ x ∈ Rs.zip ls, Ranked x.1 x.2 := fun x hx =>
    (List.forall₂_iff_zip.1 h).2 hx
  have hlength := h.length_eq
  rw [← List.map_snd_zip hlength.ge, ← List.flatMap_def]
  refine (flatMap hpairs).congr fun r a => ⟨?_, ?_⟩
  · rintro ⟨k, x, s, hk, hx, rfl⟩
    refine ⟨k, x.1, s, ?_, hx, rfl⟩
    rw [← List.map_fst_zip hlength.le, List.getElem?_map, hk]
    rfl
  · rintro ⟨k, R, s, hk, hR, rfl⟩
    rw [← List.map_fst_zip hlength.le, List.getElem?_map, Option.map_eq_some_iff] at hk
    obtain ⟨x, hx, rfl⟩ := hk
    exact ⟨k, x, s, hx, hR, rfl⟩

/-- Two lists, one after the other. -/
theorem append {l' : List α} (hR : Ranked R l) (hS : Ranked S l') :
    Ranked (fun r a => (∃ s, R s a ∧ r = 0 :: s) ∨ ∃ s, S s a ∧ r = 1 :: s) (l ++ l') := by
  have happend := flatten (.cons hR (.cons hS .nil))
  rw [List.flatten_cons, List.flatten_singleton] at happend
  refine happend.congr fun r a => ⟨?_, ?_⟩
  · rintro ⟨k, R', s, hk, hs, rfl⟩
    match k, hk with
    | 0, rfl => exact .inl ⟨s, hs, rfl⟩
    | 1, rfl => exact .inr ⟨s, hs, rfl⟩
  · rintro (⟨s, hs, rfl⟩ | ⟨s, hs, rfl⟩)
    · exact ⟨0, _, s, rfl, hs, rfl⟩
    · exact ⟨1, _, s, rfl, hs, rfl⟩

/-- The positions in a list are ranks. -/
theorem map (f : ι → α) (xs : List ι) :
    Ranked (fun r a => ∃ k x, xs[k]? = some x ∧ r = [k] ∧ a = f x) (xs.map f) := by
  rw [List.map_eq_flatMap]
  refine (flatMap fun x _ => singleton (f x)).congr fun r a => ?_
  constructor
  · rintro ⟨k, x, s, hk, ⟨rfl, rfl⟩, rfl⟩
    exact ⟨k, x, hk, rfl, rfl⟩
  · rintro ⟨k, x, hk, rfl, rfl⟩
    exact ⟨k, x, [], hk, ⟨rfl, rfl⟩, rfl⟩

/-- An element of the list has a rank, and all that has a smaller one stands before it. -/
theorem of_split (h : Ranked R l) {before after : List α} {a : α} (hl : l = before ++ a :: after) :
    ∃ r, R r a ∧ ∀ s b, R s b → s < r → b ∈ before := by
  obtain ⟨es, hes, hmem, hsorted⟩ := h
  rw [hl, List.map_eq_append_iff] at hes
  obtain ⟨es₁, es₂, rfl, rfl, hes₂⟩ := hes
  obtain ⟨⟨r, b⟩, es₃, rfl, rfl, rfl⟩ := List.map_eq_cons_iff.1 hes₂
  refine ⟨r, (hmem _ _).1 (List.mem_append_right _ List.mem_cons_self), fun s c hc hlt => ?_⟩
  rcases List.mem_append.1 ((hmem s c).2 hc) with hin | hin
  · exact List.mem_map_of_mem (f := Prod.snd) hin
  · rcases List.mem_cons.1 hin with heq | hin
    · cases heq
      exact absurd hlt (lt_irrefl r)
    · have hafter := (List.pairwise_cons.1 (List.pairwise_append.1 hsorted).2.1).1 _ hin
      exact absurd hlt (lt_asymm hafter)

/-- What has a rank is in the list, and all that stands before it has a smaller one. -/
theorem exists_split (h : Ranked R l) {r : List Nat} {a : α} (ha : R r a) :
    ∃ before after, l = before ++ a :: after ∧ ∀ b ∈ before, ∃ s, R s b ∧ s < r := by
  obtain ⟨es, rfl, hmem, hsorted⟩ := h
  obtain ⟨es₁, es₂, rfl⟩ := List.append_of_mem ((hmem r a).2 ha)
  refine ⟨es₁.map Prod.snd, es₂.map Prod.snd, List.map_append, fun b hb => ?_⟩
  obtain ⟨⟨s, b⟩, he, rfl⟩ := List.mem_map.1 hb
  exact ⟨s, (hmem s b).1 (List.mem_append_left _ he),
    (List.pairwise_append.1 hsorted).2.2 _ he _ List.mem_cons_self⟩

/-- A rank belongs to one element. -/
theorem unique (h : Ranked R l) {r : List Nat} {a b : α} (ha : R r a) (hb : R r b) : a = b := by
  obtain ⟨es, -, hmem, hsorted⟩ := h
  obtain ⟨es₁, es₂, rfl⟩ := List.append_of_mem ((hmem r a).2 ha)
  obtain ⟨-, hsorted₂, hbefore⟩ := List.pairwise_append.1 hsorted
  rcases List.mem_append.1 ((hmem r b).2 hb) with hin | hin
  · exact absurd (hbefore _ hin _ List.mem_cons_self) (lt_irrefl r)
  · rcases List.mem_cons.1 hin with heq | hin
    · cases heq
      rfl
    · exact absurd ((List.pairwise_cons.1 hsorted₂).1 _ hin) (lt_irrefl r)

/-- **The first element with a property is the one of the smallest rank.** -/
theorem find?_eq_some_iff (h : Ranked R l) {p : α → Bool} {a : α} :
    l.find? p = some a ↔
      ∃ r, R r a ∧ p a = true ∧ ∀ s b, R s b → s < r → p b = false := by
  rw [List.find?_eq_some_iff_append]
  constructor
  · rintro ⟨ha, before, after, hl, hbefore⟩
    obtain ⟨r, hr, hearlier⟩ := h.of_split hl
    exact ⟨r, hr, ha, fun s b hs hlt => by simpa using hbefore b (hearlier s b hs hlt)⟩
  · rintro ⟨r, hr, ha, hearlier⟩
    obtain ⟨before, after, hl, hbefore⟩ := h.exists_split hr
    refine ⟨ha, before, after, hl, fun b hb => ?_⟩
    obtain ⟨s, hs, hlt⟩ := hbefore b hb
    rw [hearlier s b hs hlt]
    rfl

theorem mem_iff (h : Ranked R l) {a : α} : a ∈ l ↔ ∃ r, R r a := by
  obtain ⟨es, rfl, hmem, -⟩ := h
  rw [List.mem_map]
  constructor
  · rintro ⟨⟨r, b⟩, he, rfl⟩
    exact ⟨r, (hmem r b).1 he⟩
  · rintro ⟨r, ha⟩
    exact ⟨(r, a), (hmem r a).2 ha, rfl⟩

end Ranked

end RouteLint
