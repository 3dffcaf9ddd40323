import Mathlib.Data.List.Basic
import RouteLint.Path

/-!
# Texts with slashes

A text falls apart at its slashes and is put together again from its pieces.  What stands before a
slash and what stands after it are split by themselves, so the parts of a path that is written below
another one are the parts of both.

## Main results

* `Path.splitSlash_append_slash` — a slash between two texts.
* `Path.intercalate_splitSlash`, `Path.splitSlash_intercalate` — splitting and joining.
* `Path.partsOf_below` — **the parts of a path below another one.**
-/

namespace RouteLint.Path

theorem splitSlash_ne_nil (cs : List Char) : splitSlash cs ≠ [] := by
  cases cs with
  | nil => simp [splitSlash]
  | cons c cs =>
    rw [splitSlash]
    split
    · simp
    · split <;> simp

@[simp] theorem splitSlash_slash (cs : List Char) :
    splitSlash ('/' :: cs) = [] :: splitSlash cs := if_pos rfl

/-- A character other than a slash belongs to the first piece. -/
theorem splitSlash_cons {c : Char} (hc : c ≠ '/') {cs w : List Char} {ws : List (List Char)}
    (h : splitSlash cs = w :: ws) : splitSlash (c :: cs) = (c :: w) :: ws := by
  rw [splitSlash, if_neg hc, h]

theorem splitSlash_append_slash (as bs : List Char) :
    splitSlash (as ++ '/' :: bs) = splitSlash as ++ splitSlash bs := by
  induction as with
  | nil => exact splitSlash_slash bs
  | cons c cs ih =>
    by_cases hc : c = '/'
    · subst hc
      rw [List.cons_append, splitSlash_slash, splitSlash_slash, ih, List.cons_append]
    · obtain ⟨w, ws, hws⟩ := List.exists_cons_of_ne_nil (splitSlash_ne_nil cs)
      rw [hws, List.cons_append] at ih
      rw [List.cons_append, splitSlash_cons hc ih, splitSlash_cons hc hws, List.cons_append]

theorem splitSlash_of_not_mem {cs : List Char} (h : '/' ∉ cs) : splitSlash cs = [cs] := by
  induction cs with
  | nil => rfl
  | cons c cs ih =>
    rw [List.mem_cons, not_or] at h
    exact splitSlash_cons (Ne.symm h.1) (ih h.2)

theorem not_mem_of_mem_splitSlash {cs w : List Char} (h : w ∈ splitSlash cs) : '/' ∉ w := by
  induction cs generalizing w with
  | nil =>
    rw [List.mem_singleton.1 h]
    exact List.not_mem_nil
  | cons c cs ih =>
    by_cases hc : c = '/'
    · subst hc
      rw [splitSlash_slash] at h
      rcases List.mem_cons.1 h with rfl | h
      · exact List.not_mem_nil
      · exact ih h
    · obtain ⟨v, vs, hvs⟩ := List.exists_cons_of_ne_nil (splitSlash_ne_nil cs)
      rw [splitSlash_cons hc hvs] at h
      rw [hvs] at ih
      rcases List.mem_cons.1 h with rfl | h
      · rw [List.mem_cons, not_or]
        exact ⟨Ne.symm hc, ih List.mem_cons_self⟩
      · exact ih (List.mem_cons_of_mem _ h)

/-- A text is put together again from its pieces. -/
theorem intercalate_splitSlash (cs : List Char) :
    List.intercalate ['/'] (splitSlash cs) = cs := by
  induction cs with
  | nil => rfl
  | cons c cs ih =>
    obtain ⟨w, ws, hws⟩ := List.exists_cons_of_ne_nil (splitSlash_ne_nil cs)
    by_cases hc : c = '/'
    · subst hc
      rw [splitSlash_slash, hws, List.intercalate_cons_cons, ← hws, ih]
      rfl
    · rw [splitSlash_cons hc hws]
      rw [hws] at ih
      cases ws with
      | nil => simpa using ih
      | cons v ws =>
        rw [List.intercalate_cons_cons] at ih ⊢
        rw [List.cons_append, List.cons_append, ih]

/-- The pieces that a text is put together from are those that it falls apart into. -/
theorem splitSlash_intercalate {ws : List (List Char)} (hne : ws ≠ [])
    (hws : ∀ w ∈ ws, '/' ∉ w) : splitSlash (List.intercalate ['/'] ws) = ws := by
  induction ws with
  | nil => exact absurd rfl hne
  | cons w ws ih =>
    rw [List.forall_mem_cons] at hws
    cases ws with
    | nil => simpa using splitSlash_of_not_mem hws.1
    | cons v ws =>
      rw [List.intercalate_cons_cons, List.append_assoc, List.singleton_append,
        splitSlash_append_slash, splitSlash_of_not_mem hws.1, ih (List.cons_ne_nil _ _) hws.2]
      rfl

/-- The parts of a path below another one. -/
theorem partsOf_below (dir rel : String) :
    partsOf (dir ++ "/" ++ rel) = partsOf dir ++ partsOf rel := by
  have hchars : (dir ++ "/" ++ rel).toList = dir.toList ++ '/' :: rel.toList := by simp
  unfold partsOf
  rw [hchars, splitSlash_append_slash, List.map_append, List.filter_append]

end RouteLint.Path
