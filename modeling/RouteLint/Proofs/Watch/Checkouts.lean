import Mathlib.Data.List.TakeWhile
import RouteLint.Proofs.Text.Slashes
import RouteLint.Watch.Filter

/-!
# Where a watched directory lies

A change is told about by its whole path, and every part of that path is looked at.  So the
directories above the one that is watched count as well: if one of them has the name of a directory
in which nothing matters, no change below matters, and otherwise a change matters exactly if it would
as seen from the watched directory.

Two copies of a project are therefore watched alike exactly if both lie below such a directory or
neither does.

## Main definitions

* `Change.IsClear` — directories that are not below one in which nothing matters.

## Main results

* `Change.isRelevant_below` — which changes below a directory matter.
* `Change.watched_alike_iff` — **when two copies of a project are watched alike.**
* `Change.watched_otherwise` — a copy of which no change matters.
-/

namespace RouteLint

open RouteLint.Path

/-! ### Names -/

/-- Whether a file can be analysed is told by its name. -/
theorem Language.isSource_congr {p q : Path} (h : p.name = q.name) : isSource p = isSource q := by
  unfold isSource ofPath suffix
  rw [h]

theorem Path.name_parse_below (dir : String) {rel : String} (hrel : partsOf rel ≠ []) :
    (parse (dir ++ "/" ++ rel)).name = (parse rel).name := by
  show ((partsOf (dir ++ "/" ++ rel)).getLast?).getD "" = ((partsOf rel).getLast?).getD ""
  rw [partsOf_below, List.getLast?_append_of_ne_nil _ hrel]

/-! ### Parts of a path as it was told -/

/-- Slashes in front of a text. -/
theorem splitSlash_dropWhile (cs : List Char) : ∃ n,
    splitSlash cs = List.replicate n [] ++ splitSlash (cs.dropWhile (· = '/')) := by
  induction cs with
  | nil => exact ⟨0, rfl⟩
  | cons c cs ih =>
    by_cases hc : c = '/'
    · obtain ⟨n, hn⟩ := ih
      refine ⟨n + 1, ?_⟩
      subst hc
      rw [splitSlash_slash, hn, List.dropWhile_cons_of_pos (by simp)]
      rfl
    · exact ⟨0, by rw [List.dropWhile_cons_of_neg (by simpa using hc)]; rfl⟩

theorem toldParts_ne_nil (path : String) : toldParts path ≠ [] := by
  unfold toldParts
  rw [ne_eq, List.map_eq_nil_iff]
  exact splitSlash_ne_nil _

/-- The parts that are told of a path below a directory: those of the directory, unless it is written
with slashes only, and those of the rest, perhaps with empty ones before them. -/
theorem toldParts_below (dir rel : String) : ∃ n before,
    toldParts (dir ++ "/" ++ rel) = before ++ (List.replicate n "" ++ toldParts rel) ∧
      (before = toldParts dir ∨ before = [] ∧ toldParts dir = [""]) := by
  have hchars : (dir ++ "/" ++ rel).toList = dir.toList ++ '/' :: rel.toList := by simp
  unfold toldParts
  rw [hchars]
  by_cases hdir : ∀ c ∈ dir.toList, c = '/'
  · -- the slashes before the rest are passed over together
    refine ⟨0, [], ?_, .inr ⟨rfl, ?_⟩⟩
    · rw [List.dropWhile_append_of_pos (by simpa using hdir),
        List.dropWhile_cons_of_pos (by simp)]
      rfl
    · rw [List.dropWhile_eq_nil_iff.2 (by simpa using hdir)]
      rfl
  · obtain ⟨n, hn⟩ := splitSlash_dropWhile rel.toList
    refine ⟨n, _, ?_, .inl rfl⟩
    have hne : dir.toList.dropWhile (· = '/') ≠ [] := by
      rw [ne_eq, List.dropWhile_eq_nil_iff]
      simpa using hdir
    rw [List.dropWhile_append, if_neg (by simpa using hne), splitSlash_append_slash, hn,
      List.map_append, List.map_append, List.map_replicate]

theorem getLast?_toldParts_below (dir rel : String) :
    (toldParts (dir ++ "/" ++ rel)).getLast? = (toldParts rel).getLast? := by
  obtain ⟨n, before, hparts, -⟩ := toldParts_below dir rel
  rw [hparts, ← List.append_assoc, List.getLast?_append_of_ne_nil _ (toldParts_ne_nil rel)]

namespace Change

/-- A directory that neither is one in which nothing matters nor lies below one. -/
def IsClear (dir : String) : Prop := ∀ part ∈ toldParts dir, part ∉ ignoredDirectories

instance (dir : String) : Decidable (IsClear dir) :=
  inferInstanceAs (Decidable (∀ part ∈ toldParts dir, part ∉ ignoredDirectories))

theorem isClear_of_any_eq_false {dir : String} :
    (toldParts dir).any ignoredDirectories.contains = false ↔ IsClear dir := by
  unfold IsClear
  simp

theorem any_toldParts_below (dir rel : String) :
    (toldParts (dir ++ "/" ++ rel)).any ignoredDirectories.contains =
      ((toldParts dir).any ignoredDirectories.contains ||
        (toldParts rel).any ignoredDirectories.contains) := by
  have hempty : ∀ n, (List.replicate n "").any ignoredDirectories.contains = false := by
    intro n
    rw [List.any_eq_false]
    intro part hpart
    rw [List.eq_of_mem_replicate hpart]
    decide
  obtain ⟨n, before, hparts, hbefore⟩ := toldParts_below dir rel
  rw [hparts, List.any_append, List.any_append, hempty, Bool.false_or]
  rcases hbefore with rfl | ⟨rfl, hdir⟩
  · rfl
  · rw [hdir]
    rfl

/-- **Which changes below a directory matter.** -/
theorem isRelevant_below (kind : ChangeKind) (dir : String) {rel : String}
    (hrel : partsOf rel ≠ []) :
    isRelevant ⟨kind, dir ++ "/" ++ rel⟩ = true ↔ IsClear dir ∧ isRelevant ⟨kind, rel⟩ = true := by
  unfold isRelevant
  dsimp only
  rw [Language.isSource_congr (name_parse_below dir hrel), any_toldParts_below,
    getLast?_toldParts_below, ← isClear_of_any_eq_false]
  cases (toldParts dir).any ignoredDirectories.contains <;> simp

/-- Nothing matters below a directory that is not clear. -/
theorem isRelevant_below_eq_false {dir : String} (hdir : ¬IsClear dir) (kind : ChangeKind)
    (rel : String) : isRelevant ⟨kind, dir ++ "/" ++ rel⟩ = false := by
  rw [← isClear_of_any_eq_false, Bool.not_eq_false] at hdir
  unfold isRelevant
  dsimp only
  rw [any_toldParts_below, hdir]
  simp

/-- **When two copies of a project are watched alike**: if both lie below directories in which
nothing matters, or neither does.  Then the same changes matter in both: none at all, or those that
would as seen from the project.  (The root directory is written as the empty text here.) -/
theorem watched_alike_iff (d₁ d₂ : String) :
    ((∀ kind rel, partsOf rel ≠ [] →
        (isRelevant ⟨kind, d₁ ++ "/" ++ rel⟩ = true ↔ isRelevant ⟨kind, d₂ ++ "/" ++ rel⟩ = true)) ↔
      (IsClear d₁ ↔ IsClear d₂)) ∧
    (IsClear d₁ → ∀ kind rel, partsOf rel ≠ [] →
      isRelevant ⟨kind, d₁ ++ "/" ++ rel⟩ = isRelevant ⟨kind, rel⟩) ∧
    (¬IsClear d₁ → ∀ kind rel, isRelevant ⟨kind, d₁ ++ "/" ++ rel⟩ = false) := by
  refine ⟨⟨fun halike => ?_, fun hclear kind rel hrel => ?_⟩, fun hclear kind rel hrel => ?_,
    isRelevant_below_eq_false⟩
  · -- a source file right in the project
    have hsource : partsOf "a.ts" ≠ [] ∧ isRelevant ⟨.modified, "a.ts"⟩ = true := by decide
    have hfile := halike .modified "a.ts" hsource.1
    rwa [isRelevant_below _ _ hsource.1, isRelevant_below _ _ hsource.1, and_iff_left hsource.2,
      and_iff_left hsource.2] at hfile
  · rw [isRelevant_below _ _ hrel, isRelevant_below _ _ hrel, hclear]
  · rw [Bool.eq_iff_iff, isRelevant_below _ _ hrel, and_iff_right hclear]

/-- A change in a project, and the same change in a copy of the project below a directory that has
the name of one for built output. -/
theorem watched_otherwise :
    isRelevant ⟨.modified, "/home" ++ "/" ++ "app/api/a/route.ts"⟩ = true ∧
      isRelevant ⟨.modified, "/build" ++ "/" ++ "app/api/a/route.ts"⟩ = false := by
  decide

end Change

end RouteLint
