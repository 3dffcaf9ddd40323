import Mathlib.Data.List.Induction
import Mathlib.Data.List.TakeWhile
import RouteLint.Glob.Pattern
import RouteLint.Proofs.Text.Slashes

/-!
# The segments of a pattern

A pattern is read from its end: one segment after the other is taken off as long as there is a
wildcard in what is left.  If no segment is empty, this comes to the same as reading it from the
front: the segments up to the first one with a wildcard are an ordinary path, and the others are
read one by one.

## Main definitions

* `Glob.segmentsOf` — the texts between the slashes of a pattern.

## Main results

* `Glob.splitLast_intercalate` — taking off the last segment.
* `Glob.parse_eq` — **a pattern is read segment by segment.**
-/

namespace RouteLint.Glob

/-- The texts between the slashes of a pattern. -/
def segmentsOf (pattern : String) : List String :=
  (Path.splitSlash pattern.toList).map String.ofList

theorem intercalate_segmentsOf (pattern : String) :
    "/".intercalate (segmentsOf pattern) = pattern := by
  have hmap : (segmentsOf pattern).map String.toList = Path.splitSlash pattern.toList := by
    unfold segmentsOf
    rw [List.map_map]
    exact List.map_id'' (fun cs => String.toList_ofList) _
  rw [← String.toList_inj, String.toList_intercalate, hmap]
  exact Path.intercalate_splitSlash _

theorem segmentsOf_ne_nil (pattern : String) : segmentsOf pattern ≠ [] := by
  simpa [segmentsOf] using Path.splitSlash_ne_nil pattern.toList

theorem not_slash_of_mem_segmentsOf {pattern s : String} (h : s ∈ segmentsOf pattern) :
    '/' ∉ s.toList := by
  obtain ⟨cs, hcs, rfl⟩ := List.mem_map.1 h
  rw [String.toList_ofList]
  exact Path.not_mem_of_mem_splitSlash hcs

/-- A segment that is not empty: it ends in a character, and that is no slash. -/
def IsSegment (s : String) : Prop := s ≠ "" ∧ '/' ∉ s.toList

variable {s : String} {segs : List String}

theorem IsSegment.exists_last (h : IsSegment s) : ∃ cs c, s.toList = cs ++ [c] ∧ c ≠ '/' := by
  have hne : s.toList ≠ [] := fun hnil => h.1 (String.toList_inj.1 hnil)
  obtain ⟨cs, c, hcs⟩ := (List.eq_nil_or_concat' s.toList).resolve_left hne
  refine ⟨cs, c, hcs, ?_⟩
  rintro rfl
  exact h.2 (by simp [hcs])

/-! ### Joined segments -/

/-- Segments before a last one. -/
theorem intercalate_snoc (hsegs : segs ≠ []) (s : String) :
    "/".intercalate (segs ++ [s]) = "/".intercalate segs ++ "/" ++ s := by
  rw [String.intercalate_append_of_ne_nil hsegs (List.cons_ne_nil _ _), String.intercalate_singleton]

theorem length_lt_length_snoc (segs : List String) (hs : IsSegment s) :
    ("/".intercalate segs).length < ("/".intercalate (segs ++ [s])).length := by
  have hpos : 0 < s.length := Nat.pos_of_ne_zero fun h => hs.1 (String.length_eq_zero_iff.1 h)
  by_cases hnil : segs = []
  · subst hnil
    rwa [List.nil_append, String.intercalate_singleton, String.intercalate_nil, String.length_empty]
  · rw [intercalate_snoc hnil, String.length_append, String.length_append]
    omega

/-- Joined segments end in a character that is no slash. -/
theorem exists_last_intercalate (hne : segs ≠ []) (hsegs : ∀ s ∈ segs, IsSegment s) :
    ∃ cs c, ("/".intercalate segs).toList = cs ++ [c] ∧ c ≠ '/' := by
  induction segs using List.reverseRecOn with
  | nil => exact absurd rfl hne
  | append_singleton segs s ih =>
    obtain ⟨cs, c, hcs, hc⟩ := (hsegs s (by simp)).exists_last
    by_cases hnil : segs = []
    · subst hnil
      exact ⟨cs, c, by rw [List.nil_append, String.intercalate_singleton, hcs], hc⟩
    · refine ⟨("/".intercalate segs ++ "/").toList ++ cs, c, ?_, hc⟩
      rw [intercalate_snoc hnil, String.toList_append, hcs, List.append_assoc]

theorem hasWildcard_append (a b : String) :
    hasWildcard (a ++ b) = (hasWildcard a || hasWildcard b) := by
  unfold hasWildcard
  rw [String.toList_append, List.any_append]

theorem hasWildcard_intercalate (segs : List String) :
    hasWildcard ("/".intercalate segs) = segs.any hasWildcard := by
  have hslash : hasWildcard "/" = false := by decide
  induction segs using List.reverseRecOn with
  | nil => rfl
  | append_singleton segs s ih =>
    rw [List.any_append, List.any_cons, List.any_nil, Bool.or_false]
    by_cases hnil : segs = []
    · subst hnil
      rw [List.nil_append, String.intercalate_singleton]
      rfl
    · rw [intercalate_snoc hnil, hasWildcard_append, hasWildcard_append, ih, hslash, Bool.or_false]

/-! ### Taking off the last segment -/

/-- What stands after the last slash. -/
theorem takeWhile_reverse {after : List Char} (h : '/' ∉ after) (rest : List Char) :
    (after.reverse ++ rest).takeWhile (· ≠ '/') = after.reverse ++ rest.takeWhile (· ≠ '/') := by
  refine List.takeWhile_append_of_pos fun c hc => decide_eq_true ?_
  rintro rfl
  exact h (List.mem_reverse.1 hc)

theorem splitLast_of_not_mem {after : List Char} (h : '/' ∉ after) :
    splitLast after = ([], after) := by
  have hafter := takeWhile_reverse h []
  rw [List.append_nil, List.takeWhile_nil, List.append_nil] at hafter
  unfold splitLast
  dsimp only
  rw [hafter, List.reverse_reverse, Nat.sub_self, List.take_zero]
  rfl

theorem splitLast_append {before after : List Char} {c : Char} (hc : c ≠ '/') (h : '/' ∉ after) :
    splitLast (before ++ [c] ++ '/' :: after) = (before ++ [c], after) := by
  have hafter : (before ++ [c] ++ '/' :: after).reverse.takeWhile (· ≠ '/') = after.reverse := by
    rw [List.reverse_append, List.reverse_cons, List.append_assoc, takeWhile_reverse h]
    simp
  have hbefore : (before ++ [c] ++ '/' :: after).take
      ((before ++ [c] ++ '/' :: after).length - after.length) = before ++ [c] ++ ['/'] := by
    rw [List.append_cons, List.length_append, Nat.add_sub_cancel]
    exact List.take_left' rfl
  unfold splitLast
  dsimp only
  rw [hafter, List.reverse_reverse, hbefore]
  simp [hc]

/-- The last segment, and those before it. -/
theorem splitLast_intercalate (hsegs : ∀ s ∈ segs, IsSegment s) (hs : '/' ∉ s.toList) :
    splitLast ("/".intercalate (segs ++ [s])).toList =
      (("/".intercalate segs).toList, s.toList) := by
  by_cases hnil : segs = []
  · subst hnil
    rw [List.nil_append, String.intercalate_singleton]
    exact splitLast_of_not_mem hs
  · obtain ⟨cs, c, hcs, hc⟩ := exists_last_intercalate hnil hsegs
    have hsplit : splitLast (cs ++ [c] ++ '/' :: s.toList) = _ := splitLast_append hc hs
    rw [intercalate_snoc hnil, String.toList_append, String.toList_append, hcs, List.append_assoc]
    exact hsplit

/-! ### Reading a pattern -/

/-- The segments before the first one with a wildcard. -/
def front (segs : List String) : List String := segs.takeWhile fun s => !hasWildcard s

/-- The segments from the first one with a wildcard on. -/
def back (segs : List String) : List String := segs.dropWhile fun s => !hasWildcard s

theorem front_append_back (segs : List String) : front segs ++ back segs = segs :=
  List.takeWhile_append_dropWhile

theorem hasWildcard_of_mem_front (h : s ∈ front segs) : hasWildcard s = false := by
  simpa using List.mem_takeWhile_imp h

theorem front_back_of_plain (h : segs.any hasWildcard = false) :
    front segs = segs ∧ back segs = [] := by
  have hall : ∀ s ∈ segs, (!hasWildcard s) = true := by simpa using h
  exact ⟨List.takeWhile_eq_self_iff.2 hall, List.dropWhile_eq_nil_iff.2 hall⟩

/-- A segment after one with a wildcard, or with one itself. -/
theorem front_back_snoc (h : (segs ++ [s]).any hasWildcard = true) :
    front (segs ++ [s]) = front segs ∧ back (segs ++ [s]) = back segs ++ [s] := by
  unfold front back
  induction segs with
  | nil =>
    have hs : hasWildcard s = true := by simpa using h
    simp [hs]
  | cons a segs ih =>
    cases ha : hasWildcard a with
    | true => simp [ha]
    | false =>
      rw [List.cons_append, List.any_cons, ha, Bool.false_or] at h
      simpa [ha] using ih h

theorem peel_intercalate (hsegs : ∀ s ∈ segs, IsSegment s) {fuel : Nat}
    (hfuel : ("/".intercalate segs).length < fuel) (later : List Segment) :
    peel fuel ("/".intercalate segs).toList later =
      ⟨"/".intercalate (front segs), (back segs).map segmentOf ++ later⟩ := by
  induction segs using List.reverseRecOn generalizing fuel later with
  | nil =>
    obtain ⟨n, rfl⟩ := Nat.exists_eq_succ_of_ne_zero (Nat.ne_of_gt (Nat.zero_lt_of_lt hfuel))
    rfl
  | append_singleton segs s ih =>
    obtain ⟨n, rfl⟩ := Nat.exists_eq_succ_of_ne_zero (Nat.ne_of_gt (Nat.zero_lt_of_lt hfuel))
    rw [peel, String.ofList_toList, hasWildcard_intercalate]
    cases hany : (segs ++ [s]).any hasWildcard with
    | false =>
      obtain ⟨hfront, hback⟩ := front_back_of_plain hany
      rw [hfront, hback]
      rfl
    | true =>
      obtain ⟨hfront, hback⟩ := front_back_snoc hany
      have hs := hsegs s (by simp)
      have hbefore : ∀ s ∈ segs, IsSegment s := fun s hs => hsegs s (List.mem_append_left _ hs)
      have hshorter : ("/".intercalate segs).length < n :=
        Nat.lt_of_lt_of_le (length_lt_length_snoc segs hs) (Nat.le_of_lt_succ hfuel)
      rw [if_pos rfl, splitLast_intercalate hbefore hs.2]
      dsimp only
      rw [ih hbefore hshorter, hfront, hback, String.ofList_toList, List.map_append,
        List.append_assoc]
      rfl

/-- **A pattern is read segment by segment.** -/
theorem parse_eq {pattern : String} (h : "" ∉ segmentsOf pattern) :
    Pattern.parse pattern = ⟨"/".intercalate (front (segmentsOf pattern)),
      (back (segmentsOf pattern)).map segmentOf⟩ := by
  have hsegs : ∀ s ∈ segmentsOf pattern, IsSegment s := fun s hs =>
    ⟨fun hempty => h (hempty ▸ hs), not_slash_of_mem_segmentsOf hs⟩
  obtain ⟨cs, c, hlast, hc⟩ := exists_last_intercalate (segmentsOf_ne_nil pattern) hsegs
  have hpeel {fuel : Nat} (hfuel : ("/".intercalate (segmentsOf pattern)).length < fuel) :=
    peel_intercalate hsegs hfuel []
  rw [intercalate_segmentsOf] at hlast hpeel
  have hslash : (pattern.toList.getLast? == some '/') = false := by
    rw [hlast, List.getLast?_concat]
    simpa using hc
  unfold Pattern.parse
  dsimp only
  rw [hslash, Bool.and_false, if_neg Bool.false_ne_true, hpeel (Nat.lt_succ_self _),
    List.append_nil]

end RouteLint.Glob
