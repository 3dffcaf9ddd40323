import RouteLint.Proofs.Project.Targets

/-!
# What the star of a pattern captures

A pattern of specifiers is cut at its first star.  A specifier matches if it starts with what stands
before the star and ends with what stands after it, and if it is long enough for both: the two must
not share a character.  What lies between them is captured, and it may be anything, stars included,
or nothing at all.

A pattern has a second use: put among its own targets, it leads back to the specifier.  For then the
captured text is put in the place that it was taken from.  This needs that the star is the only one,
since in a target every star is replaced.

## Main results

* `TypeConfig.capture_eq_some_iff` — what is captured, with the pattern cut at its first star.
* `TypeConfig.capture_eq_of_plain` — a pattern without a star.
* `TypeConfig.capture_inverts_substitute` — **capturing undoes putting a text in place of the star,
  and a pattern among its own targets leads to the specifier itself.**
-/

namespace RouteLint

open Syntax

namespace TypeConfig

section

variable {pattern specifier captured : String} {before after : List Char}

/-! ### Capturing -/

/-- What lies between two texts, if they do not share a character. -/
theorem eq_append_append_iff {s before middle after : List Char} :
    s = before ++ middle ++ after ↔
      (before <+: s ∧ after <:+ s ∧ before.length + after.length ≤ s.length) ∧
        (s.take (s.length - after.length)).drop before.length = middle := by
  constructor
  · rintro rfl
    refine ⟨⟨⟨middle ++ after, by rw [List.append_assoc]⟩, ⟨before ++ middle, rfl⟩, ?_⟩, ?_⟩
    · rw [List.length_append, List.length_append]
      omega
    · rw [List.length_append, Nat.add_sub_cancel, List.take_left, List.drop_left]
  · rintro ⟨⟨hbefore, ⟨front, rfl⟩, hlength⟩, rfl⟩
    rw [List.length_append, Nat.add_sub_cancel, List.take_left]
    rw [List.length_append] at hlength
    -- what stands before the end is long enough to hold the beginning
    obtain ⟨middle, rfl⟩ : before <+: front :=
      List.prefix_of_prefix_length_le hbefore (List.prefix_append _ _) (by omega)
    rw [List.drop_left]

/-- A pattern is cut at its first star. -/
theorem cut_at_star (hbefore : '*' ∉ before) (after : List Char) :
    (before ++ '*' :: after).takeWhile (· ≠ '*') = before ∧
      (before ++ '*' :: after).dropWhile (· ≠ '*') = '*' :: after := by
  have hne : ∀ c ∈ before, decide (c ≠ '*') = true := fun c hc =>
    decide_eq_true fun heq => hbefore (heq ▸ hc)
  rw [List.takeWhile_append_of_pos hne, List.dropWhile_append_of_pos hne,
    List.takeWhile_cons_of_neg (by decide), List.dropWhile_cons_of_neg (by decide), List.append_nil]
  exact ⟨rfl, rfl⟩

/-- **A pattern captures what stands between the text before its first star and the text after
it.** -/
theorem capture_eq_some_iff (hpattern : pattern.toList = before ++ '*' :: after)
    (hbefore : '*' ∉ before) :
    capture pattern specifier = some captured ↔
      specifier.toList = before ++ captured.toList ++ after := by
  obtain ⟨htake, hdrop⟩ := cut_at_star hbefore after
  have hstar : (before ++ '*' :: after).contains '*' = true :=
    List.contains_iff_mem.2 (List.mem_append_right _ List.mem_cons_self)
  unfold capture
  simp only [hpattern, hstar, htake, hdrop, Bool.not_true, Bool.false_eq_true, if_false,
    List.drop_one, List.tail_cons, Option.ite_none_right_eq_some, Bool.and_eq_true,
    List.isPrefixOf_iff_prefix, List.isSuffixOf_iff_suffix, decide_eq_true_eq, Option.some.injEq,
    and_assoc]
  rw [eq_append_append_iff, ← String.toList_inj, String.toList_ofList, and_assoc, and_assoc]

/-- A pattern without a star stands only for itself. -/
theorem capture_eq_of_plain (hpattern : '*' ∉ pattern.toList) :
    capture pattern specifier = if pattern = specifier then some "" else none := by
  have hstar : pattern.toList.contains '*' = false :=
    Bool.eq_false_iff.2 fun h => hpattern (List.contains_iff_mem.1 h)
  unfold capture
  simp only [hstar, Bool.not_false, if_true, String.toList_inj]

/-! ### Putting a text in place of the star -/

theorem flatMap_star_of_not_mem {cs : List Char} (hcs : '*' ∉ cs) (text : List Char) :
    (cs.flatMap fun c => if c = '*' then text else [c]) = cs := by
  induction cs with
  | nil => rfl
  | cons c cs ih =>
    rw [List.mem_cons, not_or] at hcs
    rw [List.flatMap_cons, if_neg (Ne.symm hcs.1), ih hcs.2, List.singleton_append]

theorem substitute_of_plain (hpattern : '*' ∉ pattern.toList) (captured : String) :
    substitute pattern captured = pattern := by
  rw [substitute, flatMap_star_of_not_mem hpattern, String.ofList_toList]

/-- The text in place of the only star. -/
theorem toList_substitute (hpattern : pattern.toList = before ++ '*' :: after)
    (hbefore : '*' ∉ before) (hafter : '*' ∉ after) (captured : String) :
    (substitute pattern captured).toList = before ++ captured.toList ++ after := by
  rw [substitute, String.toList_ofList, hpattern, List.flatMap_append, List.flatMap_cons,
    if_pos rfl, flatMap_star_of_not_mem hbefore, flatMap_star_of_not_mem hafter, List.append_assoc]

/-- A pattern with one star, cut there. -/
theorem exists_cut (h : pattern.toList.count '*' = 1) :
    ∃ before after, pattern.toList = before ++ '*' :: after ∧ '*' ∉ before ∧ '*' ∉ after := by
  obtain ⟨before, after, hpattern⟩ := List.append_of_mem (List.count_pos_iff.1 (by rw [h]; decide))
  rw [hpattern, List.count_append, List.count_cons_self] at h
  exact ⟨before, after, hpattern, List.count_eq_zero.1 (by omega), List.count_eq_zero.1 (by omega)⟩

/-- With one star, capturing undoes putting a text in its place. -/
theorem capture_eq_some_iff_substitute (h : pattern.toList.count '*' = 1) :
    capture pattern specifier = some captured ↔ substitute pattern captured = specifier := by
  obtain ⟨before, after, hpattern, hbefore, hafter⟩ := exists_cut h
  rw [capture_eq_some_iff hpattern hbefore, ← String.toList_inj,
    toList_substitute hpattern hbefore hafter, eq_comm]

/-- A pattern with at most one star stands for a specifier that it matches, once what is captured is
put in place of the star. -/
theorem substitute_of_capture (h : pattern.toList.count '*' ≤ 1)
    (hcapture : capture pattern specifier = some captured) :
    substitute pattern captured = specifier := by
  rcases Nat.le_one_iff_eq_zero_or_eq_one.1 h with hnone | hone
  · have hpattern := List.count_eq_zero.1 hnone
    rw [capture_eq_of_plain hpattern] at hcapture
    split at hcapture
    · next heq => rw [substitute_of_plain hpattern, heq]
    · cases hcapture
  · exact (capture_eq_some_iff_substitute hone).1 hcapture

end

/-- **Capturing undoes putting a text in place of the star.**  With one star in a pattern, a text is
captured exactly if the pattern writes the specifier once the text stands in place of the star; so
there is no match if the specifier is too short for what stands before the star and what stands
after it.  A pattern without a star matches only itself.  In either case a pattern that is among its
own targets, in a type configuration that the specifier is looked up in, leads to the specifier
itself: this is the text put in place, and the candidate at the rank of that target. -/
theorem capture_inverts_substitute (pattern specifier : String) :
    (pattern.toList.count '*' = 1 →
      (∀ captured, capture pattern specifier = some captured ↔
        substitute pattern captured = specifier) ∧
      ∀ before after, pattern.toList = before ++ '*' :: after →
        specifier.toList.length < before.length + after.length →
          capture pattern specifier = none) ∧
    (pattern.toList.count '*' = 0 →
      capture pattern specifier = if pattern = specifier then some "" else none) ∧
    (pattern.toList.count '*' ≤ 1 →
      ∀ (p : Project) (importer : Path) {config : TypeConfig} {base : Path} {i j : Nat}
        {targets : List String} {captured : String},
        specifier.toList.head? ≠ some '.' → specifier.toList.head? ≠ some '/' →
        p.config = some config → config.pathsBase = some base →
        config.paths[i]? = some (pattern, targets) → targets[j]? = some pattern →
        capture pattern specifier = some captured →
          substitute pattern captured = specifier ∧
          base.joinText specifier ∈ p.candidates importer specifier ∧
          ∀ a, p.Candidate importer specifier [0, i, j] a ↔ a = base.joinText specifier) := by
  refine ⟨fun hone => ⟨fun captured => capture_eq_some_iff_substitute hone, ?_⟩,
    fun hnone => capture_eq_of_plain (List.count_eq_zero.1 hnone), ?_⟩
  · intro before after hpattern hlength
    have hbefore : '*' ∉ before := by
      rw [hpattern, List.count_append, List.count_cons_self] at hone
      exact List.count_eq_zero.1 (by omega)
    refine Option.eq_none_iff_forall_ne_some.2 fun captured hcapture => ?_
    have heq := (capture_eq_some_iff hpattern hbefore).1 hcapture
    rw [heq, List.length_append, List.length_append] at hlength
    omega
  · intro hstars p importer config base i j targets captured hdot hslash hconfig hbase hpattern
      htarget hcapture
    have hself := substitute_of_capture hstars hcapture
    have hranked := Project.ranked_candidates p importer specifier
    have hcandidate : p.Candidate importer specifier [0, i, j] (base.joinText specifier) := by
      have h := Candidate.mapped hbase hpattern hcapture htarget
      rw [hself] at h
      exact .configured hdot hslash hconfig h
    refine ⟨hself, hranked.mem_iff.2 ⟨_, hcandidate⟩, fun a => ⟨?_, ?_⟩⟩
    · exact fun ha => hranked.unique ha hcandidate
    · rintro rfl
      exact hcandidate

/-! ### A pattern whose ends share a character -/

namespace Stretched

/-- A pattern; what stands before its star and what stands after it can share a character. -/
def pattern : String := "ab*bc"

/-- A type configuration in which the pattern is the second of its own targets, after another
pattern. -/
def config : TypeConfig :=
  ⟨⟨.slash, ["tsconfig.json"]⟩, none, [("~", []), (pattern, ["x", pattern])], some ⟨.slash, ["src"]⟩⟩

/-- A project with the type configuration. -/
def project : Project := .empty Module.parse ⟨.slash, []⟩ (some config)

end Stretched

open Stretched in
/-- The pattern does not match a text in which its ends share a character.  It matches one in which
they meet, and captures nothing; what it captures may also hold a star. -/
theorem capture_inverts_substitute_stretched :
    capture pattern "abc" = none ∧ capture pattern "abbc" = some "" ∧
    capture pattern "ab/*/bc" = some "/*/" ∧
    substitute pattern "/*/" = "ab/*/bc" ∧
    (⟨.slash, ["src", "ab", "*", "bc"]⟩ : Path) ∈
      project.candidates ⟨.slash, ["a.ts"]⟩ "ab/*/bc" ∧
    capture "abc" "abc" = some "" ∧ capture "abc" "ab" = none := by
  have hone : pattern.toList.count '*' = 1 := by decide
  have hfound : capture pattern "ab/*/bc" = some "/*/" :=
    ((capture_inverts_substitute pattern "ab/*/bc").1 hone).1 "/*/" |>.2 (by decide)
  obtain ⟨hself, hmem, -⟩ := (capture_inverts_substitute pattern "ab/*/bc").2.2 (by decide)
    project ⟨.slash, ["a.ts"]⟩ (i := 1) (j := 1) (by decide) (by decide) rfl rfl rfl rfl hfound
  exact ⟨((capture_inverts_substitute pattern "abc").1 hone).2 ['a', 'b'] ['b', 'c'] (by decide)
      (by decide), (((capture_inverts_substitute pattern "abbc").1 hone).1 "").2 (by decide), hfound,
    hself, hmem, (capture_inverts_substitute "abc" "abc").2.1 (by decide),
    (capture_inverts_substitute "abc" "ab").2.1 (by decide)⟩

end TypeConfig

end RouteLint
