import Mathlib.Data.List.Lex
import Mathlib.Data.String.Basic
import RouteLint.Glob.Select
import RouteLint.Proofs.Disk.Trees
import RouteLint.Proofs.Glob.Segments
import RouteLint.Proofs.Glob.Shell

/-!
# The files that a pattern selects

A file matches a pattern if the parts of its path can be dealt out among the segments of the
pattern, in order, so that each segment fits what it is given.  The files that are selected are
found in another way: directories are walked through, with as many ways to go on as there are, and
only what stands in a directory is listed.  Both come to the same files, with one exception: `**` at
the end of a pattern is given at least one part, since a walk does not end in the file that it has
come to before.

## Main definitions

* `Path.descend` — a path below another one.
* `Glob.Fits` — the parts that a segment fits.

## Main results

* `Glob.mem_walk_iff` — walking through directories finds the files that match.
* `Glob.select_eq_matching` — **exactly the files that match are selected, in order and each
  once.**
-/

namespace RouteLint

/-- The path to a place below another one. -/
def Path.descend (p : Path) (parts : List String) : Path := ⟨p.root, p.parts ++ parts⟩

namespace Path

variable {p : Path}

@[simp] theorem descend_parts (p : Path) (parts : List String) :
    (p.descend parts).parts = p.parts ++ parts := rfl

@[simp] theorem descend_nil (p : Path) : p.descend [] = p := by
  unfold descend
  rw [List.append_nil]

@[simp] theorem descend_descend (p : Path) (parts parts' : List String) :
    (p.descend parts).descend parts' = p.descend (parts ++ parts') := by
  unfold descend
  rw [List.append_assoc]

theorem plain_child (hp : p.Plain) {name : String} (hname : name ≠ "..") : (p.child name).Plain := by
  refine ⟨hp.1, ?_⟩
  show ".." ∉ p.parts ++ [name]
  rw [List.mem_append, List.mem_singleton, not_or]
  exact ⟨hp.2, hname.symm⟩

theorem plain_descend_iff {parts : List String} :
    (p.descend parts).Plain ↔ p.Plain ∧ ".." ∉ parts := by
  unfold Plain descend
  rw [List.mem_append, not_or, and_assoc]

end Path

namespace Glob

/-! ### Matching -/

/-- The parts that a segment of a pattern fits: any number of parts that are not hidden if it is
`**`; else one part, which a segment with wildcards matches as a shell does, hidden ones only if it
starts with the dot itself; and a segment without wildcards is that part. -/
inductive Fits : String → List String → Prop
  | anyDepth {parts : List String} (h : ∀ part ∈ parts, isHidden part = false) : Fits "**" parts
  | wild {segment part : String} (hdepth : segment ≠ "**") (hwild : hasWildcard segment = true)
    (h : Shell segment.toList part.toList)
    (hhidden : isHidden part = true → isHidden segment = true) : Fits segment [part]
  | literal {segment : String} (hplain : hasWildcard segment = false) : Fits segment [segment]

/-- The parts of a path below a directory can be dealt out among segments, so that each fits what it
is given, and the last one is given something. -/
def Matches (here : Path) (segments : List String) (p : Path) : Prop :=
  ∃ runs, List.Forall₂ Fits segments runs ∧ runs.getLast? ≠ some [] ∧ p = here.descend runs.flatten

variable {d : Disk} {p q : Path} {segment : String} {run : List String} {e : Disk.Entry}

theorem admits_iff {part name : String} : admits part name = true ↔
    Shell part.toList name.toList ∧ (isHidden name = true → isHidden part = true) := by
  unfold admits
  rw [Bool.and_eq_true, matchesChars_pieces_iff, and_comm]
  refine and_congr_right fun _ => ?_
  cases isHidden part <;> cases isHidden name <;> simp

/-! ### Below a directory -/

/-- What is found below a directory is not hidden. -/
theorem exists_run_of_mem_below (hd : d.Named) {onlyDirectories : Bool} {depth : Nat}
    (hq : q.Plain) (h : p ∈ below d onlyDirectories depth q) :
    ∃ run, run ≠ [] ∧ (∀ part ∈ run, isHidden part = false) ∧ ".." ∉ run ∧ p = q.descend run := by
  induction depth generalizing q with
  | zero => cases h
  | succ depth ih =>
    obtain ⟨⟨name, e⟩, hname, hp⟩ := List.mem_flatMap.1 h
    have hplain : name ≠ ".." := by
      rintro rfl
      exact hd _ ((Disk.mem_names_iff hq).1 hname).2 (by simp)
    dsimp only at hp
    split at hp
    · cases hp
    · next hhidden =>
      have hhidden : isHidden name = false := by
        rw [Bool.or_eq_true, not_or] at hhidden
        simpa using hhidden.1
      rcases List.mem_cons.1 hp with rfl | hp
      · exact ⟨[name], List.cons_ne_nil _ _, by simpa using hhidden, by simpa using hplain.symm, rfl⟩
      · obtain ⟨run, -, hall, hrun, rfl⟩ := ih (Path.plain_child hq hplain) hp
        refine ⟨name :: run, List.cons_ne_nil _ _, List.forall_mem_cons.2 ⟨hhidden, hall⟩, ?_, ?_⟩
        · rw [List.mem_cons, not_or]
          exact ⟨hplain.symm, hrun⟩
        · exact Path.descend_descend q [name] run

/-- What is not hidden is found below a directory, if it does not lie too deep. -/
theorem descend_mem_below (hq : q.Plain) (hrun : run ≠ [])
    (hall : ∀ part ∈ run, isHidden part = false) (he : d.Holds (q.parts ++ run) e)
    {onlyDirectories : Bool} (hdir : onlyDirectories = true → e = .directory) {depth : Nat}
    (hdepth : run.length ≤ depth) : q.descend run ∈ below d onlyDirectories depth q := by
  induction depth generalizing q run with
  | zero => exact absurd (List.eq_nil_of_length_eq_zero (Nat.le_zero.1 hdepth)) hrun
  | succ depth ih =>
    obtain ⟨name, rest, rfl⟩ := List.exists_cons_of_ne_nil hrun
    obtain ⟨hhidden, hall⟩ := List.forall_mem_cons.1 hall
    have hsplit : q.parts ++ name :: rest = q.parts ++ [name] ++ rest := List.append_cons _ _ _
    rw [hsplit] at he
    -- what stands at the first of the parts, which is the last one or a directory
    obtain ⟨e', he', hwalk⟩ : ∃ e', d.Holds (q.parts ++ [name]) e' ∧
        (onlyDirectories = true → e' = .directory) := by
      by_cases hrest : rest = []
      · subst hrest
        rw [List.append_nil] at he
        exact ⟨e, he, hdir⟩
      · exact ⟨.directory, he.above hrest, fun _ => rfl⟩
    obtain ⟨habove, hplain, hget⟩ := Disk.holds_snoc_iff.1 he'
    have hname := (Disk.mem_names_iff hq).2 ⟨habove, Table.mem_of_get? hget⟩
    refine List.mem_flatMap.2 ⟨_, hname, ?_⟩
    have hpass : (isHidden name || (onlyDirectories && !isWalkable e')) = false := by
      rw [hhidden, Bool.false_or]
      cases onlyDirectories with
      | false => rfl
      | true =>
        rw [hwalk rfl]
        rfl
    dsimp only
    rw [if_neg (Bool.eq_false_iff.1 hpass), List.mem_cons]
    by_cases hrest : rest = []
    · subst hrest
      exact .inl rfl
    · refine .inr ?_
      rw [show q.descend (name :: rest) = (q.child name).descend rest from
        (Path.descend_descend q [name] rest).symm]
      exact ih (Path.plain_child hq hplain) hrest hall he (Nat.le_of_succ_le_succ hdepth)

/-! ### One segment -/

/-- A segment that stands for parts of a path: one that is not empty and does not lead up. -/
def IsStep (segment : String) : Prop := segment ≠ "" ∧ segment ≠ ".."

theorem hasWildcard_anyDepth : hasWildcard "**" = true := by decide

theorem segmentOf_anyDepth : segmentOf "**" = .anyDepth := rfl

theorem segmentOf_wild (hdepth : segment ≠ "**") (hwild : hasWildcard segment = true) :
    segmentOf segment = .wild segment := by
  unfold segmentOf
  rw [if_neg hdepth, if_pos hwild]

theorem segmentOf_literal (hempty : segment ≠ "") (hplain : hasWildcard segment = false) :
    segmentOf segment = .literal segment := by
  have hdepth : segment ≠ "**" := by
    rintro rfl
    cases hplain.symm.trans hasWildcard_anyDepth
  unfold segmentOf
  rw [if_neg hdepth, if_neg (Bool.eq_false_iff.1 hplain), if_neg hempty]

/-- A segment leads to places that it fits, and `**` stays at directories only. -/
theorem fits_of_mem_step (hd : d.Named) (hq : q.Plain) (hsegment : IsStep segment)
    {inMiddle : Bool} (h : p ∈ step d inMiddle q (segmentOf segment)) :
    ∃ run, Fits segment run ∧ ".." ∉ run ∧ p = q.descend run ∧
      (run = [] → d.isDirectory q = true) := by
  by_cases hdepth : segment = "**"
  · subst hdepth
    rw [segmentOf_anyDepth, step, List.mem_append] at h
    rcases h with h | h
    · split at h
      · next hdir =>
        rw [List.mem_singleton.1 h]
        exact ⟨[], .anyDepth (List.forall_mem_nil _), List.not_mem_nil, (q.descend_nil).symm,
          fun _ => hdir⟩
      · cases h
    · obtain ⟨run, hrun, hall, hplain, rfl⟩ := exists_run_of_mem_below hd hq h
      exact ⟨run, .anyDepth hall, hplain, rfl, fun hnil => absurd hnil hrun⟩
  · cases hwild : hasWildcard segment with
    | true =>
      rw [segmentOf_wild hdepth hwild, step] at h
      obtain ⟨⟨name, e⟩, hname, rfl⟩ := List.mem_map.1 h
      obtain ⟨hname, hadmits⟩ := List.mem_filter.1 hname
      obtain ⟨hshell, hhidden⟩ := admits_iff.1 (Bool.and_eq_true_iff.1 hadmits).2
      refine ⟨[name], .wild hdepth hwild hshell hhidden, ?_, rfl,
        fun hnil => absurd hnil (List.cons_ne_nil _ _)⟩
      intro hmem
      exact hd _ ((Disk.mem_names_iff hq).1 hname).2 (List.mem_append_right _ hmem)
    | false =>
      rw [segmentOf_literal hsegment.1 hwild, step] at h
      split at h
      · rw [List.mem_singleton.1 h]
        refine ⟨[segment], .literal hwild, ?_, rfl,
          fun hnil => absurd hnil (List.cons_ne_nil _ _)⟩
        rw [List.mem_singleton]
        exact hsegment.2.symm
      · cases h

/-- A segment leads to what stands at a place that it fits; in the middle of a pattern, and where it
stays, only to directories. -/
theorem Fits.mem_step (h : Fits segment run) (hq : q.Plain) (hsegment : IsStep segment)
    (he : d.Holds (q.parts ++ run) e) {inMiddle : Bool}
    (hdir : inMiddle = true ∨ run = [] → e = .directory) :
    q.descend run ∈ step d inMiddle q (segmentOf segment) := by
  cases h with
  | anyDepth hall =>
    rw [segmentOf_anyDepth, step, List.mem_append]
    by_cases hrun : run = []
    · subst hrun
      rw [List.append_nil, hdir (.inr rfl)] at he
      rw [if_pos ((Disk.isDirectory_iff_holds hq).2 he), Path.descend_nil]
      exact .inl (List.mem_singleton.2 rfl)
    · refine .inr (descend_mem_below hq hrun hall he (fun h => hdir (.inl h)) ?_)
      have hlength := he.length_le
      rw [List.length_append] at hlength
      omega
  | @wild _ part hdepth hwild hshell hhidden =>
    rw [segmentOf_wild hdepth hwild, step]
    obtain ⟨habove, -, hget⟩ := Disk.holds_snoc_iff.1 he
    have hname := (Disk.mem_names_iff hq).2 ⟨habove, Table.mem_of_get? hget⟩
    refine List.mem_map.2 ⟨(part, e), List.mem_filter.2 ⟨hname, ?_⟩, rfl⟩
    have hwalk : (!inMiddle || isWalkable e) = true := by
      cases inMiddle with
      | false => rfl
      | true =>
        rw [hdir (.inl rfl)]
        rfl
    dsimp only
    rw [hwalk, Bool.true_and]
    exact admits_iff.2 ⟨hshell, hhidden⟩
  | literal hplain =>
    rw [segmentOf_literal hsegment.1 hplain, step]
    have hexists : d.exists? (q.join ⟨.relative, [segment]⟩) = true :=
      Disk.Holds.exists? (p := q.descend [segment]) he
    rw [if_pos hexists]
    exact List.mem_singleton.2 rfl

/-! ### All segments -/

theorem Fits.forall₂_ne_nil {segments : List String} {runs : List (List String)}
    (h : List.Forall₂ Fits segments runs) (hsegments : segments ≠ []) : runs ≠ [] := by
  rintro rfl
  exact hsegments (List.forall₂_nil_right_iff.1 h)

theorem flatten_ne_nil {runs : List (List String)} (hne : runs ≠ [])
    (hlast : runs.getLast? ≠ some []) : runs.flatten ≠ [] := by
  obtain ⟨before, last, rfl⟩ := (List.eq_nil_or_concat' runs).resolve_left hne
  rw [List.getLast?_concat] at hlast
  intro hnil
  rw [List.flatten_append, List.append_eq_nil_iff] at hnil
  exact hlast (by simpa using hnil.2)

theorem mem_walk_singleton {s : Segment} : p ∈ walk d [s] q ↔ p ∈ step d false q s := by
  show p ∈ (step d false q s).flatMap (fun q => [q]) ↔ _
  rw [List.flatMap_singleton']

theorem mem_walk_cons {s s' : Segment} {rest : List Segment} :
    p ∈ walk d (s :: s' :: rest) q ↔ ∃ q' ∈ step d true q s, p ∈ walk d (s' :: rest) q' :=
  List.mem_flatMap

/-- What matches lies below the directory. -/
theorem Matches.ne {here : Path} {segments : List String} (h : Matches here segments p)
    (hne : segments ≠ []) : p ≠ here := by
  obtain ⟨runs, hruns, hlast, rfl⟩ := h
  have hflatten := flatten_ne_nil (Fits.forall₂_ne_nil hruns hne) hlast
  intro hsame
  exact hflatten (List.append_right_eq_self.1 (congrArg Path.parts hsame))

/-- **Walking through directories finds the files that match.** -/
theorem mem_walk_iff (hd : d.Named) {segments : List String} (hne : segments ≠ [])
    (hsegments : ∀ s ∈ segments, IsStep s) (hq : q.Plain) (hfile : d.isFile p = true) :
    p ∈ walk d (segments.map segmentOf) q ↔ p.Plain ∧ Matches q segments p := by
  induction segments generalizing q with
  | nil => exact absurd rfl hne
  | cons segment rest ih =>
    obtain ⟨hsegment, hrest⟩ := List.forall_mem_cons.1 hsegments
    cases rest with
    | nil =>
      rw [List.map_singleton, mem_walk_singleton]
      constructor
      · intro h
        obtain ⟨run, hfits, hplain, rfl, hdir⟩ := fits_of_mem_step hd hq hsegment h
        have hp := Path.plain_descend_iff.2 ⟨hq, hplain⟩
        refine ⟨hp, [run], .cons hfits .nil, ?_, by simp⟩
        -- a walk that stays where it is does so at a directory
        intro hlast
        obtain rfl : run = [] := by simpa using hlast
        have hholds := (Disk.isDirectory_iff_holds hq).1 (hdir rfl)
        rw [Path.descend_nil] at hfile
        obtain ⟨content, hcontent⟩ := (Disk.isFile_iff_holds hq).1 hfile
        cases hholds.2.symm.trans hcontent.2
      · rintro ⟨hp, runs, hruns, hlast, rfl⟩
        obtain ⟨run, _, hfits, hnil, rfl⟩ := List.forall₂_cons_left_iff.1 hruns
        obtain rfl := List.forall₂_nil_left_iff.1 hnil
        have hrun : run ≠ [] := by simpa using hlast
        obtain ⟨content, hholds⟩ := (Disk.isFile_iff_holds hp).1 hfile
        rw [List.flatten_singleton] at hholds ⊢
        exact hfits.mem_step hq hsegment hholds (by simp [hrun])
    | cons segment' rest =>
      have hne' : segment' :: rest ≠ [] := List.cons_ne_nil _ _
      rw [List.map_cons, List.map_cons, mem_walk_cons]
      constructor
      · rintro ⟨q', hq', h⟩
        obtain ⟨run, hfits, hplain, rfl, -⟩ := fits_of_mem_step hd hq hsegment hq'
        have hdescend := Path.plain_descend_iff.2 ⟨hq, hplain⟩
        obtain ⟨hp, runs, hruns, hlast, rfl⟩ := (ih hne' hrest hdescend).1 h
        refine ⟨hp, run :: runs, .cons hfits hruns, ?_, by simp⟩
        obtain ⟨run', runs, rfl⟩ := List.exists_cons_of_ne_nil (Fits.forall₂_ne_nil hruns hne')
        exact hlast
      · rintro ⟨hp, runs, hall, hlast, hpath⟩
        obtain ⟨run, runs, hfits, hruns, rfl⟩ := List.forall₂_cons_left_iff.1 hall
        rw [List.flatten_cons, ← Path.descend_descend] at hpath
        subst hpath
        have hne := Fits.forall₂_ne_nil hruns hne'
        have hlast' : runs.getLast? ≠ some [] := by
          obtain ⟨run', runs, rfl⟩ := List.exists_cons_of_ne_nil hne
          exact hlast
        have hdescend := (Path.plain_descend_iff.1 hp).1
        -- something lies below the place in between, so it is a directory
        obtain ⟨content, hholds⟩ := (Disk.isFile_iff_holds hp).1 hfile
        have hbetween := hholds.above (flatten_ne_nil hne hlast')
        refine ⟨_, hfits.mem_step hq hsegment hbetween fun _ => rfl, ?_⟩
        exact (ih hne' hrest hdescend).2 ⟨hp, runs, hruns, hlast', rfl⟩

/-! ### The front of a pattern -/

/-- Segments without wildcards fit one part each, which is themselves. -/
theorem forall₂_fits_append_iff {before after : List String} {runs : List (List String)}
    (h : ∀ s ∈ before, hasWildcard s = false) : List.Forall₂ Fits (before ++ after) runs ↔
      ∃ runs', runs = before.map ([·]) ++ runs' ∧ List.Forall₂ Fits after runs' := by
  induction before generalizing runs with
  | nil => simp
  | cons s before ih =>
    obtain ⟨hs, hbefore⟩ := List.forall_mem_cons.1 h
    rw [List.cons_append, List.forall₂_cons_left_iff]
    constructor
    · rintro ⟨run, rest, hfits, hrest, rfl⟩
      obtain ⟨runs', rfl, hruns'⟩ := (ih hbefore).1 hrest
      refine ⟨runs', ?_, hruns'⟩
      cases hfits with
      | anyDepth => cases hs.symm.trans hasWildcard_anyDepth
      | wild _ hwild => cases hs.symm.trans hwild
      | literal => rfl
    · rintro ⟨runs', rfl, hruns'⟩
      exact ⟨[s], _, .literal hs, (ih hbefore).2 ⟨runs', rfl, hruns'⟩, rfl⟩

theorem flatten_front (before : List String) (runs : List (List String)) :
    (before.map ([·]) ++ runs).flatten = before ++ runs.flatten := by
  induction before with
  | nil => rfl
  | cons s before ih =>
    rw [List.map_cons, List.cons_append, List.flatten_cons, ih]
    rfl

/-- Segments without wildcards lead to one place. -/
theorem matches_front_iff {here : Path} {before : List String}
    (h : ∀ s ∈ before, hasWildcard s = false) :
    Matches here before p ↔ p = here.descend before := by
  have hfits (runs : List (List String)) :
      List.Forall₂ Fits before runs ↔ runs = before.map ([·]) := by
    have hiff : List.Forall₂ Fits (before ++ []) runs ↔ _ := forall₂_fits_append_iff h
    simpa only [List.append_nil, List.forall₂_nil_left_iff, exists_eq_right] using hiff
  have hflatten := flatten_front before []
  rw [List.append_nil, List.flatten_nil, List.append_nil] at hflatten
  have hlast : (before.map ([·])).getLast? ≠ some [] := by
    rw [List.getLast?_map]
    cases before.getLast? <;> simp
  constructor
  · rintro ⟨runs, hruns, -, rfl⟩
    rw [(hfits runs).1 hruns, hflatten]
  · rintro rfl
    exact ⟨_, (hfits _).2 rfl, hlast, by rw [hflatten]⟩

/-- Segments without wildcards, and others after them. -/
theorem matches_append_iff {here : Path} {before after : List String} (hne : after ≠ [])
    (h : ∀ s ∈ before, hasWildcard s = false) :
    Matches here (before ++ after) p ↔ Matches (here.descend before) after p := by
  unfold Matches
  simp only [forall₂_fits_append_iff h, Path.descend_descend]
  constructor
  · rintro ⟨_, ⟨runs, rfl, hruns⟩, hlast, rfl⟩
    rw [List.getLast?_append_of_ne_nil _ (Fits.forall₂_ne_nil hruns hne)] at hlast
    exact ⟨runs, hruns, hlast, by rw [flatten_front]⟩
  · rintro ⟨runs, hruns, hlast, rfl⟩
    refine ⟨_, ⟨runs, rfl, hruns⟩, ?_, by rw [flatten_front]⟩
    rwa [List.getLast?_append_of_ne_nil _ (Fits.forall₂_ne_nil hruns hne)]

/-- The parts of a path that segments write. -/
theorem partsOf_intercalate {segments : List String} (h : ∀ s ∈ segments, IsSegment s ∧ s ≠ ".") :
    Path.partsOf ("/".intercalate segments) = segments := by
  by_cases hnil : segments = []
  · subst hnil
    rfl
  · have hsplit : Path.splitSlash ("/".intercalate segments).toList =
        segments.map String.toList := by
      rw [String.toList_intercalate]
      refine Path.splitSlash_intercalate (by simpa using hnil) fun cs hcs => ?_
      obtain ⟨s, hs, rfl⟩ := List.mem_map.1 hcs
      exact (h s hs).1.2
    unfold Path.partsOf
    rw [hsplit, List.map_map]
    have hid : segments.map (String.ofList ∘ String.toList) = segments :=
      List.map_id'' (fun s => String.ofList_toList) segments
    rw [hid, List.filter_eq_self]
    intro s hs
    simpa using And.intro (h s hs).1.1 (h s hs).2

theorem root_parse {s : String} (h : s.toList.head? ≠ some '/') :
    (Path.parse s).root = .relative := by
  unfold Path.parse
  dsimp only
  split
  · next hs => exact absurd (by rw [hs]; rfl) h
  · next hs => exact absurd (by rw [hs]; rfl) h
  · next hs => exact absurd (by rw [hs]; rfl) h
  · rfl

theorem joinText_intercalate {segments : List String}
    (h : ∀ s ∈ segments, IsSegment s ∧ s ≠ ".") (here : Path) :
    here.joinText ("/".intercalate segments) = here.descend segments := by
  have hroot : (Path.parse ("/".intercalate segments)).root = .relative := by
    refine root_parse ?_
    cases segments with
    | nil => simp
    | cons s segments =>
      -- the first character is that of the first segment
      obtain ⟨⟨hempty, hslash⟩, -⟩ := h s List.mem_cons_self
      have hhead : ("/".intercalate (s :: segments)).toList.head? = s.toList.head? := by
        have hne : s.toList ≠ [] := fun hnil => hempty (String.toList_inj.1 hnil)
        cases segments with
        | nil => rw [String.intercalate_singleton]
        | cons s' segments =>
          rw [String.intercalate_cons_cons, String.append_assoc, String.toList_append,
            List.head?_append_of_ne_nil _ hne]
      rw [hhead]
      exact fun hhead => hslash (List.mem_of_head? hhead)
  unfold Path.joinText Path.join
  rw [if_pos hroot]
  show Path.mk here.root (here.parts ++ Path.partsOf _) = _
  rw [partsOf_intercalate h]
  rfl

/-! ### Order -/

/-- Paths in strict order of their parts. -/
def Before (p q : Path) : Prop := p.parts < q.parts

theorem leParts_iff {as bs : List String} : Path.leParts as bs = true ↔ as = bs ∨ as < bs := by
  induction as generalizing bs with
  | nil => 
    cases bs with
    | nil => simp [Path.leParts]
    | cons b bs => simp [Path.leParts]
  | cons a as ih => 
    cases bs with
    | nil => simp [Path.leParts]
    | cons b bs => 
      rw [Path.leParts, List.cons_lt_cons_iff, List.cons.injEq]
      by_cases hab : a = b
      · subst hab
        rw [if_pos rfl, ih]
        simp
      · rw [if_neg hab]
        simp [hab]

theorem le_iff : p.le q = true ↔ p.parts = q.parts ∨ Before p q := leParts_iff

/-- Of two paths one comes first, unless they have the same parts. -/
theorem before_of_not_le (h : ¬p.le q = true) : Before q p := by
  rw [le_iff, not_or] at h
  exact ((lt_trichotomy p.parts q.parts).resolve_left h.2).resolve_left h.1

theorem mem_insert_iff {x : Path} {ps : List Path} : x ∈ insert p ps ↔ x = p ∨ x ∈ ps := by
  induction ps with
  | nil => simp [insert]
  | cons q ps ih =>
    rw [insert]
    split
    · next hpq =>
      subst hpq
      simp
    · split
      · rw [List.mem_cons]
      · rw [List.mem_cons, ih, List.mem_cons, or_left_comm]

theorem pairwise_insert {ps : List Path} (hp : p.Plain) (hps : ∀ q ∈ ps, q.Plain)
    (h : ps.Pairwise Before) : (insert p ps).Pairwise Before := by
  induction ps with
  | nil => exact List.pairwise_singleton _ _
  | cons q ps ih =>
    obtain ⟨hfirst, hrest⟩ := List.pairwise_cons.1 h
    obtain ⟨hq, hps⟩ := List.forall_mem_cons.1 hps
    rw [insert]
    split
    · exact h
    · next hne =>
      have hparts : p.parts ≠ q.parts := fun hparts => hne (Path.eq_of_parts_eq hp hq hparts)
      split
      · next hle =>
        have hbefore := (le_iff.1 hle).resolve_left hparts
        refine List.pairwise_cons.2 ⟨List.forall_mem_cons.2 ⟨hbefore, fun x hx => ?_⟩, h⟩
        exact List.lt_trans hbefore (hfirst x hx)
      · next hle =>
        refine List.pairwise_cons.2 ⟨fun x hx => ?_, ih hps hrest⟩
        rcases mem_insert_iff.1 hx with rfl | hx
        · exact before_of_not_le hle
        · exact hfirst x hx

theorem mem_foldr_insert_iff {x : Path} {ps : List Path} : x ∈ ps.foldr insert [] ↔ x ∈ ps := by
  induction ps with
  | nil => rfl
  | cons p ps ih => rw [List.foldr_cons, mem_insert_iff, ih, List.mem_cons]

theorem pairwise_foldr_insert {ps : List Path} (h : ∀ p ∈ ps, p.Plain) :
    (ps.foldr insert []).Pairwise Before := by
  induction ps with
  | nil => exact .nil
  | cons p ps ih =>
    obtain ⟨hp, hps⟩ := List.forall_mem_cons.1 h
    exact pairwise_insert hp (fun q hq => hps q (mem_foldr_insert_iff.1 hq)) (ih hps)

/-! ### Selecting -/

/-- What is selected by segments without wildcards and others after them. -/
theorem mem_matchesFrom_iff (hd : d.Named) {here : Path} (hhere : here.Plain)
    {before after : List String} (hne : before ++ after ≠ [])
    (hbefore : ∀ s ∈ before, hasWildcard s = false)
    (hsegments : ∀ s ∈ before ++ after, IsSegment s ∧ s ≠ "." ∧ s ≠ "..")
    (hfile : d.isFile p = true) :
    p ∈ matchesFrom d here ⟨"/".intercalate before, after.map segmentOf⟩ ↔
      p.Plain ∧ Matches here (before ++ after) p := by
  have hfront (s : String) (hs : s ∈ before) := hsegments s (List.mem_append_left _ hs)
  have hback (s : String) (hs : s ∈ after) := hsegments s (List.mem_append_right _ hs)
  have hstart : here.joinText ("/".intercalate before) = here.descend before :=
    joinText_intercalate (fun s hs => ⟨(hfront s hs).1, (hfront s hs).2.1⟩) here
  have hplain : (here.descend before).Plain :=
    Path.plain_descend_iff.2 ⟨hhere, fun hup => (hfront ".." hup).2.2 rfl⟩
  unfold matchesFrom
  dsimp only
  rw [hstart]
  cases after with
  | nil =>
    rw [List.append_nil] at hne ⊢
    rw [matches_front_iff hbefore, List.map_nil]
    dsimp only
    have hbase : "/".intercalate before ≠ "" := by
      obtain ⟨cs, c, hlast, -⟩ := exists_last_intercalate hne fun s hs => (hfront s hs).1
      rintro hempty
      rw [hempty] at hlast
      exact absurd hlast.symm (by simp)
    constructor
    · intro h
      split at h
      · rw [List.mem_singleton] at h
        exact ⟨h ▸ hplain, h⟩
      · cases h
    · rintro ⟨hp, rfl⟩
      obtain ⟨content, hholds⟩ := (Disk.isFile_iff_holds hp).1 hfile
      rw [hholds.exists?, Bool.and_true, if_pos (decide_eq_true hbase)]
      exact List.mem_singleton.2 rfl
  | cons s after =>
    have hsteps : ∀ t ∈ s :: after, IsStep t := fun t ht => ⟨(hback t ht).1.1, (hback t ht).2.2⟩
    have hafter : s :: after ≠ [] := List.cons_ne_nil _ _
    have hwalk := mem_walk_iff hd hafter hsteps hplain hfile
    rw [matches_append_iff hafter hbefore, ← hwalk, List.map_cons]
    dsimp only
    split
    · -- the directory itself is no file that matches
      rw [List.mem_filter]
      refine and_iff_left_of_imp fun h => decide_eq_true ?_
      exact ((matches_append_iff hafter hbefore).2 (hwalk.1 h).2).ne hne
    · rfl

/-- **Exactly the files that match are selected**, in strict order and so each once. -/
theorem select_eq_matching (hd : d.Named) {here : Path} (hhere : here.Plain) {pattern : String}
    (hpattern : ∀ s ∈ segmentsOf pattern, s ≠ "" ∧ s ≠ "." ∧ s ≠ "..") :
    (select d here pattern).Pairwise Before ∧
    ∀ p, p ∈ select d here pattern ↔
      Matches here (segmentsOf pattern) p ∧ ∃ content, d.Holds p.parts (.file content) := by
  have hparse := parse_eq fun hmem => (hpattern "" hmem).1 rfl
  have hsegments : ∀ s ∈ segmentsOf pattern, IsSegment s ∧ s ≠ "." ∧ s ≠ ".." := fun s hs =>
    ⟨⟨(hpattern s hs).1, not_slash_of_mem_segmentsOf hs⟩, (hpattern s hs).2⟩
  have hmatches (p : Path) (hfile : d.isFile p = true) :
      p ∈ matchesFrom d here (.parse pattern) ↔
        p.Plain ∧ Matches here (segmentsOf pattern) p := by
    have hsplit := front_append_back (segmentsOf pattern)
    have hiff := mem_matchesFrom_iff hd hhere (hsplit.symm ▸ segmentsOf_ne_nil pattern)
      (fun s hs => hasWildcard_of_mem_front hs) (hsplit.symm ▸ hsegments) hfile
    rwa [hsplit, ← hparse] at hiff
  unfold select
  refine ⟨pairwise_foldr_insert fun p hp => ?_, fun p => ?_⟩
  · obtain ⟨q, -, rfl⟩ := List.mem_map.1 hp
    exact Path.absolute_plain here q
  · rw [mem_foldr_insert_iff, List.mem_map]
    constructor
    · rintro ⟨q, hq, rfl⟩
      obtain ⟨hmatch, hfile⟩ := List.mem_filter.1 hq
      obtain ⟨hplain, hmatch⟩ := (hmatches q hfile).1 hmatch
      rw [Path.absolute_of_plain hplain]
      exact ⟨hmatch, (Disk.isFile_iff_holds hplain).1 hfile⟩
    · rintro ⟨hmatch, content, hholds⟩
      have hplain : p.Plain := by
        obtain ⟨runs, -, -, rfl⟩ := hmatch
        refine Path.plain_descend_iff.2 ⟨hhere, fun hmem => hholds.plain ?_⟩
        exact List.mem_append_right _ hmem
      have hfile := (Disk.isFile_iff_holds hplain).2 ⟨content, hholds⟩
      refine ⟨p, List.mem_filter.2 ⟨?_, hfile⟩, Path.absolute_of_plain hplain here⟩
      exact (hmatches p hfile).2 ⟨hplain, hmatch⟩

/-! ### A tree -/

namespace Tree

/-- A directory with a file in it, a file further down and a hidden one:
```
| /w/.old/c.ts
| /w/app/b.ts
| /w/a.ts
``` -/
def disk : Disk where
  entries := [(["w"], .directory), (["w", ".old"], .directory), (["w", ".old", "c.ts"], .file []),
    (["w", "app"], .directory), (["w", "app", "b.ts"], .file []), (["w", "a.ts"], .file [])]

/-- The directory. -/
def here : Path := ⟨.slash, ["w"]⟩

theorem named : disk.Named := by
  unfold Disk.Named disk
  decide

theorem plain : here.Plain := ⟨rfl, by decide⟩

theorem segments_eq : segmentsOf "**/*.ts" = ["**", "*.ts"] ∧ segmentsOf "*/**" = ["*", "**"] := by
  decide

theorem steps : ∀ s ∈ segmentsOf "**/*.ts", s ≠ "" ∧ s ≠ "." ∧ s ≠ ".." := by
  rw [segments_eq.1]
  decide

theorem selected : select disk here "**/*.ts" = [here.descend ["a.ts"], here.descend ["app", "b.ts"]] ∧
    select disk here "*/**" = [here.descend ["app", "b.ts"]] := by
  decide

end Tree

/-- The hidden file is not selected. -/
theorem select_eq_matching_tree : Tree.disk.Named ∧ Tree.here.Plain ∧
    (∀ s ∈ segmentsOf "**/*.ts", s ≠ "" ∧ s ≠ "." ∧ s ≠ "..") ∧
    select Tree.disk Tree.here "**/*.ts" =
      [Tree.here.descend ["a.ts"], Tree.here.descend ["app", "b.ts"]] ∧
    (select Tree.disk Tree.here "**/*.ts").Pairwise Before ∧
    ∀ p, p ∈ select Tree.disk Tree.here "**/*.ts" ↔
      Matches Tree.here (segmentsOf "**/*.ts") p ∧ ∃ content, Tree.disk.Holds p.parts (.file content) :=
  ⟨Tree.named, Tree.plain, Tree.steps, Tree.selected.1,
    select_eq_matching Tree.named Tree.plain Tree.steps⟩

/-- **A file that is not selected.**  Its only part fits the first segment, and no part at all fits
the second one, which comes last. -/
theorem not_selected_at_end :
    List.Forall₂ Fits (segmentsOf "*/**") [["a.ts"], []] ∧
    Tree.disk.Holds (Tree.here.parts ++ [["a.ts"], []].flatten) (.file []) ∧
    Tree.here.descend [["a.ts"], []].flatten ∉ select Tree.disk Tree.here "*/**" := by
  have hshell : Shell "*".toList "a.ts".toList := .star "a.ts".toList .nil
  refine ⟨?_, ⟨⟨by decide, rfl⟩, rfl⟩, ?_⟩
  · rw [Tree.segments_eq.2]
    exact .cons (.wild (by decide) (by decide) hshell (by decide)) (.cons (.anyDepth nofun) .nil)
  · rw [Tree.selected.2]
    decide

end Glob

end RouteLint
