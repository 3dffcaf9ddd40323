import Mathlib.Data.List.Induction
import Mathlib.Data.List.Nodup
import Mathlib.Data.List.Perm.Subperm
import RouteLint.Proofs.Disk.Places

/-!
# Disks as trees

Something stands at a place of the tree if the place is reached by its own parts.  Then everything
above it is a directory that has an entry of its own, so no place lies deeper than there are
entries.  What a plain path leads to, and what is listed in a directory, is said by what stands in
the tree.

## Main definitions

* `Disk.Holds` — what stands at a place of the tree.
* `Disk.Named` — no entry is named like the directory above.

## Main results

* `Disk.holds_snoc_iff`, `Disk.Holds.above` — what stands below a directory, and above anything.
* `Disk.Holds.length_le` — **places are not deeper than the disk is large.**
* `Disk.mem_names_iff` — what is listed in a directory.
-/

namespace RouteLint.Disk

variable {d : Disk} {place rest : List String} {name : String} {e : Entry} {p : Path}

/-- Something stands at a place, and the parts of the place lead there. -/
def Holds (d : Disk) (place : List String) (e : Entry) : Prop :=
  d.Reached place ∧ d.entry? place = some e

/-- No entry is named like the directory above. -/
def Named (d : Disk) : Prop := ∀ x ∈ d.entries, ".." ∉ x.1

/-! ### Directories and what is in them -/

theorem entry?_snoc (place : List String) (name : String) :
    d.entry? (place ++ [name]) = d.entries.get? (place ++ [name]) := by
  unfold entry?
  rw [if_neg (by simp)]

/-- What stands in a directory. -/
theorem holds_snoc_iff : d.Holds (place ++ [name]) e ↔
    d.Holds place .directory ∧ name ≠ ".." ∧ d.entries.get? (place ++ [name]) = some e := by
  rw [← entry?_snoc]
  constructor
  · rintro ⟨hreached, hentry⟩
    have hname : name ≠ ".." := fun h => hreached.1 (by simp [h])
    have habove : d.Reached place := by simpa using hreached.dropLast
    -- the last step goes on from a directory
    have hstep := hreached.2
    rw [follow_append habove.2, follow] at hstep
    split at hstep
    · next hdir => exact ⟨⟨habove, hdir⟩, hname, hentry⟩
    · cases hstep
    · cases hstep
  · rintro ⟨⟨habove, hdir⟩, hname, hentry⟩
    refine ⟨⟨?_, ?_⟩, hentry⟩
    · rw [List.mem_append, List.mem_singleton, not_or]
      exact ⟨habove.1, hname.symm⟩
    · rw [follow_append habove.2, follow, hdir]
      dsimp only
      rw [if_neg hname, hentry]
      rfl

/-- Everything above something is a directory. -/
theorem Holds.above (h : d.Holds (place ++ rest) e) (hrest : rest ≠ []) :
    d.Holds place .directory := by
  induction rest using List.reverseRecOn generalizing e with
  | nil => exact absurd rfl hrest
  | append_singleton rest name ih =>
    rw [← List.append_assoc, holds_snoc_iff] at h
    by_cases hnil : rest = []
    · subst hnil
      simpa using h.1
    · exact ih h.1 hnil

theorem Holds.plain (h : d.Holds place e) : ".." ∉ place := h.1.1

/-- **Places are not deeper than the disk is large.** -/
theorem Holds.length_le (h : d.Holds place e) : place.length ≤ d.size := by
  -- the places above, each with an entry of its own
  have hnodup : ((List.range place.length).map fun k => place.take (k + 1)).Nodup := by
    refine List.Nodup.map_on (fun j hj k hk hjk => ?_) List.nodup_range
    rw [List.mem_range] at hj hk
    have hlength := congrArg List.length hjk
    rw [List.length_take, List.length_take] at hlength
    omega
  have hkeys : ((List.range place.length).map fun k => place.take (k + 1)) ⊆ d.entries.keys := by
    intro above habove
    obtain ⟨k, hk, rfl⟩ := List.mem_map.1 habove
    rw [List.mem_range] at hk
    have hsplit : place.take (k + 1) ++ place.drop (k + 1) = place := List.take_append_drop _ _
    obtain ⟨e', he'⟩ : ∃ e', d.Holds (place.take (k + 1)) e' := by
      by_cases hdrop : place.drop (k + 1) = []
      · rw [hdrop, List.append_nil] at hsplit
        exact ⟨e, hsplit.symm ▸ h⟩
      · exact ⟨.directory, Holds.above (hsplit.symm ▸ h) hdrop⟩
    rw [List.take_succ_eq_append_getElem hk] at he' ⊢
    exact Table.mem_keys_of_mem (Table.mem_of_get? (holds_snoc_iff.1 he').2.2)
  have hle := (hnodup.subperm hkeys).length_le
  rwa [List.length_map, List.length_range, Table.keys, List.length_map] at hle

/-! ### Paths -/

theorem Holds.find (h : d.Holds p.parts e) : d.find p = .ok (p.parts, e) := by
  unfold Disk.find
  rw [h.1.2]
  dsimp only
  rw [h.2]

theorem holds_of_find (hp : p.Plain) (h : d.find p = .ok (place, e)) : d.Holds p.parts e := by
  obtain ⟨rfl, hentry⟩ := find_plain hp h
  refine ⟨⟨hp.2, ?_⟩, hentry⟩
  unfold Disk.find at h
  split at h
  · next found hfollow =>
    rw [hfollow, follow_plain hp.2 hfollow]
    rfl
  · cases h

theorem isFile_iff_holds (hp : p.Plain) :
    d.isFile p = true ↔ ∃ content, d.Holds p.parts (.file content) := by
  unfold isFile
  constructor
  · intro h
    split at h
    · next hfind => exact ⟨_, holds_of_find hp hfind⟩
    · cases h
  · rintro ⟨content, h⟩
    rw [h.find]

theorem isDirectory_iff_holds (hp : p.Plain) :
    d.isDirectory p = true ↔ d.Holds p.parts .directory := by
  unfold isDirectory
  constructor
  · intro h
    split at h
    · next hfind => exact holds_of_find hp hfind
    · cases h
  · intro h
    rw [h.find]

theorem Holds.exists? (h : d.Holds p.parts e) : d.exists? p = true := by
  unfold Disk.exists?
  rw [h.find]
  rfl

/-! ### Names -/

theorem nameIn_eq_some_iff {here : List String} : nameIn here place = some name ↔
    place = here ++ [name] := by
  unfold nameIn
  constructor
  · intro h
    split at h
    · next hin =>
      rw [Bool.and_eq_true, decide_eq_true_eq, List.isPrefixOf_iff_prefix] at hin
      obtain ⟨hlength, more, rfl⟩ := hin
      rw [List.length_append, Nat.add_left_cancel_iff] at hlength
      obtain ⟨last, rfl⟩ := List.length_eq_one_iff.1 hlength
      rw [List.getLast?_concat] at h
      cases h
      rfl
    · cases h
  · rintro rfl
    rw [if_pos (by simp), List.getLast?_concat]

/-- What is listed in a directory. -/
theorem mem_names_iff (hp : p.Plain) : (name, e) ∈ d.names p ↔
    d.Holds p.parts .directory ∧ (p.parts ++ [name], e) ∈ d.entries := by
  unfold names
  constructor
  · intro h
    split at h
    · next here hfind =>
      obtain ⟨⟨place, e'⟩, hmem, hname⟩ := List.mem_filterMap.1 h
      obtain ⟨n, hn, heq⟩ := Option.map_eq_some_iff.1 hname
      cases heq
      obtain ⟨rfl, -⟩ := find_plain hp hfind
      rw [nameIn_eq_some_iff.1 hn] at hmem
      exact ⟨holds_of_find hp hfind, hmem⟩
    · cases h
  · rintro ⟨hdir, hmem⟩
    rw [hdir.find]
    refine List.mem_filterMap.2 ⟨_, hmem, ?_⟩
    dsimp only
    rw [nameIn_eq_some_iff.2 rfl]
    rfl

end RouteLint.Disk
