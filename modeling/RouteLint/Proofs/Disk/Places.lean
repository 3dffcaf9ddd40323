import RouteLint.Language
import RouteLint.Proofs.Disk.Shape

/-!
# Places that paths lead to

The disk carries out every `..` of a path where it comes to it, while the absolute path has carried
them out in advance and without looking at the disk.  If a path from a root on leads anywhere, its
absolute path leads to the same place.  A path to a file that a name tells the language of does not
end in `..`, so its absolute path ends in the same name.

## Main results

* `Disk.find_absolute` — **a path and its absolute path lead to the same place.**
* `Language.ofPath_absolute` — and their names tell the same.
-/

namespace RouteLint

namespace Disk

variable {d : Disk}

theorem follow_append {place ps found : List String} (h : d.follow place ps = .ok found)
    (qs : List String) : d.follow place (ps ++ qs) = d.follow found qs := by
  induction ps generalizing place with
  | nil =>
    cases h
    rfl
  | cons p ps ih =>
    rw [follow] at h
    rw [List.cons_append, follow]
    split at h
    · dsimp only at h ⊢
      split at h
      · exact ih h
      · cases h
    · cases h
    · cases h

/-- A way that can be followed can be followed to any place on it. -/
theorem exists_follow_of_append {place ps qs found : List String}
    (h : d.follow place (ps ++ qs) = .ok found) : ∃ middle, d.follow place ps = .ok middle := by
  induction ps generalizing place with
  | nil => exact ⟨place, rfl⟩
  | cons p ps ih =>
    rw [List.cons_append, follow] at h
    rw [follow]
    split at h
    · dsimp only at h ⊢
      split at h
      · exact ih h
      · cases h
    · cases h
    · cases h

/-- A place is reached by its own parts. -/
def Reached (d : Disk) (place : List String) : Prop :=
  ".." ∉ place ∧ d.follow [] place = .ok place

theorem reached_nil (d : Disk) : d.Reached [] := ⟨List.not_mem_nil, rfl⟩

theorem Reached.dropLast {place : List String} (h : d.Reached place) :
    d.Reached place.dropLast := by
  obtain ⟨hplain, hfollow⟩ := h
  have hplain' : ".." ∉ place.dropLast := fun hmem => hplain (List.dropLast_subset _ hmem)
  rcases List.eq_nil_or_concat place with rfl | ⟨above, name, rfl⟩
  · exact d.reached_nil
  · rw [List.concat_eq_append] at hfollow
    rw [List.concat_eq_append, List.dropLast_concat] at hplain' ⊢
    obtain ⟨middle, hmiddle⟩ := exists_follow_of_append hfollow
    refine ⟨hplain', ?_⟩
    rw [hmiddle, follow_plain hplain' hmiddle, List.nil_append]

/-- Following parts from a reached place leads to the place that they write, which is reached. -/
theorem Reached.follow {place ps found : List String} (h : d.Reached place)
    (hfollow : d.follow place ps = .ok found) : found = Path.climb place ps ∧ d.Reached found := by
  induction ps generalizing place with
  | nil =>
    cases hfollow
    exact ⟨rfl, h⟩
  | cons p ps ih =>
    have hstep : ∀ qs, d.follow [] (place ++ qs) = d.follow place qs := follow_append h.2
    rw [Disk.follow] at hfollow
    split at hfollow
    · next hplace =>
      dsimp only at hfollow
      split at hfollow
      · next entry hentry =>
        rw [Path.climb]
        by_cases hp : p = ".."
        · rw [if_pos hp] at hfollow ⊢
          exact ih h.dropLast hfollow
        · rw [if_neg hp] at hfollow hentry ⊢
          refine ih ⟨fun hmem => ?_, ?_⟩ hfollow
          · rcases List.mem_append.1 hmem with hmem | hmem
            · exact h.1 hmem
            · exact hp (List.mem_singleton.1 hmem).symm
          · rw [hstep, Disk.follow, hplace]
            dsimp only
            rw [if_neg hp, hentry]
            rfl
      · cases hfollow
    · cases hfollow
    · cases hfollow

/-- **A path and its absolute path lead to the same place.** -/
theorem find_absolute (here : Path) {p : Path} (hp : p.root ≠ .relative)
    {found : List String × Entry} (h : d.find p = .ok found) :
    d.find (here.absolute p) = .ok found := by
  unfold find at h ⊢
  cases hfollow : d.follow [] p.parts with
  | error cause =>
    rw [hfollow] at h
    cases h
  | ok place =>
    rw [hfollow] at h
    obtain ⟨hplace, hreached⟩ := d.reached_nil.follow hfollow
    have hparts : (here.absolute p).parts = place := by
      rw [hplace]
      unfold Path.absolute Path.join
      rw [if_neg hp]
    rw [hparts, hreached.2]
    exact h

theorem isFile_iff {p : Path} : d.isFile p = true ↔ ∃ content, d.read p = .ok content := by
  unfold isFile read
  split
  · next place content hfind => simp [hfind]
  · next hnot =>
    refine iff_of_false Bool.false_ne_true ?_
    rintro ⟨content, hread⟩
    split at hread
    · next place content' hfind => exact hnot place content' hfind
    · cases hread
    · cases hread

/-- A file that stands at a place has an entry. -/
theorem get?_of_entry_eq {place : List String} {content : Bytes}
    (h : d.entry? place = some (.file content)) : d.entries.get? place = some (.file content) := by
  unfold entry? at h
  split at h
  · cases h
  · exact h

/-- A file that is read has an entry. -/
theorem exists_entry_of_read {p : Path} {content : Bytes} (h : d.read p = .ok content) :
    ∃ place, (place, .file content) ∈ d.entries := by
  unfold read at h
  split at h
  · next place found hfind =>
    cases h
    unfold find at hfind
    split at hfind
    · split at hfind
      · next hentry =>
        cases hfind
        exact ⟨place, Table.mem_of_get? (get?_of_entry_eq hentry)⟩
      · cases hfind
    · cases hfind
  · cases h
  · cases h

/-- A plain path leads to files on disks of one shape, or reading it fails alike. -/
theorem read_cases_of_shape {d' : Disk} (h : d'.shape = d.shape) {p : Path} (hp : p.Plain) :
    (∃ content content', d.read p = .ok content ∧ d'.read p = .ok content' ∧
      d.entry? p.parts = some (.file content) ∧ d'.entry? p.parts = some (.file content')) ∨
    ∃ failure, d.read p = .error failure ∧ d'.read p = .error failure := by
  unfold read
  cases hfind : d.find p with
  | error cause =>
    have hshape := find_shape d' p
    rw [h, find_shape, hfind] at hshape
    cases hfind' : d'.find p with
    | error cause' =>
      rw [hfind'] at hshape
      cases hshape
      exact .inr ⟨_, rfl, rfl⟩
    | ok found =>
      rw [hfind'] at hshape
      cases hshape
  | ok found =>
    obtain ⟨place, e⟩ := found
    obtain ⟨e', hfind', hentry', hshape⟩ := find_of_shape h hp hfind
    have hentry := (find_plain hp hfind).2
    rw [hfind']
    cases e <;> cases e' <;> cases hshape
    · exact .inl ⟨_, _, rfl, rfl, hentry, hentry'⟩
    · exact .inr ⟨_, rfl, rfl⟩

end Disk

/-! ### Names -/

theorem Path.name_withName (p : Path) (name : String) : (p.withName name).name = name := by
  unfold withName child Path.name
  rw [List.getLast?_append]
  rfl

theorem Path.withName_withName (p : Path) (name name' : String) :
    (p.withName name).withName name' = p.withName name' := by
  unfold withName child parent
  rw [List.dropLast_concat]

theorem Path.climb_append (before ps qs : List String) :
    climb before (ps ++ qs) = climb (climb before ps) qs := by
  induction ps generalizing before with
  | nil => rfl
  | cons p ps ih =>
    rw [List.cons_append, climb, climb]
    split <;> exact ih _

/-- The absolute path ends in the same name, unless that is `..`. -/
theorem Path.name_absolute (here : Path) {p : Path} (hroot : p.root ≠ .relative)
    (hname : p.name ≠ "..") : (here.absolute p).name = p.name := by
  have hparts : (here.absolute p).parts = climb [] p.parts := by
    unfold absolute join
    rw [if_neg hroot]
  unfold name at hname ⊢
  rw [hparts]
  rcases List.eq_nil_or_concat p.parts with hnil | ⟨above, last, hlast⟩
  · rw [hnil]
    rfl
  · rw [hlast, List.concat_eq_append, List.getLast?_append] at hname ⊢
    have hne : last ≠ ".." := hname
    rw [climb_append, climb, if_neg hne, climb, List.getLast?_append]
    rfl

/-- What is told by a name is told by the name of the absolute path. -/
theorem Language.ofPath_absolute (here : Path) {p : Path} (hroot : p.root ≠ .relative)
    (hname : p.name ≠ "..") : ofPath (here.absolute p) = ofPath p := by
  unfold ofPath Path.suffix
  rw [Path.name_absolute here hroot hname]

theorem Language.isSource_absolute (here : Path) {p : Path} (hroot : p.root ≠ .relative)
    (hname : p.name ≠ "..") : isSource (here.absolute p) = isSource p := by
  unfold isSource
  rw [ofPath_absolute here hroot hname]

theorem Language.ofPath_of_isSource {p : Path} (h : isSource p = true) :
    p.name ≠ ".." ∧ ∃ language, ofPath p = .ok language := by
  unfold isSource at h
  split at h
  · next language hlanguage =>
    refine ⟨fun hname => ?_, language, hlanguage⟩
    -- two dots have no suffix
    unfold ofPath Path.suffix at hlanguage
    rw [hname] at hlanguage
    cases hlanguage
  · cases h

end RouteLint
