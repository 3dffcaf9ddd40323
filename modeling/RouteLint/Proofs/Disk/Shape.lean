import RouteLint.Project.Modules
import RouteLint.Glob.Select
import RouteLint.Proofs.Data.Table

/-!
# The shape of a disk

The shape of a disk is its tree without the contents of files.  Which files a pattern selects and
which file an import leads to is a matter of the shape, and writing to a file that is there keeps
it.

A plain path starts at the root directory and has no `..`, so its parts are the place it leads
to.  Absolute paths are plain.

## Main definitions

* `Path.Plain` — paths that name their place.
* `Disk.shape` — a disk without the contents of files.

## Main results

* `Glob.select_shape`, `Project.firstModule_shape` — what the shape decides.
* `Disk.write_of_read` — **writing to a file that is there changes its content and nothing
  else.**
-/

namespace RouteLint

/-! ### Plain paths -/

namespace Path

/-- A path from the root directory on, without `..`. -/
def Plain (p : Path) : Prop := p.root = .slash ∧ ".." ∉ p.parts

theorem climb_plain {before : List String} (h : ".." ∉ before) (ps : List String) :
    ".." ∉ climb before ps := by
  induction ps generalizing before with
  | nil => exact h
  | cons p ps ih =>
    rw [climb]
    split
    · exact ih fun hmem => h (List.dropLast_subset _ hmem)
    · next hp =>
      refine ih fun hmem => ?_
      rcases List.mem_append.1 hmem with hmem | hmem
      · exact h hmem
      · exact hp (List.mem_singleton.1 hmem).symm

theorem climb_eq_append {ps : List String} (h : ".." ∉ ps) (before : List String) :
    climb before ps = before ++ ps := by
  induction ps generalizing before with
  | nil => rw [climb, List.append_nil]
  | cons p ps ih =>
    rw [List.mem_cons, not_or] at h
    rw [climb, if_neg fun hp => h.1 hp.symm, ih h.2, List.append_assoc, List.singleton_append]

/-- Absolute paths are plain. -/
theorem absolute_plain (here p : Path) : (absolute here p).Plain :=
  ⟨rfl, climb_plain List.not_mem_nil _⟩

theorem absolute_of_plain {p : Path} (h : p.Plain) (here : Path) : absolute here p = p := by
  obtain ⟨root, parts⟩ := p
  obtain ⟨hroot, hparts⟩ := h
  dsimp only at hroot hparts
  subst hroot
  unfold absolute join
  rw [if_neg (by simp), climb_eq_append hparts, List.nil_append]

theorem eq_of_parts_eq {p q : Path} (hp : p.Plain) (hq : q.Plain) (h : p.parts = q.parts) :
    p = q := by
  obtain ⟨root, parts⟩ := p
  obtain ⟨root', parts'⟩ := q
  rw [mk.injEq]
  exact ⟨hp.1.trans hq.1.symm, h⟩

end Path

/-! ### Shapes -/

namespace Disk

/-- What stands at a place, without the content of a file. -/
def Entry.shape : Entry → Entry
  | .file _ => .file []
  | .directory => .directory

/-- A disk without the contents of files. -/
def shape (d : Disk) : Disk := ⟨d.entries.mapValues Entry.shape⟩

variable (d : Disk)

theorem entry?_shape (place : List String) :
    d.shape.entry? place = (d.entry? place).map Entry.shape := by
  unfold entry? shape
  split
  · rfl
  · exact Table.get?_mapValues _ _ _

theorem follow_shape (place ps : List String) : d.shape.follow place ps = d.follow place ps := by
  induction ps generalizing place with
  | nil => rfl
  | cons p ps ih =>
    rw [follow, follow, entry?_shape]
    cases d.entry? place with
    | none => rfl
    | some e =>
      cases e with
      | file content => rfl
      | directory =>
        dsimp only [Option.map_some, Entry.shape]
        rw [entry?_shape]
        cases d.entry? (if p = ".." then place.dropLast else place ++ [p]) with
        | none => rfl
        | some e => exact ih _

theorem find_shape (p : Path) :
    d.shape.find p = (d.find p).map fun found => (found.1, found.2.shape) := by
  unfold find
  rw [follow_shape]
  cases d.follow [] p.parts with
  | error e => rfl
  | ok place =>
    dsimp only
    rw [entry?_shape]
    cases d.entry? place <;> rfl

theorem isFile_shape (p : Path) : d.shape.isFile p = d.isFile p := by
  unfold isFile
  rw [find_shape]
  rcases d.find p with e | ⟨place, content | _⟩ <;> rfl

theorem isDirectory_shape (p : Path) : d.shape.isDirectory p = d.isDirectory p := by
  unfold isDirectory
  rw [find_shape]
  rcases d.find p with e | ⟨place, content | _⟩ <;> rfl

theorem exists?_shape (p : Path) : d.shape.exists? p = d.exists? p := by
  unfold exists?
  rw [find_shape]
  cases d.find p <;> rfl

theorem size_shape : d.shape.size = d.size := List.length_map _

theorem names_shape (p : Path) :
    d.shape.names p = (d.names p).map fun found => (found.1, found.2.shape) := by
  unfold names
  rw [find_shape]
  rcases d.find p with e | ⟨here, content | _⟩
  · rfl
  · rfl
  · show List.filterMap _ (d.entries.mapValues Entry.shape) = _
    unfold Table.mapValues
    rw [List.filterMap_map, List.map_filterMap]
    congr 1
    funext entry
    obtain ⟨place, e⟩ := entry
    dsimp only [Function.comp]
    cases nameIn here place <;> rfl

end Disk

namespace Glob

variable (d : Disk)

theorem isWalkable_shape (e : Disk.Entry) : isWalkable e.shape = isWalkable e := by
  cases e <;> rfl

theorem below_shape (onlyDirectories : Bool) (depth : Nat) (p : Path) :
    below d.shape onlyDirectories depth p = below d onlyDirectories depth p := by
  induction depth generalizing p with
  | zero => rfl
  | succ depth ih =>
    rw [below, below, Disk.names_shape, List.flatMap_map]
    congr 1
    funext found
    obtain ⟨name, entry⟩ := found
    dsimp only
    rw [isWalkable_shape, ih]

theorem step_shape (inMiddle : Bool) (p : Path) (s : Segment) :
    step d.shape inMiddle p s = step d inMiddle p s := by
  cases s with
  | literal name => rw [step, step, Disk.exists?_shape]
  | wild part =>
    rw [step, step, Disk.names_shape, List.filter_map, List.map_map]
    refine congrArg (List.map _) (List.filter_congr fun found _ => ?_)
    dsimp only [Function.comp]
    rw [isWalkable_shape]
  | anyDepth => rw [step, step, below_shape, Disk.size_shape, Disk.isDirectory_shape]
  | directory => rw [step, step, Disk.isDirectory_shape]

theorem walk_shape (segments : List Segment) (p : Path) :
    walk d.shape segments p = walk d segments p := by
  induction segments generalizing p with
  | nil => rfl
  | cons s rest ih =>
    rw [walk, walk, step_shape]
    congr 1
    funext q
    exact ih q

/-- Which files a pattern selects is a matter of the shape. -/
theorem select_shape (here : Path) (pattern : String) :
    select d.shape here pattern = select d here pattern := by
  have hfrom : ∀ q : Pattern, matchesFrom d.shape here q = matchesFrom d here q := by
    intro q
    unfold matchesFrom
    simp only [Disk.exists?_shape, walk_shape]
  unfold select
  rw [hfrom, funext (Disk.isFile_shape d)]

end Glob

/-- Which file an import leads to is a matter of the shape. -/
theorem Project.firstModule_shape (d : Disk) (candidates : List Path) :
    firstModule d.shape candidates = firstModule d candidates := by
  have hmodule : isModule d.shape = isModule d := by
    funext p
    rw [isModule, isModule, Disk.isFile_shape]
  induction candidates with
  | nil => rfl
  | cons c cs ih => rw [firstModule, firstModule, hmodule, ih]

/-! ### Reading and writing files -/

namespace Disk

theorem follow_plain {d : Disk} {place ps found : List String} (hps : ".." ∉ ps)
    (h : d.follow place ps = .ok found) : found = place ++ ps := by
  induction ps generalizing place with
  | nil =>
    cases h
    rw [List.append_nil]
  | cons p ps ih =>
    rw [List.mem_cons, not_or] at hps
    rw [follow, if_neg fun hp => hps.1 hp.symm] at h
    split at h
    · dsimp only at h
      split at h
      · rw [ih hps.2 h, List.append_assoc, List.singleton_append]
      · cases h
    · cases h
    · cases h

/-- A plain path leads to the place it names. -/
theorem find_plain {d : Disk} {p : Path} (hp : p.Plain) {place : List String} {e : Entry}
    (h : d.find p = .ok (place, e)) : place = p.parts ∧ d.entry? p.parts = some e := by
  unfold find at h
  cases hfollow : d.follow [] p.parts with
  | error cause =>
    rw [hfollow] at h
    cases h
  | ok found =>
    rw [hfollow] at h
    have hfound : found = p.parts := follow_plain hp.2 hfollow
    dsimp only at h
    split at h
    · next e' he =>
      cases h
      exact ⟨hfound, hfound ▸ he⟩
    · cases h

theorem entry?_of_read {d : Disk} {p : Path} (hp : p.Plain) {content : Bytes}
    (h : d.read p = .ok content) :
    d.find p = .ok (p.parts, .file content) ∧ d.entry? p.parts = some (.file content) := by
  unfold read at h
  split at h
  · next place c hfind =>
    cases h
    obtain ⟨rfl, hentry⟩ := find_plain hp hfind
    exact ⟨hfind, hentry⟩
  · cases h
  · cases h

/-- What a plain path leads to on a disk of the same shape. -/
theorem find_of_shape {d d' : Disk} (h : d'.shape = d.shape) {p : Path} (hp : p.Plain)
    {place : List String} {e : Entry} (hfind : d.find p = .ok (place, e)) :
    ∃ e', d'.find p = .ok (place, e') ∧ d'.entry? p.parts = some e' ∧ e'.shape = e.shape := by
  have hshape := find_shape d' p
  rw [h, find_shape, hfind] at hshape
  cases hfind' : d'.find p with
  | error cause =>
    rw [hfind'] at hshape
    cases hshape
  | ok found =>
    obtain ⟨place', e'⟩ := found
    rw [hfind'] at hshape
    have heq : (place, e.shape) = (place', e'.shape) := Except.ok.inj hshape
    obtain ⟨rfl, he⟩ := Prod.mk.inj heq
    exact ⟨e', rfl, (find_plain hp hfind').2, he.symm⟩

/-- A file that is there on a disk is there on every disk of the same shape. -/
theorem read_of_shape {d d' : Disk} (h : d'.shape = d.shape) {p : Path} (hp : p.Plain)
    {old : Bytes} (hread : d.read p = .ok old) : ∃ content, d'.read p = .ok content := by
  obtain ⟨e, hfind, -, hshape⟩ := find_of_shape h hp (entry?_of_read hp hread).1
  cases e with
  | file content =>
    refine ⟨content, ?_⟩
    unfold read
    rw [hfind]
  | directory => cases hshape

/-- A file of which the content is known at its place. -/
theorem read_of_entry? {d d' : Disk} (h : d'.shape = d.shape) {p : Path} (hp : p.Plain)
    {old content : Bytes} (hread : d.read p = .ok old)
    (hentry : d'.entry? p.parts = some (.file content)) : d'.read p = .ok content := by
  obtain ⟨e, hfind, he, -⟩ := find_of_shape h hp (entry?_of_read hp hread).1
  rw [hentry] at he
  cases he
  unfold read
  rw [hfind]

/-- A plain path reads the same on disks of one shape that agree at its place. -/
theorem read_congr {d d' : Disk} (h : d'.shape = d.shape) {p : Path} (hp : p.Plain)
    (hentry : d'.entry? p.parts = d.entry? p.parts) : d'.read p = d.read p := by
  have hfind : d'.find p = d.find p := by
    cases hd : d.find p with
    | error cause =>
      have hshape := find_shape d' p
      rw [h, find_shape, hd] at hshape
      cases hd' : d'.find p with
      | error cause' =>
        rw [hd'] at hshape
        exact congrArg Except.error (Except.error.inj hshape).symm
      | ok found =>
        rw [hd'] at hshape
        cases hshape
    | ok found =>
      obtain ⟨place, e⟩ := found
      obtain ⟨e', hd', he', -⟩ := find_of_shape h hp hd
      rw [hentry, (find_plain hp hd).2] at he'
      cases he'
      exact hd'
  unfold read
  rw [hfind]

theorem entry?_set (d : Disk) {place : List String} (hplace : place ≠ []) (e : Entry)
    (x : List String) :
    entry? ⟨d.entries.set place e⟩ x = if x = place then some e else d.entry? x := by
  unfold entry?
  by_cases hx : x = place
  · subst hx
    rw [if_pos rfl, if_neg (by simpa using hplace)]
    exact Table.get?_set_self _ _ _
  · rw [if_neg hx]
    split
    · rfl
    · exact Table.get?_set_of_ne _ _ fun h => hx h.symm

/-- **Writing to a file that is there changes its content and nothing else.** -/
theorem write_of_read {d : Disk} {p : Path} (hp : p.Plain) {old : Bytes} (h : d.read p = .ok old)
    (content : Bytes) :
    ∃ d', d.write p content = .ok d' ∧ d'.shape = d.shape ∧
      ∀ place, d'.entry? place =
        if place = p.parts then some (.file content) else d.entry? place := by
  obtain ⟨hfind, hentry⟩ := entry?_of_read hp h
  have hparts : p.parts ≠ [] := by
    intro hnil
    rw [hnil] at hentry
    cases hentry
  refine ⟨⟨d.entries.set p.parts (.file content)⟩, ?_, ?_, entry?_set d hparts _⟩
  · unfold write
    rw [hfind]
  · have hget : d.entries.get? p.parts = some (.file old) := by
      unfold entry? at hentry
      rwa [if_neg (by simpa using hparts)] at hentry
    unfold shape
    rw [Table.mapValues_set, Table.set_eq_self]
    rw [Table.get?_mapValues, hget]
    rfl

end Disk

end RouteLint
