import Mathlib.Logic.Relation
import Mathlib.Data.List.Nodup
import RouteLint.Proofs.Data.Attempts
import RouteLint.Proofs.Disk.Shape

/-!
# Configurations that extend each other

Reading a type configuration reads those that it extends, those that they extend, and so on.  While
a configuration is read its file is known as seen, and reading stops where a seen file comes up
again.  Which files are seen depends on the chain that leads to a configuration and not on all that
has been read: two configurations may extend a third one.

Every chain of files that are read is a chain of different places on the disk, so reading comes to
an end, and the limit that `TypeConfig.readFrom` recurses on is never what ends it.

## Main definitions

* `TypeConfig.Extends` — one configuration extends another.
* `TypeConfig.Calls` — the calls that are made while a configuration is read.
* `TypeConfig.Revisits` — a chain of configurations comes to a file twice.

## Main results

* `TypeConfig.readFrom_succ` — one call, with the calls below it.
* `TypeConfig.readFrom_limit` — the limit does not matter.
* `TypeConfig.exists_chain_of_circular`, `TypeConfig.nodup_of_readFrom_ok` — chains that come to a
  file twice, and that do not.
* `TypeConfig.read_circular_iff` — **reading ends, and it fails as circular if and only if a chain
  comes to a file twice.**
-/

namespace RouteLint

namespace TypeConfig

/-! ### Who extends whom -/

/-- The configurations that a document names, if it stands in a file. -/
def parents (d : Disk) (path : Path) (data : Json.Value) : List Path :=
  ((extendsTargets (data.get? "extends")).filter isPathTarget).map (parentPath d path.parent)

/-- The configurations that the one in a file extends; none if it cannot be read. -/
def extended (d : Disk) (path : Path) : List Path :=
  match Json.readFile d path with
  | .ok data => parents d path data
  | .error _ => []

/-- One configuration extends another. -/
def Extends (d : Disk) (p q : Path) : Prop := q ∈ extended d p

/-- A file holds a document that is an object, and its compiler options, if it has any, are an
object or nothing. -/
def isWellFormed (d : Disk) (path : Path) : Bool :=
  match Json.readFile d path with
  | .ok (.object fields) =>
    match (Json.Value.object fields).get? "compilerOptions" with
    | none => true
    | some (.object _) => true
    | some v => v.isVoid
  | _ => false

/-- A chain of configurations, each extending the next one, comes to a file twice. -/
def Revisits (d : Disk) (p : Path) : Prop :=
  ∃ chain, (p :: chain).IsChain (Extends d) ∧ ¬(p :: chain).Nodup

/-- The calls that a call makes.  A call is to read a file while others are seen; it makes calls
unless its own file is seen. -/
def Calls (d : Disk) (below call : List Path × Path) : Prop :=
  call.2 ∉ call.1 ∧ below.1 = call.2 :: call.1 ∧ Extends d call.2 below.2

variable {d : Disk} {path q : Path} {seen : List Path} {fuel : Nat}

theorem parentPath_plain (d : Disk) (directory : Path) (target : String) :
    (parentPath d directory target).Plain := by
  have hplain := Path.absolute_plain directory (Path.parse target)
  unfold parentPath
  dsimp only
  split
  · refine ⟨hplain.1, fun hmem => ?_⟩
    rcases List.mem_append.1 hmem with hmem | hmem
    · exact hplain.2 (List.dropLast_subset _ hmem)
    · -- a name that ends in a suffix is not made of two dots
      have hlast := congrArg (fun s => s.toList.getLast?) (List.mem_singleton.1 hmem)
      simp at hlast
  · exact hplain

theorem extends_plain (h : Extends d path q) : q.Plain := by
  unfold Extends extended at h
  split at h
  · obtain ⟨target, -, rfl⟩ := List.mem_map.1 h
    exact parentPath_plain d path.parent target
  · cases h

/-! ### One call -/

/-- **One call, with the calls below it**: they are made one after the other, and what is known from
them is put together before the own options. -/
theorem readFrom_succ (d : Disk) (fuel : Nat) (seen : List Path) (path : Path) :
    readFrom d (fuel + 1) seen path =
      if path ∈ seen then .error (.circular path)
      else
        match Json.readFile d path with
        | .error cause => .error (.unreadable path cause)
        | .ok (.object fields) => do
          let known ← (parents d path (.object fields)).mapM (readFrom d fuel (path :: seen))
          let options ← optionsOf path (.object fields)
          return (known.foldl inherit ⟨path, none, [], none⟩).override options
        | .ok _ => .error (.notObject path) := by
  have hfold : ∀ (targets : List String) (known : TypeConfig),
      targets.foldlM (fun (before : TypeConfig) target => do
        let parent ← readFrom d fuel (path :: seen) (parentPath d path.parent target)
        return before.inherit parent) known =
      (fun configs : List TypeConfig => configs.foldl inherit known) <$>
        (targets.map (parentPath d path.parent)).mapM (readFrom d fuel (path :: seen)) := by
    intro targets known
    rw [← foldlM_eq_mapM, List.foldlM_map]
  rw [readFrom]
  by_cases hseen : path ∈ seen
  · rw [if_pos hseen, if_pos (List.contains_iff_mem.2 hseen)]
    rfl
  · rw [if_neg hseen, if_neg fun h => hseen (List.contains_iff_mem.1 h)]
    cases Json.readFile d path with
    | error cause => rfl
    | ok data =>
      cases data with
      | object fields =>
        show (List.foldlM _ _ _ >>= fun inherited : TypeConfig => do
          let options ← optionsOf path (.object fields)
          return inherited.override options : Except Error TypeConfig) = _
        rw [hfold]
        dsimp only [parents]
        cases List.mapM (readFrom d fuel (path :: seen)) _ <;> rfl
      | _ => rfl

/-- What a call has gone through that comes to a configuration. -/
theorem readFrom_eq_ok {config : TypeConfig}
    (h : readFrom d (fuel + 1) seen path = .ok config) :
    path ∉ seen ∧ ∃ fields known options, Json.readFile d path = .ok (.object fields) ∧
      List.Forall₂ (fun q parent => readFrom d fuel (path :: seen) q = .ok parent)
        (parents d path (.object fields)) known ∧
      optionsOf path (.object fields) = .ok options ∧
      config = (known.foldl inherit ⟨path, none, [], none⟩).override options := by
  rw [readFrom_succ] at h
  split at h
  · cases h
  · next hseen =>
    refine ⟨hseen, ?_⟩
    split at h
    · cases h
    · next fields hread =>
      obtain ⟨known, hknown, h⟩ := except_bind_eq_ok h
      obtain ⟨options, hoptions, h⟩ := except_bind_eq_ok h
      cases h
      exact ⟨fields, known, options, hread, forall₂_of_mapM_eq_ok hknown, hoptions, rfl⟩
    · cases h

theorem extended_eq {fields : List (CodePoints × Json.Value)}
    (h : Json.readFile d path = .ok (.object fields)) :
    extended d path = parents d path (.object fields) := by
  unfold extended
  rw [h]

theorem extends_iff {fields : List (CodePoints × Json.Value)}
    (h : Json.readFile d path = .ok (.object fields)) :
    Extends d path q ↔ q ∈ parents d path (.object fields) := by
  rw [Extends, extended_eq h]

/-- Why a call fails as circular. -/
theorem readFrom_eq_circular (h : readFrom d (fuel + 1) seen path = .error (.circular q)) :
    path ∈ seen ∨
      ∃ p, Extends d path p ∧ readFrom d fuel (path :: seen) p = .error (.circular q) := by
  rw [readFrom_succ] at h
  split at h
  · next hseen => exact .inl hseen
  · split at h
    · cases h
    · next fields hread =>
      refine .inr ?_
      cases hknown : (parents d path (.object fields)).mapM (readFrom d fuel (path :: seen)) with
      | error err =>
        rw [hknown] at h
        cases h
        obtain ⟨p, hp, hcircular⟩ := exists_of_mapM_eq_error hknown
        exact ⟨p, (extends_iff hread).2 hp, hcircular⟩
      | ok known =>
        -- the own options may be wrong, but that is another error
        rw [hknown, except_bind_of_ok rfl] at h
        unfold optionsOf at h
        split at h
        · cases h
        · split at h
          · cases h
          · split at h <;> cases h
    · cases h

/-- A call to read a well-formed configuration fails only where a call below it fails. -/
theorem readFrom_of_isWellFormed (fuel : Nat) (h : isWellFormed d path = true)
    (hseen : path ∉ seen) :
    (∃ config, readFrom d (fuel + 1) seen path = .ok config) ∨
      ∃ p err, Extends d path p ∧ readFrom d fuel (path :: seen) p = .error err ∧
        readFrom d (fuel + 1) seen path = .error err := by
  rw [readFrom_succ, if_neg hseen]
  unfold isWellFormed at h
  split at h
  · next fields hread =>
    rw [hread]
    dsimp only
    cases hknown : (parents d path (.object fields)).mapM (readFrom d fuel (path :: seen)) with
    | error err =>
      obtain ⟨p, hp, herr⟩ := exists_of_mapM_eq_error hknown
      exact .inr ⟨p, err, (extends_iff hread).2 hp, herr, rfl⟩
    | ok known =>
      refine .inl ?_
      obtain ⟨options, hoptions⟩ : ∃ options, optionsOf path (.object fields) = .ok options := by
        unfold optionsOf
        split at h
        · next hnone => exact ⟨_, by rw [hnone]⟩
        · next hsome =>
          rw [hsome]
          dsimp only
          split <;> exact ⟨_, rfl⟩
        · next v _ hsome =>
          rw [hsome]
          exact ⟨_, if_pos h⟩
      rw [hoptions]
      exact ⟨_, rfl⟩
  · cases h

/-! ### Reading ends -/

/-- How many places on a disk are not those of seen files. -/
def unread (d : Disk) (seen : List Path) : Nat :=
  (d.entries.keys.filter fun place => (⟨.slash, place⟩ : Path) ∉ seen).length

theorem unread_le (d : Disk) (seen : List Path) : unread d seen ≤ d.size :=
  Nat.le_trans (List.length_filter_le _ _) (Nat.le_of_eq (List.length_map _))

/-- The file of a configuration that extends another stands on the disk. -/
theorem mem_keys_of_extends (hpath : path.Plain) (h : Extends d path q) :
    path.parts ∈ d.entries.keys := by
  unfold Extends extended at h
  cases hread : Json.readFile d path with
  | error cause =>
    rw [hread] at h
    cases h
  | ok data =>
    unfold Json.readFile at hread
    cases hcontent : d.read path with
    | error failure =>
      rw [hcontent] at hread
      cases hread
    | ok content =>
      have hentry := (Disk.entry?_of_read hpath hcontent).2
      unfold Disk.entry? at hentry
      split at hentry
      · cases hentry
      · exact Table.mem_keys_of_mem (Table.mem_of_get? hentry)

/-- With every call below another there are fewer places left. -/
theorem unread_lt (hpath : path.Plain) (hseen : path ∉ seen) (h : Extends d path q) :
    unread d (path :: seen) < unread d seen := by
  have hself : (⟨.slash, path.parts⟩ : Path) = path :=
    Path.eq_of_parts_eq ⟨rfl, hpath.2⟩ hpath rfl
  have hfilter : (d.entries.keys.filter fun place => (⟨.slash, place⟩ : Path) ∉ path :: seen) =
      (d.entries.keys.filter fun place => (⟨.slash, place⟩ : Path) ∉ seen).filter
        fun place => (⟨.slash, place⟩ : Path) ≠ path := by
    rw [List.filter_filter]
    refine List.filter_congr fun place _ => ?_
    rw [← Bool.decide_and, decide_eq_decide, List.mem_cons, not_or]
  unfold unread
  rw [hfilter, List.length_filter_lt_length_iff_exists]
  refine ⟨path.parts, List.mem_filter.2 ⟨mem_keys_of_extends hpath h, ?_⟩, ?_⟩
  · rw [hself]
    exact decide_eq_true hseen
  · rw [hself]
    simp

/-- **Calls below calls come to an end.** -/
theorem acc_calls (d : Disk) {seen : List Path} {path : Path} (hpath : path.Plain) :
    Acc (Calls d) (seen, path) := by
  -- every call below takes one place from those that are left
  induction hn : unread d seen using Nat.strongRecOn generalizing seen path with
  | ind n ih =>
    refine .intro _ fun below hbelow => ?_
    obtain ⟨seen', q⟩ := below
    obtain ⟨hseen, rfl, hq⟩ := hbelow
    exact ih _ (hn ▸ unread_lt hpath hseen hq) (extends_plain hq) rfl

/-- **The limit does not matter** if it is greater than the number of places that are left. -/
theorem readFrom_limit (hpath : path.Plain) (h : unread d seen < fuel) (more : Nat) :
    readFrom d (fuel + more) seen path = readFrom d fuel seen path := by
  induction fuel generalizing seen path with
  | zero => exact absurd h (Nat.not_lt_zero _)
  | succ fuel ih =>
    rw [Nat.succ_add, readFrom_succ, readFrom_succ]
    split
    · rfl
    · next hseen =>
      split
      · rfl
      · next fields hread =>
        -- the calls below have fewer places left, and one less to go
        rw [mapM_congr_except fun q hq => ?_]
        have hextends := (extends_iff hread).2 hq
        have hlt := unread_lt hpath hseen hextends
        exact ih (extends_plain hextends) (by omega)
      · rfl

/-! ### Chains -/

/-- A call that fails as circular has come to a file for the second time. -/
theorem exists_chain_of_circular (hpath : path.Plain) (hfuel : unread d seen < fuel)
    (h : readFrom d fuel seen path = .error (.circular q)) :
    ∃ chain, (path :: chain).IsChain (Extends d) ∧ ¬(seen.reverse ++ path :: chain).Nodup := by
  induction fuel generalizing seen path with
  | zero => exact absurd hfuel (Nat.not_lt_zero _)
  | succ fuel ih =>
    by_cases hseen : path ∈ seen
    · -- the chain of the calls above has come here already
      refine ⟨[], List.IsChain.singleton _, fun hnodup => ?_⟩
      exact (List.nodup_append.1 hnodup).2.2 path (List.mem_reverse.2 hseen) path
        List.mem_cons_self rfl
    · obtain ⟨p, hp, hbelow⟩ := (readFrom_eq_circular h).resolve_left hseen
      have hlt := unread_lt hpath hseen hp
      obtain ⟨chain, hchain, hnodup⟩ := ih (extends_plain hp) (by omega) hbelow
      refine ⟨p :: chain, List.isChain_cons_cons.2 ⟨hp, hchain⟩, ?_⟩
      rwa [List.reverse_cons, List.append_assoc] at hnodup

/-- Below a call that comes to a configuration no chain comes to a file twice. -/
theorem nodup_of_readFrom_ok {config : TypeConfig} (h : readFrom d fuel seen path = .ok config)
    (hnodup : seen.Nodup) {chain : List Path} (hchain : (path :: chain).IsChain (Extends d)) :
    (seen.reverse ++ path :: chain).Nodup := by
  induction fuel generalizing seen path config chain with
  | zero => cases h
  | succ fuel ih =>
    obtain ⟨hseen, fields, known, options, hread, hknown, -, -⟩ := readFrom_eq_ok h
    have hcons : (path :: seen).Nodup := List.nodup_cons.2 ⟨hseen, hnodup⟩
    -- the chain goes on below one of the parents, where this file is seen as well
    cases chain with
    | nil =>
      rw [← List.reverse_cons]
      exact List.nodup_reverse.2 hcons
    | cons p chain =>
      obtain ⟨hp, hrest⟩ := List.isChain_cons_cons.1 hchain
      obtain ⟨parent, hparent⟩ := ok_of_mapM_eq_ok (mapM_eq_ok_iff.2 hknown) p
        ((extends_iff hread).1 hp)
      have hbelow := ih hparent hcons hrest
      rwa [List.reverse_cons, List.append_assoc] at hbelow

/-- Where all configurations are well-formed reading fails as circular or not at all. -/
theorem readFrom_ok_or_circular
    (h : ∀ q, Relation.ReflTransGen (Extends d) path q → isWellFormed d q = true) :
    (∃ config, readFrom d fuel seen path = .ok config) ∨
      ∃ q, readFrom d fuel seen path = .error (.circular q) := by
  induction fuel generalizing seen path with
  | zero => exact .inr ⟨path, rfl⟩
  | succ fuel ih =>
    by_cases hseen : path ∈ seen
    · exact .inr ⟨path, by rw [readFrom_succ, if_pos hseen]⟩
    · rcases readFrom_of_isWellFormed fuel (h path .refl) hseen with
        hok | ⟨p, err, hp, hbelow, herr⟩
      · exact .inl hok
      · have hcases : (∃ config, readFrom d fuel (path :: seen) p = .ok config) ∨
            ∃ q, readFrom d fuel (path :: seen) p = .error (.circular q) :=
          ih fun q hq => h q (.head hp hq)
        rcases hcases with ⟨config, hok⟩ | ⟨q, hcircular⟩
        · rw [hok] at hbelow
          cases hbelow
        · rw [hcircular] at hbelow
          cases hbelow
          exact .inr ⟨q, herr⟩

/-- **Configurations that extend each other are read to the end.**  If all configurations that are
reached from a path can be read and are well-formed, the calls below the first one come to an end,
and the limit of the recursion changes nothing.  Reading fails as circular if and only if a chain of
configurations, each extending the next one, comes to a file twice, and it succeeds otherwise, in
particular if different chains lead to one file. -/
theorem read_circular_iff (d : Disk) (here path : Path)
    (h : ∀ q, Relation.ReflTransGen (Extends d) (here.absolute path) q →
      isWellFormed d q = true) :
    Acc (Calls d) ([], here.absolute path) ∧
      (∀ more, readFrom d (d.size + 2 + more) [] (here.absolute path) = read d here path) ∧
      ((∃ q, read d here path = .error (.circular q)) ↔ Revisits d (here.absolute path)) ∧
      ((∃ config, read d here path = .ok config) ↔ ¬Revisits d (here.absolute path)) := by
  have hplain := Path.absolute_plain here path
  have hfuel : unread d [] < d.size + 2 := by
    have hle := unread_le d []
    omega
  have hcircular : ∀ q, read d here path = .error (.circular q) →
      Revisits d (here.absolute path) :=
    fun q hq => exists_chain_of_circular hplain hfuel hq
  have hok : ∀ config, read d here path = .ok config → ¬Revisits d (here.absolute path) := by
    rintro config hconfig ⟨chain, hchain, hnodup⟩
    exact hnodup (nodup_of_readFrom_ok hconfig List.nodup_nil hchain)
  have hcases : (∃ config, read d here path = .ok config) ∨
      ∃ q, read d here path = .error (.circular q) := readFrom_ok_or_circular h
  refine ⟨acc_calls d hplain, readFrom_limit hplain hfuel, ⟨?_, ?_⟩, ?_, ?_⟩
  · rintro ⟨q, hq⟩
    exact hcircular q hq
  · intro hrevisits
    refine hcases.resolve_left ?_
    rintro ⟨config, hconfig⟩
    exact hok config hconfig hrevisits
  · rintro ⟨config, hconfig⟩
    exact hok config hconfig
  · intro hnot
    refine hcases.resolve_right ?_
    rintro ⟨q, hq⟩
    exact hnot (hcircular q hq)

/-! ### Shared and circular configurations -/

/-- Files that extend only each other are all that is reached from one of them. -/
theorem isWellFormed_of_closed (ps : List Path)
    (h : ps.all (fun p => isWellFormed d p && (extended d p).all ps.contains) = true)
    (hpath : path ∈ ps) (hq : Relation.ReflTransGen (Extends d) path q) :
    isWellFormed d q = true := by
  have hmem : q ∈ ps := by
    induction hq with
    | refl => exact hpath
    | tail _ hextends ih =>
      have hall := (Bool.and_eq_true_iff.1 (List.all_eq_true.1 h _ ih)).2
      exact List.contains_iff_mem.1 (List.all_eq_true.1 hall _ hextends)
  exact (Bool.and_eq_true_iff.1 (List.all_eq_true.1 h q hmem)).1

namespace Chains

/-- A disk with a configuration that two others extend, both of which a fourth one extends, and
with two configurations that extend each other:
```
/all.json     {"extends":["./left","./right.json"]}
/left.json    {"extends":"./base"}
/right.json   {"extends":"/x/../base.json","compilerOptions":null}
/base.json    {"compilerOptions":{}}
/one.json     {"extends":["pack","./two"]}
/two.json     {"extends":"./one.json"}
``` -/
def disk : Disk :=
  ⟨[(["all.json"], .file (Utf8.encode "\x7b\"extends\":[\"./left\",\"./right.json\"]\x7d")),
    (["left.json"], .file (Utf8.encode "\x7b\"extends\":\"./base\"\x7d")),
    (["right.json"], .file (Utf8.encode
      "\x7b\"extends\":\"/x/../base.json\",\"compilerOptions\":null\x7d")),
    (["base.json"], .file (Utf8.encode "\x7b\"compilerOptions\":\x7b\x7d\x7d")),
    (["one.json"], .file (Utf8.encode "\x7b\"extends\":[\"pack\",\"./two\"]\x7d")),
    (["two.json"], .file (Utf8.encode "\x7b\"extends\":\"./one.json\"\x7d"))]⟩

/-- The root directory. -/
def root : Path := ⟨.slash, []⟩

/-- A file in the root directory. -/
def file (name : String) : Path := root.child name

end Chains

set_option maxRecDepth 100000 in
/-- Sharing is not circular, and extending each other is. -/
theorem read_circular_iff_disk :
    (∀ q, Relation.ReflTransGen (Extends Chains.disk) (Chains.file "all.json") q →
      isWellFormed Chains.disk q = true) ∧
    ¬Revisits Chains.disk (Chains.file "all.json") ∧
    (∀ q, Relation.ReflTransGen (Extends Chains.disk) (Chains.file "one.json") q →
      isWellFormed Chains.disk q = true) ∧
    Revisits Chains.disk (Chains.file "one.json") := by
  have hall : ∀ q, Relation.ReflTransGen (Extends Chains.disk) (Chains.file "all.json") q →
      isWellFormed Chains.disk q = true := fun q =>
    isWellFormed_of_closed (["all.json", "left.json", "right.json", "base.json"].map Chains.file)
      (by decide +kernel) (by decide)
  have hone : ∀ q, Relation.ReflTransGen (Extends Chains.disk) (Chains.file "one.json") q →
      isWellFormed Chains.disk q = true := fun q =>
    isWellFormed_of_closed (["one.json", "two.json"].map Chains.file)
      (by decide +kernel) (by decide)
  have habsolute : ∀ name, name ≠ ".." →
      Chains.root.absolute (Chains.file name) = Chains.file name := fun name hname =>
    Path.absolute_of_plain ⟨rfl, by simpa [Chains.file, Path.child, Chains.root] using hname.symm⟩ _
  have hok : (read Chains.disk Chains.root (Chains.file "all.json")).isOk = true := by
    decide +kernel
  have hcircular : (read Chains.disk Chains.root (Chains.file "one.json") matches
      .error (.circular _)) = true := by
    decide +kernel
  have hleft := read_circular_iff Chains.disk Chains.root (Chains.file "all.json")
  have hright := read_circular_iff Chains.disk Chains.root (Chains.file "one.json")
  rw [habsolute _ (by decide)] at hleft hright
  refine ⟨hall, (hleft hall).2.2.2.1 ?_, hone, (hright hone).2.2.1.1 ?_⟩
  · cases h : read Chains.disk Chains.root (Chains.file "all.json") with
    | ok config => exact ⟨config, rfl⟩
    | error err => simp [h, Except.isOk, Except.toBool] at hok
  · split at hcircular
    · next q hq => exact ⟨q, hq⟩
    · cases hcircular

end TypeConfig

end RouteLint
