import RouteLint.Proofs.Assurance
import RouteLint.Proofs.Scope.Tables
import RouteLint.Typing.Lookup

/-!
# Where names lead

Modules that import and export each other are a graph.  From a name in a file one can go to a name
that another file exports, from there to a name inside that file or to an export of a third one, and
so on until a file declares types with the name.  At a name that is exported wholesale there may be
several ways to go on.  The rules below say which ways there are; they know neither of tables nor of
a limit, and it does not matter to them whether modules import each other in a circle.

Looking up a name tries the ways one after the other, in a limited number of steps.  It finds
something exactly if a way comes to its end within the limit, and then all types that the file at
its end declares with the name.

A scope keeps the quotes of a name that something is exported as, while an import gives them up, so
that the two do not meet; lists that export a name in quotes are left out here.

## Main definitions

* `Modules` — what files hold, and where their imports lead.
* `Wanted` — what is looked for: a name inside a file, or one that a file exports.
* `Modules.Hop`, `Modules.Reaches` — **the ways that names lead.**
* `Modules.Finds` — what a search with a limit finds.

## Main results

* `lookup_ensures` — looking up a name finds what it leads to.
-/

namespace RouteLint

open Syntax

/-! ### Modules -/

namespace Syntax

/-- Whether something in a list is exported as a name in quotes. -/
def ExportedName.quotes (n : ExportedName) : Bool :=
  match n.renamed with
  | some (.quoted _ _) => true
  | _ => false

/-- Whether a statement exports something as a name in quotes. -/
def Statement.quotes : Statement → Bool
  | .exports names _ => names.any ExportedName.quotes
  | _ => false

namespace Module

/-- Nothing is exported as a name in quotes. -/
def RenamesPlainly (m : Module) : Prop := ∀ t ∈ m.statements, t.quotes = false

instance (m : Module) : Decidable m.RenamesPlainly :=
  inferInstanceAs (Decidable (∀ t ∈ m.statements, t.quotes = false))

/-- The specifiers of the modules that a module imports or exports something from. -/
def specifiers (m : Module) : List String :=
  m.imported.map (fun e => e.2.specifier) ++ m.exported.filterMap (fun e => e.2.specifier) ++
    m.starExports

end Module

theorem ExportedName.kept_eq_of_not_quotes {n : ExportedName} (h : n.quotes = false) :
    n.kept = n.outside := by
  obtain ⟨name, renamed⟩ := n
  cases renamed with
  | none => rfl
  | some r =>
    cases r with
    | identifier text => rfl
    | quoted mark contents => cases h

variable {m : Module} {name : String}

/-- Exports are kept under the names that they are made under. -/
theorem Module.RenamesPlainly.exportedBy_kept (h : m.RenamesPlainly) :
    m.exportedBy ExportedName.kept = m.exported := by
  unfold Module.exported Module.exportedBy
  refine List.flatMap_congr fun t ht => ?_
  cases t with
  | exports names specifier =>
    refine List.map_congr_left fun n hn => ?_
    rw [ExportedName.kept_eq_of_not_quotes]
    exact Bool.eq_false_iff.2 (List.any_eq_false.1 (h _ ht) n hn)
  | declares exporting ds => cases exporting <;> rfl
  | imports | exportsAll | other => rfl

theorem Module.mem_specifiers_of_import {i : Scope.Import} (h : m.lastImport name = some i) :
    i.specifier ∈ m.specifiers := by
  have hmem : (name, i) ∈ m.imported := Table.mem_of_last? h
  exact List.mem_append_left _ (List.mem_append_left _
    (List.mem_map_of_mem (f := fun e : String × Scope.Import => e.2.specifier) hmem))

theorem Module.mem_specifiers_of_export {inner specifier : String}
    (h : m.lastExport name = some ⟨inner, some specifier⟩) : specifier ∈ m.specifiers := by
  have hmem : (name, (⟨inner, some specifier⟩ : Scope.Export)) ∈ m.exported := Table.mem_of_last? h
  exact List.mem_append_left _ (List.mem_append_right _ (List.mem_filterMap.2 ⟨_, hmem, rfl⟩))

theorem Module.mem_specifiers_of_starExport {specifier : String} (h : specifier ∈ m.starExports) :
    specifier ∈ m.specifiers :=
  List.mem_append_right _ h

end Syntax

/-! ### Ways -/

/-- Modules by the files that they stand in. -/
structure Modules where
  /-- The files that belong to them. -/
  files : Path → Prop
  /-- What a file holds. -/
  module : Path → Module
  /-- The file that a specifier in a file leads to. -/
  target : Path → String → Option Path

/-- What is looked for. -/
inductive Wanted where
  /-- What a name stands for inside a file. -/
  | inside (file : Path) (name : String)
  /-- What a file exports under a name. -/
  | outside (file : Path) (name : String)

namespace Modules

variable (M : Modules)

/-- The types that a file declares with a name, in order. -/
def declared (file : Path) (name : String) : List DeclaredType :=
  ((M.module file).types.filter fun d => d.name = name).map fun d => ⟨d, file⟩

/-- One step on the way to the types that are looked for. -/
inductive Hop : Wanted → Wanted → Prop
  /-- A name that the file does not declare is looked for where it is imported from. -/
  | imported {file target : Path} {name : String} {i : Scope.Import}
    (hnone : M.declared file name = []) (hi : (M.module file).lastImport name = some i)
    (htarget : M.target file i.specifier = some target) :
    Hop (.inside file name) (.outside target i.name)
  /-- A listed name is looked for inside the file. -/
  | listed {file : Path} {name inner : String}
    (he : (M.module file).lastExport name = some ⟨inner, none⟩) :
    Hop (.outside file name) (.inside file inner)
  /-- A listed name that comes from another file is looked for there. -/
  | relisted {file target : Path} {name inner specifier : String}
    (he : (M.module file).lastExport name = some ⟨inner, some specifier⟩)
    (htarget : M.target file specifier = some target) :
    Hop (.outside file name) (.outside target inner)
  /-- A name that is not listed is looked for in any file of which everything is exported. -/
  | wholesale {file target : Path} {name specifier : String}
    (hnone : (M.module file).lastExport name = none)
    (hs : specifier ∈ (M.module file).starExports)
    (htarget : M.target file specifier = some target) :
    Hop (.outside file name) (.outside target name)

/-- What is looked for is found, in so many steps, as the types that a file declares with a
name. -/
inductive Reaches : Nat → Wanted → Path → String → Prop
  | here {file : Path} {name : String} (h : M.declared file name ≠ []) :
    Reaches 0 (.inside file name) file name
  | hop {n : Nat} {q q' : Wanted} {file : Path} {name : String} (h : M.Hop q q')
    (hq' : Reaches n q' file name) : Reaches (n + 1) q file name

/-- A search in a limited number of steps finds all types at the end of a way, if there is one. -/
structure Finds (steps : Nat) (q : Wanted) (ds : List DeclaredType) : Prop where
  sound : ds ≠ [] → ∃ n < steps, ∃ file name, M.Reaches n q file name ∧ ds = M.declared file name
  complete : ∀ n < steps, ∀ file name, M.Reaches n q file name → ds ≠ []

variable {M}

theorem Finds.zero (q : Wanted) : M.Finds 0 q [] :=
  ⟨fun h => absurd rfl h, fun n hn => absurd hn (Nat.not_lt_zero n)⟩

/-- A name that the file declares. -/
theorem Finds.here {n : Nat} {file : Path} {name : String} (h : M.declared file name ≠ []) :
    M.Finds (n + 1) (.inside file name) (M.declared file name) :=
  ⟨fun _ => ⟨0, n.succ_pos, file, name, .here h, rfl⟩, fun _ _ _ _ _ => h⟩

/-- What is found after one step. -/
theorem Finds.of_hops {n : Nat} {q : Wanted} {ds : List DeclaredType}
    (hhere : ∀ file name, ¬M.Reaches 0 q file name)
    (hsome : ds ≠ [] → ∃ q', M.Hop q q' ∧ M.Finds n q' ds)
    (hnone : ds = [] → ∀ q', M.Hop q q' → M.Finds n q' []) : M.Finds (n + 1) q ds where
  sound hne := by
    obtain ⟨q', hhop, hq'⟩ := hsome hne
    obtain ⟨k, hk, file, name, hreaches, heq⟩ := hq'.sound hne
    exact ⟨k + 1, Nat.succ_lt_succ hk, file, name, .hop hhop hreaches, heq⟩
  complete k hk file name hreaches hds := by
    -- a way starts with one of the steps, and what is left of it is within the limit of the rest
    cases hreaches with
    | here h => exact hhere _ _ (.here h)
    | hop hhop hreaches =>
      exact (hnone hds _ hhop).complete _ (Nat.lt_of_succ_lt_succ hk) _ _ hreaches rfl

/-- What is found where there is one step to take. -/
theorem Finds.of_hop {n : Nat} {q q' : Wanted} {ds : List DeclaredType}
    (hhere : ∀ file name, ¬M.Reaches 0 q file name) (hhop : M.Hop q q')
    (honly : ∀ q'', M.Hop q q'' → q'' = q') (h : M.Finds n q' ds) : M.Finds (n + 1) q ds :=
  .of_hops hhere (fun _ => ⟨q', hhop, h⟩) fun hds q'' hq'' => by
    rw [honly q'' hq'']
    exact hds ▸ h

/-- Nothing is found where there is no step to take. -/
theorem Finds.of_no_hop {n : Nat} {q : Wanted} (hhere : ∀ file name, ¬M.Reaches 0 q file name)
    (hhop : ∀ q', ¬M.Hop q q') : M.Finds (n + 1) q [] :=
  .of_hops hhere (fun h => absurd rfl h) fun _ q' hq' => absurd hq' (hhop q')

theorem not_reaches_outside (file : Path) (name : String) (file' : Path) (name' : String) :
    ¬M.Reaches 0 (.outside file name) file' name' := nofun

theorem not_reaches_of_declared {file : Path} {name : String} (h : M.declared file name = [])
    (file' : Path) (name' : String) : ¬M.Reaches 0 (.inside file name) file' name' := by
  intro hreaches
  cases hreaches with
  | here hne => exact hne h

/-! #### Which steps there are -/

theorem hop_imported_iff {file : Path} {name : String} {i : Scope.Import} {q : Wanted}
    (hnone : M.declared file name = []) (hi : (M.module file).lastImport name = some i) :
    M.Hop (.inside file name) q ↔
      ∃ target, M.target file i.specifier = some target ∧ q = .outside target i.name := by
  constructor
  · rintro (⟨-, hi', htarget⟩ | _)
    rw [hi] at hi'
    cases hi'
    exact ⟨_, htarget, rfl⟩
  · rintro ⟨target, htarget, rfl⟩
    exact .imported hnone hi htarget

theorem not_hop_of_unimported {file : Path} {name : String}
    (hi : (M.module file).lastImport name = none) (q : Wanted) : ¬M.Hop (.inside file name) q := by
  rintro (⟨-, hi', -⟩ | _)
  rw [hi] at hi'
  cases hi'

theorem hop_listed_iff {file : Path} {name inner : String} {q : Wanted}
    (he : (M.module file).lastExport name = some ⟨inner, none⟩) :
    M.Hop (.outside file name) q ↔ q = .inside file inner := by
  constructor
  · rintro (_ | he' | ⟨he', -⟩ | ⟨he', -, -⟩) <;> rw [he] at he' <;> cases he'
    rfl
  · rintro rfl
    exact .listed he

theorem hop_relisted_iff {file : Path} {name inner specifier : String} {q : Wanted}
    (he : (M.module file).lastExport name = some ⟨inner, some specifier⟩) :
    M.Hop (.outside file name) q ↔
      ∃ target, M.target file specifier = some target ∧ q = .outside target inner := by
  constructor
  · rintro (_ | he' | ⟨he', htarget⟩ | ⟨he', -, -⟩) <;> rw [he] at he' <;> cases he'
    exact ⟨_, htarget, rfl⟩
  · rintro ⟨target, htarget, rfl⟩
    exact .relisted he htarget

theorem hop_unlisted_iff {file : Path} {name : String} {q : Wanted}
    (he : (M.module file).lastExport name = none) :
    M.Hop (.outside file name) q ↔ ∃ specifier ∈ (M.module file).starExports,
      ∃ target, M.target file specifier = some target ∧ q = .outside target name := by
  constructor
  · rintro (_ | he' | ⟨he', -⟩ | ⟨-, hs, htarget⟩)
    · rw [he] at he'
      cases he'
    · rw [he] at he'
      cases he'
    · exact ⟨_, hs, _, htarget, rfl⟩
  · rintro ⟨specifier, hs, target, htarget, rfl⟩
    exact .wholesale he hs htarget

/-- What is found behind a specifier, which may lead nowhere. -/
def FindsBehind (M : Modules) (steps : Nat) (target : Option Path) (name : String)
    (ds : List DeclaredType) : Prop :=
  match target with
  | none => ds = []
  | some file => M.Finds steps (.outside file name) ds

/-- What is found where all steps go to a file behind one specifier. -/
theorem Finds.behind {n : Nat} {q : Wanted} {ds : List DeclaredType} {target : Option Path}
    {name : String} (hhere : ∀ file name, ¬M.Reaches 0 q file name)
    (hhop : ∀ q', M.Hop q q' ↔ ∃ file, target = some file ∧ q' = .outside file name)
    (h : M.FindsBehind n target name ds) : M.Finds (n + 1) q ds := by
  cases target with
  | none =>
    have hds : ds = [] := h
    rw [hds]
    refine .of_no_hop hhere fun q' hq' => ?_
    obtain ⟨file, hfile, -⟩ := (hhop q').1 hq'
    cases hfile
  | some file =>
    refine .of_hop hhere ((hhop _).2 ⟨file, rfl, rfl⟩) (fun q' hq' => ?_) h
    obtain ⟨file', hfile', rfl⟩ := (hhop q').1 hq'
    cases hfile'
    rfl

end Modules

/-! ### Searches -/

section Searches

variable {m : Type → Type} [Monad m] {A : Assurance m} {g : ModuleGraph m} {M : Modules}

/-- A search for a first result ends with one of the results, or all of them are empty. -/
theorem firstFound_ensures [LawfulMonad m] {α β : Type} {f : α → m (List β)}
    {R : α → List β → Prop} {as : List α} (h : ∀ a ∈ as, A.Ensures (f a) (R a)) :
    A.Ensures (firstFound f as) fun found =>
      (found ≠ [] → ∃ a ∈ as, R a found) ∧ (found = [] → ∀ a ∈ as, R a []) := by
  induction as with
  | nil => exact A.pure ⟨fun h => absurd rfl h, nofun⟩
  | cons a as ih =>
    rw [firstFound]
    refine A.bind (h a List.mem_cons_self) fun found hfound => ?_
    cases found with
    | cons d ds => exact A.pure ⟨fun _ => ⟨a, List.mem_cons_self, hfound⟩, nofun⟩
    | nil =>
      refine A.mono (ih fun a' ha' => h a' (List.mem_cons_of_mem _ ha')) fun rest hrest => ?_
      obtain ⟨hsome, hnone⟩ := hrest
      refine ⟨fun hne => ?_, fun hnil => List.forall_mem_cons.2 ⟨hfound, hnone hnil⟩⟩
      obtain ⟨a', ha', hR⟩ := hsome hne
      exact ⟨a', List.mem_cons_of_mem _ ha', hR⟩

/-- A graph whose answers are those of given modules. -/
structure Assurance.Reads (A : Assurance m) (g : ModuleGraph m) (M : Modules) : Prop where
  /-- The scope of a file is that of what it holds. -/
  scope : ∀ file, M.files file →
    A.Ensures (g.scope file) fun s => s = Scope.ofModule (M.module file)
  /-- Imports lead where they are said to lead. -/
  target : ∀ file, M.files file → ∀ specifier ∈ (M.module file).specifiers,
    A.Ensures (g.target file specifier) fun t => t = M.target file specifier
  /-- They lead to files that belong to the modules. -/
  closed : ∀ file, M.files file → ∀ specifier ∈ (M.module file).specifiers,
    ∀ target, M.target file specifier = some target → M.files target

/-! #### What scopes say -/

theorem get?_types_ofModule (m : Module) (name : String) :
    (Scope.ofModule m).types.get? name =
      if (m.types.filter fun d => d.name = name) = [] then none
      else some (m.types.filter fun d => d.name = name) := by
  rw [Scope.ofModule_eq]
  exact Table.get?_collect_nil _ _ _

theorem get?_imports_ofModule (m : Module) (name : String) :
    (Scope.ofModule m).imports.get? name = m.lastImport name := by
  rw [Scope.ofModule_eq]
  exact (Table.get?_merge _ _ _).trans (Option.or_none)

theorem get?_exports_kept (m : Module) (name : String) :
    (Scope.ofModule m).exports.get? name =
      Table.last? (m.exportedBy ExportedName.kept) name := by
  rw [Scope.exports_ofModule]
  exact (Table.get?_merge _ _ _).trans (Option.or_none)

theorem get?_exports_ofModule {m : Module} (h : m.RenamesPlainly) (name : String) :
    (Scope.ofModule m).exports.get? name = m.lastExport name := by
  rw [get?_exports_kept, h.exportedBy_kept]
  rfl

theorem starExports_ofModule (m : Module) : (Scope.ofModule m).starExports = m.starExports := by
  rw [Scope.ofModule_eq]

/-! #### Following a target -/

/-- Following a specifier to what another file exports. -/
theorem Assurance.Reads.follow (h : A.Reads g M) {n : Nat}
    (ih : ∀ file name, M.files file →
      A.Ensures (lookupExport g n file name) (M.Finds n (.outside file name)))
    {file : Path} (hfile : M.files file) {specifier : String}
    (hs : specifier ∈ (M.module file).specifiers) (name : String) :
    A.Ensures
      (do
        match ← g.target file specifier with
        | none => return []
        | some target => lookupExport g n target name)
      (M.FindsBehind n (M.target file specifier) name) := by
  refine A.bind (h.target file hfile specifier hs) fun target htarget => ?_
  rw [← htarget]
  cases target with
  | none => exact A.pure rfl
  | some target => exact ih target name (h.closed file hfile specifier hs target htarget.symm)

variable [LawfulMonad m]

/-- A name inside a file, when exports are found in one step less. -/
theorem lookupType_ensures (h : A.Reads g M) {n : Nat}
    (ih : ∀ file name, M.files file →
      A.Ensures (lookupExport g n file name) (M.Finds n (.outside file name)))
    {file : Path} (hfile : M.files file) (name : String) :
    A.Ensures (lookupType g (n + 1) file name) (M.Finds (n + 1) (.inside file name)) := by
  rw [lookupType]
  refine A.bind (h.scope file hfile) fun s hs => ?_
  rw [hs, get?_types_ofModule, get?_imports_ofModule]
  -- a name that the file declares hides the one that it imports
  by_cases hnil : ((M.module file).types.filter fun d => d.name = name) = []
  · have hnone : M.declared file name = [] := by rw [Modules.declared, hnil, List.map_nil]
    have hhere := Modules.not_reaches_of_declared hnone
    rw [if_pos hnil]
    dsimp only
    cases hi : (M.module file).lastImport name with
    | none => exact A.pure (.of_no_hop hhere (Modules.not_hop_of_unimported hi))
    | some i =>
      refine A.mono (h.follow ih hfile (Module.mem_specifiers_of_import hi) i.name) fun ds hds => ?_
      exact .behind hhere (fun _ => Modules.hop_imported_iff hnone hi) hds
  · have hsome : M.declared file name ≠ [] := fun h => hnil (List.map_eq_nil_iff.1 h)
    rw [if_neg hnil]
    exact A.pure (.here hsome)

/-- An export of a file, when names and exports are found in one step less. -/
theorem lookupExport_ensures (h : A.Reads g M) {n : Nat}
    (ihType : ∀ file name, M.files file →
      A.Ensures (lookupType g n file name) (M.Finds n (.inside file name)))
    (ihExport : ∀ file name, M.files file →
      A.Ensures (lookupExport g n file name) (M.Finds n (.outside file name)))
    {file : Path} (hfile : M.files file) (hplain : (M.module file).RenamesPlainly)
    (name : String) :
    A.Ensures (lookupExport g (n + 1) file name) (M.Finds (n + 1) (.outside file name)) := by
  have hhere := Modules.not_reaches_outside (M := M) file name
  rw [lookupExport]
  refine A.bind (h.scope file hfile) fun s hs => ?_
  rw [hs, get?_exports_ofModule hplain, starExports_ofModule]
  cases he : (M.module file).lastExport name with
  | none =>
    -- several ways may go on; nothing is found only if each of them has been tried in vain
    refine A.mono (firstFound_ensures fun specifier hs =>
      h.follow ihExport hfile (Module.mem_specifiers_of_starExport hs) name) fun ds hds => ?_
    obtain ⟨hsome, hnone⟩ := hds
    refine .of_hops hhere (fun hne => ?_) fun hnil q hq => ?_
    · obtain ⟨specifier, hs, hbehind⟩ := hsome hne
      cases ht : M.target file specifier with
      | none =>
        rw [ht] at hbehind
        exact absurd hbehind hne
      | some target =>
        rw [ht] at hbehind
        exact ⟨.outside target name, .wholesale he hs ht, hbehind⟩
    · obtain ⟨specifier, hs, target, ht, rfl⟩ := (Modules.hop_unlisted_iff he).1 hq
      have hbehind := hnone hnil specifier hs
      rw [ht] at hbehind
      exact hbehind
  | some e =>
    -- the one way to go on is the listed one, even if it leads nowhere
    obtain ⟨inner, specifier⟩ := e
    cases specifier with
    | none =>
      refine A.mono (ihType file inner hfile) fun ds hds => ?_
      exact .of_hop hhere (.listed he) (fun _ => (Modules.hop_listed_iff he).1) hds
    | some specifier =>
      refine A.mono (h.follow ihExport hfile (Module.mem_specifiers_of_export he) inner)
        fun ds hds => ?_
      exact .behind hhere (fun _ => Modules.hop_relisted_iff he) hds

/-- **Looking up a name finds what it leads to**, and so does looking up an export; each of the two
uses the other with fewer steps. -/
theorem lookup_ensures (h : A.Reads g M)
    (hplain : ∀ file, M.files file → (M.module file).RenamesPlainly) (steps : Nat) :
    (∀ file name, M.files file →
      A.Ensures (lookupType g steps file name) (M.Finds steps (.inside file name))) ∧
    (∀ file name, M.files file →
      A.Ensures (lookupExport g steps file name) (M.Finds steps (.outside file name))) := by
  induction steps with
  | zero =>
    constructor
    · intro file name _
      rw [lookupType]
      exact A.pure (.zero _)
    · intro file name _
      rw [lookupExport]
      exact A.pure (.zero _)
  | succ n ih =>
    obtain ⟨ihType, ihExport⟩ := ih
    exact ⟨fun file name hfile => lookupType_ensures h ihExport hfile name,
      fun file name hfile => lookupExport_ensures h ihType ihExport hfile (hplain file hfile) name⟩

end Searches

end RouteLint
