import RouteLint.Proofs.Project.PassedArguments

/-!
# Which declaration of an interface counts

An interface may be declared more than once, and each of its declarations may extend other types.
All declarations are gone through once, in their order: what a declaration writes out is put over
what was written out before, and what it extends is put under everything that was found before.  So
of the members that are written out the last one counts, of those that are inherited the first one,
and a member that is written out anywhere counts for more than one that is inherited, wherever the
two declarations stand.

## Main definitions

* `basesOf` — the types that declarations extend, in their order.
* `DeclaresLast` — the last declaration that writes out a member with a name.

## Main results

* `interfaceProperties_eq` — the declarations of an interface, with everything that they extend
  resolved beforehand.
* `resolveFrom_interface` — **the last own member, or else the first inherited one.**
-/

namespace RouteLint

open Syntax Project

/-! ### Declarations in their order -/

variable {ds : List DeclaredType} {args : List TypeRef} {x : String}

/-- The types that declarations extend, in the order of the declarations and then of their
clauses. -/
def basesOf (args : List TypeRef) (ds : List DeclaredType) : List TypeRef :=
  ds.flatMap fun d =>
    match d with
    | ⟨.alias _, _⟩ => []
    | ⟨.interface i, file⟩ => i.bases.map fun t => ⟨t, file, bind file i.parameters args⟩

/-- The surroundings in which the members of a declaration are written out. -/
def inside (args : List TypeRef) (i : Interface) (file : Path) : TypeRef :=
  ⟨default, file, bind file i.parameters args⟩

/-- The last declaration that writes out a member with a name. -/
inductive DeclaresLast (x : String) : List DeclaredType → Interface → Path → Prop
  | mk (before after : List DeclaredType) {i : Interface} {file : Path}
    (writes : ∃ m ∈ i.members, m.name? = some x) (last : ¬IsOwn after x) :
    DeclaresLast x (before ++ ⟨.interface i, file⟩ :: after) i file

theorem DeclaresLast.cons {i : Interface} {file : Path} (h : DeclaresLast x ds i file)
    (d : DeclaredType) : DeclaresLast x (d :: ds) i file := by
  cases h with
  | mk before after writes last => exact .mk (d :: before) after writes last

/-- What declarations write out, put over what was there before. -/
def writeOver (args : List TypeRef) (own : Table String Property) :
    List DeclaredType → Table String Property
  | [] => own
  | ⟨.alias _, _⟩ :: ds => writeOver args own ds
  | ⟨.interface i, file⟩ :: ds =>
    writeOver args (own.merge (membersOf (inside args i file) i.members)) ds

/-- What types have, put under what was there before. -/
def putUnder (above : Table String Property) (us : List ResolvedType) : Table String Property :=
  us.foldl (fun above u => u.properties.foldl (fun t e => t.setDefault e.1 e.2) above) above

/-- A name that no declaration writes out has what it had before. -/
theorem get?_writeOver_of_not_isOwn (own : Table String Property) (h : ¬IsOwn ds x) :
    (writeOver args own ds).get? x = own.get? x := by
  induction ds generalizing own with
  | nil => rfl
  | cons d ds ih =>
    obtain ⟨a | i, file⟩ := d
    · exact ih own (fun hx => h (isOwn_alias.2 hx))
    · obtain ⟨hmembers, hothers⟩ := not_or.1 (mt isOwn_interface.2 h)
      have hnone : (membersOf (inside args i file) i.members).get? x = none := by
        rw [← contains_membersOf_iff (r := inside args i file), Table.contains,
          Bool.not_eq_true, Option.isSome_eq_false_iff, Option.isNone_iff_eq_none] at hmembers
        exact hmembers
      rw [writeOver, ih _ hothers, Table.get?_merge, (proper_membersOf _ _).distinct.last?_eq,
        hnone, Option.none_or]

/-- The last declaration that writes out a name decides what it has, and there the last member. -/
theorem exists_get?_writeOver (own : Table String Property) (h : IsOwn ds x) :
    ∃ i file k m p, DeclaresLast x ds i file ∧ Member.IsLast x i.members k m ∧
      propertyOf (inside args i file) m = some p ∧ (writeOver args own ds).get? x = some p := by
  induction ds generalizing own with
  | nil =>
    obtain ⟨i, file, hi, -⟩ := h
    cases hi
  | cons d ds ih =>
    -- if a later declaration writes out the name, the first one does not matter
    by_cases hlater : IsOwn ds x
    · obtain ⟨a | i, file⟩ := d
      · obtain ⟨j, file', k, m, p, hj, hm, hp, hget⟩ := ih own hlater
        exact ⟨j, file', k, m, p, hj.cons _, hm, hp, hget⟩
      · obtain ⟨j, file', k, m, p, hj, hm, hp, hget⟩ :=
          ih (own.merge (membersOf (inside args i file) i.members)) hlater
        exact ⟨j, file', k, m, p, hj.cons _, hm, hp, hget⟩
    · obtain ⟨a | i, file⟩ := d
      · exact absurd (isOwn_alias.1 h) hlater
      · have hwrites := (isOwn_interface.1 h).resolve_right hlater
        obtain ⟨p, hp⟩ := Option.isSome_iff_exists.1
          (contains_membersOf_iff (r := inside args i file).2 hwrites)
        obtain ⟨k, m, hm, hmp⟩ := exists_isLast hp
        refine ⟨i, file, k, m, p, .mk [] ds hwrites hlater, hm, hmp, ?_⟩
        rw [writeOver, get?_writeOver_of_not_isOwn _ hlater, Table.get?_merge,
          (proper_membersOf _ _).distinct.last?_eq, hp, Option.some_or]

/-- A name that was not there before has what the first type has under it that has it. -/
theorem get?_putUnder (above : Table String Property) (us : List ResolvedType) (x : String) :
    (putUnder above us).get? x =
      (above.get? x).or (us.findSome? fun u => u.properties.get? x) := by
  induction us generalizing above with
  | nil => exact Option.or_none.symm
  | cons u us ih =>
    unfold putUnder at ih ⊢
    rw [List.foldl_cons, ih, Table.get?_setDefaults, Option.or_assoc, List.findSome?_cons]
    cases u.properties.get? x <;> rfl

/-- Properties are found under their names in what declarations write out. -/
theorem distinct_writeOver {own : Table String Property} (h : own.Distinct) :
    (writeOver args own ds).Distinct := by
  induction ds generalizing own with
  | nil => exact h
  | cons d ds ih =>
    obtain ⟨a | i, file⟩ := d
    · exact ih h
    · exact ih (Table.distinct_merge h _)

/-! ### One pass -/

section Pass

variable {m : Type → Type} [Monad m] [LawfulMonad m] (resolve : TypeRef → m ResolvedType)

theorem inherited_eq (file : Path) (bindings : Table String TypeRef)
    (before : Table String Property) (bases : List TypeExpr) :
    inherited resolve file bindings before bases =
      putUnder before <$> (bases.map fun t => ⟨t, file, bindings⟩).mapM resolve := by
  induction bases generalizing before with
  | nil => simp [inherited, putUnder]
  | cons t bases ih =>
    have hrest := fun before => ih before
    unfold inherited at hrest ⊢
    rw [List.foldlM_cons, List.map_cons, List.mapM_cons]
    simp only [bind_assoc, pure_bind, hrest, map_eq_pure_bind]
    rfl

/-- **The declarations of an interface**: everything that they extend can be resolved beforehand, and
what is written out and what is inherited do not get in each other's way. -/
theorem interfaceProperties_eq (args : List TypeRef) (ds : List DeclaredType)
    (own above : Table String Property) :
    interfaceProperties resolve args ds own above =
      (fun us => (writeOver args own ds, putUnder above us)) <$>
        (basesOf args ds).mapM resolve := by
  induction ds generalizing own above with
  | nil => simp [interfaceProperties, basesOf, writeOver, putUnder]
  | cons d ds ih =>
    obtain ⟨a | i, file⟩ := d
    · exact ih own above
    · have hbases : basesOf args (⟨.interface i, file⟩ :: ds) =
          (i.bases.map fun t => ⟨t, file, bind file i.parameters args⟩) ++ basesOf args ds := rfl
      rw [interfaceProperties, hbases, List.mapM_append, inherited_eq]
      simp only [ih, map_eq_pure_bind, bind_assoc, pure_bind]
      simp only [putUnder, List.foldl_append]
      rfl

end Pass

/-! ### At a bench -/

variable {b : Bench} {r : TypeRef} {name : String}

/-- What a type is resolved to that refers to declarations which do not make it an alias. -/
theorem Refers.yields_interface (hb : b.Tidy) (h : Refers b.Sees r name ds args) (hne : ds ≠ [])
    (hds : NoAlias ds) (n : Nat) : b.Yields (resolveFrom Project.graph (n + 1) r) (do
      let us ← (basesOf args ds).mapM fun u => (outcome (resolveFrom Project.graph n u) b).1
      let text ← (outcome (renderFrom Project.graph (n + 1) r) b).1
      return ⟨text, (putUnder [] us).merge (writeOver args [] ds)⟩) := by
  have hrest : b.Yields (resolveDeclared (resolveFrom Project.graph n)
      (renderFrom Project.graph (n + 1) r) ds args) (do
        let us ← (basesOf args ds).mapM fun u => (outcome (resolveFrom Project.graph n u) b).1
        let text ← (outcome (renderFrom Project.graph (n + 1) r) b).1
        return ⟨text, (putUnder [] us).merge (writeOver args [] ds)⟩) := by
    have hbases := Bench.Yields.mapM (fun u => (hb.resolves n u).1) (basesOf args ds)
    have htext := Bench.Yields.of_ensures (hb.shows.renderFrom (n + 1) r)
    obtain ⟨⟨a | i, file⟩, ds', rfl⟩ := List.exists_cons_of_ne_nil hne
    · exact absurd rfl (hds a file)
    · rw [resolveDeclared, interfaceProperties_eq, map_eq_pure_bind, bind_assoc]
      · exact hbases.andThen fun us => htext.andThen fun text => .pure _
      · nofun
  obtain ⟨d, ds', rfl⟩ := List.exists_cons_of_ne_nil hne
  have hseen : ∀ file name, b.Sees file name (d :: ds') →
      b.Yields (visibleTypes Project.graph file name) (.ok (d :: ds')) := by
    intro file name hsees
    exact hsees ▸ Bench.Yields.of_ensures (hb.shows.types file name)
  cases h with
  | name hr hfree hsees =>
    rw [resolveFrom, hr]
    dsimp only
    rw [hfree]
    exact (hseen _ _ hsees).bind hrest
  | generic hr hplain hfree hsees =>
    rw [resolveFrom, hr]
    dsimp only
    rw [if_pos (head_free_iff.2 ⟨hplain, hfree⟩)]
    exact (hseen _ _ hsees).bind hrest

/-- The result in parts: all that is extended is resolved and the type is shown, and that is all
that is needed. -/
theorem Refers.resolves_interface_iff (hb : b.Tidy) (h : Refers b.Sees r name ds args)
    (hne : ds ≠ []) (hds : NoAlias ds) {n : Nat} {t : ResolvedType} :
    b.Resolves (n + 1) r t ↔ ∃ us, List.Forall₂ (b.Resolves n) (basesOf args ds) us ∧
      (outcome (renderFrom Project.graph (n + 1) r) b).1 = .ok t.text ∧
      t.properties = (putUnder [] us).merge (writeOver args [] ds) := by
  unfold Bench.Resolves
  rw [← (h.yields_interface hb hne hds n).eq]
  constructor
  · intro ht
    obtain ⟨us, hus, ht⟩ := except_bind_eq_ok ht
    obtain ⟨text, htext, ht⟩ := except_bind_eq_ok ht
    cases ht
    exact ⟨us, mapM_eq_ok_iff.1 hus, htext, rfl⟩
  · rintro ⟨us, hus, htext, hproperties⟩
    rw [except_bind_of_ok (mapM_eq_ok_iff.2 hus), except_bind_of_ok htext, ← hproperties]
    rfl

/-- **The last own member, or else the first inherited one.**  A type that refers to declarations of
an interface is resolved if everything is that they extend and the type can be shown.  A member that
any of the declarations writes out is then the last one with its name in the last declaration that
has one; every other member is that of the first type that has one, in the order of the declarations
and then of their clauses. -/
theorem resolveFrom_interface (hb : b.Tidy) (h : Refers b.Sees r name ds args) (hne : ds ≠ [])
    (hds : NoAlias ds) (n : Nat) :
    ((∃ t, b.Resolves (n + 1) r t) ↔ (∀ u ∈ basesOf args ds, ∃ t, b.Resolves n u t) ∧
      ∃ text, (outcome (renderFrom Project.graph (n + 1) r) b).1 = .ok text) ∧
    ∀ t, b.Resolves (n + 1) r t → ∃ us, List.Forall₂ (b.Resolves n) (basesOf args ds) us ∧ ∀ x,
      (IsOwn ds x → ∃ i file k m p, DeclaresLast x ds i file ∧ Member.IsLast x i.members k m ∧
        propertyOf (inside args i file) m = some p ∧ t.properties.get? x = some p) ∧
      (¬IsOwn ds x → t.properties.get? x = us.findSome? fun u => u.properties.get? x) := by
  refine ⟨⟨?_, ?_⟩, fun t ht => ?_⟩
  · rintro ⟨t, ht⟩
    obtain ⟨us, hus, htext, -⟩ := (h.resolves_interface_iff hb hne hds).1 ht
    refine ⟨fun u hu => ?_, t.text, htext⟩
    obtain ⟨u', -, hu'⟩ := exists_left_of_forall₂ hus.flip hu
    exact ⟨u', hu'⟩
  · rintro ⟨hbases, text, htext⟩
    have hus := forall₂_of_mapM_eq_ok (mapM_eq_ok hbases)
    exact ⟨⟨text, _⟩, (h.resolves_interface_iff hb hne hds).2 ⟨_, hus, htext, rfl⟩⟩
  · obtain ⟨us, hus, -, hproperties⟩ := (h.resolves_interface_iff hb hne hds).1 ht
    refine ⟨us, hus, fun x => ?_⟩
    -- what is written out hides what is inherited
    have hget : t.properties.get? x = ((writeOver args [] ds).get? x).or
        (us.findSome? fun u => u.properties.get? x) := by
      rw [hproperties, Table.get?_merge, (distinct_writeOver Table.distinct_nil).last?_eq,
        get?_putUnder]
      rfl
    constructor
    · intro hown
      obtain ⟨i, file, k, m, p, hlast, hm, hp, hwritten⟩ := exists_get?_writeOver [] hown
      exact ⟨i, file, k, m, p, hlast, hm, hp, by rw [hget, hwritten, Option.some_or]⟩
    · intro hown
      rw [hget, get?_writeOver_of_not_isOwn _ hown]
      rfl

/-- A type is resolved if anything comes of it. -/
theorem Bench.exists_resolves {α : Type} {f : ResolvedType → Work α} {a : α}
    (h : (outcome (resolve Project.graph r >>= f) b).1 = .ok a) :
    ∃ t, b.Resolves (maxDepth + 1) r t := by
  obtain ⟨t, b', ht, -⟩ := outcome_bind_eq_ok (Prod.ext h rfl)
  exact ⟨t, congrArg Prod.fst ht⟩

/-! ### Two declarations that extend other types -/

namespace Reopened

open Sole

/-- An interface that is declared twice and extends a generic interface and another one, which have
some of its members and some of each other's:
```
| interface I extends B<y>{a:x;a:w}
| interface I extends C{c:z}
| interface B<T>{a:T;b:T;c:T}
| interface C{b:z;d:z}
``` -/
def file : String :=
  "interface I extends B<y>\x7ba:x;a:w\x7d\ninterface I extends C\x7bc:z\x7d\n" ++
    "interface B<T>\x7ba:T;b:T;c:T\x7d\ninterface C\x7bb:z;d:z\x7d\n"

/-- The first declaration. -/
def first : Interface where
  extent := ⟨0, 33, 0, 0⟩
  name := "I"
  parameters := []
  bases := [.generic ⟨⟨20, 24, 0, 20⟩, "B<y>"⟩ ⟨"B", true⟩ [.name ⟨⟨22, 23, 0, 22⟩, "y"⟩]]
  members := [.property (.identifier "a") (some (.name ⟨⟨27, 28, 0, 27⟩, "x"⟩)),
    .property (.identifier "a") (some (.name ⟨⟨31, 32, 0, 31⟩, "w"⟩))]

/-- The second declaration. -/
def second : Interface where
  extent := ⟨34, 60, 1, 0⟩
  name := "I"
  parameters := []
  bases := [.name ⟨⟨54, 55, 1, 20⟩, "C"⟩]
  members := [.property (.identifier "c") (some (.name ⟨⟨58, 59, 1, 24⟩, "z"⟩))]

/-- What the name of the interface stands for. -/
def declared : List DeclaredType := [⟨.interface first, path⟩, ⟨.interface second, path⟩]

/-- The name of the interface. -/
def used : TypeExpr := .name ⟨default, "I"⟩

/-- The texts of the properties of a type. -/
def texts (t : ResolvedType) : Work (List (String × String)) :=
  t.properties.mapM fun e => do return (e.1, ← e.2.typeText Project.graph)

/-- The texts of the properties that the interface has. -/
def shown : Option (List (String × String)) :=
  (outcome (resolve Project.graph (ref used) >>= texts) (bench file)).1.toOption

set_option maxRecDepth 100000 in
theorem shown_eq : Shows file "I" declared ∧
    shown = some [("a", "w"), ("b", "y"), ("c", "z"), ("d", "z")] := by
  rw [Shows, shown, bench_eq]
  decide +kernel

theorem refers : Refers (bench file).Sees (ref used) "I" declared [] :=
  .name (p := ⟨default, "I"⟩) rfl rfl (sees shown_eq.1)

end Reopened

open Sole Reopened in
/-- Of four members two are written out: one of them twice in one declaration, and both are inherited
as well, before and after they are written out.  Of the other two, one is inherited twice. -/
theorem resolveFrom_interface_reopened :
    (bench file).Tidy ∧ Refers (bench file).Sees (ref used) "I" declared [] ∧ NoAlias declared ∧
    shown = some [("a", "w"), ("b", "y"), ("c", "z"), ("d", "z")] ∧
    ∃ t us, (bench file).Resolves (maxDepth + 1) (ref used) t ∧
      List.Forall₂ ((bench file).Resolves maxDepth) (basesOf [] declared) us ∧
      (∃ i file k m p, DeclaresLast "a" declared i file ∧ Member.IsLast "a" i.members k m ∧
        propertyOf (inside [] i file) m = some p ∧ t.properties.get? "a" = some p) ∧
      t.properties.get? "b" = us.findSome? fun u => u.properties.get? "b" := by
  have hds : NoAlias declared := by simp [NoAlias, declared]
  have hprecedence := resolveFrom_interface (tidy file) refers (by simp [declared]) hds maxDepth
  obtain ⟨t, ht⟩ := Bench.exists_resolves (except_ok_of_toOption shown_eq.2)
  obtain ⟨us, hus, hmembers⟩ := hprecedence.2 t ht
  have hown : IsOwn declared "a" :=
    ⟨first, path, List.mem_cons_self, _, List.mem_cons_self, rfl⟩
  have hnot : ¬IsOwn declared "b" := by
    rw [declared, isOwn_interface, isOwn_interface]
    rintro (hx | hx | ⟨i, file, hi, -⟩)
    · exact absurd hx (by decide)
    · exact absurd hx (by decide)
    · cases hi
  exact ⟨tidy file, refers, hds, shown_eq.2, t, us, ht, hus, (hmembers "a").1 hown,
    (hmembers "b").2 hnot⟩

end RouteLint
