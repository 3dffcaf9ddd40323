import RouteLint.Proofs.Data.Attempts
import RouteLint.Proofs.Typing.PropertyTables
import RouteLint.Proofs.Typing.Resolving

/-!
# Tables of properties are proper

Whatever a type is and however it is resolved, each of its properties stands under its own name and
no name stands twice.  So the table of a type gives for the name of a property of it that property
and no other one: whoever looks at a property by itself and whoever looks it up again see the same.

Properties are put together in many places: they are written out, keys of a record, inherited,
merged into each other, taken over from an argument, or inferred from a value.  Each of them gets
one lemma, in the order of their definitions.

## Main definitions

* `Proper` — tables of properties as they should be.

## Main results

* `resolveFrom_proper`, `inferAt_proper` — the properties of types, written out or inferred.
* `parameterType_proper` — **the properties of the type of a parameter.**
-/

namespace RouteLint

open Syntax

/-- Each property stands under its name, and no name stands twice. -/
structure Proper (t : Table String Property) : Prop where
  named : PropertiesNamed t
  distinct : t.Distinct

namespace Proper

variable {t u : Table String Property} {x : String} {p : Property}

theorem nil : Proper [] := ⟨propertiesNamed_nil, Table.distinct_nil⟩

theorem set (h : Proper t) (p : Property) : Proper (t.set p.name p) :=
  ⟨(Adds.set (x := p.name) t).named h.named, h.distinct.set _ _⟩

theorem merge (h : Proper t) (hu : PropertiesNamed u) : Proper (t.merge u) :=
  ⟨(Adds.merge (x := "") hu t).named h.named, Table.distinct_merge h.distinct u⟩

theorem setDefaults (h : Proper t) (hu : PropertiesNamed u) :
    Proper (u.foldl (fun t e => t.setDefault e.1 e.2) t) where
  named := (Adds.setDefaults (x := "") hu t).named h.named
  distinct := Assurance.foldl (P := fun _ => Table.Distinct)
    (fun _ e _ hv => hv.setDefault e.1 e.2) h.distinct u

/-- A property of a table is found under its name. -/
theorem get?_of_mem (h : Proper t) {e : String × Property} (he : e ∈ t) :
    t.get? e.2.name = some e.2 := by
  rw [h.named e he]
  exact h.distinct.get?_of_mem he

theorem name_of_get? (h : Proper t) (hx : t.get? x = some p) : p.name = x :=
  h.named (x, p) (Table.mem_of_get? hx)

/-- What stands under a name is what has the name. -/
theorem get?_eq_some_iff (h : Proper t) : t.get? x = some p ↔ p ∈ t.values ∧ p.name = x := by
  constructor
  · intro hx
    exact ⟨List.mem_map_of_mem (f := Prod.snd) (Table.mem_of_get? hx), h.name_of_get? hx⟩
  · rintro ⟨hp, rfl⟩
    obtain ⟨e, he, rfl⟩ := List.mem_map.1 hp
    exact h.get?_of_mem he

end Proper

/-! ### Members and keys -/

theorem proper_foldl_set (ps : List Property) {t : Table String Property} (ht : Proper t) :
    Proper (ps.foldl (fun t p => t.set p.name p) t) :=
  Assurance.foldl (P := fun _ => Proper) (fun _ p _ hu => hu.set p) ht ps

theorem proper_membersOf (r : TypeRef) (ms : List Member) : Proper (membersOf r ms) :=
  proper_foldl_set _ .nil

theorem proper_keyedProperties (value : TypeRef) (ks : List String) :
    Proper (keyedProperties value ks) := by
  have hfold := proper_foldl_set (ks.map fun k => ⟨k, .keyed value⟩) .nil
  rwa [List.foldl_map] at hfold

variable {m : Type → Type} [Monad m] {A : Assurance m} {g : ModuleGraph m} {V : Visibility}

section Lawful

variable [LawfulMonad m]

/-! ### Unions and intersections -/

theorem intersectProperty_proper (h : A.Shows g V) {t : Table String Property} (ht : Proper t)
    (p : Property) : A.Ensures (intersectProperty g t p) Proper := by
  unfold intersectProperty
  cases t.get? p.name with
  | none => exact A.pure (ht.set p)
  | some q =>
    refine A.bind (h.typeText q) fun a _ => ?_
    refine A.bind (h.typeText p) fun b _ => ?_
    exact A.pure (ht.set ⟨p.name, .derived (a ++ " & " ++ b)⟩)

theorem intersect_proper (h : A.Shows g V) (parts : List ResolvedType) :
    A.Ensures (intersect g parts) fun t => Proper t.properties :=
  A.bind (Assurance.foldlM (P := fun _ => Proper)
    (fun _ p _ ht => intersectProperty_proper h ht p) .nil _) fun _ ht => A.pure ht

theorem unite_proper (h : A.Shows g V) {parts : List ResolvedType}
    (hparts : ∀ t ∈ parts, Proper t.properties) :
    A.Ensures (unite g parts) fun t => Proper t.properties := by
  unfold unite
  cases parts with
  | nil => exact A.pure .nil
  | cons first others =>
    have hfirst := hparts first List.mem_cons_self
    refine A.bind (Assurance.mapM (R := fun e d => d.1 = e.1 ∧ d.2.name = e.1) _ fun e he => ?_)
      fun properties hproperties => ?_
    · have hname : e.2.name = e.1 := hfirst.named e (List.mem_of_mem_filter he)
      exact A.bind (uniteProperty_ensures h e.2 _) fun q hq => A.pure ⟨rfl, hq.trans hname⟩
    · obtain ⟨hnamed, hkeys⟩ := entries_of_forall₂ hproperties
      refine A.pure ⟨hnamed, ?_⟩
      have hdistinct := hfirst.distinct.filter fun e =>
        others.all fun t => t.properties.contains e.1
      unfold Table.Distinct at hdistinct ⊢
      rwa [hkeys]

end Lawful

/-! ### Declarations -/

/-- A way of resolving types that gives each of them proper properties. -/
def ResolvesProperly (A : Assurance m) (resolve : TypeRef → m ResolvedType) : Prop :=
  ∀ r, A.Ensures (resolve r) fun t => Proper t.properties

variable {resolve : TypeRef → m ResolvedType}

theorem inherited_proper (hresolve : ResolvesProperly A resolve) (file : Path)
    (bindings : Table String TypeRef) {before : Table String Property} (hbefore : Proper before)
    (bases : List TypeExpr) : A.Ensures (inherited resolve file bindings before bases) Proper :=
  Assurance.foldlM (P := fun _ => Proper)
    (fun _ _ _ ht => A.bind (hresolve _) fun _ hu => A.pure (ht.setDefaults hu.named)) hbefore
    bases

theorem interfaceProperties_proper (hresolve : ResolvesProperly A resolve) (args : List TypeRef)
    (ds : List DeclaredType) {own above : Table String Property} (hown : Proper own)
    (habove : Proper above) :
    A.Ensures (interfaceProperties resolve args ds own above) fun both =>
      Proper both.1 ∧ Proper both.2 := by
  induction ds generalizing own above with
  | nil => exact A.pure ⟨hown, habove⟩
  | cons d ds ih =>
    obtain ⟨a | i, file⟩ := d
    · exact ih hown habove
    · rw [interfaceProperties]
      refine A.bind (inherited_proper hresolve file _ habove i.bases) fun above' habove' => ?_
      exact ih (hown.merge (proper_membersOf _ i.members).named) habove'

variable {text : m String}

theorem resolveDeclared_proper (hresolve : ResolvesProperly A resolve)
    (htext : A.Ensures text fun _ => True) (ds : List DeclaredType) (args : List TypeRef) :
    A.Ensures (resolveDeclared resolve text ds args) fun t => Proper t.properties := by
  -- declarations that do not start with an alias
  have hinterface : A.Ensures
      (do
        let both ← interfaceProperties resolve args ds [] []
        return (⟨← text, both.2.merge both.1⟩ : ResolvedType)) fun t => Proper t.properties := by
    refine A.bind (interfaceProperties_proper hresolve args ds .nil .nil) fun both hboth => ?_
    exact A.bind htext fun _ _ => A.pure (hboth.2.merge hboth.1.named)
  rcases ds with _ | ⟨⟨a | i, file⟩, ds⟩
  · exact hinterface
  · exact hresolve _
  · exact hinterface

theorem resolveBuiltin_proper (hresolve : ResolvesProperly A resolve)
    {keys : TypeRef → m (List String)} (hkeys : ∀ r, A.Ensures (keys r) fun _ => True)
    (htext : A.Ensures text fun _ => True) (name : String) (args : List TypeRef) :
    A.Ensures (resolveBuiltin resolve keys text name args) fun t => Proper t.properties := by
  -- a type of which only the text is known
  have hplain : A.Ensures (do return (⟨← text, []⟩ : ResolvedType)) fun t =>
      Proper t.properties := A.bind htext fun _ _ => A.pure .nil
  unfold resolveBuiltin
  rcases args with _ | ⟨first, others⟩
  · exact hplain
  · dsimp only
    split
    · exact A.bind (hresolve first) fun t ht => A.bind htext fun _ _ => A.pure ht
    · rcases others with _ | ⟨value, _ | ⟨other, others⟩⟩
      · exact hplain
      · dsimp only
        split
        · exact A.bind (hkeys first) fun ks _ => A.bind htext fun _ _ =>
            A.pure (proper_keyedProperties value ks)
        · exact hplain
      · exact hplain

/-! ### Resolving -/

theorem resolveFrom_proper [LawfulMonad m] (h : A.Shows g V) (n : Nat) :
    ResolvesProperly A (resolveFrom g n) := by
  induction n with
  | zero =>
    intro r
    rw [resolveFrom]
    exact A.pure .nil
  | succ k ih =>
    intro r
    have htext := h.renderFrom (k + 1) r
    -- a type of which only the text is known
    have hplain : A.Ensures (do return (⟨← renderFrom g (k + 1) r, []⟩ : ResolvedType)) fun t =>
        Proper t.properties := A.bind htext fun _ _ => A.pure .nil
    -- the parts of a union or an intersection
    have hparts : ∀ ts : List TypeExpr,
        A.Ensures (ts.mapM fun t => resolveFrom g k (r.withType t)) fun us =>
          ∀ u ∈ us, Proper u.properties := fun ts =>
      A.mono (Assurance.mapM ts fun t _ => ih (r.withType t)) fun us hus u hu => by
        obtain ⟨t, -, hproper⟩ := exists_left_of_forall₂ hus hu
        exact hproper
    rw [resolveFrom]
    cases r.type with
    | parenthesized p t => exact ih _
    | name p =>
      dsimp only
      cases r.bindings.get? p.text with
      | some b => exact ih b
      | none =>
        refine A.bind (h.types r.file p.text) fun ds _ => ?_
        cases ds with
        | nil => exact A.pure .nil
        | cons d ds => exact resolveDeclared_proper ih htext (d :: ds) []
    | generic p head ts =>
      dsimp only
      split
      · refine A.bind (h.types r.file head.text) fun ds _ => ?_
        cases ds with
        | nil => exact resolveBuiltin_proper ih (h.answers.literalKeys k) htext head.text _
        | cons d ds => exact resolveDeclared_proper ih htext (d :: ds) _
      · exact hplain
    | object p ms => exact A.bind htext fun _ _ => A.pure (proper_membersOf r ms)
    | intersection p ts => exact A.bind (hparts ts) fun us _ => intersect_proper h us
    | union p ts => exact A.bind (hparts ts) fun us hus => unite_proper h hus
    | literal | comment | other => exact hplain

/-! ### Default values -/

theorem proper_objectType {t : Table String String} (h : t.Distinct) :
    Proper (objectType t).properties where
  named e he := by
    obtain ⟨d, -, rfl⟩ := List.mem_map.1 he
    rfl
  distinct := by
    unfold Table.Distinct Table.keys objectType at *
    rwa [List.map_map]

mutual

theorem inferAt_proper [LawfulMonad m] (h : A.Shows g V) (file : Path) (depth : Nat) : ∀ e : Expr,
    A.Ensures (inferAt g file depth e) fun t => Proper t.properties
  | .parenthesized e => by
    rw [inferAt]
    split
    · exact inferAt_proper h file (depth + 1) e
    · exact A.pure .nil
  | .object es => by
    rw [inferAt]
    split
    · exact A.bind (inferEntries_distinct h file depth es Table.distinct_nil) fun ps hps =>
        A.pure (proper_objectType hps)
    · exact A.pure .nil
  | .asConst e => by
    rw [inferAt]
    split
    · exact A.bind (inferAt_proper h file (depth + 1) e) fun _ _ => A.pure .nil
    · exact A.pure .nil
  | .satisfies e => by
    rw [inferAt]
    split
    · exact A.bind (inferAt_proper h file (depth + 1) e) fun _ _ => A.pure .nil
    · exact A.pure .nil
  | .asType e t => by
    rw [inferAt]
    exact A.bind (h.renderFrom _ _) fun _ _ => A.pure .nil
  | .call object method none => by
    rw [inferAt]
    split
    · exact A.pure .nil
    · split
      · exact A.pure .nil
      · split <;> exact A.pure .nil
  | .call object method (some e) => by
    rw [inferAt]
    split
    · exact A.pure .nil
    · split
      · exact A.pure .nil
      · split
        · exact A.pure .nil
        · split
          · exact A.bind (inferAt_proper h file (depth + 1) e) fun _ _ => A.pure .nil
          · exact A.pure .nil
  | .construct _ | .text | .number | .truth | .null | .undefined | .member _ _ | .other => by
    rw [inferAt]
    exact A.pure .nil

theorem inferEntries_distinct [LawfulMonad m] (h : A.Shows g V) (file : Path) (depth : Nat) :
    ∀ (es : List Entry) {before : Table String String}, before.Distinct →
      A.Ensures (inferEntries g file depth before es) Table.Distinct
  | [], _, hbefore => by
    rw [inferEntries]
    exact A.pure hbefore
  | .pair name e :: es, _, hbefore => by
    rw [inferEntries]
    cases name.text? with
    | none => exact inferEntries_distinct h file depth es hbefore
    | some n =>
      exact A.bind (inferAt_proper h file (depth + 1) e) fun t _ =>
        inferEntries_distinct h file depth es (hbefore.set n t.text)
  | .shorthand name :: es, _, hbefore => by
    rw [inferEntries]
    exact inferEntries_distinct h file depth es (hbefore.set name "any")

end

/-- **The type of a parameter has proper properties**, be it written out or inferred. -/
theorem parameterType_proper [LawfulMonad m] (h : A.Shows g V) (file : Path) (p : Parameter) :
    A.Ensures (parameterType g file p) fun owner => ∀ t, owner = some t → Proper t.properties := by
  -- what is known of a type is known of it as an option
  have hsome : ∀ x : m ResolvedType, A.Ensures x (fun t => Proper t.properties) →
      A.Ensures (some <$> x) fun owner => ∀ t, owner = some t → Proper t.properties := by
    intro x hx
    rw [map_eq_pure_bind]
    refine A.bind hx fun t ht => A.pure fun u hu => ?_
    cases hu
    exact ht
  unfold parameterType
  split
  · exact hsome _ (resolveFrom_proper h _ _)
  · exact hsome _ (inferAt_proper h file 0 _)
  · exact A.pure nofun

end RouteLint
