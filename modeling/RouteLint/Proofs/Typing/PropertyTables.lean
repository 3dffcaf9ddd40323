import RouteLint.Proofs.Assurance
import RouteLint.Proofs.Typing.MemberForms
import RouteLint.Proofs.Typing.Graphs

/-!
# Properties that are put together

Resolving a type puts tables of properties together, one property after the other.  What is said of
it is about one name at a time, and from both sides: a name that is new in a table comes from
somewhere, and what must be there is there.

What names stand for is found out from a graph of modules, which is asked in one notion of
computation or another; all that matters is that its answers are right.

## Main definitions

* `PropertiesNamed` — tables that have each property under its name.
* `Adds` — what is added to such a table.
* `Assurance.Shows` — a graph of modules whose answers say what names stand for.

## Main results

* `intersect_ensures`, `unite_ensures` — the properties of intersections and unions.
-/

namespace RouteLint

open Syntax

/-! ### Tables of properties -/

/-- Each property stands under its name. -/
def PropertiesNamed (t : Table String Property) : Prop := ∀ e ∈ t, e.2.name = e.1

/-- A table of properties comes from another one by adding some: if it has a new property with the
name, then for a reason, and for another reason it must have one. -/
structure Adds (x : String) (before after : Table String Property) (reason force : Prop) :
    Prop where
  named : PropertiesNamed before → PropertiesNamed after
  keeps : before.contains x = true → after.contains x = true
  sound : after.contains x = true → before.contains x = true ∨ reason
  complete : force → after.contains x = true

namespace Adds

variable {x : String} {a b c : Table String Property} {P Q P' Q' : Prop}

theorem refl (t : Table String Property) : Adds x t t False False :=
  ⟨id, id, .inl, False.elim⟩

theorem trans (h : Adds x a b P Q) (h' : Adds x b c P' Q') : Adds x a c (P ∨ P') (Q ∨ Q') where
  named ht := h'.named (h.named ht)
  keeps ht := h'.keeps (h.keeps ht)
  sound ht := by
    rcases h'.sound ht with hb | hP'
    · exact (h.sound hb).imp_right .inl
    · exact .inr (.inr hP')
  complete hQ := hQ.elim (fun hQ => h'.keeps (h.complete hQ)) h'.complete

theorem imp (h : Adds x a b P Q) (hP : P → P') (hQ : Q' → Q) : Adds x a b P' Q' :=
  ⟨h.named, h.keeps, fun ht => (h.sound ht).imp_right hP, fun hq => h.complete (hQ hq)⟩

theorem set (t : Table String Property) {p : Property} :
    Adds x t (t.set p.name p) (p.name = x) (p.name = x) where
  named ht e he := by
    rcases Table.mem_of_mem_set he with rfl | he
    · rfl
    · exact ht e he
  keeps ht := Table.contains_set.2 (.inr ht)
  sound ht := (Table.contains_set.1 ht).symm
  complete hp := Table.contains_set.2 (.inl hp)

theorem setDefault (t : Table String Property) {p : Property} :
    Adds x t (t.setDefault p.name p) (p.name = x) (p.name = x) where
  named ht := by
    unfold Table.setDefault
    split
    · exact ht
    · exact (set (x := x) t).named ht
  keeps ht := Table.contains_setDefault.2 (.inr ht)
  sound ht := (Table.contains_setDefault.1 ht).symm
  complete hp := Table.contains_setDefault.2 (.inl hp)

end Adds

/-! ### Answers -/

/-- A graph of modules whose answers say what names stand for. -/
structure Assurance.Shows {m : Type → Type} [Monad m] (A : Assurance m) (g : ModuleGraph m)
    (V : Visibility) : Prop where
  /-- Nothing in particular is known of scopes. -/
  scope : ∀ file, A.Ensures (g.scope file) fun _ => True
  /-- Nothing in particular is known of targets. -/
  target : ∀ file specifier, A.Ensures (g.target file specifier) fun _ => True
  /-- A name is looked up to what it stands for. -/
  types : ∀ file name, A.Ensures (visibleTypes g file name) (V file name)
  /-- A name stands for one list of declarations. -/
  definite : V.Definite

variable {m : Type → Type} [Monad m] [LawfulMonad m] {A : Assurance m} {g : ModuleGraph m}
  {V : Visibility} {x : String}

namespace Assurance.Shows

omit [LawfulMonad m] in
theorem answers (h : A.Shows g V) : A.mute.Answers g ⟨fun _ => (), fun _ _ => ()⟩ :=
  ⟨h.scope, h.target⟩

theorem renderFrom (h : A.Shows g V) (steps : Nat) (r : TypeRef) :
    A.Ensures (renderFrom g steps r) fun _ => True :=
  h.answers.renderFrom steps r

theorem typeText (h : A.Shows g V) (p : Property) : A.Ensures (p.typeText g) fun _ => True :=
  h.answers.typeText p

end Assurance.Shows

/-- What is added to a table step by step. -/
theorem Adds.foldlM {ι : Type} {f : Table String Property → ι → m (Table String Property)}
    {P Q : ι → Prop} {l : List ι}
    (h : ∀ i ∈ l, ∀ t, A.Ensures (f t i) fun u => Adds x t u (P i) (Q i))
    (t : Table String Property) :
    A.Ensures (l.foldlM f t) fun u => Adds x t u (∃ i ∈ l, P i) (∃ i ∈ l, Q i) := by
  induction l generalizing t with
  | nil => exact A.pure ((Adds.refl t).imp False.elim (by simp))
  | cons i l ih =>
    rw [List.foldlM_cons]
    refine A.bind (h i List.mem_cons_self t) fun u hu => ?_
    refine A.mono (ih (fun j hj => h j (List.mem_cons_of_mem _ hj)) u) fun v hv => ?_
    exact (hu.trans hv).imp (List.exists_mem_cons_iff ..).2 (List.exists_mem_cons_iff ..).1

/-- What is added to a table by steps that ask for nothing. -/
theorem Adds.foldl {ι : Type} {f : Table String Property → ι → Table String Property}
    {P Q : ι → Prop} {l : List ι} (h : ∀ i ∈ l, ∀ t, Adds x t (f t i) (P i) (Q i))
    (t : Table String Property) : Adds x t (l.foldl f t) (∃ i ∈ l, P i) (∃ i ∈ l, Q i) := by
  rw [List.foldl_eq_foldlM]
  exact Adds.foldlM (A := .plain) h t

theorem propertiesNamed_nil : PropertiesNamed [] := by
  intro e he
  cases he

theorem exists_mem_iff_contains {u : Table String Property} :
    (∃ e ∈ u, e.1 = x) ↔ u.contains x = true := by
  rw [Table.contains_iff_mem_keys, Table.keys, List.mem_map]

theorem Adds.merge {u : Table String Property} (hu : PropertiesNamed u)
    (t : Table String Property) :
    Adds x t (t.merge u) (u.contains x = true) (u.contains x = true) := by
  have hset : ∀ e ∈ u, ∀ t : Table String Property,
      Adds x t (t.set e.1 e.2) (e.1 = x) (e.1 = x) :=
    fun e he t => hu e he ▸ Adds.set t
  exact (Adds.foldl hset t).imp exists_mem_iff_contains.1 exists_mem_iff_contains.2

theorem Adds.setDefaults {u : Table String Property} (hu : PropertiesNamed u)
    (t : Table String Property) :
    Adds x t (u.foldl (fun t e => t.setDefault e.1 e.2) t) (u.contains x = true)
      (u.contains x = true) := by
  have hset : ∀ e ∈ u, ∀ t : Table String Property,
      Adds x t (t.setDefault e.1 e.2) (e.1 = x) (e.1 = x) :=
    fun e he t => hu e he ▸ Adds.setDefault t
  exact (Adds.foldl hset t).imp exists_mem_iff_contains.1 exists_mem_iff_contains.2

theorem propertiesNamed_membersOf (r : TypeRef) (ms : List Member) :
    PropertiesNamed (membersOf r ms) :=
  (Adds.foldl (x := "") (fun q _ t => Adds.set (p := q) t) []).named propertiesNamed_nil

/-- A record has a property for each of its keys. -/
theorem adds_keyedProperties (value : TypeRef) (ks : List String) :
    Adds x [] (keyedProperties value ks) (x ∈ ks) (x ∈ ks) := by
  have hset : ∀ k ∈ ks, ∀ t : Table String Property,
      Adds x t (t.set k ⟨k, .keyed value⟩) (k = x) (k = x) :=
    fun k _ t => Adds.set (p := ⟨k, .keyed value⟩) t
  exact (Adds.foldl hset []).imp (fun ⟨k, hk, hx⟩ => hx ▸ hk) fun hx => ⟨x, hx, rfl⟩

/-! ### Intersections and unions -/

theorem exists_mem_values_iff {t : Table String Property} (ht : PropertiesNamed t) :
    (∃ p ∈ t.values, p.name = x) ↔ t.contains x = true := by
  rw [← exists_mem_iff_contains]
  constructor
  · rintro ⟨p, hp, hx⟩
    obtain ⟨e, he, rfl⟩ := List.mem_map.1 hp
    exact ⟨e, he, ht e he ▸ hx⟩
  · rintro ⟨e, he, hx⟩
    exact ⟨e.2, List.mem_map_of_mem he, (ht e he).trans hx⟩

theorem intersectProperty_ensures (h : A.Shows g V) (t : Table String Property) (p : Property) :
    A.Ensures (intersectProperty g t p) fun u => Adds x t u (p.name = x) (p.name = x) := by
  unfold intersectProperty
  cases t.get? p.name with
  | none => exact A.pure (Adds.set t)
  | some q =>
    refine A.bind (h.typeText q) fun a _ => ?_
    refine A.bind (h.typeText p) fun b _ => ?_
    exact A.pure (Adds.set (p := ⟨p.name, .derived (a ++ " & " ++ b)⟩) t)

/-- An intersection has the properties of all its parts. -/
theorem intersect_ensures (h : A.Shows g V) {parts : List ResolvedType}
    (hparts : ∀ t ∈ parts, PropertiesNamed t.properties) :
    A.Ensures (intersect g parts) fun t =>
      Adds x [] t.properties (∃ u ∈ parts, u.properties.contains x = true)
        (∃ u ∈ parts, u.properties.contains x = true) := by
  have hiff : (∃ p ∈ parts.flatMap fun t => t.properties.values, p.name = x) ↔
      ∃ u ∈ parts, u.properties.contains x = true := by
    constructor
    · rintro ⟨p, hp, hx⟩
      obtain ⟨u, hu, hp⟩ := List.mem_flatMap.1 hp
      exact ⟨u, hu, (exists_mem_values_iff (hparts u hu)).1 ⟨p, hp, hx⟩⟩
    · rintro ⟨u, hu, hx⟩
      obtain ⟨p, hp, hx⟩ := (exists_mem_values_iff (hparts u hu)).2 hx
      exact ⟨p, List.mem_flatMap.2 ⟨u, hu, hp⟩, hx⟩
  unfold intersect
  refine A.bind (Adds.foldlM (fun p _ t => intersectProperty_ensures h (x := x) t p) [])
    fun u hu => ?_
  exact A.pure (hu.imp hiff.1 hiff.2)

theorem uniteProperty_ensures (h : A.Shows g V) (p : Property) (others : List Property) :
    A.Ensures (uniteProperty g p others) fun q => q.name = p.name := by
  unfold uniteProperty
  refine A.bind (Assurance.mapM (p :: others) fun q _ => h.typeText q) fun texts _ => ?_
  split
  · exact A.pure rfl
  · exact A.pure rfl

theorem entries_of_forall₂ {t u : Table String Property}
    (h : List.Forall₂ (fun e d => d.1 = e.1 ∧ d.2.name = e.1) t u) :
    PropertiesNamed u ∧ u.keys = t.keys := by
  induction h with
  | nil => exact ⟨propertiesNamed_nil, rfl⟩
  | cons hed _ ih =>
    refine ⟨List.forall_mem_cons.2 ⟨hed.2.trans hed.1.symm, ih.1⟩, ?_⟩
    exact congrArg₂ List.cons hed.1 ih.2

theorem contains_common_iff {first : ResolvedType} {others : List ResolvedType} :
    Table.contains (first.properties.filter fun e =>
      others.all fun t => t.properties.contains e.1) x = true ↔
      ∀ u ∈ first :: others, u.properties.contains x = true := by
  rw [← exists_mem_iff_contains, List.forall_mem_cons, ← exists_mem_iff_contains]
  simp only [List.mem_filter, List.all_eq_true]
  constructor
  · rintro ⟨e, ⟨he, hall⟩, rfl⟩
    exact ⟨⟨e, he, rfl⟩, hall⟩
  · rintro ⟨⟨e, he, rfl⟩, hall⟩
    exact ⟨e, ⟨he, hall⟩, rfl⟩

/-- A union has the properties that all its parts have. -/
theorem unite_ensures (h : A.Shows g V) {parts : List ResolvedType}
    (hparts : ∀ t ∈ parts, PropertiesNamed t.properties) :
    A.Ensures (unite g parts) fun t =>
      Adds x [] t.properties (parts ≠ [] ∧ ∀ u ∈ parts, u.properties.contains x = true)
        (parts ≠ [] ∧ ∀ u ∈ parts, u.properties.contains x = true) := by
  unfold unite
  cases parts with
  | nil => exact A.pure ((Adds.refl []).imp False.elim fun hne => hne.1 rfl)
  | cons first others =>
    refine A.bind (Assurance.mapM (R := fun e d => d.1 = e.1 ∧ d.2.name = e.1) _ fun e he => ?_)
      fun properties hproperties => ?_
    · have hname : e.2.name = e.1 := hparts first List.mem_cons_self e (List.mem_of_mem_filter he)
      exact A.bind (uniteProperty_ensures h e.2 _) fun q hq => A.pure ⟨rfl, hq.trans hname⟩
    · -- uniting changes what is known of the common properties, but neither keys nor names
      obtain ⟨hnamed, hkeys⟩ := entries_of_forall₂ hproperties
      have hiff : Table.contains properties x = true ↔
          ∀ u ∈ first :: others, u.properties.contains x = true := by
        rw [Table.contains_iff_mem_keys, hkeys, ← Table.contains_iff_mem_keys,
          contains_common_iff]
      exact A.pure ⟨fun _ => hnamed, nofun, fun hx => .inr ⟨List.cons_ne_nil _ _, hiff.1 hx⟩,
        fun hx => hiff.2 hx.2⟩

end RouteLint
