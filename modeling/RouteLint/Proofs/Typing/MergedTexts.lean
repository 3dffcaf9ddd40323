import RouteLint.Proofs.Typing.Comments.Properties
import RouteLint.Proofs.Typing.ProperTables

/-!
# Promises in texts that are put together

The properties of a union or an intersection are put together from those of its parts: where several
parts have one with the same name, their texts are joined, and joined without repetitions in a
union, or the property of the first part stands for all of them.  Whichever it is, the text mentions
a promise exactly if that of one of the parts does.

## Main definitions

* `Assurance.Tells` — what properties show.
* `Marked` — properties that show a promise.
* `MarkedAs` — properties that are marked as those of the parts are.

## Main results

* `intersect_marked`, `unite_marked` — the properties of intersections and unions.
* `resolveFrom_marked` — **resolving a union or an intersection keeps marks.**
-/

namespace RouteLint

open Syntax

variable {m : Type → Type} [Monad m] {A : Assurance m} {g : ModuleGraph m} {V : Visibility}
  {T : Property → String → Prop}

/-! ### Marks -/

/-- What properties show: no more than one text each, and if they are put together, the text that
they are made with. -/
structure Assurance.Tells (A : Assurance m) (g : ModuleGraph m) (T : Property → String → Prop) :
    Prop where
  text : ∀ p, A.Ensures (p.typeText g) (T p)
  unique : ∀ {p a b}, T p a → T p b → a = b
  derived : ∀ name text, T ⟨name, .derived text⟩ text

/-- A property is marked if it shows a promise. -/
def Marked (T : Property → String → Prop) (p : Property) : Prop :=
  ∃ text, T p text ∧ mentionsWrapper text = true

theorem Assurance.Tells.marked_iff (h : A.Tells g T) {p : Property} {text : String}
    (hp : T p text) : Marked T p ↔ mentionsWrapper text = true := by
  constructor
  · rintro ⟨text', hp', hmark⟩
    rwa [h.unique hp hp']
  · intro hmark
    exact ⟨text, hp, hmark⟩

/-- One of several properties is marked exactly if one of their texts mentions a promise. -/
theorem Assurance.Tells.exists_marked_iff (h : A.Tells g T) {ps : List Property}
    {texts : List String} (hps : List.Forall₂ T ps texts) :
    (∃ p ∈ ps, Marked T p) ↔ texts.any mentionsWrapper = true := by
  induction hps with
  | nil => simp
  | cons hp _ ih =>
    rw [List.exists_mem_cons_iff, ih, h.marked_iff hp, List.any_cons, Bool.or_eq_true]

/-- Properties of a type that are marked exactly if one with the same name in a part is. -/
def MarkedAs (T : Property → String → Prop) (parts : List ResolvedType) (t : ResolvedType) : Prop :=
  ∀ x p, t.properties.get? x = some p →
    (Marked T p ↔ ∃ u ∈ parts, ∃ q, u.properties.get? x = some q ∧ Marked T q)

/-! ### Intersections -/

/-- A table that properties have been put together in. -/
structure Gathers (T : Property → String → Prop) (ps : List Property) (t : Table String Property) :
    Prop where
  present : ∀ p ∈ ps, t.contains p.name = true
  marked : ∀ x q, t.get? x = some q → (Marked T q ↔ ∃ p ∈ ps, p.name = x ∧ Marked T p)

namespace Gathers

variable {ps : List Property} {t : Table String Property} {p : Property}

theorem nil : Gathers T [] [] := ⟨nofun, nofun⟩

/-- One more property is put into the table, or together with what stands there. -/
theorem set (h : Gathers T ps t) {new : Property}
    (hnew : Marked T new ↔ (∃ q ∈ ps, q.name = p.name ∧ Marked T q) ∨ Marked T p) :
    Gathers T (ps ++ [p]) (t.set p.name new) where
  present q hq := by
    rw [Table.contains_set]
    rcases List.mem_append.1 hq with hq | hq
    · exact .inr (h.present q hq)
    · exact .inl (List.mem_singleton.1 hq ▸ rfl)
  marked x q hx := by
    simp only [List.mem_append, List.mem_singleton, or_and_right, exists_or, exists_eq_left]
    by_cases hname : p.name = x
    · subst hname
      rw [Table.get?_set_self] at hx
      cases hx
      rw [hnew, and_iff_right rfl]
    · rw [Table.get?_set_of_ne _ _ hname] at hx
      rw [h.marked x q hx, or_iff_left fun hp => hname hp.1]

/-- Nothing with a name that is new has been put into the table. -/
theorem not_exists_of_missing (h : Gathers T ps t) {x : String} (hx : t.get? x = none) :
    ¬∃ p ∈ ps, p.name = x ∧ Marked T p := by
  rintro ⟨p, hp, rfl, -⟩
  have hpresent := h.present p hp
  rw [Table.contains, hx] at hpresent
  cases hpresent

end Gathers

theorem intersectProperty_gathers (h : A.Tells g T) {ps : List Property}
    {t : Table String Property} (ht : Gathers T ps t) (p : Property) :
    A.Ensures (intersectProperty g t p) (Gathers T (ps ++ [p])) := by
  unfold intersectProperty
  cases hq : t.get? p.name with
  | none => exact A.pure (ht.set (by rw [or_iff_right (ht.not_exists_of_missing hq)]))
  | some q =>
    refine A.bind (h.text q) fun a ha => ?_
    refine A.bind (h.text p) fun b hb => ?_
    refine A.pure (ht.set ?_)
    rw [h.marked_iff (h.derived _ _), mentionsWrapper_join (by decide), Bool.or_eq_true,
      ← h.marked_iff ha, ← h.marked_iff hb, ht.marked _ q hq]

theorem intersect_marked (h : A.Tells g T) {parts : List ResolvedType}
    (hparts : ∀ u ∈ parts, Proper u.properties) :
    A.Ensures (intersect g parts) (MarkedAs T parts) := by
  unfold intersect
  refine A.bind (Assurance.foldlM (P := Gathers T)
    (fun _ p _ ht => intersectProperty_gathers h ht p) .nil _) fun t ht => A.pure fun x p hx => ?_
  rw [ht.marked x p hx]
  constructor
  · rintro ⟨q, hq, hname, hmark⟩
    obtain ⟨u, hu, hq⟩ := List.mem_flatMap.1 hq
    exact ⟨u, hu, q, (hparts u hu).get?_eq_some_iff.2 ⟨hq, hname⟩, hmark⟩
  · rintro ⟨u, hu, q, hq, hmark⟩
    obtain ⟨hmem, hname⟩ := (hparts u hu).get?_eq_some_iff.1 hq
    exact ⟨q, List.mem_flatMap.2 ⟨u, hu, hmem⟩, hname, hmark⟩

/-! ### Unions -/

variable [LawfulMonad m]

/-- The property that all parts of a union have shows their texts without repetitions. -/
theorem uniteProperty_tells (h : A.Tells g T) (p : Property) (others : List Property) :
    A.Ensures (uniteProperty g p others) fun q =>
      ∃ texts, List.Forall₂ T (p :: others) texts ∧ T q (unitedText texts) := by
  unfold uniteProperty
  refine A.bind (Assurance.mapM (p :: others) fun q _ => h.text q) fun texts htexts => ?_
  split
  · next text hone =>
    -- all texts are the one, and the first of them is that of the first property
    refine A.pure ⟨texts, htexts, ?_⟩
    rw [unitedText, hone, String.intercalate_singleton]
    cases htexts with
    | @cons _ first _ rest hp _ =>
      have hmem : first ∈ distinct (first :: rest) := mem_once.2 List.mem_cons_self
      rw [hone, List.mem_singleton] at hmem
      exact hmem ▸ hp
  · exact A.pure ⟨texts, htexts, h.derived _ _⟩

theorem unite_marked (h : A.Tells g T) {parts : List ResolvedType}
    (hparts : ∀ u ∈ parts, Proper u.properties) :
    A.Ensures (unite g parts) (MarkedAs T parts) := by
  unfold unite
  cases parts with
  | nil => exact A.pure nofun
  | cons first others =>
    refine A.bind (Assurance.mapM (R := fun e d => d.1 = e.1 ∧ (Marked T d.2 ↔
        ∃ q ∈ e.2 :: others.filterMap fun t => t.properties.get? e.1, Marked T q)) _ fun e _ => ?_)
      fun properties hproperties => A.pure fun x p hx => ?_
    · refine A.bind (uniteProperty_tells h e.2 _) fun q hq => A.pure ⟨rfl, ?_⟩
      obtain ⟨texts, htexts, hq⟩ := hq
      rw [h.exists_marked_iff htexts, h.marked_iff hq, mentionsWrapper_unitedText]
    · obtain ⟨e, he, hname, hmarked⟩ :=
        exists_left_of_forall₂ hproperties (Table.mem_of_get? hx)
      have hfirst := (hparts first List.mem_cons_self).distinct.get?_of_mem
        (List.mem_of_mem_filter he)
      cases hname
      rw [hmarked, List.exists_mem_cons_iff, List.exists_mem_cons_iff, hfirst]
      simp only [Option.some.injEq, exists_eq_left', List.mem_filterMap]
      refine or_congr_right ⟨?_, ?_⟩
      · rintro ⟨q, ⟨u, hu, hq⟩, hmark⟩
        exact ⟨u, hu, q, hq, hmark⟩
      · rintro ⟨u, hu, q, hq, hmark⟩
        exact ⟨q, ⟨u, hu, hq⟩, hmark⟩

/-! ### Resolving -/

/-- Types that are merged from parts. -/
inductive IsMerge : TypeExpr → List TypeExpr → Prop
  | union (p : Piece) (parts : List TypeExpr) : IsMerge (.union p parts) parts
  | intersection (p : Piece) (parts : List TypeExpr) : IsMerge (.intersection p parts) parts

/-- **Resolving a union or an intersection keeps marks**: a property shows a promise exactly if it
does in one of the parts. -/
theorem resolveFrom_marked (h : A.Tells g T) {n : Nat} {U : TypeRef → ResolvedType → Prop}
    (hU : ∀ r, A.Ensures (resolveFrom g n r) (U r))
    (hproper : ∀ r u, U r u → Proper u.properties) {r : TypeRef} {parts : List TypeExpr}
    (hr : IsMerge r.type parts) :
    A.Ensures (resolveFrom g (n + 1) r) fun t =>
      ∃ us, List.Forall₂ (fun part u => U (r.withType part) u) parts us ∧ MarkedAs T us t := by
  have hparts : A.Ensures (parts.mapM fun part => resolveFrom g n (r.withType part))
      (List.Forall₂ (fun part u => U (r.withType part) u) parts) :=
    Assurance.mapM parts fun part _ => hU (r.withType part)
  have hall : ∀ us, List.Forall₂ (fun part u => U (r.withType part) u) parts us →
      ∀ u ∈ us, Proper u.properties := by
    intro us hus u hu
    obtain ⟨part, -, hpart⟩ := exists_left_of_forall₂ hus hu
    exact hproper _ u hpart
  rw [resolveFrom]
  generalize r.type = type at hr
  cases hr with
  | union p =>
    refine A.bind hparts fun us hus => ?_
    exact A.mono (unite_marked h (hall us hus)) fun t ht => ⟨us, hus, ht⟩
  | intersection p =>
    refine A.bind hparts fun us hus => ?_
    exact A.mono (intersect_marked h (hall us hus)) fun t ht => ⟨us, hus, ht⟩

end RouteLint
