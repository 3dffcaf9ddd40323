import RouteLint.Proofs.Project.Readings
import RouteLint.Proofs.Typing.MergedTexts
import RouteLint.Routes.Check

/-!
# Verdicts on unions and intersections

A type that is merged from parts gives for a property the text that the check judges it by, and so
do its parts.  The text of the whole mentions a promise exactly if the text of one of the immediate
parts does that have the property.  So a parameter that is annotated with a union or an intersection
passes exactly if what one of the parts gives for it would.

## Main definitions

* `Bench.Gives` — the text that a type gives for a property.

## Main results

* `merged_mentions_iff` — **promises of a merged type are those of its parts.**
-/

namespace RouteLint

open Syntax Project

variable {b : Bench}

/-- The text that a type gives for a property with a name. -/
def Bench.Gives (b : Bench) (t : ResolvedType) (x text : String) : Prop :=
  ∃ p, t.properties.get? x = some p ∧
    (outcome (propertyType Project.graph t p) b).1 = .ok (some text)

/-- What properties show at a bench. -/
def Bench.Tells (b : Bench) (p : Property) (text : String) : Prop :=
  (outcome (p.typeText Project.graph) b).1 = .ok text

theorem Bench.Tidy.tells (hb : b.Tidy) : b.steady.Tells Project.graph b.Tells where
  text p := ⟨_, hb.yields_typeText p, fun _ => id⟩
  unique hp hq := Except.ok.inj (hp.symm.trans hq)
  derived _ _ := rfl

/-- What a type gives for a property is what the property shows, unless that is empty. -/
theorem Bench.Tidy.gives_iff (hb : b.Tidy) {t : ResolvedType} (ht : Proper t.properties)
    {x text : String} :
    b.Gives t x text ↔ ∃ p, t.properties.get? x = some p ∧ b.Tells p text ∧ text ≠ "" := by
  refine exists_congr fun p => and_congr_right fun hp => ?_
  have hself : t.properties.get? p.name = some p := by rw [ht.name_of_get? hp, hp]
  rw [← ((hb.yields_typeText p).propertyType hself).eq]
  unfold Bench.Tells
  cases (outcome (p.typeText Project.graph) b).1 with
  | error err => simp [Except.map]
  | ok shown =>
    simp only [Except.map, nonempty, Except.ok.injEq]
    split
    · next hempty =>
      rw [String.isEmpty_iff] at hempty
      simp [hempty]
    · next hempty =>
      rw [String.isEmpty_iff] at hempty
      rw [Option.some.injEq]
      exact ⟨fun h => ⟨h, h ▸ hempty⟩, And.left⟩

/-- A property of a type is marked exactly if the type gives a text with a promise for it. -/
theorem Bench.Tidy.exists_gives_iff (hb : b.Tidy) {t : ResolvedType} (ht : Proper t.properties)
    {x : String} : (∃ text, b.Gives t x text ∧ mentionsWrapper text = true) ↔
      ∃ p, t.properties.get? x = some p ∧ Marked b.Tells p := by
  constructor
  · rintro ⟨text, hgives, hmark⟩
    obtain ⟨p, hp, htext, -⟩ := (hb.gives_iff ht).1 hgives
    exact ⟨p, hp, text, htext, hmark⟩
  · rintro ⟨p, hp, text, htext, hmark⟩
    refine ⟨text, (hb.gives_iff ht).2 ⟨p, hp, htext, ?_⟩, hmark⟩
    rintro rfl
    cases hmark

/-- A parameter is judged by the text that its type gives for the parameters of a route. -/
theorem Bench.Tidy.judge_of_gives (hb : b.Tidy) {file : Path} {context : Parameter}
    {t : ResolvedType} (ht : b.Owns file context t) {text : String}
    (htext : b.Gives t routeMember text) :
    (outcome (judge Project.graph file context) b).1 = .ok none ↔
      mentionsWrapper text = true := by
  obtain ⟨p, hp, hshown, hne⟩ := (hb.gives_iff (hb.owns ht).2).1 htext
  have hread := hb.yields_routeParams ht hp
  rw [hshown, Except.map, nonempty, if_neg (by simpa using hne)] at hread
  have hjudge : b.Yields (judge Project.graph file context)
      (.ok ((some text).filter fun text => !mentionsWrapper text)) := hread.bind (.pure _)
  rw [← hjudge.eq, Except.ok.injEq, Option.filter_some]
  simp

/-- **Promises of a merged type are those of its parts.**  A union or an intersection is resolved by
resolving its parts, and the text that it gives for a property mentions a promise exactly if the
text does that one of the parts gives for it.  So a parameter that has this type, by itself or
through a name, passes exactly if one of the parts has a promise for the parameters of the
route. -/
theorem merged_mentions_iff (hb : b.Tidy) {n : Nat} {r : TypeRef} {parts : List TypeExpr}
    (hr : IsMerge r.type parts) {t : ResolvedType} (ht : b.Resolves (n + 1) r t) :
    ∃ us, List.Forall₂ (fun part u => b.Resolves n (r.withType part) u) parts us ∧
      (∀ x text, b.Gives t x text →
        (mentionsWrapper text = true ↔
          ∃ u ∈ us, ∃ s, b.Gives u x s ∧ mentionsWrapper s = true)) ∧
      ∀ file context text, b.Owns file context t → b.Gives t routeMember text →
        ((outcome (judge Project.graph file context) b).1 = .ok none ↔
          ∃ u ∈ us, ∃ s, b.Gives u routeMember s ∧ mentionsWrapper s = true) := by
  obtain ⟨result, hresult, hmarked⟩ := resolveFrom_marked hb.tells
    (fun r => ⟨_, (hb.resolves n r).1, fun _ => id⟩) (fun r u => (hb.resolves n r).2 u) hr
  obtain ⟨us, hus, hmarked⟩ := hmarked t (hresult.eq.trans ht)
  -- marks of properties are promises in the texts that types give for them
  have hproper := (hb.resolves _ r).2 t ht
  have hmentions : ∀ x text, b.Gives t x text →
      (mentionsWrapper text = true ↔
        ∃ u ∈ us, ∃ s, b.Gives u x s ∧ mentionsWrapper s = true) := by
    intro x text hgives
    obtain ⟨p, hp, htext, -⟩ := (hb.gives_iff hproper).1 hgives
    rw [← hb.tells.marked_iff htext, hmarked x p hp]
    refine exists_congr fun u => and_congr_right fun hu => ?_
    obtain ⟨part, -, hpart⟩ := exists_left_of_forall₂ hus hu
    exact (hb.exists_gives_iff ((hb.resolves n _).2 u hpart)).symm
  refine ⟨us, hus, hmentions, ?_⟩
  intro file context text howner hgives
  rw [hb.judge_of_gives howner hgives]
  exact hmentions routeMember text hgives

/-! ### A union in an intersection -/

namespace Mixed

/-- The property that holds the parameters of a route. -/
def params (type : TypeExpr) : TypeExpr :=
  .object default [.property (.identifier routeMember) (some type)]

/-- A promise. -/
def promised : TypeExpr :=
  .generic default ⟨"Promise", true⟩ [.name ⟨default, "x"⟩]

/-- The parts `{params:Promise<x>}` and `{params:y}|{params:z}` of an intersection. -/
def parts : List TypeExpr :=
  [params promised,
    .union default [params (.name ⟨default, "y"⟩), params (.name ⟨default, "z"⟩)]]

/-- A parameter with the intersection as its type. -/
def context : Parameter := ⟨default, false, some (.intersection default parts), none⟩

/-- The text that the intersection gives for the parameters of a route. -/
def found : Option String :=
  (outcome (parameterType Project.graph Sole.path context) (Sole.bench "")).1.toOption.join.bind
    fun t => (t.properties.get? routeMember).bind fun p =>
      (outcome (propertyType Project.graph t p) (Sole.bench "")).1.toOption.join

theorem found_eq : found = some "Promise<x> & y | z" := by
  decide

end Mixed

/-- An intersection of a promise with a union of two types that are no promises passes. -/
theorem merged_mentions_iff_mixed :
    (Sole.bench "").Tidy ∧
    IsMerge (Sole.ref (.intersection default Mixed.parts)).type Mixed.parts ∧
    ∃ t us, (Sole.bench "").Resolves (maxDepth + 1)
        (Sole.ref (.intersection default Mixed.parts)) t ∧
      List.Forall₂ (fun part u => (Sole.bench "").Resolves maxDepth (Sole.ref part) u)
        Mixed.parts us ∧
      (Sole.bench "").Gives t routeMember "Promise<x> & y | z" ∧
      (∃ u ∈ us, ∃ s, (Sole.bench "").Gives u routeMember s ∧ mentionsWrapper s = true) ∧
      (outcome (judge Project.graph Sole.path Mixed.context) (Sole.bench "")).1 = .ok none := by
  have htidy := Sole.tidy ""
  have hmerge : IsMerge (Sole.ref (.intersection default Mixed.parts)).type Mixed.parts :=
    .intersection _ _
  obtain ⟨t, ht, hgives⟩ := Option.bind_eq_some_iff.1 Mixed.found_eq
  obtain ⟨p, hp, htext⟩ := Option.bind_eq_some_iff.1 hgives
  have howns : (Sole.bench "").Owns Sole.path Mixed.context t :=
    except_ok_of_toOption (Option.join_eq_some_iff.1 ht)
  have hresolves := (Bench.owns_iff_resolves rfl).1 howns
  have hgives : (Sole.bench "").Gives t routeMember "Promise<x> & y | z" :=
    ⟨p, hp, except_ok_of_toOption (Option.join_eq_some_iff.1 htext)⟩
  have hmark : mentionsWrapper "Promise<x> & y | z" = true := by decide
  obtain ⟨us, hus, hmentions, hjudge⟩ := merged_mentions_iff htidy hmerge hresolves
  have hpart := (hmentions routeMember _ hgives).1 hmark
  exact ⟨htidy, hmerge, t, us, hresolves, hus, hgives, hpart,
    (hjudge Sole.path Mixed.context _ howns hgives).2 hpart⟩

end RouteLint
