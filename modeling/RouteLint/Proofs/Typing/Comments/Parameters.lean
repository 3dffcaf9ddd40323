import RouteLint.Proofs.Typing.Comments.Properties
import RouteLint.Routes.Check

/-!
# Parameters under comments

A parameter is judged by one property of its type, and by what the text of that property mentions.
So comments in its annotation, and in the declarations that the annotation leads to, do not change
whether it violates the rule.  A default value that stands in for the annotation is looked at as it
is; the types in it may still lead to declarations with comments.

## Main results

* `propertyType_eq` — the type of a property as its owner has it is the text that it shows.
* `ModuleGraph.Commented.judge` — **parameters are judged alike.**
* `isOk_planRepair_commented` — and repaired alike.
* `judge_of_union_comment` — **a comment among the parts of a union hides all its properties.**
-/

namespace RouteLint

open Syntax

variable {ε : Type} {g g' : ModuleGraph (Except ε)}

/-! ### Default values -/

/-- Types that are seen alike and have texts that are. -/
structure ResolvedType.ShownAlike (g g' : ModuleGraph (Except ε)) (t t' : ResolvedType) : Prop where
  text : Text.Alike t.text t'.text
  properties : ResolvedType.Alike g g' t t'

theorem ResolvedType.ShownAlike.of_text {text text' : String} (h : Text.Alike text text') :
    ResolvedType.ShownAlike g g' ⟨text, []⟩ ⟨text', []⟩ := ⟨h, .nil⟩

theorem objectText_alike {ps ps' : Table String String}
    (h : Table.Related (fun _ => Text.Alike) ps ps') :
    Text.Alike (objectText ps) (objectText ps') := by
  have hentries : List.Forall₂ Text.Alike (ps.map fun e => e.1 ++ ": " ++ e.2)
      (ps'.map fun e => e.1 ++ ": " ++ e.2) := by
    rw [List.forall₂_map_left_iff, List.forall₂_map_right_iff]
    refine List.Forall₂.imp (fun e e' he => ?_) h
    rw [← he.1]
    exact .join (by decide) rfl he.2.mentions
  unfold objectText
  cases h with
  | nil => exact .refl _
  | cons =>
    have hnothing : mentionsWrapper "" = mentionsWrapper "" := rfl
    have hjoined := Text.Alike.intercalate (by decide : Breaks "; ") hentries
    have hopen := Text.Alike.join (by decide : Breaks "\x7b ") hnothing hjoined.mentions
    have hclose := Text.Alike.join (by decide : Breaks "; \x7d") hopen.mentions hnothing
    rw [List.isEmpty_cons, List.isEmpty_cons, if_neg Bool.false_ne_true,
      if_neg Bool.false_ne_true]
    simpa only [String.append_empty, String.empty_append] using hclose

theorem objectType_alike {ps ps' : Table String String}
    (h : Table.Related (fun _ => Text.Alike) ps ps') :
    ResolvedType.ShownAlike g g' (objectType ps) (objectType ps') := by
  refine ⟨objectText_alike h, ?_⟩
  unfold ResolvedType.Alike objectType
  dsimp only
  refine List.rel_map (fun e e' he => ?_) h
  obtain ⟨name, text⟩ := e
  obtain ⟨name', text'⟩ := e'
  obtain ⟨rfl, htext⟩ := he
  exact ⟨rfl, rfl, rfl, .ok htext⟩

theorem promiseOf_alike {text text' : String} (h : Text.Alike text text') :
    Text.Alike (promiseOf text) (promiseOf text') := by
  have hwrapper : mentionsWrapper wrapper = mentionsWrapper wrapper := rfl
  have hgeneric := generic_alike hwrapper (List.Forall₂.cons h .nil)
  have hname : wrapper ++ "<" = "Promise<" := by decide
  rwa [String.intercalate_singleton, String.intercalate_singleton, hname] at hgeneric

namespace ModuleGraph.Commented

mutual

theorem inferAt (hg : g.Commented g') (file : Path) (depth : Nat) : ∀ e : Expr,
    Related (ResolvedType.ShownAlike g g') (inferAt g file depth e) (inferAt g' file depth e)
  | .parenthesized e => by
    rw [RouteLint.inferAt, RouteLint.inferAt]
    split
    · exact inferAt hg file (depth + 1) e
    · exact .ok (.of_text (.refl _))
  | .object es => by
    rw [RouteLint.inferAt, RouteLint.inferAt]
    split
    · exact (inferEntries hg file depth es .nil).bind fun ps ps' hps => .ok (objectType_alike hps)
    · exact .ok (.of_text (.refl _))
  | .asConst e | .satisfies e => by
    rw [RouteLint.inferAt, RouteLint.inferAt]
    split
    · exact (inferAt hg file (depth + 1) e).bind fun t t' ht => .ok (.of_text ht.text)
    · exact .ok (.of_text (.refl _))
  | .asType e t => by
    rw [RouteLint.inferAt, RouteLint.inferAt]
    have ht : TypeRef.Commented true ⟨t, file, []⟩ ⟨t, file, []⟩ :=
      .mk file (TypeExpr.commented_refl true t) .nil
    exact (hg.render ht).bind fun text text' htext => .ok (.of_text htext)
  | .call object method none => by
    rw [RouteLint.inferAt, RouteLint.inferAt]
    split
    · exact .ok (.of_text (.refl _))
    · split
      · exact .ok (.of_text (.refl _))
      · split <;> exact .ok (.of_text (.refl _))
  | .call object method (some e) => by
    rw [RouteLint.inferAt, RouteLint.inferAt]
    split
    · exact .ok (.of_text (.refl _))
    · split
      · exact .ok (.of_text (.refl _))
      · split
        · exact .ok (.of_text (.refl _))
        · split
          · exact (inferAt hg file (depth + 1) e).bind fun t t' ht =>
              .ok (.of_text (promiseOf_alike ht.text))
          · exact .ok (.of_text (.refl _))
  | .construct _ | .text | .number | .truth | .null | .undefined | .member _ _ | .other => by
    rw [RouteLint.inferAt, RouteLint.inferAt]
    exact .ok (.of_text (.refl _))

theorem inferEntries (hg : g.Commented g') (file : Path) (depth : Nat) : ∀ (es : List Entry)
    {before before' : Table String String}, Table.Related (fun _ => Text.Alike) before before' →
    Related (Table.Related fun _ => Text.Alike) (inferEntries g file depth before es)
      (inferEntries g' file depth before' es)
  | [], _, _, hbefore => by
    rw [RouteLint.inferEntries, RouteLint.inferEntries]
    exact .ok hbefore
  | .pair name e :: es, _, _, hbefore => by
    rw [RouteLint.inferEntries, RouteLint.inferEntries]
    cases name.text? with
    | none => exact inferEntries hg file depth es hbefore
    | some n =>
      exact (inferAt hg file (depth + 1) e).bind fun t t' ht =>
        inferEntries hg file depth es (hbefore.set ht.text)
  | .shorthand name :: es, _, _, hbefore => by
    rw [RouteLint.inferEntries, RouteLint.inferEntries]
    exact inferEntries hg file depth es (hbefore.set (.refl _))

end

/-! ### Properties and parameters -/

theorem parameterType (hg : g.Commented g') (file : Path) {p p' : Parameter}
    (htype : Option.Rel (TypeExpr.Commented false) p.type p'.type) (hvalue : p.value = p'.value) :
    Related (Option.Rel (ResolvedType.Alike g g')) (parameterType g file p)
      (parameterType g' file p') := by
  unfold RouteLint.parameterType
  rw [← hvalue]
  rcases optionRel_cases htype with ⟨hp, hp'⟩ | ⟨t, t', hp, hp', ht⟩
  · rw [hp, hp']
    cases p.value with
    | none => exact .ok .none
    | some e => exact (inferAt hg file 0 e).map fun t t' ht => .some ht.properties
  · rw [hp, hp']
    exact (hg.resolve (.mk file ht .nil)).map fun t t' h => .some h

end ModuleGraph.Commented

/-- The type of a property as its owner has it is the text that it shows. -/
theorem propertyType_eq {owner : ResolvedType} {p : Property}
    (h : owner.properties.get? p.name = some p) :
    propertyType g owner p = nonempty <$> p.typeText g := by
  obtain ⟨name, origin⟩ := p
  unfold propertyType declaredType ownedType
  rw [h]
  cases origin with
  | property t =>
    cases t with
    | none => rfl
    | some t =>
      -- a type that shows as an empty text is looked at once more
      dsimp only [Property.typeText]
      cases render g t with
      | error err => rfl
      | ok text =>
        have hshown : nonempty <$> (Except.ok text : Except ε String) = .ok (nonempty text) := rfl
        rw [hshown, except_bind_of_ok rfl]
        cases nonempty text <;> rfl
  | method | keyed | derived => rfl

namespace ModuleGraph.Commented

/-- **Parameters are judged alike.** -/
theorem judge (hg : g.Commented g') (file : Path) {p p' : Parameter}
    (htype : Option.Rel (TypeExpr.Commented false) p.type p'.type) (hvalue : p.value = p'.value) :
    Related (fun found found' => found.isSome = found'.isSome) (judge g file p)
      (judge g' file p') := by
  unfold RouteLint.judge routeParams
  rw [bind_assoc, bind_assoc]
  refine (hg.parameterType file htype hvalue).bind fun owner owner' howner => ?_
  cases howner with
  | none => exact .ok rfl
  | @some owner owner' howner =>
    dsimp only
    rcases optionRel_cases (Table.Related.get? howner routeMember) with
      ⟨hget, hget'⟩ | ⟨x, x', hget, hget', hproperty⟩
    · rw [hget, hget']
      exact .ok rfl
    · have hx : owner.properties.get? x.name = some x := by rw [hproperty.left, hget]
      have hx' : owner'.properties.get? x'.name = some x' := by rw [hproperty.right, hget']
      rw [hget, hget']
      dsimp only
      rw [propertyType_eq hx, propertyType_eq hx', bind_map_left, bind_map_left]
      refine hproperty.text.bind fun text text' htext => .ok ?_
      unfold nonempty
      rw [← htext.isEmpty]
      split
      · rfl
      · rw [Option.filter_some, Option.filter_some, htext.mentions]
        cases mentionsWrapper text' <;> rfl

end ModuleGraph.Commented

/-! ### Repairs -/

theorem propertyNamed_commented (name : String) {m m' : Member} (h : m.Commented m') :
    Option.Rel (Option.Rel (TypeExpr.Commented true)) (propertyNamed name m)
      (propertyNamed name m') := by
  cases h with
  | property n ht =>
    unfold propertyNamed
    dsimp only
    split
    · exact .some (.some ht)
    · exact .none
  | untyped n =>
    unfold propertyNamed
    dsimp only
    split
    · exact .some .none
    · exact .none
  | method | signature => exact .none

theorem isOk_planMembers_commented {ms ms' : List Member}
    (h : List.Forall₂ Member.Commented ms ms') :
    (planMembers ms).isOk = (planMembers ms').isOk := by
  have hfound : Option.Rel (Option.Rel (TypeExpr.Commented true))
      (ms.findSome? (propertyNamed routeMember)) (ms'.findSome? (propertyNamed routeMember)) := by
    induction h with
    | nil => exact .none
    | cons hm _ ih =>
      rw [List.findSome?_cons, List.findSome?_cons]
      rcases optionRel_cases (propertyNamed_commented routeMember hm) with
        ⟨hnamed, hnamed'⟩ | ⟨t, t', hnamed, hnamed', ht⟩
      · rw [hnamed, hnamed']
        exact ih
      · rw [hnamed, hnamed']
        exact .some ht
  unfold planMembers
  rcases optionRel_cases hfound with ⟨hnone, hnone'⟩ | ⟨x, x', hsome, hsome', htype⟩
  · rw [hnone, hnone']
  · rw [hsome, hsome']
    cases htype with
    | none => rfl
    | some ht =>
      dsimp only
      rw [ht.text.alike.1]
      split <;> rfl

/-- Parameters are repaired alike. -/
theorem isOk_planRepair_commented {p p' : Parameter}
    (htype : Option.Rel (TypeExpr.Commented false) p.type p'.type) :
    (planRepair p).isOk = (planRepair p').isOk := by
  unfold planRepair
  rcases optionRel_cases htype with ⟨hp, hp'⟩ | ⟨t, t', hp, hp', ht⟩
  · rw [hp, hp']
  · rw [hp, hp']
    cases ht with
    | object _ hms => exact isOk_planMembers_commented hms.forall₂
    | name | generic | union | intersection | parenthesized | literal | comment | other => rfl

/-! ### Comments among the parts of a union -/

/-- A union with a part that has no properties has none. -/
theorem unite_of_nil {ts : List ResolvedType} {t u : ResolvedType} (ht : t ∈ ts)
    (hnil : t.properties = []) (h : unite g ts = .ok u) : u.properties = [] := by
  cases ts with
  | nil => exact absurd ht List.not_mem_nil
  | cons first others =>
    have hcommon : (first.properties.filter fun e =>
        others.all fun t => t.properties.contains e.1) = [] := by
      rcases List.mem_cons.1 ht with rfl | ht
      · rw [hnil]
        rfl
      · refine List.filter_eq_nil_iff.2 fun e _ hall => ?_
        have hcontains := List.all_eq_true.1 hall t ht
        rw [hnil] at hcontains
        cases hcontains
    unfold unite at h
    dsimp only at h
    rw [hcommon] at h
    cases h
    rfl

theorem properties_of_union_comment {steps : Nat} {r : TypeRef} {piece c : Piece}
    {parts : List TypeExpr} (hr : r.type = .union piece parts) (hc : .comment c ∈ parts)
    {t : ResolvedType} (h : resolveFrom g steps r = .ok t) : t.properties = [] := by
  cases steps with
  | zero =>
    cases h
    rfl
  | succ k =>
    rw [resolveFrom, hr] at h
    obtain ⟨ts, hts, hunite⟩ := except_bind_eq_ok h
    obtain ⟨u, hu, hcomment⟩ := exists_left_of_forall₂ (forall₂_of_mapM_eq_ok hts).flip hc
    refine unite_of_nil hu ?_ hunite
    cases k with
    | zero =>
      cases hcomment
      rfl
    | succ k =>
      cases hcomment
      rfl

/-- **A parameter that is annotated with a union is never reported if a comment stands among the
parts**, whatever their properties are. -/
theorem judge_of_union_comment {file : Path} {p : Parameter} {piece c : Piece}
    {parts : List TypeExpr} (hp : p.type = some (.union piece parts)) (hc : .comment c ∈ parts)
    {found : Option String} (h : judge g file p = .ok found) : found = none := by
  unfold judge routeParams parameterType at h
  rw [hp] at h
  obtain ⟨text, htext, hfound⟩ := except_bind_eq_ok h
  obtain ⟨owner, howner, hmember⟩ := except_bind_eq_ok htext
  obtain ⟨t, ht, rfl⟩ := except_ok_of_map howner
  have hnil : t.properties = [] := properties_of_union_comment rfl hc ht
  dsimp only at hmember
  rw [hnil] at hmember
  cases hmember
  cases hfound
  rfl

end RouteLint
