import RouteLint.Proofs.Data.Attempts
import RouteLint.Proofs.Routes.Rewrapping
import RouteLint.Proofs.Typing.ObjectMembers
import RouteLint.Proofs.Typing.Resolving

/-!
# Judging repaired parameters

A repair looks at the first property that gives the parameters of a route, and wraps its type.
Judging looks at the last member of that name, be it a property or a method.  So the two meet if
there is one such member only; its type is then shown with the wrapper around it, unless an alias
hides the wrapper, and the parameter no longer violates the rule.

## Main definitions

* `Parameter.HasOneRouteMember` — parameters with one member that gives those of the route.
* `WrapperFree` — files in which no alias hides the wrapper.

## Main results

* `membersOf_wrapFirst` — which member counts before and after a repair.
* `renderFrom_of_succ` — showing a type in fewer steps does not fail if it does not in more.
* `judge_repaired` — **a repaired parameter does not violate the rule.**
-/

namespace RouteLint

open Syntax

/-! ### Members -/

/-- The object type in place has exactly one member that gives the parameters of a route. -/
def Syntax.Parameter.HasOneRouteMember (p : Parameter) : Prop :=
  ∃ piece ms, p.type = some (.object piece ms) ∧
    ms.countP (fun m => m.name? = some routeMember) = 1

/-- Where the property stands that a repair wraps. -/
theorem exists_wrapFirst {ms : List Member} {t : TypeExpr}
    (h : ms.findSome? (propertyNamed routeMember) = some (some t)) :
    ∃ xs name ys, ms = xs ++ .property name (some t) :: ys ∧ name.text? = some routeMember ∧
      wrapFirst ms = xs ++ .property name (some t.wrapped) :: ys := by
  induction ms with
  | nil => cases h
  | cons m ms ih =>
    cases m with
    | property name type =>
      rw [List.findSome?_cons, propertyNamed] at h
      by_cases hname : name.text? = some routeMember
      · rw [if_pos hname] at h
        cases h
        refine ⟨[], name, ms, rfl, hname, ?_⟩
        rw [wrapFirst, if_pos hname]
        rfl
      · rw [if_neg hname] at h
        obtain ⟨xs, name', ys, rfl, hname', hwrap⟩ := ih h
        refine ⟨.property name type :: xs, name', ys, rfl, hname', ?_⟩
        rw [wrapFirst, if_neg hname, hwrap]
        rfl
    | method name piece =>
      obtain ⟨xs, name', ys, rfl, hname', hwrap⟩ := ih h
      refine ⟨.method name piece :: xs, name', ys, rfl, hname', ?_⟩
      rw [wrapFirst, hwrap]
      rfl
    | signature =>
      obtain ⟨xs, name', ys, rfl, hname', hwrap⟩ := ih h
      refine ⟨.signature :: xs, name', ys, rfl, hname', ?_⟩
      rw [wrapFirst, hwrap]
      rfl

/-- Which member counts before and after a repair: another one, which stays as it is, or the one
that is wrapped. -/
theorem membersOf_wrapFirst (r : TypeRef) {ms : List Member} {t : TypeExpr}
    (h : ms.findSome? (propertyNamed routeMember) = some (some t)) :
    (ms.countP (fun m => m.name? = some routeMember) ≠ 1 ∧
      (membersOf r (wrapFirst ms)).get? routeMember = (membersOf r ms).get? routeMember) ∨
    ((membersOf r ms).get? routeMember = some ⟨routeMember, .property (some (r.withType t))⟩ ∧
      (membersOf r (wrapFirst ms)).get? routeMember =
        some ⟨routeMember, .property (some (r.withType t.wrapped))⟩) := by
  obtain ⟨xs, name, ys, hms, hname, hwrap⟩ := exists_wrapFirst h
  have hfirst : ∀ u : TypeExpr, (membersOf r [.property name (some u)]).get? routeMember =
      some ⟨routeMember, .property (some (r.withType u))⟩ := by
    intro u
    rw [get?_membersOf_singleton]
    simp [Member.name?, propertyOf, hname]
  rw [hwrap, hms]
  simp only [get?_membersOf_append, get?_membersOf_cons r _ ys, hfirst]
  cases hys : (membersOf r ys).get? routeMember with
  | some q =>
    refine .inl ⟨fun hone => ?_, rfl⟩
    have hzero : ys.countP (fun m => m.name? = some routeMember) = 0 := by
      have hself : (Member.property name (some t)).name? = some routeMember := hname
      rw [List.countP_append, List.countP_cons] at hone
      simp only [hself, decide_true, if_true] at hone
      omega
    rw [get?_membersOf_of_countP hzero] at hys
    cases hys
  | none => exact .inr ⟨rfl, rfl⟩

/-! ### Showing types -/

variable {ε : Type} {g : ModuleGraph (Except ε)}

/-- Showing a type in fewer steps does not fail if it does not in more. -/
theorem renderFrom_of_succ {n : Nat} {r : TypeRef} {text : String}
    (h : renderFrom g (n + 1) r = .ok text) : ∃ text', renderFrom g n r = .ok text' := by
  induction n generalizing r text with
  | zero => exact ⟨r.text, rfl⟩
  | succ n ih =>
    rw [renderFrom] at h
    rw [renderFrom]
    cases htype : r.type with
    | name p =>
      rw [htype] at h
      dsimp only at h ⊢
      cases hb : r.bindings.get? p.text with
      | some b =>
        rw [hb] at h
        exact ih h
      | none =>
        rw [hb] at h
        obtain ⟨known, hknown, h⟩ := except_bind_eq_ok h
        dsimp only
        rw [except_bind_of_ok hknown]
        cases known with
        | some t => exact ih h
        | none => exact ⟨p.text, rfl⟩
    | generic piece head arguments =>
      rw [htype] at h
      dsimp only at h ⊢
      -- a head that is no alias
      have hwithout : (arguments.map r.withType).mapM (renderFrom g (n + 1)) >>= (fun texts =>
          pure (head.text ++ "<" ++ ", ".intercalate texts ++ ">")) = .ok text →
          ∃ shown, (arguments.map r.withType).mapM (renderFrom g n) >>= (fun texts =>
            pure (head.text ++ "<" ++ ", ".intercalate texts ++ ">")) = .ok shown := by
        intro h
        obtain ⟨texts, htexts, -⟩ := except_bind_eq_ok h
        have hall : ∀ a ∈ arguments.map r.withType, ∃ text', renderFrom g n a = .ok text' := by
          intro a ha
          obtain ⟨text', htext'⟩ := ok_of_mapM_eq_ok htexts a ha
          exact ih htext'
        rw [except_bind_of_ok (mapM_eq_ok hall)]
        exact ⟨_, rfl⟩
      split at h
      · next hplain =>
        obtain ⟨known, halias, h⟩ := except_bind_eq_ok h
        rw [if_pos hplain, except_bind_of_ok halias]
        cases known with
        | some t => exact ih h
        | none => exact hwithout h
      · next hplain =>
        rw [if_neg hplain]
        exact hwithout h
    | object | union | intersection | parenthesized | literal | comment | other =>
      exact ⟨r.text, rfl⟩

/-- No alias hides the wrapper in a file: what its name stands for there can be looked up, and is
no alias. -/
def WrapperFree (g : ModuleGraph (Except ε)) (file : Path) : Prop :=
  ∃ ds, visibleTypes g file wrapper = .ok ds ∧ firstAlias ds = none

theorem WrapperFree.aliasValue {file : Path} (h : WrapperFree g file) (arguments : List TypeRef) :
    aliasValue g file wrapper arguments = .ok none := by
  obtain ⟨ds, hds, hnone⟩ := h
  unfold RouteLint.aliasValue
  rw [except_bind_of_ok hds]
  cases ds with
  | nil => rfl
  | cons d ds =>
    obtain ⟨a | i, file'⟩ := d
    · cases hnone
    · rfl

/-- A wrapped type is shown with the wrapper, if no alias hides it. -/
theorem render_wrapped {file : Path} (h : WrapperFree g file) {t : TypeExpr} {text : String}
    (ht : render g ⟨t, file, []⟩ = .ok text) :
    ∃ rest, render g ⟨t.wrapped, file, []⟩ = .ok (wrapper ++ rest) := by
  obtain ⟨inner, hinner⟩ := renderFrom_of_succ ht
  have hmapM : [TypeRef.mk t file []].mapM (renderFrom g maxDepth) = .ok [inner] := by
    rw [List.mapM_cons, except_bind_of_ok hinner]
    rfl
  refine ⟨"<" ++ (", ".intercalate [inner] ++ ">"), ?_⟩
  unfold render
  rw [renderFrom]
  show (aliasValue g file wrapper [⟨t, file, []⟩] >>= _) = _
  rw [except_bind_of_ok (h.aliasValue _)]
  show ([TypeRef.mk t file []].mapM (renderFrom g maxDepth) >>= fun texts =>
    pure (wrapper ++ "<" ++ ", ".intercalate texts ++ ">")) = _
  rw [except_bind_of_ok hmapM, String.append_assoc, String.append_assoc]
  rfl

/-! ### Judging -/

theorem nonempty_wrapper (rest : String) : nonempty (wrapper ++ rest) = some (wrapper ++ rest) := by
  have hne : (wrapper ++ rest).isEmpty = false := by
    rw [Bool.eq_false_iff, Ne, String.isEmpty_iff]
    intro hempty
    have hlist := congrArg String.toList hempty
    rw [String.toList_append] at hlist
    cases hlist
  unfold nonempty
  rw [hne]
  rfl

/-- The type of a property with a type that can be shown. -/
theorem propertyType_of_render (owner : ResolvedType) (name : String) {t : TypeRef} {text : String}
    (h : render g t = .ok text) (hne : nonempty text = some text) :
    propertyType g owner ⟨name, .property (some t)⟩ = .ok (some text) := by
  have hdeclared : declaredType g ⟨name, .property (some t)⟩ = .ok (some text) := by
    unfold declaredType
    dsimp only
    rw [h]
    exact congrArg Except.ok hne
  unfold propertyType
  rw [except_bind_of_ok hdeclared]
  rfl

/-- A property whose type is known can be shown. -/
theorem render_of_propertyType {owner : ResolvedType} {name : String} {t : TypeRef}
    {found : Option String}
    (h : propertyType g owner ⟨name, .property (some t)⟩ = .ok found) :
    ∃ text, render g t = .ok text := by
  obtain ⟨declared, hdeclared, -⟩ := except_bind_eq_ok h
  unfold declaredType at hdeclared
  cases hrender : render g t with
  | error err =>
    dsimp only at hdeclared
    rw [hrender] at hdeclared
    cases hdeclared
  | ok text => exact ⟨text, rfl⟩

/-- The type of a property depends on the owner only through what it has under the name. -/
theorem propertyType_congr {owner owner' : ResolvedType} {q : Property}
    (h : owner'.properties.get? q.name = owner.properties.get? q.name) :
    propertyType g owner' q = propertyType g owner q := by
  unfold propertyType ownedType
  rw [h]

/-- **A repaired parameter can be judged, and does not violate the rule** if its object type has one
member that gives the parameters of a route. -/
theorem judge_repaired {file : Path} (hfree : WrapperFree g file) {es : List Edit} {p : Parameter}
    {e : Edit} (hplan : planRepair p = .ok e) (he : e ∈ es) {found : Option String}
    (hjudge : judge g file p = .ok found) :
    ∃ found', judge g file (p.repaired es) = .ok found' ∧
      (p.HasOneRouteMember → found' = none) := by
  obtain ⟨piece, ms, t, hp, ht, -, -⟩ := planRepair_eq_ok.1 hplan
  have hp' : (p.repaired es).type = some (.object piece (wrapFirst ms)) := by
    rw [repaired_of_mem hplan he hp]
  unfold judge at hjudge ⊢
  rw [Coupling.routeParams_object g file hp] at hjudge
  rw [Coupling.routeParams_object g file hp']
  rcases membersOf_wrapFirst ⟨default, file, []⟩ ht with ⟨hmany, hsame⟩ | ⟨hold, hnew⟩
  · -- another member counts
    refine ⟨found, ?_, fun hone => ?_⟩
    · rw [hsame]
      cases hq : (membersOf ⟨default, file, []⟩ ms).get? routeMember with
      | none =>
        rw [hq] at hjudge
        exact hjudge
      | some q =>
        rw [hq] at hjudge
        dsimp only at hjudge ⊢
        rw [propertyType_congr ?_]
        · exact hjudge
        · rw [name_of_get?_membersOf hq]
          exact hsame
    · obtain ⟨piece', ms', hp'', hone⟩ := hone
      rw [hp] at hp''
      cases hp''
      exact absurd hone hmany
  · rw [hold] at hjudge
    obtain ⟨shown, hshown, -⟩ := except_bind_eq_ok hjudge
    obtain ⟨text, htext⟩ := render_of_propertyType hshown
    obtain ⟨rest, hrest⟩ := render_wrapped hfree htext
    have htype := propertyType_of_render ⟨"", membersOf ⟨default, file, []⟩ (wrapFirst ms)⟩
      routeMember hrest (nonempty_wrapper rest)
    refine ⟨none, ?_, fun _ => rfl⟩
    rw [hnew]
    dsimp only
    refine (except_bind_of_ok htype _).trans ?_
    rw [Option.filter_some, mentionsWrapper_append]
    rfl

end RouteLint
