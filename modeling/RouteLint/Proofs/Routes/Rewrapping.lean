import RouteLint.Proofs.Routes.Insertion
import RouteLint.Proofs.Typing.Places

/-!
# Trees after a repair

Edits that were planned for the handlers of a source change its bytes, and the bytes are read anew.
What a parser is expected to make of them is said here: the same tree, but for the types that were
wrapped, and for places.  What follows from it is that typing sees no difference, and that a
parameter which has been repaired cannot be repaired again.

## Main definitions

* `Module.repaired` — a module with the types wrapped that edits wrap.
* `Source.Plans` — edits that the handlers of a source give rise to.
* `Source.Rewraps` — **what is assumed of a parser: the tree of the edited bytes is the repaired
  tree.**
* `Source.Charted` — what is assumed of a tree: it says where in the bytes its types stand.

## Main results

* `Source.Rewraps.view` — typing does not see repairs.
* `Source.Rewraps.handlers` — the handlers of the edited bytes are the repaired ones.
* `planRepair_repaired` — what has been repaired is not repaired again.
* `Source.Charted.wraps`, `Source.Charted.pairwise_apart` — planned edits only insert.
-/

namespace RouteLint

namespace Syntax

/-- A type after wrapping. -/
def TypeExpr.wrapped (t : TypeExpr) : TypeExpr :=
  .generic ⟨t.extent, wrapper ++ "<" ++ t.text ++ ">"⟩ ⟨wrapper, true⟩ [t]

/-- Members with the type of the first property wrapped that gives the parameters of a route. -/
def wrapFirst : List Member → List Member
  | [] => []
  | .property name type :: ms =>
    if name.text? = some routeMember then .property name (type.map TypeExpr.wrapped) :: ms
    else .property name type :: wrapFirst ms
  | .method name piece :: ms => .method name piece :: wrapFirst ms
  | .signature :: ms => .signature :: wrapFirst ms

/-- A parameter after edits: if its repair is among them its type is wrapped. -/
def Parameter.repaired (es : List Edit) (p : Parameter) : Parameter :=
  match p.type, planRepair p with
  | some (.object piece ms), .ok e =>
    if e ∈ es then { p with type := some (.object piece (wrapFirst ms)) } else p
  | _, _ => p

/-- Repairing the functions of a module. -/
def Renewal.repair (es : List Edit) : Renewal where
  type d := d
  function f := { f with parameters := f.parameters.map (Parameter.repaired es) }
  value v := v
  type_name _ := rfl
  function_name _ := rfl
  value_name _ := rfl

/-- A module after edits. -/
def Module.repaired (es : List Edit) (m : Module) : Module := m.renew (.repair es)

end Syntax

open Syntax

/-- A handler after edits. -/
def Handler.repaired (es : List Edit) (h : Handler) : Handler := h.renew (.repair es)

theorem Handler.context?_repaired (es : List Edit) (h : Handler) :
    (h.repaired es).context? = h.context?.map (Parameter.repaired es) := List.getElem?_map

theorem Scope.view_renew_repair (es : List Edit) (s : Scope) :
    (s.renew (.repair es)).view = s.view := by
  have htypes : (s.renew (.repair es)).types = s.types := by
    show s.types.mapValues (List.map fun d => d) = s.types
    unfold Table.mapValues
    simp
  unfold view renew at *
  rw [htypes]

/-! ### Planned edits -/

/-- The type that a repair of a parameter would wrap. -/
def Syntax.Parameter.routeType? (p : Parameter) : Option TypeExpr :=
  match p.type with
  | some (.object _ ms) => (ms.findSome? (propertyNamed routeMember)).join
  | _ => none

/-- When a parameter can be repaired, and how. -/
theorem planRepair_eq_ok {p : Parameter} {e : Edit} : planRepair p = .ok e ↔
    ∃ piece ms t, p.type = some (.object piece ms) ∧
      ms.findSome? (propertyNamed routeMember) = some (some t) ∧ mentionsWrapper t.text = false ∧
      e = wrapEdit t := by
  unfold planRepair
  constructor
  · intro h
    split at h
    · cases h
    · next piece ms hp =>
      unfold planMembers at h
      split at h
      · cases h
      · cases h
      · next t ht =>
        split at h
        · cases h
        · next hmention =>
          cases h
          exact ⟨piece, ms, t, hp, ht, Bool.eq_false_iff.2 hmention, rfl⟩
    · cases h
  · rintro ⟨piece, ms, t, hp, ht, hmention, rfl⟩
    rw [hp]
    simp only [planMembers, ht, hmention, Bool.false_eq_true, if_false]

theorem routeType?_of_planRepair {p : Parameter} {e : Edit} (h : planRepair p = .ok e) :
    ∃ t, p.routeType? = some t ∧ e = wrapEdit t := by
  obtain ⟨piece, ms, t, hp, ht, -, he⟩ := planRepair_eq_ok.1 h
  refine ⟨t, ?_, he⟩
  unfold Parameter.routeType?
  rw [hp]
  dsimp only
  rw [ht]
  rfl

theorem repaired_of_mem {es : List Edit} {p : Parameter} {e : Edit} {piece : Piece}
    {ms : List Member} (h : planRepair p = .ok e) (he : e ∈ es)
    (hp : p.type = some (.object piece ms)) :
    p.repaired es = { p with type := some (.object piece (wrapFirst ms)) } := by
  unfold Parameter.repaired
  rw [hp, h]
  exact if_pos he

/-- A parameter whose repair is not among the edits stays as it is. -/
theorem repaired_of_not_mem {es : List Edit} {p : Parameter}
    (h : ∀ e, planRepair p = .ok e → e ∉ es) : p.repaired es = p := by
  unfold Parameter.repaired
  split
  · next piece ms e hp he => exact if_neg (h e he)
  · rfl

theorem wrapFirst_findSome? {ms : List Member} {t : TypeExpr}
    (h : ms.findSome? (propertyNamed routeMember) = some (some t)) :
    (wrapFirst ms).findSome? (propertyNamed routeMember) = some (some t.wrapped) := by
  induction ms with
  | nil => cases h
  | cons m ms ih =>
    cases m with
    | property name type =>
      rw [wrapFirst]
      by_cases hname : name.text? = some routeMember
      · rw [List.findSome?_cons, propertyNamed, if_pos hname] at h
        cases h
        rw [if_pos hname, List.findSome?_cons, propertyNamed, if_pos hname]
        rfl
      · rw [List.findSome?_cons, propertyNamed, if_neg hname] at h
        rw [if_neg hname, List.findSome?_cons, propertyNamed, if_neg hname]
        exact ih h
    | method name piece => exact ih h
    | signature => exact ih h

theorem mentionsWrapper_append (s : String) : mentionsWrapper (wrapper ++ s) = true := by
  unfold mentionsWrapper Text.mentions
  rw [Text.occurs_iff_infix, String.toList_append]
  exact (List.prefix_append _ _).isInfix

theorem mentionsWrapper_wrapped (t : TypeExpr) : mentionsWrapper t.wrapped.text = true := by
  show mentionsWrapper (wrapper ++ "<" ++ t.text ++ ">") = true
  rw [String.append_assoc, String.append_assoc]
  exact mentionsWrapper_append _

/-- **What has been repaired is not repaired again.** -/
theorem planRepair_repaired {es : List Edit} {p : Parameter} {e : Edit} (h : planRepair p = .ok e)
    (he : e ∈ es) : ∀ e', planRepair (p.repaired es) ≠ .ok e' := by
  intro e' hagain
  obtain ⟨piece, ms, t, hp, ht, -, -⟩ := planRepair_eq_ok.1 h
  rw [repaired_of_mem h he hp] at hagain
  obtain ⟨piece', ms', t', hp', ht', hmention, -⟩ := planRepair_eq_ok.1 hagain
  cases hp'
  rw [wrapFirst_findSome? ht] at ht'
  cases ht'
  rw [mentionsWrapper_wrapped] at hmention
  cases hmention

/-! ### Repairs and places -/

theorem propertyNamed_bare (name : String) (m : Member) :
    propertyNamed name m.bare = (propertyNamed name m).map (Option.map TypeExpr.bare) := by
  cases m with
  | property n type =>
    rw [Member.bare_property, propertyNamed, propertyNamed]
    split <;> rfl
  | method | signature => rfl

theorem findSome?_bare (name : String) (ms : List Member) :
    (ms.map Member.bare).findSome? (propertyNamed name) =
      (ms.findSome? (propertyNamed name)).map (Option.map TypeExpr.bare) := by
  induction ms with
  | nil => rfl
  | cons m ms ih =>
    rw [List.map_cons, List.findSome?_cons, List.findSome?_cons, propertyNamed_bare]
    cases propertyNamed name m with
    | none => exact ih
    | some t => rfl

/-- Whether a parameter can be repaired does not depend on places. -/
theorem isOk_planRepair_bare (p : Parameter) : (planRepair p.bare).isOk = (planRepair p).isOk := by
  by_cases hobject : ∃ piece ms, p.type = some (.object piece ms)
  · obtain ⟨piece, ms, hp⟩ := hobject
    have hbare : p.bare.type = some (.object default (ms.map Member.bare)) := by
      unfold Parameter.bare
      rw [hp]
    simp only [planRepair, hp, hbare, planMembers, findSome?_bare]
    rcases ms.findSome? (propertyNamed routeMember) with _ | _ | t
    · rfl
    · rfl
    · simp only [Option.map_some, TypeExpr.bare_text]
      split <;> rfl
  · have hbare : p.bare.type = p.type.map TypeExpr.bare := by
      unfold Parameter.bare
      split
      · next piece ms hp => exact absurd ⟨piece, ms, hp⟩ hobject
      · rfl
    unfold planRepair
    rw [hbare]
    cases ht : p.type with
    | none => rfl
    | some t =>
      cases t with
      | object piece ms => exact absurd ⟨piece, ms, ht⟩ hobject
      | name | generic | union | intersection | parenthesized | literal | comment | other => rfl

/-! ### Sources -/

/-- The handlers of a source. -/
def Source.handlers (s : Source) : List Handler := RouteLint.handlers (Scope.ofModule s.module)

/-- The parameters that the handlers of a source are given their routes' parameters in. -/
def Source.contexts (s : Source) : List Parameter := s.handlers.filterMap Handler.context?

theorem Source.mem_contexts {s : Source} {h : Handler} {p : Parameter} (hh : h ∈ s.handlers)
    (hp : h.context? = some p) : p ∈ s.contexts :=
  List.mem_filterMap.2 ⟨h, hh, hp⟩

/-- Edits that the handlers of a source give rise to, each once and none overlapping another. -/
structure Source.Plans (s : Source) (es : List Edit) : Prop where
  planned : ∀ e ∈ es, ∃ p ∈ s.contexts, planRepair p = .ok e
  accepted : es.Pairwise fun a b => a ≠ b ∧ b.overlaps a = false

/-- The tree that the edited bytes of a source are read as is its tree with the wrapped types
wrapped, whatever edits of its handlers are applied; only places may differ. -/
def Source.Rewraps (parse : Parser) (s : Source) : Prop :=
  ∀ es, s.Plans es →
    (parse s.language (Edit.applyAll es s.content)).bare = (s.module.repaired es).bare

namespace Source.Rewraps

variable {parse : Parser} {s : Source} {es : List Edit} {m : Module}

/-- Typing does not see repairs. -/
theorem view (h : s.Rewraps parse) (hes : s.Plans es)
    (hm : m = parse s.language (Edit.applyAll es s.content)) :
    (Scope.ofModule m).view = (Scope.ofModule s.module).view := by
  subst hm
  rw [Scope.view_eq_of_bare_eq (h es hes), Module.repaired, Scope.ofModule_renew,
    Scope.view_renew_repair]

/-- The handlers of the edited bytes are the repaired ones. -/
theorem handlers (h : s.Rewraps parse) (hes : s.Plans es)
    (hm : m = parse s.language (Edit.applyAll es s.content)) :
    List.Forall₂ (fun old new => new.bare = (old.repaired es).bare) s.handlers
      (RouteLint.handlers (Scope.ofModule m)) := by
  subst hm
  have hbare := congrArg (fun m => RouteLint.handlers (Scope.ofModule m)) (h es hes)
  simp only [Module.bare, Module.repaired, Scope.ofModule_renew, handlers_renew] at hbare
  rw [List.map_map] at hbare
  have heq : List.Forall₂ Eq _ _ := List.forall₂_eq_eq_eq ▸ hbare.symm
  exact (List.forall₂_map_right_iff.1 (List.forall₂_map_left_iff.1 heq)).imp fun _ _ h => h.symm

end Source.Rewraps

/-! ### Where types stand -/

/-- A text stands between two offsets of bytes that are valid before and after it. -/
def Stands (content : Bytes) (text : List Char) (start stop : Nat) : Prop :=
  ∃ before after : List Char, content = Utf8.encodeChars (before ++ text ++ after) ∧
    start = (Utf8.encodeChars before).length ∧ stop = (Utf8.encodeChars (before ++ text)).length

/-- A tree that says where in the bytes its handlers' types stand: every type has its text there,
different types have at least one byte between them, and the row of a parameter counts the line
breaks before it. -/
structure Source.Charted (s : Source) : Prop where
  types : ∀ p ∈ s.contexts, ∀ t, p.routeType? = some t →
    Stands s.content t.text.toList t.extent.start t.extent.stop
  apart : ∀ p ∈ s.contexts, ∀ q ∈ s.contexts, ∀ t u, p.routeType? = some t →
    q.routeType? = some u → p = q ∨ t.extent.stop < u.extent.start ∨ u.extent.stop < t.extent.start
  rows : ∀ p ∈ s.contexts, p.extent.start ≤ s.content.length ∧
    p.extent.row = lineBreaks (s.content.take p.extent.start)

namespace Source.Charted

variable {s : Source} {es : List Edit}

theorem wraps_of_planRepair (h : s.Charted) {p : Parameter} (hp : p ∈ s.contexts) {e : Edit}
    (he : planRepair p = .ok e) : e.Wraps s.content := by
  obtain ⟨t, ht, rfl⟩ := routeType?_of_planRepair he
  obtain ⟨before, after, hcontent, hstart, hstop⟩ := h.types p hp t ht
  refine ⟨before, t.text.toList, after, hcontent, hstart, hstop, ?_⟩
  show Utf8.encode (wrapper ++ "<" ++ t.text ++ ">") = _
  unfold Edit.opening Edit.closing Utf8.encode
  simp only [String.toList_append, Utf8.encodeChars_append]

/-- Planned edits put back what they replace, with a text around it. -/
theorem wraps (h : s.Charted) (hes : s.Plans es) : ∀ e ∈ es, e.Wraps s.content := by
  intro e he
  obtain ⟨p, hp, hplan⟩ := hes.planned e he
  exact h.wraps_of_planRepair hp hplan

/-- Parameters with the same repair are the same. -/
theorem eq_of_planRepair (h : s.Charted) {p q : Parameter} (hp : p ∈ s.contexts)
    (hq : q ∈ s.contexts) {e : Edit} (hplan : planRepair p = .ok e)
    (hplan' : planRepair q = .ok e) : p = q := by
  have hwraps := (h.wraps_of_planRepair hp hplan).start_le_stop
  obtain ⟨t, ht, rfl⟩ := routeType?_of_planRepair hplan
  obtain ⟨u, hu, heq⟩ := routeType?_of_planRepair hplan'
  have hstart : t.extent.start = u.extent.start := congrArg Edit.start heq
  have hstop : t.extent.stop = u.extent.stop := congrArg Edit.stop heq
  have hbounds : t.extent.start ≤ t.extent.stop := hwraps
  rcases h.apart p hp q hq t u ht hu with hpq | hlt | hlt
  · exact hpq
  · omega
  · omega

/-- Planned edits stand apart. -/
theorem pairwise_apart (h : s.Charted) (hes : s.Plans es) : es.Pairwise Edit.Apart := by
  refine hes.accepted.imp_of_mem fun {a b} ha hb hab => ?_
  obtain ⟨p, hp, hplan⟩ := hes.planned a ha
  obtain ⟨q, hq, hplan'⟩ := hes.planned b hb
  obtain ⟨t, ht, rfl⟩ := routeType?_of_planRepair hplan
  obtain ⟨u, hu, rfl⟩ := routeType?_of_planRepair hplan'
  rcases h.apart p hp q hq t u ht hu with hpq | hlt
  · subst hpq
    rw [ht] at hu
    cases hu
    exact absurd rfl hab.1
  · exact hlt

end Source.Charted

end RouteLint
