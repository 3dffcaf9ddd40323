import RouteLint.Proofs.Data.Table
import RouteLint.Typing.Resolve

/-!
# Members of object types

The properties that members write out stand in a table.  Of several members with one name the last
counts, and there is a property with a name exactly if some member has it.

## Main definitions

* `Member.name?` — members by name.

## Main results

* `get?_membersOf_append`, `get?_membersOf_singleton` — which member counts.
* `contains_membersOf_iff` — which properties there are.
-/

namespace RouteLint

open Syntax

/-- The name of a member, unless it is computed. -/
def Syntax.Member.name? : Member → Option String
  | .property name _ => name.text?
  | .method name _ => name.text?
  | .signature => none

/-- Of two properties with one name the last counts. -/
theorem get?_foldl_set (ps : List Property) (t : Table String Property) (x : String) :
    (ps.foldl (fun (t : Table String Property) p => t.set p.name p) t).get? x =
      ((ps.foldl (fun (t : Table String Property) p => t.set p.name p) []).get? x).or
        (t.get? x) := by
  induction ps generalizing t with
  | nil => rfl
  | cons p ps ih =>
    have hset : (t.set p.name p).get? x =
        ((Table.set [] p.name p).get? x).or (t.get? x) := by
      by_cases hx : p.name = x
      · subst hx
        rw [Table.get?_set_self, Table.get?_set_self, Option.some_or]
      · rw [Table.get?_set_of_ne _ _ hx, Table.get?_set_of_ne _ _ hx, Table.get?_nil,
          Option.none_or]
    rw [List.foldl_cons, List.foldl_cons, ih, ih (Table.set [] p.name p), hset, Option.or_assoc]

theorem get?_membersOf_append (r : TypeRef) (xs ys : List Member) (x : String) :
    (membersOf r (xs ++ ys)).get? x =
      ((membersOf r ys).get? x).or ((membersOf r xs).get? x) := by
  unfold membersOf
  rw [List.filterMap_append, List.foldl_append, get?_foldl_set]

theorem get?_membersOf_cons (r : TypeRef) (m : Member) (ms : List Member) (x : String) :
    (membersOf r (m :: ms)).get? x =
      ((membersOf r ms).get? x).or ((membersOf r [m]).get? x) :=
  get?_membersOf_append r [m] ms x

theorem get?_membersOf_singleton (r : TypeRef) (m : Member) (x : String) :
    (membersOf r [m]).get? x = if m.name? = some x then propertyOf r m else none := by
  cases m with
  | property name type =>
    cases hn : name.text? with
    | none => simp [membersOf, propertyOf, Member.name?, hn]
    | some n => simp [membersOf, propertyOf, Member.name?, hn, Table.set, Table.get?_cons]
  | method name piece =>
    cases hn : name.text? with
    | none => simp [membersOf, propertyOf, Member.name?, hn]
    | some n => simp [membersOf, propertyOf, Member.name?, hn, Table.set, Table.get?_cons]
  | signature => rfl

/-- Where no member has a name there is no such property. -/
theorem get?_membersOf_of_countP {r : TypeRef} {ms : List Member} {x : String}
    (h : ms.countP (fun m => m.name? = some x) = 0) : (membersOf r ms).get? x = none := by
  induction ms with
  | nil => rfl
  | cons m ms ih =>
    rw [List.countP_cons, Nat.add_eq_zero_iff] at h
    have hm : ¬ m.name? = some x := fun hx => by simp [hx] at h
    rw [get?_membersOf_cons, ih h.1, get?_membersOf_singleton, if_neg hm, Option.none_or]

theorem isSome_propertyOf (r : TypeRef) (m : Member) :
    (propertyOf r m).isSome = m.name?.isSome := by
  cases m with
  | property name type => exact Option.isSome_map
  | method name piece => exact Option.isSome_map
  | signature => rfl

/-- There is a property with a name if some member has the name. -/
theorem contains_membersOf_iff {r : TypeRef} {ms : List Member} {x : String} :
    (membersOf r ms).contains x = true ↔ ∃ m ∈ ms, m.name? = some x := by
  induction ms with
  | nil => simp [membersOf, Table.contains]
  | cons m ms ih =>
    have hcons : (membersOf r (m :: ms)).contains x =
        ((membersOf r ms).contains x || decide (m.name? = some x)) := by
      unfold Table.contains
      rw [get?_membersOf_cons, get?_membersOf_singleton, Option.isSome_or]
      split
      · next hname => rw [isSome_propertyOf, hname, decide_eq_true rfl]; rfl
      · next hname => rw [decide_eq_false hname]; rfl
    rw [hcons, Bool.or_eq_true, decide_eq_true_iff, ih, List.exists_mem_cons_iff, or_comm]

theorem name?_of_propertyOf {r : TypeRef} {m : Member} {q : Property}
    (h : propertyOf r m = some q) : m.name? = some q.name := by
  cases m with
  | property name type =>
    obtain ⟨n, hn, rfl⟩ := Option.map_eq_some_iff.1 h
    exact hn
  | method name piece =>
    obtain ⟨n, hn, rfl⟩ := Option.map_eq_some_iff.1 h
    exact hn
  | signature => cases h

/-- A property that is found under a name has that name. -/
theorem name_of_get?_membersOf {r : TypeRef} {ms : List Member} {x : String} {q : Property}
    (h : (membersOf r ms).get? x = some q) : q.name = x := by
  induction ms with
  | nil => cases h
  | cons m ms ih =>
    rw [get?_membersOf_cons, get?_membersOf_singleton] at h
    rcases Option.or_eq_some_iff.1 h with h | ⟨-, h⟩
    · exact ih h
    · split at h
      · next hname =>
        rw [name?_of_propertyOf h] at hname
        exact Option.some.inj hname
      · cases h

end RouteLint
