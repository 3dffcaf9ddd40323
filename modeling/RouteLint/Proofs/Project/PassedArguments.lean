import RouteLint.Proofs.Project.Readings
import RouteLint.Proofs.Project.VisibleTypes
import RouteLint.Proofs.Routes.JudgedMember
import RouteLint.Proofs.Typing.GenericAliases

/-!
# Arguments that are passed on

A parameter of a route may be annotated with a generic alias that stands for another one, and so on
until one of them is an object type, whose member for the parameters of the route is one of the type
parameters.  Down the chain arguments are passed on in any order, and each file calls its type
parameters as it likes.  The type of the member is the argument that the chain traces it to, shown
where that was written; a parameter that was left out is shown as its fallback, in the file that
declares it.

## Main definitions

* `Bench.Same` — work with the same result.

## Main results

* `ShownWithin.same` — what is shown does not depend on the number of steps.
* `Chain.resolveFrom` — a chain is resolved to what its last alias stands for.
* `routeParams_of_traces` — **passed on arguments are shown where they were written.**
-/

namespace RouteLint

open Syntax Project

variable {b : Bench} {α β : Type}

/-! ### Work with the same result -/

/-- Two pieces of work have the same result at a bench and all benches that grow from it. -/
def Bench.Same (b : Bench) (x y : Work α) : Prop := ∃ r, b.Yields x r ∧ b.Yields y r

namespace Bench.Same

theorem of_ensures {P : α → Prop} {x : Work α} (h : b.steady.Ensures x P) : b.Same x x := by
  obtain ⟨r, hr, -⟩ := h
  exact ⟨r, hr, hr⟩

theorem pure (a : α) : b.Same (Pure.pure a : Work α) (Pure.pure a) := ⟨_, .pure a, .pure a⟩

/-- What follows may rely on the result. -/
theorem bind {x y : Work α} {f f' : α → Work β} (h : b.Same x y)
    (hf : ∀ a, b.Yields x (.ok a) → b.Same (f a) (f' a)) : b.Same (x >>= f) (y >>= f') := by
  obtain ⟨r, hx, hy⟩ := h
  cases r with
  | error err => exact ⟨_, hx.bind_error, hy.bind_error⟩
  | ok a =>
    obtain ⟨s, hs, hs'⟩ := hf a hx
    exact ⟨s, hx.bind hs, hy.bind hs'⟩

theorem mapM {ι : Type} {f f' : ι → Work α} {l : List ι} (h : ∀ i ∈ l, b.Same (f i) (f' i)) :
    b.Same (l.mapM f) (l.mapM f') := by
  induction l with
  | nil =>
    rw [List.mapM_nil, List.mapM_nil]
    exact .pure []
  | cons i l ih =>
    rw [List.mapM_cons, List.mapM_cons]
    refine (h i List.mem_cons_self).bind fun a _ => ?_
    exact (ih fun j hj => h j (List.mem_cons_of_mem _ hj)).bind fun as _ => .pure (a :: as)

theorem eq {x y : Work α} (h : b.Same x y) : (outcome x b).1 = (outcome y b).1 := by
  obtain ⟨r, hx, hy⟩ := h
  exact hx.eq.symm.trans hy.eq

end Bench.Same

theorem Bench.Yields.ensured {P : α → Prop} {x : Work α} {a : α} (hx : b.Yields x (.ok a))
    (h : b.steady.Ensures x P) : P a := by
  obtain ⟨r, hr, hP⟩ := h
  exact hP a (hr.eq.trans hx.eq.symm)

/-! ### Steps -/

variable {r : TypeRef} {n : Nat}

theorem ShownWithin.succ {V : Visibility} (h : ShownWithin V n r) : ShownWithin V (n + 1) r := by
  induction h with
  | mk _ _ ihnext ihargs => exact .mk ihnext ihargs

theorem head_free_iff {head : TypeHead} :
    (head.plain && !r.bindings.contains head.text) = true ↔
      head.plain = true ∧ r.bindings.get? head.text = none := by
  simp [Table.contains]

/-- A generic type whose name is qualified or a type parameter stands for no other type. -/
theorem not_follows_of_bound_head {V : Visibility} {p : Piece} {head : TypeHead}
    {ts : List TypeExpr} {r' : TypeRef} (htype : r.type = .generic p head ts)
    (hhead : ¬(head.plain && !r.bindings.contains head.text) = true) : ¬Follows V r r' := by
  rintro (⟨hr, -⟩ | ⟨⟨hr, -, -⟩ | ⟨hr, hplain, hfree, -⟩⟩)
  · rw [htype] at hr
    cases hr
  · rw [htype] at hr
    cases hr
  · rw [htype] at hr
    cases hr
    exact hhead (head_free_iff.2 ⟨hplain, hfree⟩)

/-- A name is shown in one step more than what it stands for. -/
theorem ShownWithin.name {V : Visibility} {p : Piece} (hr : r.type = .name p)
    (hnext : ∀ r', Follows V r r' → ShownWithin V n r') : ShownWithin V (n + 1) r := by
  refine .mk hnext fun _ p' head ts hgeneric => ?_
  rw [hr] at hgeneric
  cases hgeneric

/-- One more step does not change what is shown. -/
theorem ShownWithin.same (hb : b.Tidy) (h : ShownWithin b.Sees n r) :
    b.Same (renderFrom Project.graph n r) (renderFrom Project.graph (n + 1) r) := by
  -- both sides look up the same names, so they go on with the same types
  induction h with
  | @mk n r hnext hargs ihnext ihargs =>
    have halias := aliasValue_ensures hb.shows r.file
    rw [renderFrom, renderFrom]
    cases htype : r.type with
    | name p =>
      dsimp only
      cases hbound : r.bindings.get? p.text with
      | some t => exact ihnext t (.parameter htype hbound)
      | none =>
        refine (Bench.Same.of_ensures (halias p.text [])).bind fun found hfound => ?_
        have hvalue := hfound.ensured (halias p.text [])
        cases found with
        | none => exact .pure p.text
        | some t =>
          obtain ⟨a, file, ds, hds, rfl⟩ := hvalue
          exact ihnext _ (.alias (.name htype hbound hds))
    | generic p head ts =>
      dsimp only
      -- where no alias is followed, the arguments are shown
      have hplain (hnone : ∀ r', ¬Follows b.Sees r r') : b.Same
          (do
            let texts ← (ts.map r.withType).mapM (renderFrom Project.graph n)
            return head.text ++ "<" ++ ", ".intercalate texts ++ ">")
          (do
            let texts ← (ts.map r.withType).mapM (renderFrom Project.graph (n + 1))
            return head.text ++ "<" ++ ", ".intercalate texts ++ ">") := by
        refine (Bench.Same.mapM fun x hx => ?_).bind fun texts _ => .pure _
        obtain ⟨t, ht, rfl⟩ := List.mem_map.1 hx
        exact ihargs hnone p head ts htype t ht
      split
      · next hhead =>
        obtain ⟨hname, hfree⟩ := head_free_iff.1 hhead
        have hvalues := halias head.text (ts.map r.withType)
        refine (Bench.Same.of_ensures hvalues).bind fun found hfound => ?_
        have hvalue := hfound.ensured hvalues
        cases found with
        | none =>
          obtain ⟨ds, hds, hnone⟩ := hvalue
          have hrefers : Refers b.Sees r head.text ds (ts.map r.withType) :=
            .generic htype hname hfree hds
          exact hplain fun r' => not_follows_of_noAlias b.definite_sees hrefers hnone
        | some t =>
          obtain ⟨a, file, ds, hds, rfl⟩ := hvalue
          exact ihnext _ (.alias (.generic htype hname hfree hds))
      · next hhead =>
        rw [pure_bind, pure_bind]
        exact hplain fun r' => not_follows_of_bound_head htype hhead
    | object | union | intersection | parenthesized | literal | comment | other =>
      exact .pure r.text

/-- **What is shown does not depend on the number of steps**, if these are enough. -/
theorem ShownWithin.renderFrom_add (hb : b.Tidy) (h : ShownWithin b.Sees n r) (d : Nat) :
    (outcome (renderFrom Project.graph (n + d) r) b).1 =
      (outcome (renderFrom Project.graph n r) b).1 := by
  induction d generalizing n with
  | zero => rfl
  | succ d ih =>
    rw [← Nat.succ_add_eq_add_succ, Nat.succ_eq_add_one, ih h.succ]
    exact (h.same hb).eq.symm

/-! ### Chains -/

/-- An alias is resolved to what it stands for, with one step less. -/
theorem Refers.resolveFrom_alias (hb : b.Tidy) {name : String} {a : TypeAlias} {file : Path}
    {ds : List DeclaredType} {args : List TypeRef}
    (h : Refers b.Sees r name (⟨.alias a, file⟩ :: ds) args) (n : Nat) :
    (outcome (resolveFrom Project.graph (n + 1) r) b).1 =
      (outcome (resolveFrom Project.graph n (aliased file a args)) b).1 := by
  -- the lookup gives the alias, and the rest is resolving what it stands for
  have hseen : ∀ file' name', b.Sees file' name' (⟨.alias a, file⟩ :: ds) →
      b.Yields (visibleTypes Project.graph file' name') (.ok (⟨.alias a, file⟩ :: ds)) := by
    intro file' name' hds
    obtain ⟨result, hresult, -⟩ := hb.shows.types file' name'
    exact (hresult.eq.trans hds) ▸ hresult
  have hrest := (hb.resolves n (aliased file a args)).1
  cases h with
  | name hr hfree hds =>
    rw [resolveFrom, hr]
    dsimp only
    rw [hfree]
    exact ((hseen _ _ hds).bind hrest).eq.symm
  | generic hr hplain hfree hds =>
    rw [resolveFrom, hr]
    dsimp only
    rw [if_pos (head_free_iff.2 ⟨hplain, hfree⟩)]
    exact ((hseen _ _ hds).bind hrest).eq.symm

/-- A chain is resolved to what its last alias stands for. -/
theorem Chain.resolveFrom (hb : b.Tidy) {use : TypeRef} {k : Nat} (h : Chain b.Sees use k r)
    (n : Nat) : (outcome (resolveFrom Project.graph (n + k) use) b).1 =
      (outcome (resolveFrom Project.graph n r) b).1 := by
  induction h generalizing n with
  | use => rfl
  | @link k _ _ _ _ _ _ _ hr ih =>
    -- the links before the last one leave it one step more
    have hstep := ih (n + 1)
    rw [Nat.add_right_comm] at hstep
    exact hstep.trans (hr.resolveFrom_alias hb n)

/-- An object type has the properties that its members write out. -/
theorem resolves_object {p : Piece} {ms : List Member} (hr : r.type = .object p ms) (n : Nat) :
    b.Resolves (n + 1) r ⟨r.text, membersOf r ms⟩ := by
  unfold Bench.Resolves
  rw [resolveFrom, renderFrom, hr]
  rfl

/-- The last member with a name gives the property. -/
theorem Syntax.Member.IsLast.get?_membersOf {x : String} {ms : List Member} {k : Nat} {m : Member}
    (h : Member.IsLast x ms k m) (r : TypeRef) : (membersOf r ms).get? x = propertyOf r m := by
  have hcontains : (membersOf r ms).contains x = true :=
    contains_membersOf_iff.2 ⟨m, List.mem_of_getElem? h.stands, h.named⟩
  obtain ⟨q, hq⟩ := Option.isSome_iff_exists.1 hcontains
  obtain ⟨k', m', hlast, hm'⟩ := exists_isLast hq
  have hk : k' = k := Nat.le_antisymm (h.le hlast.stands hlast.named)
    (hlast.le h.stands h.named)
  subst hk
  have hm : m' = m := Option.some.inj (hlast.stands.symm.trans h.stands)
  rw [hq, ← hm', hm]

/-- **Passed on arguments are shown where they were written.** -/
theorem routeParams_of_traces (hb : b.Tidy) {file : Path} {context : Parameter} {type : TypeExpr}
    (hcontext : context.type = some type) {k : Nat} (hk : k ≤ maxDepth)
    (hchain : Chain b.Sees ⟨type, file, []⟩ k r) {piece : Piece} {ms : List Member}
    (hr : r.type = .object piece ms) {i : Nat} {name : PropertyName} {p : Piece}
    (hlast : Member.IsLast routeMember ms i (.property name (some (.name p))))
    {x : TypeRef} (htraces : Traces b.Sees ⟨type, file, []⟩ n r p.text x)
    (hshown : ShownWithin b.Sees (maxDepth + 1 - n) x) :
    (outcome (routeParams Project.graph file context) b).1 =
      (outcome (render Project.graph x) b).1.map nonempty := by
  have hresolves : b.Resolves (maxDepth + 1) ⟨type, file, []⟩ ⟨r.text, membersOf r ms⟩ := by
    have hchain := hchain.resolveFrom hb (maxDepth - k + 1)
    rw [Nat.add_right_comm, Nat.sub_add_cancel hk] at hchain
    exact hchain.trans (resolves_object hr _)
  -- the member for the parameters of the route is the type parameter
  have hname : name.text? = some routeMember := hlast.named
  have hget : (membersOf r ms).get? routeMember =
      some ⟨routeMember, .property (some (r.withType (.name p)))⟩ := by
    rw [hlast.get?_membersOf, propertyOf, hname]
    rfl
  have hread := hb.yields_routeParams ((Bench.owns_iff_resolves hcontext).2 hresolves) hget
  -- which is shown as what it is traced to
  have hsteps : maxDepth + 1 - n + n = maxDepth + 1 := by
    generalize hm : maxDepth + 1 - n = m at hshown
    cases hshown
    omega
  have htext : renderFrom Project.graph (maxDepth + 1) (r.withType (.name p)) =
      renderFrom Project.graph (maxDepth + 1 - n) x := by
    have hrender := htraces.renderFrom (g := Project.graph) (maxDepth + 1 - n) rfl
    rwa [hsteps] at hrender
  have hmore := hshown.renderFrom_add hb n
  rw [hsteps] at hmore
  rw [← hread.eq, render, hmore, ← htext]
  rfl

/-! ### Names that mean something else in each file -/

namespace Swapped

open OnDisk

/-- Two aliases whose parameters are called alike and passed on in the other order, in a file where
one of the names is that of a type, and a file where the other one is:
```
| import {P} from "./b"
| type T=z
```
```
| export type P<T,U>=Q<U,T>
| type Q<T,U=T>={params:T}
| type U=w
``` -/
def files : List (String × Bytes) :=
  [("a.ts", bytesOfLines ["import \x7bP\x7d from \"./b\"", "type T=z"]),
    ("b.ts", bytesOfLines ["export type P<T,U>=Q<U,T>", "type Q<T,U=T>=\x7bparams:T\x7d",
      "type U=w"])]

/-- The alias that is used. -/
def first : TypeAlias where
  extent := ⟨7, 25, 0, 7⟩
  name := "P"
  parameters := [⟨"T", none⟩, ⟨"U", none⟩]
  value := .generic ⟨⟨19, 25, 0, 19⟩, "Q<U,T>"⟩ ⟨"Q", true⟩
    [.name ⟨⟨21, 22, 0, 21⟩, "U"⟩, .name ⟨⟨23, 24, 0, 23⟩, "T"⟩]

/-- The alias that it stands for. -/
def second : TypeAlias where
  extent := ⟨26, 50, 1, 0⟩
  name := "Q"
  parameters := [⟨"T", none⟩, ⟨"U", some (.name ⟨⟨37, 38, 1, 11⟩, "T"⟩)⟩]
  value := .object ⟨⟨40, 50, 1, 14⟩, "\x7bparams:T\x7d"⟩
    [.property (.identifier "params") (some (.name ⟨⟨48, 49, 1, 22⟩, "T"⟩))]

/-- The type where they are used. -/
def local' : TypeAlias where
  extent := ⟨22, 30, 1, 0⟩
  name := "T"
  parameters := []
  value := .name ⟨⟨29, 30, 1, 7⟩, "z"⟩

/-- What a name stands for in a file. -/
def Shows (file name : String) (ds : List DeclaredType) : Prop :=
  (outcome (visibleTypes Project.graph (place file) name) (bench files)).1.toOption = some ds

instance (file name : String) (ds : List DeclaredType) : Decidable (Shows file name ds) :=
  inferInstanceAs (Decidable (_ = _))

/-- The arguments of the first alias. -/
def given : List TypeExpr := [.name ⟨default, "x"⟩, .name ⟨default, "T"⟩]

/-- The use of the first alias. -/
def use : TypeExpr := .generic default ⟨"P", true⟩ given

/-- The context of a route with the type. -/
def context : Parameter := ⟨default, false, some use, none⟩

/-- What is shown for the members for the parameters of a route. -/
def Reads (context : Parameter) (text : String) : Prop :=
  (outcome (routeParams Project.graph (place "a.ts") context) (bench files)).1.toOption =
    some (some text)

instance (context : Parameter) (text : String) : Decidable (Reads context text) :=
  inferInstanceAs (Decidable (_ = _))

set_option maxRecDepth 100000 in
/-- What the names stand for, and what is shown for the context. -/
theorem shows_reads : (Shows "a.ts" "P" [⟨.alias first, place "b.ts"⟩] ∧
      Shows "b.ts" "Q" [⟨.alias second, place "b.ts"⟩] ∧
      Shows "a.ts" "T" [⟨.alias local', place "a.ts"⟩] ∧ Shows "a.ts" "z" []) ∧
    Reads context "z" := by
  simp only [Shows, Reads, bench_eq]
  decide +kernel

theorem shows : Shows "a.ts" "P" [⟨.alias first, place "b.ts"⟩] ∧
    Shows "b.ts" "Q" [⟨.alias second, place "b.ts"⟩] ∧
    Shows "a.ts" "T" [⟨.alias local', place "a.ts"⟩] ∧ Shows "a.ts" "z" [] :=
  shows_reads.1

/-- A type that is written where the aliases are used. -/
def ref (t : TypeExpr) : TypeRef := ⟨t, place "a.ts", []⟩

/-- The argument that is passed on. -/
def argument : TypeRef := ref (.name ⟨default, "T"⟩)

/-- What the first alias stands for. -/
def inner : TypeRef := aliased (place "b.ts") first (given.map ref)

theorem refers_use : Refers (bench files).Sees (ref use) "P" [⟨.alias first, place "b.ts"⟩]
    (given.map ref) :=
  .generic (r := ref use) rfl rfl rfl (except_ok_of_toOption shows.1)

theorem refers_inner : Refers (bench files).Sees inner "Q" [⟨.alias second, place "b.ts"⟩]
    [inner.withType (.name ⟨⟨21, 22, 0, 21⟩, "U"⟩),
      inner.withType (.name ⟨⟨23, 24, 0, 23⟩, "T"⟩)] :=
  .generic (r := inner) rfl rfl rfl (except_ok_of_toOption shows.2.1)

/-- What the second alias stands for. -/
def last : TypeRef :=
  aliased (place "b.ts") second [inner.withType (.name ⟨⟨21, 22, 0, 21⟩, "U"⟩),
    inner.withType (.name ⟨⟨23, 24, 0, 23⟩, "T"⟩)]

theorem chain : Chain (bench files).Sees (ref use) 2 last :=
  .link (.link .use refers_use) refers_inner

theorem traces : Traces (bench files).Sees (ref use) 2 last "T" argument :=
  .passed (p := ⟨⟨21, 22, 0, 21⟩, "U"⟩)
    (.stands .use refers_use
      (.argument (show first.parameters = [⟨"T", none⟩] ++ ⟨"U", none⟩ :: [] from rfl)
        (by simp) rfl))
    refers_inner
    (.argument (show second.parameters = [] ++ ⟨"T", none⟩ ::
      [⟨"U", some (.name ⟨⟨37, 38, 1, 11⟩, "T"⟩)⟩] from rfl) (by simp) rfl)

/-- The argument is the name of a type that stands for an unknown one. -/
theorem shown (n : Nat) : ShownWithin (bench files).Sees (n + 2) argument := by
  have hargument : Refers (bench files).Sees argument "T" [⟨.alias local', place "a.ts"⟩] [] :=
    .name (r := argument) rfl rfl (except_ok_of_toOption shows.2.2.1)
  have hvalue : Refers (bench files).Sees (aliased (place "a.ts") local' []) "z" [] [] :=
    .name (r := aliased (place "a.ts") local' []) rfl rfl (except_ok_of_toOption shows.2.2.2)
  have hnone r' : ¬Follows (bench files).Sees (aliased (place "a.ts") local' []) r' :=
    not_follows_of_noAlias (bench files).definite_sees hvalue (by simp [NoAlias])
  refine .name (p := ⟨default, "T"⟩) rfl fun r' hr' => ?_
  rw [Follows.unique (bench files).definite_sees (.alias hargument) hr']
  exact .name (p := ⟨⟨29, 30, 1, 7⟩, "z"⟩) rfl fun r' hr' => (hnone r' hr').elim

end Swapped

open OnDisk Swapped in
/-- The member is of the type that is passed on as the second argument: what that means is looked up
where the aliases are used, and not under the parameters or in the file of the aliases. -/
theorem routeParams_of_traces_swapped : Chain (bench files).Sees (ref use) 2 last ∧
    Traces (bench files).Sees (ref use) 2 last "T" argument ∧
    (outcome (routeParams Project.graph (place "a.ts") context) (bench files)).1 =
      (outcome (render Project.graph argument) (bench files)).1.map nonempty ∧
    Reads context "z" := by
  refine ⟨chain, traces, ?_, shows_reads.2⟩
  exact routeParams_of_traces (tidy files) rfl (by decide) chain rfl (i := 0)
    ⟨rfl, rfl, fun _ h => nomatch h⟩ traces (shown _)

end RouteLint
