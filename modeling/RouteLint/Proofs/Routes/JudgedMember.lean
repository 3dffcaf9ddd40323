import RouteLint.Proofs.Routes.Comments
import RouteLint.Proofs.Routes.Orders
import RouteLint.Proofs.Typing.ObjectMembers

/-!
# The member that is judged and the member that is repaired

Where a parameter is annotated with an object type in place, its members are searched twice: typing
takes a property from the last member with its name, be it a property or a method, and a repair
wraps the type of the first property with the name.  The two are the same member exactly if no
other member with the name follows the one that is repaired.

## Main definitions

* `Syntax.Member.IsLast` — the member that a property is taken from.
* `Judges` — the property that a verdict is about.

## Main results

* `exists_isLast` — where properties are taken from.
* `exists_property_of_planRepair` — where the type stands that a repair wraps.
* `judged_and_repaired` — **which member is judged, which is repaired, and when they are the same.**
-/

namespace RouteLint

open Syntax Project

/-! ### The last member with a name -/

namespace Syntax

/-- A member and its position, where no member with the same name follows. -/
structure Member.IsLast (x : String) (ms : List Member) (k : Nat) (m : Member) : Prop where
  stands : ms[k]? = some m
  named : m.name? = some x
  last : ∀ m' ∈ ms.drop (k + 1), m'.name? ≠ some x

namespace Member.IsLast

variable {x : String} {ms : List Member} {k : Nat} {m : Member}

theorem cons (h : IsLast x ms k m) (first : Member) : IsLast x (first :: ms) (k + 1) m :=
  ⟨h.stands, h.named, h.last⟩

/-- No member with the name stands further down. -/
theorem le {i : Nat} {m' : Member} (h : IsLast x ms k m) (hm' : ms[i]? = some m')
    (hname : m'.name? = some x) : i ≤ k := by
  by_contra hlt
  refine h.last m' ?_ hname
  rw [List.mem_iff_getElem?]
  refine ⟨i - (k + 1), ?_⟩
  rw [List.getElem?_drop, Nat.add_sub_cancel' (by omega), hm']

/-- A member with the name is the last one if no other follows it. -/
theorem eq_iff {i : Nat} {m' : Member} (h : IsLast x ms k m) (hm' : ms[i]? = some m')
    (hname : m'.name? = some x) : i = k ↔ ∀ m ∈ ms.drop (i + 1), m.name? ≠ some x := by
  constructor
  · rintro rfl
    exact h.last
  · intro hlast
    exact Nat.le_antisymm (h.le hm' hname) (le ⟨hm', hname, hlast⟩ h.stands h.named)

end Member.IsLast

end Syntax

/-- A property is the one that the last member with its name writes out. -/
theorem exists_isLast {r : TypeRef} {ms : List Member} {x : String} {p : Property}
    (h : (membersOf r ms).get? x = some p) :
    ∃ k m, Member.IsLast x ms k m ∧ propertyOf r m = some p := by
  induction ms with
  | nil => cases h
  | cons first ms ih =>
    rw [get?_membersOf_cons, get?_membersOf_singleton] at h
    rcases Option.or_eq_some_iff.1 h with hrest | ⟨hrest, hfirst⟩
    · obtain ⟨k, m, hm, hp⟩ := ih hrest
      exact ⟨k + 1, m, hm.cons first, hp⟩
    · split at hfirst
      · next hname =>
        refine ⟨0, first, ⟨rfl, hname, fun m hm hx => ?_⟩, hfirst⟩
        have hcontains : (membersOf r ms).contains x = true :=
          contains_membersOf_iff.2 ⟨m, hm, hx⟩
        rw [Table.contains, hrest] at hcontains
        cases hcontains
      · cases hfirst

/-- A repair wraps the type of a property with the right name. -/
theorem exists_property_of_planRepair {p : Parameter} {piece : Piece} {ms : List Member}
    {e : Edit} (hp : p.type = some (.object piece ms)) (h : planRepair p = .ok e) :
    ∃ i name t, ms[i]? = some (.property name (some t)) ∧ name.text? = some routeMember ∧
      (∀ m ∈ ms.take i, propertyNamed routeMember m = none) ∧ e = wrapEdit t := by
  obtain ⟨piece', ms', t, hp', ht, -, he⟩ := planRepair_eq_ok.1 h
  rw [hp] at hp'
  cases hp'
  obtain ⟨xs, m, ys, rfl, hm, hnone⟩ := List.findSome?_eq_some_iff.1 ht
  refine ⟨xs.length, ?_⟩
  rw [List.getElem?_append_right (Nat.le_refl _), Nat.sub_self, List.take_left]
  cases m with
  | property name type =>
    rw [propertyNamed] at hm
    split at hm
    · next hname =>
      cases hm
      exact ⟨name, t, rfl, hname, hnone, he⟩
    · cases hm
  | method | signature => cases hm

/-! ### Verdicts -/

/-- A verdict at a bench is about a property, which has the type that is found. -/
def Judges (b : Bench) (file : Path) (context : Parameter) (p : Property) (found : String) : Prop :=
  ∃ owner b', outcome (parameterType Project.graph file context) b = (.ok (some owner), b') ∧
    owner.properties.get? routeMember = some p ∧
    (outcome (propertyType Project.graph owner p) b').1 = .ok (some found)

/-- Where the rule is violated, some property is judged. -/
theorem exists_judges {b : Bench} {file : Path} {context : Parameter} {found : String}
    (h : (outcome (judge Project.graph file context) b).1 = .ok (some found)) :
    ∃ p, Judges b file context p found := by
  obtain ⟨judged, b₁, hjudged, hfilter⟩ := outcome_bind_eq_ok (Prod.ext h rfl)
  obtain ⟨owner?, b₂, howner, hparams⟩ := outcome_bind_eq_ok hjudged
  have hfound : judged = some found := by
    have hok := congrArg Prod.fst hfilter
    exact (Option.filter_eq_some_iff.1 (Except.ok.inj hok)).1
  rw [hfound] at hparams
  cases owner? with
  | none => cases hparams
  | some owner =>
    dsimp only at hparams
    cases hget : owner.properties.get? routeMember with
    | none =>
      rw [hget] at hparams
      cases hparams
    | some p =>
      rw [hget] at hparams
      exact ⟨p, owner, b₂, howner, hget, congrArg Prod.fst hparams⟩

/-- In an object type in place the properties are those that its members write out. -/
theorem properties_of_object {b b' : Bench} {file : Path} {context : Parameter} {piece : Piece}
    {ms : List Member} (hp : context.type = some (.object piece ms)) {owner : ResolvedType}
    (h : outcome (parameterType Project.graph file context) b = (.ok (some owner), b')) :
    owner.properties = membersOf ⟨.object piece ms, file, []⟩ ms := by
  unfold parameterType at h
  rw [hp] at h
  cases h
  rfl

/-- **Which member is judged and which is repaired.**  A violation is about the last member of the
object type that has the right name.  If a repair is planned, it wraps the type of the first property
with that name, which is the same member exactly if no other member with the name follows it. -/
theorem judged_and_repaired {b : Bench} {file : Path} {context : Parameter} {piece : Piece}
    {ms : List Member} {found : String} {e : Edit}
    (hp : context.type = some (.object piece ms))
    (hjudge : (outcome (judge Project.graph file context) b).1 = .ok (some found))
    (hplan : planRepair context = .ok e) :
    ∃ p k m, Judges b file context p found ∧ Member.IsLast routeMember ms k m ∧
      propertyOf ⟨.object piece ms, file, []⟩ m = some p ∧
      ∃ i name t, ms[i]? = some (.property name (some t)) ∧ name.text? = some routeMember ∧
        e = wrapEdit t ∧ i ≤ k ∧
        (i = k ↔ ∀ m' ∈ ms.drop (i + 1), m'.name? ≠ some routeMember) := by
  obtain ⟨p, owner, b', howner, hget, hfound⟩ := exists_judges hjudge
  obtain ⟨k, m, hlast, hm⟩ := exists_isLast (properties_of_object hp howner ▸ hget)
  obtain ⟨i, name, t, ht, hname, -, he⟩ := exists_property_of_planRepair hp hplan
  exact ⟨p, k, m, ⟨owner, b', howner, hget, hfound⟩, hlast, hm, i, name, t, ht, hname, he,
    hlast.le ht hname, hlast.eq_iff ht hname⟩

/-! ### Members with one name -/

/-- One file loaded with a parser. -/
def Clauses.loaded (parse : Parser) (content : Bytes) : Bench :=
  (outcome (Project.load parse Sample.request.directory Sample.request.config
    (Sample.request.files (workspace content))) (workspace content).bench).2

namespace Members

/-- A file with one handler, whose second parameter has the members that are given:
```
| export function GET(a,b:{…}){}
``` -/
def file (members : String) : Bytes :=
  bytesOfLines ["export function GET(a,b:\x7b" ++ members ++ "\x7d)\x7b\x7d"]

/-- The second parameter of the handler. -/
def context (text : String) (ms : List Member) : Parameter where
  extent := ⟨22, 26 + text.length, 0, 22⟩
  optional := false
  type := some (.object ⟨⟨24, 26 + text.length, 0, 24⟩, "\x7b" ++ text ++ "\x7d"⟩ ms)
  value := none

/-- The file loaded. -/
def bench (members : String) : Bench :=
  (outcome (Project.load Module.parse Sample.request.directory Sample.request.config
    (Sample.request.files (Clauses.workspace (file members))))
    (Clauses.workspace (file members)).bench).2

theorem bench_eq (members : String) : bench members = Clauses.loaded eagerParse (file members) := by
  rw [eagerParse_eq]
  rfl

/-- The parameter is read from the file and violates the rule with the type that is found. -/
def Finds (members : String) (ms : List Member) (found : String) : Prop :=
  (Source.ofContent Module.parse Comments.path .typescript (file members)).contexts =
      [context members ms] ∧
    (outcome (judge Project.graph Comments.path (context members ms)) (bench members)).1.toOption =
      some (some found)

instance (members : String) (ms : List Member) (found : String) :
    Decidable (Finds members ms found) :=
  inferInstanceAs (Decidable (_ ∧ _))

/-- A method and a property in quotes. -/
def mixed : List Member :=
  [.method (.identifier "params") ⟨⟨25, 35, 0, 25⟩, "params():x"⟩,
    .property (.quoted "params") (some (.name ⟨⟨45, 46, 0, 45⟩, "y"⟩))]

set_option maxRecDepth 100000 in
theorem finds_mixed : Finds "params():x;\"params\":y" mixed "y" := by
  rw [Finds, bench_eq, ← eagerParse_eq]
  decide +kernel

theorem plan_mixed (members : String) : planRepair (context members mixed) =
    .ok (wrapEdit (.name ⟨⟨45, 46, 0, 45⟩, "y"⟩)) :=
  planRepair_eq_ok.2 ⟨_, _, _, rfl, rfl, rfl, rfl⟩

/-- Two properties. -/
def doubled : List Member :=
  [.property (.identifier "params") (some (.name ⟨⟨32, 33, 0, 32⟩, "x"⟩)),
    .property (.identifier "params") (some (.name ⟨⟨41, 42, 0, 41⟩, "y"⟩))]

theorem plan_doubled (members : String) : planRepair (context members doubled) =
    .ok (wrapEdit (.name ⟨⟨32, 33, 0, 32⟩, "x"⟩)) :=
  planRepair_eq_ok.2 ⟨_, _, _, rfl, rfl, rfl, rfl⟩

set_option maxRecDepth 100000 in
/-- A repair is told about, and the first of the two properties has a wrapped type afterwards. -/
theorem repaired_doubled :
    Finds "params:x;params:y" doubled "y" ∧
      (outcome (checkSource Comments.path true) (bench "params:x;params:y")).2.log =
        [.fixed "GET" Comments.path] ∧
      ((outcome (checkSource Comments.path true)
        (bench "params:x;params:y")).2.project.source? Comments.path).map Source.content =
        some (file "params:Promise<x>;params:y") := by
  rw [Finds, bench_eq, ← eagerParse_eq]
  decide +kernel

end Members

/-- A method and a property in quotes: the property is judged, and its type is wrapped. -/
theorem judged_and_repaired_mixed :
    Members.Finds "params():x;\"params\":y" Members.mixed "y" ∧
    ∃ p k m, Judges (Members.bench "params():x;\"params\":y") Comments.path
        (Members.context "params():x;\"params\":y" Members.mixed) p "y" ∧
      Member.IsLast routeMember Members.mixed k m ∧
      ∃ i name t, Members.mixed[i]? = some (.property name (some t)) ∧
        name.text? = some routeMember ∧ wrapEdit (.name ⟨⟨45, 46, 0, 45⟩, "y"⟩) = wrapEdit t ∧
        i ≤ k ∧ (i = k ↔ ∀ m' ∈ Members.mixed.drop (i + 1), m'.name? ≠ some routeMember) := by
  have hfinds := Members.finds_mixed
  obtain ⟨p, k, m, hjudges, hlast, -, hrepaired⟩ :=
    judged_and_repaired rfl (except_ok_of_toOption hfinds.2) (Members.plan_mixed _)
  exact ⟨hfinds, p, k, m, hjudges, hlast, hrepaired⟩

/-- Of two properties the second is judged and the first is wrapped, and this is told about as a
repair. -/
theorem judged_other_than_repaired :
    Members.Finds "params:x;params:y" Members.doubled "y" ∧
    Member.IsLast routeMember Members.doubled 1
      (.property (.identifier "params") (some (.name ⟨⟨41, 42, 0, 41⟩, "y"⟩))) ∧
    planRepair (Members.context "params:x;params:y" Members.doubled) =
      .ok (wrapEdit (.name ⟨⟨32, 33, 0, 32⟩, "x"⟩)) ∧
    wrapEdit (.name ⟨⟨32, 33, 0, 32⟩, "x"⟩) ≠ wrapEdit (.name ⟨⟨41, 42, 0, 41⟩, "y"⟩) ∧
    (outcome (checkSource Comments.path true) (Members.bench "params:x;params:y")).2.log =
        [.fixed "GET" Comments.path] ∧
      ((outcome (checkSource Comments.path true)
        (Members.bench "params:x;params:y")).2.project.source? Comments.path).map Source.content =
        some (Members.file "params:Promise<x>;params:y") := by
  have hlast : Member.IsLast routeMember Members.doubled 1
      (.property (.identifier "params") (some (.name ⟨⟨41, 42, 0, 41⟩, "y"⟩))) :=
    ⟨rfl, rfl, fun m hm => by cases hm⟩
  obtain ⟨hfinds, hrepaired⟩ := Members.repaired_doubled
  exact ⟨hfinds, hlast, Members.plan_doubled _, by decide, hrepaired⟩

end RouteLint
