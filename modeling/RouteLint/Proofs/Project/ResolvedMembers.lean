import RouteLint.Proofs.Data.Attempts
import RouteLint.Proofs.Project.Steadiness
import RouteLint.Proofs.Syntax.Eager
import RouteLint.Proofs.Syntax.Equality
import RouteLint.Proofs.Typing.MembersFound

/-!
# The members of types in a project

In a project a type is resolved to the members that it has by the rules, where names stand for what
is looked up.  The rules and the resolution part where the keys of a record are not written plainly:
the resolution forgets what the type parameters of an alias stand for as soon as it follows one
among the keys, and it sees neither through brackets nor through arguments there.

## Main results

* `resolve_finds_members` — **resolving a type finds its members.**
* `resolve_forgets_fallback` — a type parameter among the keys that is taken for another type.
-/

namespace RouteLint

open Syntax Project

/-- **Resolving a type finds its members.**  What it finds are members by the rules; if it comes to
an end in the steps that there are, it finds all of them; and a type that leads in a circle has no
properties. -/
theorem resolve_finds_members {b : Bench} (hb : b.Tidy) {r : TypeRef} (hr : Uncommented b.Sees r)
    (hkeys : PlainlyKeyed b.Sees r) {t : ResolvedType}
    (h : (outcome (resolve Project.graph r) b).1 = .ok t) :
    (∀ x, t.properties.contains x = true → HasMember b.Sees r x) ∧
    (Settled b.Sees (maxDepth + 1) r → ∀ x, HasMember b.Sees r x →
      t.properties.contains x = true) ∧
    ∀ S, Circular b.Sees S → S r → t.properties = [] := by
  have hfinds : ∀ x, Finds b.Sees x (maxDepth + 1) r t := by
    intro x
    obtain ⟨result, hresult, hfound⟩ := resolveFrom_ensures (x := x) hb.shows (maxDepth + 1) hr hkeys
    exact hfound t (hresult.eq.trans h)
  refine ⟨fun x => (hfinds x).sound, fun hsettled x => (hfinds x).complete hsettled, ?_⟩
  intro S hS hrS
  -- a property of a type in a circle would be a member of it
  cases hproperties : t.properties with
  | nil => rfl
  | cons e es =>
    have hcontains : t.properties.contains e.1 = true := by
      rw [hproperties]
      exact Table.contains_cons.2 (.inl rfl)
    exact absurd ((hfinds e.1).sound hcontains) (hS.not_hasMember hrS)

/-! ### A single file -/

deriving instance DecidableEq for DeclaredType

namespace Sole

/-- Where the file stands. -/
def path : Path := ⟨.slash, ["a.ts"]⟩

/-- A project without files. -/
def empty : Bench where
  disk := ⟨[]⟩
  home := ⟨.slash, []⟩
  log := []
  project := .empty Module.parse ⟨.slash, []⟩ none

/-- A project with one file. -/
def bench (content : String) : Bench :=
  { empty with
    project := empty.project.putSource
      (.ofContent Module.parse path .typescript (Utf8.encode content)) }

/-- The project with a parser whose evaluation costs less. -/
theorem bench_eq (content : String) : bench content =
    { empty with
      project := (Project.empty eagerParse ⟨.slash, []⟩ none).putSource
        (.ofContent eagerParse path .typescript (Utf8.encode content)) } := by
  rw [eagerParse_eq]
  rfl

theorem tidy (content : String) : (bench content).Tidy := by
  have hempty : empty.Tidy := ⟨nofun, Table.distinct_nil, nofun⟩
  exact hempty.put rfl nofun

/-- What a name stands for in the file. -/
def Shows (content name : String) (ds : List DeclaredType) : Prop :=
  (outcome (visibleTypes Project.graph path name) (bench content)).1.toOption = some ds

instance (content name : String) (ds : List DeclaredType) : Decidable (Shows content name ds) :=
  inferInstanceAs (Decidable (_ = _))

theorem sees {content name : String} {ds : List DeclaredType} (h : Shows content name ds) :
    (bench content).Sees path name ds :=
  except_ok_of_toOption h

/-- A type written in the file, outside of any declaration. -/
def ref (t : TypeExpr) : TypeRef := ⟨t, path, []⟩

end Sole

/-! ### An interface over a record -/

namespace Keyed

open Sole

/-- An interface that extends a record, and the keys of the record:
```
| interface I extends Record<K,y>{a:x}
| type K="b"|"c"
``` -/
def file : String := "interface I extends Record<K,y>\x7ba:x\x7d\ntype K=\"b\"|\"c\"\n"

/-- The name of the interface. -/
def name : TypeExpr := .name ⟨⟨10, 11, 0, 10⟩, "I"⟩

/-- The name of the keys. -/
def keys : TypeExpr := .name ⟨⟨27, 28, 0, 27⟩, "K"⟩

/-- The values of the record. -/
def value : TypeExpr := .name ⟨⟨29, 30, 0, 29⟩, "y"⟩

/-- The record. -/
def record : TypeExpr :=
  .generic ⟨⟨20, 31, 0, 20⟩, "Record<K,y>"⟩ ⟨"Record", true⟩ [keys, value]

/-- The interface. -/
def extending : Interface where
  extent := ⟨0, 36, 0, 0⟩
  name := "I"
  parameters := []
  bases := [record]
  members := [.property (.identifier "a") (some (.name ⟨⟨34, 35, 0, 34⟩, "x"⟩))]

/-- The two literals. -/
def literals : List TypeExpr :=
  [.literal ⟨⟨44, 47, 1, 7⟩, "\"b\""⟩ (some "b"), .literal ⟨⟨48, 51, 1, 11⟩, "\"c\""⟩ (some "c")]

/-- The alias for the keys. -/
def listing : TypeAlias where
  extent := ⟨37, 51, 1, 0⟩
  name := "K"
  parameters := []
  value := .union ⟨⟨44, 51, 1, 7⟩, "\"b\"|\"c\""⟩ literals

/-- The names of the properties that the interface is resolved to. -/
def found : Option (List String) :=
  (outcome (resolve Project.graph (ref name)) (bench file)).1.toOption.map fun t =>
    t.properties.keys

set_option maxRecDepth 100000 in
theorem shows_found : (Shows file "I" [⟨.interface extending, path⟩] ∧
      Shows file "K" [⟨.alias listing, path⟩] ∧ Shows file "Record" []) ∧
    found = some ["b", "c", "a"] := by
  simp only [Shows, found, bench_eq]
  decide +kernel

theorem shows : Shows file "I" [⟨.interface extending, path⟩] ∧
    Shows file "K" [⟨.alias listing, path⟩] ∧ Shows file "Record" [] :=
  shows_found.1

variable {r : TypeRef}

theorem refers_name : Refers (bench file).Sees (ref name) "I" [⟨.interface extending, path⟩] [] :=
  .name (p := ⟨⟨10, 11, 0, 10⟩, "I"⟩) rfl rfl (sees shows.1)

theorem refers_record :
    Refers (bench file).Sees (ref record) "Record" [] [ref keys, ref value] := by
  have hrecord : (ref record).type =
      .generic ⟨⟨20, 31, 0, 20⟩, "Record<K,y>"⟩ ⟨"Record", true⟩ [keys, value] := rfl
  exact .generic hrecord rfl rfl (sees shows.2.2)

theorem refers_keys : Refers (bench file).Sees (ref keys) "K" [⟨.alias listing, path⟩] [] :=
  .name (p := ⟨⟨27, 28, 0, 27⟩, "K"⟩) rfl rfl (sees shows.2.1)

theorem leads_name_iff : Leads (bench file).Sees (ref name) r ↔ r = ref record := by
  rw [refers_name.leads_iff (bench file).definite_sees]
  simp [NoAlias, IsBase, extending, RouteLint.bind, bindFrom, ref]

theorem not_leads_record : ¬Leads (bench file).Sees (ref record) r := by
  rw [refers_record.leads_iff (bench file).definite_sees]
  simp [IsBase, transparentGenerics]

theorem follows_keys_iff :
    Follows (bench file).Sees (ref keys) r ↔ r = ref listing.value := by
  have hf : Follows (bench file).Sees (ref keys) (ref listing.value) := .alias refers_keys
  exact ⟨fun h => hf.unique (bench file).definite_sees h, fun h => h ▸ hf⟩

/-- All that matters for the interface. -/
theorem reached (h : Relation.ReflTransGen (Leads (bench file).Sees) (ref name) r) :
    r = ref name ∨ r = ref record := by
  induction h with
  | refl => exact .inl rfl
  | tail _ hleads ih =>
    rcases ih with rfl | rfl
    · exact .inr (leads_name_iff.1 hleads)
    · exact absurd hleads not_leads_record

/-- All that matters for the keys. -/
def Listed (r : TypeRef) : Prop :=
  r = ref keys ∨ r = ref listing.value ∨ ∃ t ∈ literals, r = ref t

theorem eq_literal {t : TypeExpr} (ht : t ∈ literals) : ∃ p s, t = .literal p (some s) := by
  simp only [literals, List.mem_cons, List.not_mem_nil, or_false] at ht
  rcases ht with rfl | rfl
  · exact ⟨_, _, rfl⟩
  · exact ⟨_, _, rfl⟩

theorem keyPart_listing (h : KeyPart (ref listing.value) r) : ∃ t ∈ literals, r = ref t := by
  cases h with
  | alternative hr ht =>
    cases hr
    exact ⟨_, ht, rfl⟩
  | parenthesized hr => cases hr

/-- Only the name of the keys stands for another type. -/
theorem Listed.follows {r' : TypeRef} (h : Listed r) (hf : Follows (bench file).Sees r r') :
    r = ref keys ∧ r' = ref listing.value := by
  rcases h with rfl | rfl | ⟨t, ht, rfl⟩
  · exact ⟨rfl, follows_keys_iff.1 hf⟩
  · exact absurd hf (not_follows nofun nofun)
  · obtain ⟨p, s, rfl⟩ := eq_literal ht
    exact absurd hf (not_follows nofun nofun)

/-- Only the union has parts. -/
theorem Listed.keyPart {r' : TypeRef} (h : Listed r) (hpart : KeyPart r r') :
    r = ref listing.value ∧ ∃ t ∈ literals, r' = ref t := by
  rcases h with rfl | rfl | ⟨t, ht, rfl⟩
  · nomatch hpart
  · exact ⟨rfl, keyPart_listing hpart⟩
  · obtain ⟨p, s, rfl⟩ := eq_literal ht
    nomatch hpart

/-- Only the name of the keys refers to anything. -/
theorem Listed.refers {name : String} {ds : List DeclaredType} {args : List TypeRef}
    (h : Listed r) (hr : Refers (bench file).Sees r name ds args) :
    ds = [⟨.alias listing, path⟩] := by
  rcases h with rfl | rfl | ⟨t, ht, rfl⟩
  · exact (refers_keys.unique (bench file).definite_sees hr).2.1
  · nomatch hr
  · obtain ⟨p, s, rfl⟩ := eq_literal ht
    nomatch hr

theorem Listed.leadsKeys {r' : TypeRef} (h : Listed r)
    (hleads : LeadsKeys (bench file).Sees r r') : Listed r' := by
  cases hleads with
  | part hpart => exact .inr (.inr (h.keyPart hpart).2)
  | follows hf => exact .inr (.inl (h.follows hf).2)

theorem listed (h : Relation.ReflTransGen (LeadsKeys (bench file).Sees) (ref keys) r) :
    Listed r := by
  induction h with
  | refl => exact .inl rfl
  | tail _ hleads ih => exact ih.leadsKeys hleads

theorem Listed.plainKey (h : Listed r) : PlainKey (bench file).Sees r where
  brackets p inner hr := by
    have hpart := h.keyPart (.parenthesized hr)
    rw [hpart.1] at hr
    cases hr
  arguments p head ts hr r' hf := by
    rw [(h.follows hf).1] at hr
    cases hr
  parameters p _ a file ds hr := by
    cases h.refers hr
    rfl
  hidden p _ ds hr hds := by
    cases h.refers hr
    exact absurd rfl (hds listing path)

theorem settled_literal {t : TypeExpr} (ht : t ∈ literals) (n : Nat) :
    KeysSettled (bench file).Sees n (ref t) := by
  obtain ⟨p, s, rfl⟩ := eq_literal ht
  exact .mk nofun (fun _ _ => not_follows nofun nofun)
    fun _ _ _ hf => absurd hf (not_follows nofun nofun)

theorem settled_listing (n : Nat) : KeysSettled (bench file).Sees n (ref listing.value) := by
  refine .mk (fun r hpart => ?_) (fun _ _ => not_follows nofun nofun)
    fun _ _ _ hf => absurd hf (not_follows nofun nofun)
  obtain ⟨t, ht, rfl⟩ := keyPart_listing hpart
  exact settled_literal ht n

/-- The keys are understood by following one name. -/
theorem settled_keys (n : Nat) : KeysSettled (bench file).Sees (n + 1) (ref keys) := by
  refine .mk nofun nofun fun k r hk hf => ?_
  rw [follows_keys_iff.1 hf]
  exact settled_listing k

/-! The interface as a whole. -/

theorem not_hasKeys_name : ¬HasKeys (bench file).Sees (ref name) r := by
  rw [refers_name.hasKeys_iff (bench file).definite_sees]
  exact fun h => absurd h.1 (by decide)

theorem hasKeys_record (h : HasKeys (bench file).Sees (ref record) r) : r = ref keys := by
  obtain ⟨-, -, value, hargs⟩ := (refers_record.hasKeys_iff (bench file).definite_sees).1 h
  cases hargs
  rfl

theorem uncommented : Uncommented (bench file).Sees (ref name) := by
  intro r hr p parts htype
  rcases reached hr with rfl | rfl <;> cases htype

theorem plainlyKeyed : PlainlyKeyed (bench file).Sees (ref name) := by
  intro r hr keys hkeys key hkey
  rcases reached hr with rfl | rfl
  · exact absurd hkeys not_hasKeys_name
  · rw [hasKeys_record hkeys] at hkey
    exact (listed hkey).plainKey

/-- The interface is understood in three steps. -/
theorem settled (n : Nat) : Settled (bench file).Sees (n + 3) (ref name) := by
  have hrecord : Settled (bench file).Sees (n + 2) (ref record) :=
    .mk (fun r hleads => absurd hleads not_leads_record) fun keys hkeys =>
      hasKeys_record hkeys ▸ settled_keys n
  exact .mk (fun r hleads => leads_name_iff.1 hleads ▸ hrecord) fun keys hkeys =>
    absurd hkeys not_hasKeys_name

end Keyed

/-- An interface that extends a record has its own member and the keys of the record. -/
theorem resolve_finds_members_keyed :
    (Sole.bench Keyed.file).Tidy ∧
    Uncommented (Sole.bench Keyed.file).Sees (Sole.ref Keyed.name) ∧
    PlainlyKeyed (Sole.bench Keyed.file).Sees (Sole.ref Keyed.name) ∧
    Settled (Sole.bench Keyed.file).Sees (maxDepth + 1) (Sole.ref Keyed.name) ∧
    ∃ t, (outcome (resolve Project.graph (Sole.ref Keyed.name)) (Sole.bench Keyed.file)).1 = .ok t ∧
      t.properties.keys = ["b", "c", "a"] ∧
      ∀ x, HasMember (Sole.bench Keyed.file).Sees (Sole.ref Keyed.name) x ↔
        x = "b" ∨ x = "c" ∨ x = "a" := by
  obtain ⟨t, ht, hkeys⟩ := Option.map_eq_some_iff.1 Keyed.shows_found.2
  have hok := except_ok_of_toOption ht
  obtain ⟨hsound, hcomplete, -⟩ :=
    resolve_finds_members (Sole.tidy _) Keyed.uncommented Keyed.plainlyKeyed hok
  refine ⟨Sole.tidy _, Keyed.uncommented, Keyed.plainlyKeyed, Keyed.settled 22, t, hok, hkeys, ?_⟩
  intro x
  have hcontains : t.properties.contains x = true ↔ x = "b" ∨ x = "c" ∨ x = "a" := by
    rw [Table.contains_iff_mem_keys, hkeys]
    simp
  exact ⟨fun hx => hcontains.1 (hcomplete (Keyed.settled 22) x hx),
    fun hx => hsound x (hcontains.2 hx)⟩

/-! ### A type parameter among the keys -/

namespace Forgotten

open Sole

/-- The keys of a record are an alias for its own type parameter, which has the name of another
type:
```
| type T="params"
| type L<T="a">=T
| type R=Record<L,x>
``` -/
def file : String := "type T=\"params\"\ntype L<T=\"a\">=T\ntype R=Record<L,x>\n"

/-- The name of the record. -/
def name : TypeExpr := .name ⟨default, "R"⟩

/-- The name of the keys. -/
def keys : TypeExpr := .name ⟨⟨46, 47, 2, 14⟩, "L"⟩

/-- The alias for the record. -/
def record : TypeAlias where
  extent := ⟨32, 50, 2, 0⟩
  name := "R"
  parameters := []
  value := .generic ⟨⟨39, 50, 2, 7⟩, "Record<L,x>"⟩ ⟨"Record", true⟩
    [keys, .name ⟨⟨48, 49, 2, 16⟩, "x"⟩]

/-- What the type parameter stands for. -/
def fallback : TypeExpr := .literal ⟨⟨25, 28, 1, 9⟩, "\"a\""⟩ (some "a")

/-- The alias for the type parameter. -/
def parameter : TypeAlias where
  extent := ⟨16, 31, 1, 0⟩
  name := "L"
  parameters := [⟨"T", some fallback⟩]
  value := .name ⟨⟨30, 31, 1, 14⟩, "T"⟩

set_option maxRecDepth 100000 in
theorem shows_found : (Shows file "R" [⟨.alias record, path⟩] ∧
    Shows file "L" [⟨.alias parameter, path⟩] ∧ Shows file "Record" []) ∧
    (outcome (resolve Project.graph (ref name)) (bench file)).1.toOption.map
      (fun t => t.properties.keys) = some ["params"] := by
  simp only [Shows, bench_eq]
  decide +kernel

theorem shows : Shows file "R" [⟨.alias record, path⟩] ∧
    Shows file "L" [⟨.alias parameter, path⟩] ∧ Shows file "Record" [] :=
  shows_found.1

theorem found : (outcome (resolve Project.graph (ref name)) (bench file)).1.toOption.map
    (fun t => t.properties.keys) = some ["params"] :=
  shows_found.2

variable {r : TypeRef} {x : String}

theorem refers_name : Refers (bench file).Sees (ref name) "R" [⟨.alias record, path⟩] [] :=
  .name (p := ⟨default, "R"⟩) rfl rfl (sees shows.1)

theorem refers_record : Refers (bench file).Sees (ref record.value) "Record" []
    [ref keys, ref (.name ⟨⟨48, 49, 2, 16⟩, "x"⟩)] := by
  have hrecord : (ref record.value).type =
      .generic ⟨⟨39, 50, 2, 7⟩, "Record<L,x>"⟩ ⟨"Record", true⟩
        [keys, .name ⟨⟨48, 49, 2, 16⟩, "x"⟩] := rfl
  exact .generic hrecord rfl rfl (sees shows.2.2)

theorem refers_keys : Refers (bench file).Sees (ref keys) "L" [⟨.alias parameter, path⟩] [] :=
  .name (p := ⟨⟨46, 47, 2, 14⟩, "L"⟩) rfl rfl (sees shows.2.1)

/-- The keys come down to what the type parameter stands for. -/
theorem denotes_iff : Denotes (bench file).Sees (ref keys) x ↔ x = "a" := by
  have hparameter : Follows (bench file).Sees (aliased path parameter []) (ref fallback) :=
    .parameter (p := ⟨⟨30, 31, 1, 14⟩, "T"⟩) rfl rfl
  have hparts : ∀ r', ¬KeyPart (ref fallback) r' := nofun
  have hfollows : ∀ r', ¬Follows (bench file).Sees (ref fallback) r' :=
    fun r' => not_follows nofun nofun
  rw [denotes_follows_iff (bench file).definite_sees (.alias refers_keys),
    denotes_follows_iff (bench file).definite_sees hparameter,
    denotes_literal_iff hparts hfollows]
  exact ⟨fun h => (Option.some.inj h).symm, fun h => h ▸ rfl⟩

theorem hasMember_iff : HasMember (bench file).Sees (ref name) x ↔ x = "a" := by
  have halias : aliased path record [] = ref record.value := rfl
  rw [hasMember_alias_iff (bench file).definite_sees refers_name, halias,
    hasMember_builtin_iff (bench file).definite_sees refers_record]
  simp [transparentGenerics, denotes_iff]

theorem leads_name (h : Leads (bench file).Sees (ref name) r) : r = ref record.value := by
  rw [refers_name.leads_iff (bench file).definite_sees] at h
  obtain ⟨a, file, rest, hds, rfl⟩ | ⟨hds, -⟩ | ⟨hds, -⟩ := h
  · cases hds
    rfl
  · exact absurd rfl (hds record path)
  · cases hds

theorem not_leads_record : ¬Leads (bench file).Sees (ref record.value) r := by
  rw [refers_record.leads_iff (bench file).definite_sees]
  simp [IsBase, transparentGenerics]

/-- All that matters for the record. -/
theorem reached (h : Relation.ReflTransGen (Leads (bench file).Sees) (ref name) r) :
    r = ref name ∨ r = ref record.value := by
  induction h with
  | refl => exact .inl rfl
  | tail _ hleads ih =>
    rcases ih with rfl | rfl
    · exact .inr (leads_name hleads)
    · exact absurd hleads not_leads_record

theorem uncommented : Uncommented (bench file).Sees (ref name) := by
  intro r hr p parts htype
  rcases reached hr with rfl | rfl <;> cases htype

end Forgotten

/-- **A type parameter among the keys is taken for another type.**  The keys of the record are the
literal that the type parameter of an alias stands for; what is found is the literal that another
alias of the same name stands for. -/
theorem resolve_forgets_fallback :
    (Sole.bench Forgotten.file).Tidy ∧
    Uncommented (Sole.bench Forgotten.file).Sees (Sole.ref Forgotten.name) ∧
    (outcome (resolve Project.graph (Sole.ref Forgotten.name))
      (Sole.bench Forgotten.file)).1.toOption.map (fun t => t.properties.keys) = some ["params"] ∧
    ∀ x, HasMember (Sole.bench Forgotten.file).Sees (Sole.ref Forgotten.name) x ↔ x = "a" :=
  ⟨Sole.tidy _, Forgotten.uncommented, Forgotten.found, fun _ => Forgotten.hasMember_iff⟩

end RouteLint
