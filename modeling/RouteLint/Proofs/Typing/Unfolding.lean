import RouteLint.Proofs.Typing.Comments.Texts
import RouteLint.Proofs.Typing.Glossary

/-!
# Names written out

A name in a type may be written out: what it stands for is put in its place, in parentheses or as it
is.  Names are looked up only where a type is a name, and in the arguments of generic types.  There,
a text that is shown for the name makes way for one that is written.  In all other types the name
itself is shown.

So a check does not see the difference as long as every definition that is put in parentheses says
itself whether it is a promise, and every name that is not looked up says what its definition says.

## Main definitions

* `Candid` — types that say themselves whether they are a promise.
* `Text.Unfolded` — a text with names written out.
* `Unfolds` — a type, and the same type with names written out.

## Main results

* `Candid.show?` — a candid type mentions a promise as it is shown if it does as it is written.
* `Unfolds.show?` — **a check does not see that names are written out.**
-/

namespace RouteLint

open Syntax

/-! ### Candid types -/

/-- Types that say themselves whether they are a promise: nothing that a name in them stands for
has to be looked up to see it. -/
inductive Candid (k : Glossary) : TypeRef → Prop
  /-- A type without a name is shown as it is written. -/
  | written {r : TypeRef} (hr : r.type.isNamed = false) (htext : r.text.isEmpty = false) :
    Candid k r
  /-- So is a name that stands for nothing else. -/
  | name {r : TypeRef} {p : Piece} (hr : r.type = .name p) (hmeaning : k.meaning r = some none)
    (htext : p.text.isEmpty = false) : Candid k r
  /-- A promise of anything is a promise. -/
  | promise {r : TypeRef} {p : Piece} {name : TypeHead} {ts : List TypeExpr}
    (hr : r.type = .generic p name ts) (hmeaning : k.meaning r = some none)
    (hname : mentionsWrapper name.text = true) (htext : mentionsWrapper p.text = true) : Candid k r
  /-- A generic type with candid arguments, and with no promise written between them. -/
  | generic {r : TypeRef} {p : Piece} {name : TypeHead} {ts : List TypeExpr}
    (hr : r.type = .generic p name ts) (hmeaning : k.meaning r = some none)
    (hts : ∀ t ∈ ts, Candid k (r.withType t))
    (htext : mentionsWrapper p.text =
      (mentionsWrapper name.text || ts.any fun t => mentionsWrapper t.text)) : Candid k r
  /-- A name for a candid type that mentions a promise if the type does. -/
  | through {r b : TypeRef} (hmeaning : k.meaning r = some (some b)) (hb : Candid k b)
    (htext : mentionsWrapper r.type.text = mentionsWrapper b.type.text) : Candid k r

theorem any_mentions_of_mapM {ι : Type} {f : ι → Option String} {P : ι → Bool} {l : List ι}
    (hf : ∀ i ∈ l, ∀ s, f i = some s → mentionsWrapper s = P i) {texts : List String}
    (h : l.mapM f = some texts) : texts.any mentionsWrapper = l.any P := by
  rw [mapM_eq_some_iff] at h
  induction h with
  | nil => rfl
  | cons hs _ ih =>
    rw [List.any_cons, List.any_cons, hf _ List.mem_cons_self _ hs,
      ih fun j hj => hf j (List.mem_cons_of_mem _ hj)]

/-- A name with arguments mentions what the name or an argument does. -/
theorem mentionsWrapper_generic (name : String) (texts : List String) :
    mentionsWrapper (name ++ "<" ++ ", ".intercalate texts ++ ">") =
      (mentionsWrapper name || texts.any mentionsWrapper) := by
  have hclose := mentionsWrapper_join (by decide : Breaks ">")
    (name ++ "<" ++ ", ".intercalate texts) ""
  have hnothing : mentionsWrapper "" = false := by decide
  rw [String.append_empty, hnothing, Bool.or_false] at hclose
  rw [hclose, mentionsWrapper_join (by decide : Breaks "<"),
    mentionsWrapper_intercalate (by decide : Breaks ", ")]

theorem isEmpty_generic (name : String) (texts : List String) :
    (name ++ "<" ++ ", ".intercalate texts ++ ">").isEmpty = false := by
  have hclose := Text.Alike.isEmpty_join (by decide : Breaks ">")
    (name ++ "<" ++ ", ".intercalate texts) ""
  rwa [String.append_empty] at hclose

/-- **A candid type mentions a promise as it is shown if it does as it is written.** -/
theorem Candid.show? {k : Glossary} {r : TypeRef} (hr : Candid k r) {n : Nat} {s : String}
    (h : k.show? n r = some s) : mentionsWrapper s = mentionsWrapper r.type.text ∧
      s.isEmpty = false := by
  induction hr generalizing n s with
  | @written r hr htext =>
    obtain ⟨n, rfl⟩ := Glossary.exists_succ h
    rw [Glossary.show?_of_not_named hr] at h
    cases h
    exact ⟨mentionsWrapper_collapse _, htext⟩
  | @name r p hr hmeaning htext =>
    obtain ⟨n, rfl⟩ := Glossary.exists_succ h
    rw [Glossary.show?_name hmeaning hr] at h
    cases h
    rw [hr]
    exact ⟨rfl, htext⟩
  | @promise r p name ts hr hmeaning hname htext =>
    obtain ⟨n, rfl⟩ := Glossary.exists_succ h
    rw [Glossary.show?_generic hmeaning hr, Option.map_eq_some_iff] at h
    obtain ⟨texts, -, rfl⟩ := h
    have hwritten : mentionsWrapper r.type.text = true := by rw [hr]; exact htext
    rw [mentionsWrapper_generic, hname, Bool.true_or, hwritten]
    exact ⟨rfl, isEmpty_generic _ _⟩
  | @generic r p name ts hr hmeaning _ htext ih =>
    obtain ⟨n, rfl⟩ := Glossary.exists_succ h
    rw [Glossary.show?_generic hmeaning hr, Option.map_eq_some_iff] at h
    obtain ⟨texts, htexts, rfl⟩ := h
    have hwritten : mentionsWrapper r.type.text = mentionsWrapper p.text := by rw [hr]; rfl
    have hany : texts.any mentionsWrapper = ts.any fun t => mentionsWrapper t.text := by
      have hargs := any_mentions_of_mapM (P := fun a => mentionsWrapper a.type.text)
        (fun a ha s hs => ?_) htexts
      · rw [hargs, List.any_map]
        rfl
      · obtain ⟨t, ht, rfl⟩ := List.mem_map.1 ha
        exact (ih t ht hs).1
    rw [mentionsWrapper_generic, hany, hwritten, htext]
    exact ⟨rfl, isEmpty_generic _ _⟩
  | @through r b hmeaning _ htext ih =>
    obtain ⟨n, rfl⟩ := Glossary.exists_succ h
    rw [Glossary.show?_of_meaning hmeaning] at h
    rw [htext]
    exact ih h

/-! ### Names in texts -/

namespace Text

/-- Two texts between which a name stands by itself: no word goes on into the one or the other. -/
structure Around (a b : List Char) : Prop where
  left : ∀ c, a.getLast? = some c → isWordChar c = false
  right : ∀ c, b.head? = some c → isWordChar c = false

/-- A text with names written out in parentheses. -/
inductive Unfolded (R : String → String → Prop) (t : List Char) : List Char → Prop
  | refl : Unfolded R t t
  | name {a b : List Char} {name definition : String}
    (h : Unfolded R t (a ++ name.toList ++ b)) (haround : Around a b) (hR : R name definition) :
    Unfolded R t (a ++ '(' :: definition.toList ++ ')' :: b)

/-- What stands between two texts by itself is looked at by itself. -/
theorem Around.occurs_append {a b : List Char} (h : Around a b) (x : List Char) :
    occurs wrapper.toList (a ++ x ++ b) = (occurs wrapper.toList a ||
      (occurs wrapper.toList x || occurs wrapper.toList b)) := by
  have hnil : occurs wrapper.toList [] = false := by decide
  have hright : occurs wrapper.toList (x ++ b) =
      (occurs wrapper.toList x || occurs wrapper.toList b) := by
    cases b with
    | nil => rw [List.append_nil, hnil, Bool.or_false]
    | cons d b =>
      have hd := not_mem_wrapper (h.right d rfl)
      rw [occurs_append_cons wrapper_ne_nil hd, occurs_cons wrapper_ne_nil hd]
  rw [List.append_assoc, ← hright]
  rcases List.eq_nil_or_concat a with rfl | ⟨a, c, rfl⟩
  · rw [List.nil_append, hnil, Bool.false_or]
  · rw [List.concat_eq_append] at h ⊢
    have hc := not_mem_wrapper (h.left c (by simp))
    rw [List.append_assoc, List.singleton_append, occurs_append_cons wrapper_ne_nil hc,
      occurs_append_singleton wrapper_ne_nil hc]

theorem occurs_parenthesized (a x b : List Char) :
    occurs wrapper.toList (a ++ '(' :: x ++ ')' :: b) = (occurs wrapper.toList a ||
      (occurs wrapper.toList x || occurs wrapper.toList b)) := by
  rw [List.append_assoc, List.cons_append, occurs_append_cons wrapper_ne_nil (by decide),
    occurs_append_cons wrapper_ne_nil (by decide)]

/-- A check does not see that names are written out if each of them mentions a promise exactly if
its definition does. -/
theorem Unfolded.alike {R : String → String → Prop}
    (hR : ∀ name definition, R name definition → name.toList.all isBlank = false ∧
      mentionsWrapper name = mentionsWrapper definition) {s s' : String}
    (h : Unfolded R s.toList s'.toList) : Alike (collapse s) (collapse s') := by
  -- the two answers for texts as lists of characters
  have hlists : ∀ {t t' : List Char}, Unfolded R t t' →
      occurs wrapper.toList t = occurs wrapper.toList t' ∧ t.all isBlank = t'.all isBlank := by
    intro t t' ht
    induction ht with
    | refl => exact ⟨rfl, rfl⟩
    | @name a b name definition _ haround hname ih =>
      obtain ⟨hvisible, hmentions⟩ := hR name definition hname
      have hoccurs : occurs wrapper.toList name.toList = occurs wrapper.toList definition.toList :=
        hmentions
      have hparenthesis : isBlank '(' = false := by decide
      refine ⟨?_, ?_⟩
      · rw [ih.1, haround.occurs_append, occurs_parenthesized, hoccurs]
      · rw [ih.2]
        simp [List.all_append, hvisible, hparenthesis]
  obtain ⟨hoccurs, hblank⟩ := hlists h
  constructor
  · rw [mentionsWrapper_collapse, mentionsWrapper_collapse]
    exact hoccurs
  · rw [isEmpty_collapse, isEmpty_collapse, hblank]

end Text

theorem mentionsWrapper_parenthesized (s : String) :
    mentionsWrapper (Text.collapse ("(" ++ s ++ ")")) = mentionsWrapper s := by
  rw [mentionsWrapper_collapse, mentionsWrapper, mentionsWrapper, Text.mentions, Text.mentions,
    String.toList_append, String.toList_append]
  have hparenthesized := Text.occurs_parenthesized [] s.toList []
  have hnil : Text.occurs wrapper.toList [] = false := by decide
  rwa [hnil, Bool.false_or, Bool.or_false] at hparenthesized

theorem isEmpty_parenthesized (s : String) :
    (Text.collapse ("(" ++ s ++ ")")).isEmpty = false := by
  have hparenthesis : Text.isBlank '(' = false := by decide
  rw [Text.isEmpty_collapse, String.toList_append, String.toList_append]
  simp [hparenthesis]

/-! ### Names written out -/

/-- In the surroundings of a type, a name that is not looked up says what its definition says. -/
structure Glossary.Echoes (k : Glossary) (r : TypeRef) (name definition : String) : Prop where
  stands : ∃ b, k.meaning (r.withType (.name ⟨default, name⟩)) = some (some b) ∧
    b.type.text = definition
  visible : name.toList.all Text.isBlank = false
  mentions : mentionsWrapper name = mentionsWrapper definition

mutual

/-- A type in its surroundings, and the same type with some of its names written out. -/
inductive Unfolds (k : Glossary) : TypeRef → TypeRef → Prop
  /-- The type itself stays, and names are written out in what is bound around it. -/
  | same (t : TypeExpr) (file : Path) {bs bs' : List (String × TypeRef)}
    (hbs : BindingsUnfold k bs bs') : Unfolds k ⟨t, file, bs⟩ ⟨t, file, bs'⟩
  /-- A name is replaced by what it stands for, in parentheses. -/
  | parenthesized {r r' b : TypeRef} {p p' : Piece} (hr : r.type = .name p)
    (hmeaning : k.meaning r = some (some b)) (hr' : r'.type = .parenthesized p' b.type)
    (htext : p'.text = "(" ++ b.type.text ++ ")") (hb : Candid k b) : Unfolds k r r'
  /-- A name counts as what it stands for. -/
  | through {r r' b : TypeRef} (hmeaning : k.meaning r = some (some b)) (hb : Unfolds k b r') :
    Unfolds k r r'
  /-- Names are written out in the arguments of a generic type. -/
  | generic {r r' : TypeRef} {p p' : Piece} {name : TypeHead} {ts ts' : List TypeExpr}
    (hr : r.type = .generic p name ts) (hr' : r'.type = .generic p' name ts')
    (hname : k.head r name = k.head r' name)
    (hts : ArgumentsUnfold k (ts.map r.withType) (ts'.map r'.withType)) : Unfolds k r r'
  /-- Names are written out in a type in which they are not looked up. -/
  | written {r r' : TypeRef} (hr : r.type.isNamed = false) (hr' : r'.type.isNamed = false)
    (htext : Text.Unfolded (k.Echoes r) r.type.text.toList r'.type.text.toList) : Unfolds k r r'

/-- Bindings of the same names to types with names written out. -/
inductive BindingsUnfold (k : Glossary) :
    List (String × TypeRef) → List (String × TypeRef) → Prop
  | nil : BindingsUnfold k [] []
  | cons (name : String) {r r' : TypeRef} {bs bs' : List (String × TypeRef)} (hr : Unfolds k r r')
    (hbs : BindingsUnfold k bs bs') : BindingsUnfold k ((name, r) :: bs) ((name, r') :: bs')

/-- Arguments with names written out. -/
inductive ArgumentsUnfold (k : Glossary) : List TypeRef → List TypeRef → Prop
  | nil : ArgumentsUnfold k [] []
  | cons {r r' : TypeRef} {rs rs' : List TypeRef} (hr : Unfolds k r r')
    (hrs : ArgumentsUnfold k rs rs') : ArgumentsUnfold k (r :: rs) (r' :: rs')

end

variable {k : Glossary}

theorem BindingsUnfold.related : ∀ {bs bs' : List (String × TypeRef)}, BindingsUnfold k bs bs' →
    Table.Related (fun _ => Unfolds k) bs bs'
  | _, _, .nil => .nil
  | _, _, .cons _ hr hbs => .cons hr hbs.related

theorem BindingsUnfold.of_related {bs bs' : Table String TypeRef}
    (h : Table.Related (fun _ => Unfolds k) bs bs') : BindingsUnfold k bs bs' := by
  induction h with
  | nil => exact .nil
  | @cons e e' _ _ he _ ih =>
    obtain ⟨name, r⟩ := e
    obtain ⟨name', r'⟩ := e'
    obtain ⟨rfl, hr⟩ := he
    exact .cons name hr ih

theorem ArgumentsUnfold.forall₂ : ∀ {rs rs' : List TypeRef}, ArgumentsUnfold k rs rs' →
    List.Forall₂ (Unfolds k) rs rs'
  | _, _, .nil => .nil
  | _, _, .cons hr hrs => .cons hr hrs.forall₂

mutual

theorem Unfolds.refl : ∀ r : TypeRef, Unfolds k r r
  | .mk t file bs => .same t file (BindingsUnfold.refl bs)

theorem BindingsUnfold.refl : ∀ bs : List (String × TypeRef), BindingsUnfold k bs bs
  | [] => .nil
  | (name, r) :: bs => .cons name (Unfolds.refl r) (BindingsUnfold.refl bs)

end

/-- Parameters stand for the arguments, and for fallbacks under the parameters before them. -/
theorem bindFrom_unfolds (file : Path) (ps : List TypeParameter) {as as' : List TypeRef}
    (has : List.Forall₂ (Unfolds k) as as') {before before' : Table String TypeRef}
    (hbefore : Table.Related (fun _ => Unfolds k) before before') :
    Table.Related (fun _ => Unfolds k) (bindFrom file before ps as)
      (bindFrom file before' ps as') := by
  induction ps generalizing as as' before before' with
  | nil => cases has <;> exact hbefore
  | cons p ps ih =>
    cases has with
    | cons ha has => exact ih has (hbefore.set ha)
    | nil =>
      obtain ⟨name, fallback⟩ := p
      cases fallback with
      | none => exact ih .nil hbefore
      | some t => exact ih .nil (hbefore.set (.same t file (.of_related hbefore)))

theorem aliased_unfolds (file : Path) (a : TypeAlias) {as as' : List TypeRef}
    (has : List.Forall₂ (Unfolds k) as as') :
    Unfolds k (aliased file a as) (aliased file a as') :=
  .same a.value file (.of_related (bindFrom_unfolds file a.parameters has .nil))

namespace Unfolds

/-- Names written out in the arguments of a generic type, given what is shown of types that it
leads to. -/
theorem show?_generic {r r' : TypeRef} {p p' : Piece} {name : TypeHead} {ts ts' : List TypeExpr}
    (hr : r.type = .generic p name ts) (hr' : r'.type = .generic p' name ts')
    (hname : k.head r name = k.head r' name)
    (hts : List.Forall₂ (Unfolds k) (ts.map r.withType) (ts'.map r'.withType)) {n : Nat}
    (ih : ∀ {a a' : TypeRef}, Unfolds k a a' → ∀ {s : String}, k.show? n a = some s →
      ∃ s', k.show? n a' = some s' ∧ Text.Alike s s') {s : String}
    (h : k.show? (n + 1) r = some s) : ∃ s', k.show? (n + 1) r' = some s' ∧ Text.Alike s s' := by
  have hmeaning : k.meaning r =
      (k.head r name).map (Option.map fun e => aliased e.2 e.1 (ts.map r.withType)) := by
    rw [Glossary.meaning, hr]
  have hmeaning' : k.meaning r' =
      (k.head r name).map (Option.map fun e => aliased e.2 e.1 (ts'.map r'.withType)) := by
    rw [Glossary.meaning, hr', hname]
  cases hhead : k.head r name with
  | none =>
    rw [hhead] at hmeaning
    rw [Glossary.show?, hmeaning] at h
    cases h
  | some entry =>
    rw [hhead] at hmeaning hmeaning'
    cases entry with
    | some e =>
      rw [Glossary.show?_of_meaning hmeaning] at h
      rw [Glossary.show?_of_meaning hmeaning']
      exact ih (aliased_unfolds e.2 e.1 hts) h
    | none =>
      rw [Glossary.show?_generic hmeaning hr, Option.map_eq_some_iff] at h
      obtain ⟨texts, htexts, rfl⟩ := h
      obtain ⟨texts', htexts', halike⟩ := mapM_some_of_forall₂ hts (fun a a' s ha hs => ih ha hs)
        htexts
      rw [Glossary.show?_generic hmeaning' hr', htexts']
      exact ⟨_, rfl, generic_alike rfl halike⟩

/-- **A check does not see that names are written out.**  If a type is shown in a number of steps,
then the type with names written out is, as a text in which a check sees no difference. -/
theorem show? {n : Nat} {r r' : TypeRef} (hr : Unfolds k r r') {s : String}
    (h : k.show? n r = some s) : ∃ s', k.show? n r' = some s' ∧ Text.Alike s s' := by
  induction n generalizing r r' s with
  | zero => cases h
  | succ n ih =>
    cases hr with
    | @same t file bs bs' hbs =>
      cases t with
      | name p =>
        rcases optionRel_cases (hbs.related.get? p.text) with
          ⟨hget, hget'⟩ | ⟨b, b', hget, hget', hb⟩
        · have hafter : k.meaning ⟨.name p, file, bs'⟩ = k.meaning ⟨.name p, file, bs⟩ := by
            rw [Glossary.meaning_name_free hget, Glossary.meaning_name_free hget']
          cases hstands : k.meaning ⟨.name p, file, bs⟩ with
          | none =>
            rw [Glossary.show?, hstands] at h
            cases h
          | some standing =>
            rw [hstands] at hafter
            cases standing with
            | some b =>
              rw [Glossary.show?_of_meaning hstands] at h
              rw [Glossary.show?_of_meaning hafter]
              exact ih (refl b) h
            | none =>
              rw [Glossary.show?_name hstands rfl] at h
              rw [Glossary.show?_name hafter rfl]
              exact ⟨s, h, .refl s⟩
        · rw [Glossary.show?_of_meaning (Glossary.meaning_name_bound hget)] at h
          rw [Glossary.show?_of_meaning (Glossary.meaning_name_bound hget')]
          exact ih hb h
      | generic p name ts =>
        have hargs : List.Forall₂ (Unfolds k)
            (ts.map (TypeRef.withType ⟨.generic p name ts, file, bs⟩))
            (ts.map (TypeRef.withType ⟨.generic p name ts, file, bs'⟩)) := by
          rw [List.forall₂_map_left_iff, List.forall₂_map_right_iff]
          exact List.forall₂_same.2 fun t _ => .same t file hbs
        have hname : k.head ⟨.generic p name ts, file, bs⟩ name =
            k.head ⟨.generic p name ts, file, bs'⟩ name :=
          Glossary.head_congr rfl (hbs.related.contains name.text)
        exact show?_generic rfl rfl hname hargs ih h
      | object | union | intersection | parenthesized | literal | comment | other =>
        rw [Glossary.show?_of_not_named rfl] at h
        rw [Glossary.show?_of_not_named rfl]
        exact ⟨s, h, .refl s⟩
    | @parenthesized _ _ b p p' hr hmeaning hr' htext hb =>
      rw [Glossary.show?_of_meaning hmeaning] at h
      obtain ⟨hmentions, hempty⟩ := hb.show? h
      have hnamed : r'.type.isNamed = false := by rw [hr']; rfl
      have hshown : r'.text = Text.collapse ("(" ++ b.type.text ++ ")") := by
        rw [TypeRef.text, hr', ← htext]
        rfl
      refine ⟨r'.text, Glossary.show?_of_not_named hnamed, ?_⟩
      rw [hshown]
      exact ⟨hmentions.trans (mentionsWrapper_parenthesized _).symm,
        hempty.trans (isEmpty_parenthesized _).symm⟩
    | @through _ _ b hmeaning hb =>
      rw [Glossary.show?_of_meaning hmeaning] at h
      obtain ⟨s', hs', halike⟩ := ih hb h
      exact ⟨s', Glossary.show?_succ hs', halike⟩
    | generic hr hr' hname hts => exact show?_generic hr hr' hname hts.forall₂ ih h
    | written hr hr' htext =>
      rw [Glossary.show?_of_not_named hr] at h
      cases h
      exact ⟨_, Glossary.show?_of_not_named hr',
        htext.alike fun name definition he => ⟨he.visible, he.mentions⟩⟩

end Unfolds

end RouteLint
