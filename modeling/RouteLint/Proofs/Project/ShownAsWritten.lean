import Mathlib.Data.List.TakeWhile
import RouteLint.Proofs.Project.PassedArguments
import RouteLint.Proofs.Project.ResolvedMembers
import RouteLint.Proofs.Syntax.Spelling
import RouteLint.Proofs.Text.Mentions

/-!
# Types that are shown as they are written

The check of a handler looks for a promise in the text that a type is shown as, and the repair looks
for one in the text that it is written as.  Where showing a type expands nothing, the two texts
differ in their blanks, and in what stands between the name and the arguments of a generic type,
which is written anew.  Blanks do not matter: a word without blanks stands in a text on one line if
and only if it stands in the text as it is.  What stands between name and arguments does matter if
it is a comment that mentions a promise: that comment is seen by the repair and not by the check.

## Main definitions

* `Separates` — what stands between the parts of a generic type and does not mention a promise.
* `Unexpanded` — a type in which nothing stands for another type.

## Main results

* `Text.collapse_collapse` — a text on one line stays as it is.
* `collapsing_keeps_mentions` — **putting on one line keeps words, and types that are not expanded
  mention a promise as shown if they do as written.**
* `shown_without_comment` — a comment that only the repair sees.
-/

namespace RouteLint

open Syntax Project

/-! ### Texts on one line -/

namespace Text

/-- Words with spaces between them are read as these words. -/
theorem words_intercalate {ws : List (List Char)} (hne : ∀ w ∈ ws, w ≠ [])
    (hsolid : ∀ w ∈ ws, ∀ c ∈ w, isBlank c = false) : words (List.intercalate [' '] ws) = ws := by
  have hspace : isBlank ' ' = true := by decide
  induction ws with
  | nil => rfl
  | cons w ws ih =>
    rw [List.forall_mem_cons] at hne hsolid
    obtain ⟨c, cs, rfl⟩ := List.exists_cons_of_ne_nil hne.1
    obtain ⟨hc, hcs⟩ := List.forall_mem_cons.1 hsolid.1
    have hall : ∀ d ∈ cs, (!isBlank d) = true := fun d hd => by rw [hcs d hd]; rfl
    cases ws with
    | nil =>
      rw [List.intercalate_singleton, words_cons hc, List.takeWhile_eq_self_iff.2 hall,
        List.dropWhile_eq_nil_iff.2 hall, words_nil]
    | cons v ws =>
      -- the first word ends at the space, and the other words come after it
      have hstop (rest : List Char) : (' ' :: rest).takeWhile (fun d => !isBlank d) = [] ∧
          (' ' :: rest).dropWhile (fun d => !isBlank d) = ' ' :: rest := by
        simp [hspace]
      rw [List.intercalate_cons_cons, List.append_assoc, List.singleton_append, List.cons_append,
        words_cons hc, List.takeWhile_append_of_pos hall, List.dropWhile_append_of_pos hall,
        (hstop _).1, (hstop _).2, List.append_nil, words_cons_blank hspace, ih hne.2 hsolid.2]

/-- Words have characters, and none of them is a blank. -/
theorem solid_of_mem_words {cs w : List Char} (h : w ∈ words cs) :
    w ≠ [] ∧ ∀ c ∈ w, isBlank c = false := by
  induction cs using words.induct generalizing w with
  | case1 => cases h
  | case2 c cs hc ih =>
    rw [words_cons_blank hc] at h
    exact ih h
  | case3 c hc =>
    rw [Bool.not_eq_true] at hc
    rw [words_singleton hc, List.mem_singleton] at h
    subst h
    simpa using hc
  | case4 c hc d cs hd ih =>
    rw [Bool.not_eq_true] at hc
    rw [words_cons_of_blank hc hd, List.mem_cons] at h
    rcases h with rfl | h
    · simpa using hc
    · exact ih h
  | case5 c hc d cs hd hwords ih =>
    -- a word starts at the second character
    rw [words_cons (Bool.not_eq_true _ ▸ hd)] at hwords
    cases hwords
  | case6 c hc d cs hd v vs hwords ih =>
    rw [Bool.not_eq_true] at hc hd
    rw [words_cons_of_solid hc hd hwords, List.mem_cons] at h
    rw [hwords] at ih
    rcases h with rfl | h
    · obtain ⟨-, hv⟩ := ih List.mem_cons_self
      exact ⟨List.cons_ne_nil c v, List.forall_mem_cons.2 ⟨hc, hv⟩⟩
    · exact ih (List.mem_cons_of_mem v h)

/-- A text on one line stays as it is. -/
theorem collapse_collapse (t : String) : collapse (collapse t) = collapse t := by
  have hwords : words (collapseChars t.toList) = words t.toList :=
    words_intercalate (fun w hw => (solid_of_mem_words hw).1) fun w hw => (solid_of_mem_words hw).2
  rw [collapse, collapse, String.toList_ofList, collapseChars, hwords, collapseChars]

/-- A word without blanks stands in a text on one line if it stands in the text. -/
theorem infix_collapse_iff {w : String} (hw : w.toList ≠ [])
    (hsolid : ∀ c ∈ w.toList, isBlank c = false) (t : String) :
    w.toList <:+: (collapse t).toList ↔ w.toList <:+: t.toList := by
  rw [← occurs_iff_infix, ← occurs_iff_infix, collapse, String.toList_ofList,
    occurs_collapseChars hw hsolid]

/-- Nothing is mentioned across a sign at the end of a text. -/
theorem occurs_append_of_getLast? {w a b : List Char} {c : Char} (hw : w ≠ []) (hc : c ∉ w)
    (ha : a.getLast? = some c) : occurs w (a ++ b) = (occurs w a || occurs w b) := by
  obtain ⟨a, rfl⟩ := List.getLast?_eq_some_iff.1 ha
  rw [List.append_assoc, List.singleton_append, occurs_append_cons hw hc,
    occurs_append_singleton hw hc]

/-- Nothing is mentioned across a sign at the start of a text. -/
theorem occurs_append_of_head? {w a b : List Char} {c : Char} (hw : w ≠ []) (hc : c ∉ w)
    (hb : b.head? = some c) : occurs w (a ++ b) = (occurs w a || occurs w b) := by
  obtain ⟨b, rfl⟩ := List.head?_eq_some_iff.1 hb
  rw [occurs_append_cons hw hc, occurs_cons hw hc]

end Text

/-! ### Texts with parts -/

/-- What stands between two parts of a type and does not mention a promise. -/
structure Separates (sep : List Char) : Prop where
  joint : Joint sep
  silent : Text.occurs wrapper.toList sep = false

/-- A text mentions a promise if one of its parts does. -/
theorem Syntax.Strung.mentionsWrapper_eq {parts : List String} {text : String}
    (h : Strung Separates parts text) : mentionsWrapper text = parts.any mentionsWrapper := by
  induction h with
  | nil => rfl
  | @cons part text sep parts hsep _ ih =>
    obtain ⟨c, hc, hsign⟩ := hsep.joint.head
    obtain ⟨d, hd, hsign'⟩ := hsep.joint.last
    have hlast : (part.toList ++ sep).getLast? = some d := by
      rw [List.getLast?_append, hd, Option.some_or]
    rw [List.any_cons, ← ih]
    unfold mentionsWrapper Text.mentions
    rw [String.toList_append, String.toList_append, String.toList_ofList,
      Text.occurs_append_of_getLast? wrapper_ne_nil (Text.not_mem_wrapper hsign') hlast,
      Text.occurs_append_of_head? wrapper_ne_nil (Text.not_mem_wrapper hsign) hc, hsep.silent,
      Bool.or_false]

/-! ### Types that are not expanded -/

/-- A type in which nothing stands for another type: neither the type itself nor an argument. -/
inductive Unexpanded (V : Visibility) : TypeRef → Prop
  | mk {r : TypeRef} (hnone : ∀ r', ¬Follows V r r')
    (hargs : ∀ p head ts, r.type = .generic p head ts → ∀ t ∈ ts, Unexpanded V (r.withType t)) :
    Unexpanded V r

section Showing

variable {m : Type → Type} [Monad m] [LawfulMonad m] {A : Assurance m} {g : ModuleGraph m}
  {V : Visibility}

/-- What a type is shown as mentions a promise if its text does. -/
def ShowsMention (r : TypeRef) (shown : String) : Prop :=
  mentionsWrapper shown = mentionsWrapper r.type.text

theorem showsMention_text (r : TypeRef) : ShowsMention r r.text :=
  mentionsWrapper_collapse r.type.text

/-- A generic type that is written anew. -/
theorem showsMention_generic {r : TypeRef} {p : Piece} {head : TypeHead} {ts : List TypeExpr}
    {texts : List String} (hr : r.type = .generic p head ts)
    (hspelled : r.type.Spelled Separates)
    (htexts : List.Forall₂ ShowsMention (ts.map r.withType) texts) :
    ShowsMention r (head.text ++ "<" ++ ", ".intercalate texts ++ ">") := by
  have hopen : Breaks "<" := by decide
  have hcomma : Breaks ", " := by decide
  have hclose : Breaks ">" := by decide
  have hargs : texts.any mentionsWrapper = (ts.map TypeExpr.text).any mentionsWrapper := by
    rw [List.forall₂_map_left_iff] at htexts
    clear hr hspelled
    induction htexts with
    | nil => rfl
    | cons hshown _ ih => rw [List.map_cons, List.any_cons, List.any_cons, ih, hshown]; rfl
  rw [hr] at hspelled
  cases hspelled with
  | plain h => exact absurd rfl (h p head ts)
  | generic hp _ =>
    have hend (s : String) : mentionsWrapper (s ++ ">") = mentionsWrapper s := by
      have h := mentionsWrapper_join hclose s ""
      rwa [String.append_empty, show mentionsWrapper "" = false from rfl, Bool.or_false] at h
    show mentionsWrapper _ = mentionsWrapper r.type.text
    rw [hr, hend, mentionsWrapper_join hopen, mentionsWrapper_intercalate hcomma, hargs]
    exact (hp.mentionsWrapper_eq).symm

/-- **A type that is not expanded mentions a promise as shown if it does as written.** -/
theorem Unexpanded.renderFrom_ensures (hA : A.Shows g V) (n : Nat) {r : TypeRef}
    (h : Unexpanded V r) (hspelled : r.type.Spelled Separates) :
    A.Ensures (renderFrom g n r) (ShowsMention r) := by
  induction n generalizing r with
  | zero => exact A.pure (showsMention_text r)
  | succ n ih =>
    obtain ⟨hnone, hargs⟩ := h
    have halias := aliasValue_ensures hA r.file
    rw [renderFrom]
    cases htype : r.type with
    | name p =>
      dsimp only
      cases hbound : r.bindings.get? p.text with
      | some b => exact absurd (.parameter htype hbound) (hnone b)
      | none =>
        refine A.bind (halias p.text []) fun found hfound => ?_
        cases found with
        | none =>
          refine A.pure ?_
          show mentionsWrapper _ = mentionsWrapper r.type.text
          rw [htype]
          rfl
        | some t =>
          obtain ⟨a, file, ds, hds, rfl⟩ := hfound
          exact absurd (.alias (.name htype hbound hds)) (hnone _)
    | generic p head ts =>
      dsimp only
      -- the arguments are shown one after the other
      have hplain : A.Ensures
          (do
            let texts ← (ts.map r.withType).mapM (renderFrom g n)
            return head.text ++ "<" ++ ", ".intercalate texts ++ ">") (ShowsMention r) := by
        refine A.bind (A.mapM (R := ShowsMention) (ts.map r.withType) fun x hx => ?_)
          fun texts htexts => A.pure (showsMention_generic htype hspelled htexts)
        obtain ⟨t, ht, rfl⟩ := List.mem_map.1 hx
        rw [htype] at hspelled
        cases hspelled with
        | plain h => exact absurd rfl (h p head ts)
        | generic _ hts => exact ih (hargs p head ts htype t ht) (hts t ht)
      split
      · next hhead =>
        obtain ⟨hname, hfree⟩ := head_free_iff.1 hhead
        refine A.bind (halias head.text (ts.map r.withType)) fun found hfound => ?_
        cases found with
        | none => exact hplain
        | some t =>
          obtain ⟨a, file, ds, hds, rfl⟩ := hfound
          exact absurd (.alias (.generic htype hname hfree hds)) (hnone _)
      · next hhead =>
        rw [pure_bind]
        exact hplain
    | object | union | intersection | parenthesized | literal | comment | other =>
      exact A.pure (showsMention_text r)

end Showing

/-- **Putting on one line keeps words**, and it is done once and for all.  A type of which nothing
is expanded mentions a promise as it is shown if it mentions one as it is written, unless a comment
around the arguments of a generic type mentions one.  All types that are read have signs, blanks and
comments there, and nothing else. -/
theorem collapsing_keeps_mentions :
    (∀ t w : String, w.toList ≠ [] → (∀ c ∈ w.toList, Text.isBlank c = false) →
      (w.toList <:+: (Text.collapse t).toList ↔ w.toList <:+: t.toList)) ∧
    (∀ t : String, Text.collapse (Text.collapse t) = Text.collapse t) ∧
    (∀ b : Bench, b.Tidy → ∀ r : TypeRef, Unexpanded b.Sees r → r.type.Spelled Separates →
      ∀ shown : String, (outcome (render Project.graph r) b).1 = .ok shown →
        mentionsWrapper shown = mentionsWrapper r.type.text) ∧
    ∀ (markup : Bool) (n : Nat) (c d : Cursor) (t : TypeExpr),
      (rules markup n).type.run c = some (t, d) → t.Spelled Joint := by
  refine ⟨fun t w hw hsolid => Text.infix_collapse_iff hw hsolid t, Text.collapse_collapse, ?_,
    fun markup n c d t ht => ((rules_read markup n).1 c t d ht).spelled⟩
  intro b hb r hr hspelled shown hshown
  obtain ⟨result, hresult, hmention⟩ :=
    hr.renderFrom_ensures (A := b.steady) hb.shows (maxDepth + 1) hspelled
  exact hmention shown (hresult.eq.trans hshown)

/-! ### A type on two lines -/

/-- A name that stands for no declared type is not expanded. -/
theorem unexpanded_name {V : Visibility} (hV : V.Definite) {r : TypeRef} {p : Piece}
    (hr : r.type = .name p) (hfree : r.bindings.get? p.text = none) (hds : V r.file p.text []) :
    Unexpanded V r := by
  refine .mk (fun r' => not_follows_of_noAlias hV (.name hr hfree hds) (by simp [NoAlias])) ?_
  intro p' head ts hgeneric
  rw [hr] at hgeneric
  cases hgeneric

/-- A generic type whose name stands for no declared type is expanded in its arguments at most. -/
theorem unexpanded_generic {V : Visibility} (hV : V.Definite) {r : TypeRef} {p : Piece}
    {head : TypeHead} {ts : List TypeExpr} (hr : r.type = .generic p head ts)
    (hplain : head.plain = true) (hfree : r.bindings.get? head.text = none)
    (hds : V r.file head.text []) (hargs : ∀ t ∈ ts, Unexpanded V (r.withType t)) :
    Unexpanded V r := by
  have hrefers := Refers.generic hr hplain hfree hds
  refine .mk (fun r' => not_follows_of_noAlias hV hrefers (by simp [NoAlias])) ?_
  intro p' head' ts' hgeneric
  rw [hr] at hgeneric
  cases hgeneric
  exact hargs

namespace Parted

open Sole

/-- An alias for a type on two lines:
```
| type A=Foo<x,
|   Promise<y>>
``` -/
def file : String := "type A=Foo<x,\n  Promise<y>>\n"

/-- The argument on the second line. -/
def promise : TypeExpr :=
  .generic ⟨⟨16, 26, 1, 2⟩, "Promise<y>"⟩ ⟨"Promise", true⟩ [.name ⟨⟨24, 25, 1, 10⟩, "y"⟩]

/-- The type on two lines. -/
def written : TypeExpr :=
  .generic ⟨⟨7, 27, 0, 7⟩, "Foo<x,\n  Promise<y>>"⟩ ⟨"Foo", true⟩
    [.name ⟨⟨11, 12, 0, 11⟩, "x"⟩, promise]

/-- The alias. -/
def abbreviation : TypeAlias := ⟨⟨0, 27, 0, 0⟩, "A", [], written⟩

set_option maxRecDepth 100000 in
/-- What the names stand for, and how the alias is shown. -/
theorem shows_render : (Shows file "A" [⟨.alias abbreviation, path⟩] ∧ Shows file "Foo" [] ∧
      Shows file "Promise" [] ∧ Shows file "x" [] ∧ Shows file "y" []) ∧
    (outcome (render Project.graph (ref written)) (bench file)).1.toOption =
      some "Foo<x, Promise<y>>" := by
  simp only [Shows, bench_eq]
  decide +kernel

theorem unexpanded : Unexpanded (bench file).Sees (ref written) := by
  obtain ⟨⟨-, hfoo, hpromise, hx, hy⟩, -⟩ := shows_render
  have hV := (bench file).definite_sees
  have hname (p : Piece) (hp : Shows file p.text []) : Unexpanded (bench file).Sees (ref (.name p)) :=
    unexpanded_name hV (r := ref (.name p)) rfl rfl (sees hp)
  have hargument : Unexpanded (bench file).Sees (ref promise) := by
    refine unexpanded_generic hV (r := ref promise) rfl rfl rfl (sees hpromise) ?_
    intro t ht
    rw [List.mem_singleton.1 ht]
    exact hname ⟨⟨24, 25, 1, 10⟩, "y"⟩ hy
  refine unexpanded_generic hV (r := ref written) rfl rfl rfl (sees hfoo) ?_
  intro t ht
  simp only [List.mem_cons, List.not_mem_nil, or_false] at ht
  rcases ht with rfl | rfl
  · exact hname ⟨⟨11, 12, 0, 11⟩, "x"⟩ hx
  · exact hargument

theorem spelled_name (p : Piece) : (TypeExpr.name p).Spelled Separates := .plain nofun

theorem spelled : written.Spelled Separates := by
  have hindent : Trivia ['\n', ' ', ' '] :=
    .blank (by decide) (.blank (by decide) (.blank (by decide) .nil))
  have hopen : Separates ['<'] := ⟨.of_trivia .nil (by decide), by decide⟩
  have hline : Separates [',', '\n', ' ', ' '] := ⟨.sign .nil (by decide) hindent, by decide⟩
  have hclose : Separates ['>'] := ⟨.of_trivia .nil (by decide), by decide⟩
  have hpromise : Strung Separates ["Promise", "y"] "Promise<y>" := .cons hopen (.cons hclose .nil)
  have hwritten : Strung Separates ["Foo", "x", "Promise<y>"] "Foo<x,\n  Promise<y>>" :=
    .cons hopen (.cons hline (.cons hclose .nil))
  have hargument : promise.Spelled Separates := by
    refine .generic hpromise ?_
    intro t ht
    rw [List.mem_singleton.1 ht]
    exact spelled_name _
  refine .generic hwritten ?_
  intro t ht
  simp only [List.mem_cons, List.not_mem_nil, or_false] at ht
  rcases ht with rfl | rfl
  · exact spelled_name _
  · exact hargument

end Parted

/-- A type on two lines is shown on one, and a promise is seen in both. -/
theorem collapsing_keeps_mentions_parted :
    ("Promise".toList <:+: (Text.collapse Parted.written.text).toList ↔
      "Promise".toList <:+: Parted.written.text.toList) ∧
    (Sole.bench Parted.file).Tidy ∧
    Unexpanded (Sole.bench Parted.file).Sees (Sole.ref Parted.written) ∧
    Parted.written.Spelled Separates ∧
    (outcome (render Project.graph (Sole.ref Parted.written)) (Sole.bench Parted.file)).1 =
      .ok "Foo<x, Promise<y>>" ∧
    mentionsWrapper "Foo<x, Promise<y>>" = mentionsWrapper Parted.written.text :=
  have hshown := except_ok_of_toOption Parted.shows_render.2
  have hsolid : ("Promise".toList.all fun c => !Text.isBlank c) = true := by decide
  ⟨collapsing_keeps_mentions.1 _ _ (by decide) (by simpa using hsolid), Sole.tidy _,
    Parted.unexpanded, Parted.spelled, hshown, collapsing_keeps_mentions.2.2.1 _ (Sole.tidy _)
      (Sole.ref Parted.written) Parted.unexpanded Parted.spelled _ hshown⟩

/-! ### A comment that mentions a promise -/

namespace Noted

/-- A handler whose parameters have a generic type with a comment:
```
| export function GET(a,b:{params:Foo</* Promise */ string>}){}
``` -/
def members : String := "params:Foo</* Promise */ string>"

/-- The generic type. -/
def written : TypeExpr :=
  .generic ⟨⟨32, 57, 0, 32⟩, "Foo</* Promise */ string>"⟩ ⟨"Foo", true⟩
    [.other ⟨⟨50, 56, 0, 50⟩, "string"⟩ .predefined]

/-- The type where it is written. -/
def ref : TypeRef := ⟨written, Comments.path, []⟩

/-- The members of the context. -/
def read : List Member := [.property (.identifier "params") (some written)]

set_option maxRecDepth 100000 in
theorem finds : Members.Finds members read "Foo<string>" ∧
    (outcome (visibleTypes Project.graph Comments.path "Foo")
      (Members.bench members)).1.toOption = some [] ∧
    (outcome (render Project.graph ref) (Members.bench members)).1.toOption =
      some "Foo<string>" := by
  rw [Members.Finds, Members.bench_eq, ← eagerParse_eq]
  decide +kernel

theorem unexpanded : Unexpanded (Members.bench members).Sees ref := by
  obtain ⟨-, hfoo, -⟩ := finds
  have hV := (Members.bench members).definite_sees
  have hsees : (Members.bench members).Sees Comments.path "Foo" [] := except_ok_of_toOption hfoo
  refine unexpanded_generic hV (r := ref) rfl rfl rfl hsees ?_
  intro t ht
  rw [List.mem_singleton.1 ht]
  exact .mk (fun r' => not_follows nofun nofun) nofun

end Noted

/-- **A comment that only the repair sees.**  Nothing of the type is expanded; the handler is found
to violate the rule with the type as it is shown, and it is not repaired since the type as it is
written mentions a promise. -/
theorem shown_without_comment :
    Unexpanded (Members.bench Noted.members).Sees Noted.ref ∧
    (outcome (render Project.graph Noted.ref) (Members.bench Noted.members)).1 =
      .ok "Foo<string>" ∧
    mentionsWrapper "Foo<string>" = false ∧ mentionsWrapper Noted.written.text = true ∧
    Members.Finds Noted.members Noted.read "Foo<string>" ∧
    planRepair (Members.context Noted.members Noted.read) = .error .wrapped := by
  have hshown := except_ok_of_toOption Noted.finds.2.2
  exact ⟨Noted.unexpanded, hshown, rfl, rfl, Noted.finds.1, rfl⟩

end RouteLint
