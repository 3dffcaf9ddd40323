import RouteLint.Proofs.Data.Attempts
import RouteLint.Proofs.Data.Once
import RouteLint.Proofs.Typing.Comments.Texts
import RouteLint.Typing.Resolve

/-!
# Properties under comments

A type with comments has properties of the same names, with types between which a check sees no
difference.  Comments among the parts of an intersection have no properties and so add none;
comments among the parts of a union would take all its properties away, which is why they are kept
apart in trees with comments.

Two properties of the parts of a union may have one text without comments and two with them.  The
text of the united property is then another one, but it mentions what one of the texts does, and it
is empty only if all of them are.

## Main definitions

* `Property.Alike`, `ResolvedType.Alike` — properties and types that are seen alike.

## Main results

* `PartsCommented.collect` — what is collected from types with comments among them.
* `ModuleGraph.Commented.resolve` — **comments are not seen in the properties of a type.**
-/

namespace RouteLint

open Syntax

variable {ε : Type}

section Alike

variable (g g' : ModuleGraph (Except ε))

/-- Properties of one name, with types between which a check sees no difference. -/
structure Property.Alike (name : String) (p p' : Property) : Prop where
  left : p.name = name
  right : p'.name = name
  text : Related Text.Alike (p.typeText g) (p'.typeText g')

/-- Types with such properties. -/
def ResolvedType.Alike (t t' : ResolvedType) : Prop :=
  Table.Related (Property.Alike g g') t.properties t'.properties

end Alike

/-! ### Comments among types -/

theorem Syntax.PartsCommented.append {u free : Bool} : ∀ {ts ts' : List TypeExpr},
    PartsCommented u free ts ts' → ∀ {us us' : List TypeExpr}, PartsCommented u free us us' →
    PartsCommented u free (ts ++ us) (ts' ++ us')
  | _, _, .nil, _, _, hus => hus
  | _, _, .cons ht hts, _, _, hus => .cons ht (hts.append hus)
  | _, _, .comment p hts, _, _, hus => .comment p (hts.append hus)

/-- What is collected from types with comments among them, if nothing is collected from
comments. -/
theorem Syntax.PartsCommented.collect {u free : Bool} {α β γ δ : Type} {Q : γ → δ → Prop}
    {f : TypeExpr → Except ε α} {f' : TypeExpr → Except ε β} {c : α → List γ} {c' : β → List δ}
    (hf : ∀ t t', t.Commented u t' →
      Related (fun a b => List.Forall₂ Q (c a) (c' b)) (f t) (f' t'))
    (hcomment : ∀ p, ∃ b, f' (.comment p) = .ok b ∧ c' b = []) {ts ts' : List TypeExpr}
    (h : PartsCommented u free ts ts') :
    Related (fun as bs => List.Forall₂ Q (as.flatMap c) (bs.flatMap c')) (ts.mapM f)
      (ts'.mapM f') := by
  refine h.induct
    (motive := fun ts ts' => Related (fun as bs => List.Forall₂ Q (as.flatMap c) (bs.flatMap c'))
      (ts.mapM f) (ts'.mapM f'))
    (.ok .nil) (fun ht ih => ?_) (fun p ts ts' ih => ?_)
  · rw [List.mapM_cons, List.mapM_cons]
    refine (hf _ _ ht).bind fun a b hab => ?_
    refine ih.bind fun as bs hrest => .ok ?_
    rw [List.flatMap_cons, List.flatMap_cons]
    exact List.rel_append hab hrest
  · obtain ⟨b, hb, hnil⟩ := hcomment p
    rw [List.mapM_cons, except_bind_of_ok hb, ← bind_pure (ts.mapM f)]
    refine ih.bind fun as bs hrest => .ok ?_
    rw [List.flatMap_cons, hnil]
    exact hrest

/-! ### Members -/

section Members

variable {g g' : ModuleGraph (Except ε)} {u : Bool} {r r' : TypeRef}

theorem propertyOf_commented (hg : g.Commented g') (hr : r.Commented true r') {m m' : Member}
    (hm : m.Commented m') :
    Option.Rel (fun p p' => Property.Alike g g' p.name p p') (propertyOf r m)
      (propertyOf r' m') := by
  have hnamed : ∀ (name : PropertyName) {o o' : Property.Origin},
      (∀ n, Related Text.Alike (Property.typeText g ⟨n, o⟩) (Property.typeText g' ⟨n, o'⟩)) →
      Option.Rel (fun p p' => Property.Alike g g' p.name p p')
        (name.text?.map fun n => ⟨n, o⟩) (name.text?.map fun n => ⟨n, o'⟩) := by
    intro name o o' htext
    cases name.text? with
    | none => exact .none
    | some n => exact .some ⟨rfl, rfl, htext n⟩
  cases hm with
  | property name ht => exact hnamed name fun _ => hg.render (hr.withType ht)
  | untyped name => exact hnamed name fun _ => .ok (.refl _)
  | method name hp => exact hnamed name fun _ => .ok (Text.Commented.alike hp).2
  | signature => exact .none

theorem membersOf_commented (hg : g.Commented g') (hr : r.Commented true r')
    {ms ms' : List Member} (hms : List.Forall₂ Member.Commented ms ms') :
    Table.Related (Property.Alike g g') (membersOf r ms) (membersOf r' ms') := by
  have hproperties : List.Forall₂ (fun p p' => Property.Alike g g' p.name p p')
      (ms.filterMap (propertyOf r)) (ms'.filterMap (propertyOf r')) :=
    List.rel_filterMap (fun _ _ hm => propertyOf_commented hg hr hm) hms
  refine List.rel_foldl (P := Table.Related (Property.Alike g g')) (fun t t' ht p p' hp => ?_)
    .nil hproperties
  rw [hp.right]
  exact ht.set hp

end Members

/-! ### Literal keys -/

mutual

theorem alternatives_commented : ∀ {t t' : TypeExpr}, TypeExpr.Commented true t t' →
    PartsCommented true true (alternatives t) (alternatives t')
  | _, _, .union _ hts => alternativesOf_commented hts
  | _, _, .object hp hms => .cons (.object hp hms) .nil
  | _, _, .name hp => .cons (.name hp) .nil
  | _, _, .generic hp hh hts => .cons (.generic hp hh hts) .nil
  | _, _, .intersection hp hts => .cons (.intersection hp hts) .nil
  | _, _, .parenthesized hp ht => .cons (.parenthesized hp ht) .nil
  | _, _, .literal contents hp => .cons (.literal contents hp) .nil
  | _, _, .comment hp => .cons (.comment hp) .nil
  | _, _, .other kind hp => .cons (.other kind hp) .nil

theorem alternativesOf_commented : ∀ {ts ts' : List TypeExpr}, PartsCommented true true ts ts' →
    PartsCommented true true (alternativesOf ts) (alternativesOf ts')
  | _, _, .nil => .nil
  | _, _, .cons ht hts => (alternatives_commented ht).append (alternativesOf_commented hts)
  | _, _, .comment p hts => .comment p (alternativesOf_commented hts)

end

theorem literalText?_commented {u : Bool} {t t' : TypeExpr} (h : t.Commented u t') :
    literalText? t = literalText? t' := by
  cases h <;> rfl

theorem literalTexts_commented {u free : Bool} {ts ts' : List TypeExpr}
    (h : PartsCommented u free ts ts') :
    ts.filterMap literalText? = ts'.filterMap literalText? := by
  refine h.induct
    (motive := fun ts ts' => ts.filterMap literalText? = ts'.filterMap literalText?)
    rfl (fun ht ih => ?_) (fun p _ _ ih => ?_)
  · rw [List.filterMap_cons, List.filterMap_cons, literalText?_commented ht, ih]
  · rw [List.filterMap_cons, ih]
    rfl

theorem firstAlias_commented {ds ds' : List DeclaredType}
    (h : List.Forall₂ DeclaredType.Commented ds ds') :
    Option.Rel (fun x x' => TypeAlias.Commented x.1 x'.1 ∧ x.2 = x'.2) (firstAlias ds)
      (firstAlias ds') := by
  induction h with
  | nil => exact .none
  | @cons d d' _ _ hd _ ih =>
    obtain ⟨declaration, file⟩ := d
    obtain ⟨declaration', file'⟩ := d'
    obtain ⟨hdeclaration, rfl⟩ := hd
    cases hdeclaration with
    | «alias» ha => exact .some ⟨ha, rfl⟩
    | interface => exact ih

theorem ModuleGraph.Commented.literalKeys {g g' : ModuleGraph (Except ε)} (hg : g.Commented g')
    (steps : Nat) {r r' : TypeRef} (hr : r.Commented true r') :
    Related Eq (literalKeys g steps r) (literalKeys g' steps r') := by
  induction steps generalizing r r' with
  | zero => exact .ok (literalTexts_commented (alternatives_commented hr.type))
  | succ k ih =>
    rw [RouteLint.literalKeys, RouteLint.literalKeys, ← hr.file_eq]
    refine Related.bind (R := fun kss kss' => List.Forall₂ Eq (kss.flatMap id) (kss'.flatMap id))
      (PartsCommented.collect (fun t t' ht => ?_) (fun p => ⟨[], rfl, rfl⟩)
        (alternatives_commented hr.type)) fun kss kss' hkss => .ok ?_
    · have hliteral := literalText?_commented ht
      cases ht with
      | @name _ p p' hp =>
        dsimp only
        rw [← hp]
        have hsame : ∀ a b : List String, a = b → List.Forall₂ Eq (id a) (id b) :=
          fun a b hab => List.forall₂_eq_eq_eq.symm ▸ hab
        rcases optionRel_cases (hr.bindings.get? p.text) with
          ⟨hget, hget'⟩ | ⟨b, b', hget, hget', hb⟩
        · rw [hget, hget']
          refine (hg.visibleTypes r.file p.text).bind fun ds ds' hds => ?_
          rcases optionRel_cases (firstAlias_commented hds) with
            ⟨hfirst, hfirst'⟩ | ⟨⟨a, file⟩, ⟨a', file'⟩, hfirst, hfirst', ha, rfl⟩
          · rw [hfirst, hfirst']
            exact .ok .nil
          · rw [hfirst, hfirst']
            exact (ih (.mk file ha.value.into .nil)).imp hsame
        · rw [hget, hget']
          exact (ih hb).imp hsame
      | object | generic | union | intersection | parenthesized | literal | comment | other =>
        refine .ok ?_
        rw [List.forall₂_eq_eq_eq, hliteral]
    · rw [List.forall₂_eq_eq_eq] at hkss
      simpa using hkss

/-! ### Intersections -/

section Parts

variable {g g' : ModuleGraph (Except ε)}

theorem intersectProperty_alike {before before' : Table String Property}
    (hbefore : Table.Related (Property.Alike g g') before before') {name : String}
    {p p' : Property} (hp : Property.Alike g g' name p p') :
    Related (Table.Related (Property.Alike g g')) (intersectProperty g before p)
      (intersectProperty g' before' p') := by
  obtain ⟨rfl, hname, htext⟩ := hp
  unfold intersectProperty
  rw [hname]
  rcases optionRel_cases (hbefore.get? p.name) with ⟨hget, hget'⟩ | ⟨q, q', hget, hget', hq⟩
  · rw [hget, hget']
    exact .ok (hbefore.set ⟨rfl, hname, htext⟩)
  · rw [hget, hget']
    refine hq.text.bind fun a a' ha => htext.bind fun b b' hb => .ok (hbefore.set ⟨rfl, rfl, ?_⟩)
    exact .ok (.join (by decide) ha.mentions hb.mentions)

/-- An intersection has the properties of its parts. -/
theorem intersect_alike {ts ts' : List ResolvedType}
    (h : List.Forall₂ (fun p p' => ∃ name, Property.Alike g g' name p p')
      (ts.flatMap fun t => t.properties.values) (ts'.flatMap fun t => t.properties.values)) :
    Related (ResolvedType.Alike g g') (intersect g ts) (intersect g' ts') := by
  unfold intersect
  refine (Related.foldlM h (R := Table.Related (Property.Alike g g')) ?_ .nil).bind
    fun properties properties' hproperties => .ok hproperties
  intro before before' p p' hbefore hp
  obtain ⟨name, hp⟩ := hp
  exact intersectProperty_alike hbefore hp

/-! ### Unions -/

/-- The texts of a union are put together without repetitions. -/
def unitedText (texts : List String) : String := " | ".intercalate (distinct texts)

theorem mentionsWrapper_unitedText (texts : List String) :
    mentionsWrapper (unitedText texts) = texts.any mentionsWrapper := by
  have hdistinct : distinct texts = once texts := rfl
  rw [unitedText, mentionsWrapper_intercalate (by decide), hdistinct, Bool.eq_iff_iff,
    List.any_eq_true, List.any_eq_true]
  exact exists_congr fun text => and_congr_left' mem_once

theorem isEmpty_unitedText (texts : List String) :
    (unitedText texts).isEmpty = texts.all String.isEmpty := by
  have hdistinct : distinct texts = once texts := rfl
  have hall : texts.all String.isEmpty = (once texts).all String.isEmpty := by
    rw [Bool.eq_iff_iff, List.all_eq_true, List.all_eq_true]
    exact forall_congr' fun text => imp_congr_left mem_once.symm
  have hnodup := nodup_once texts
  rw [unitedText, hdistinct, hall]
  revert hnodup
  cases once texts with
  | nil => exact fun _ => rfl
  | cons a rest =>
    cases rest with
    | nil => intro; simp [String.intercalate_singleton]
    | cons b rest =>
      -- of two different texts one is not empty
      intro hnodup
      rw [String.intercalate_cons_cons, Text.Alike.isEmpty_join (by decide), eq_comm,
        List.all_eq_false]
      by_cases ha : a.isEmpty = true
      · refine ⟨b, by simp, fun hb => ?_⟩
        rw [String.isEmpty_iff] at ha hb
        subst ha hb
        simp at hnodup
      · exact ⟨a, by simp, ha⟩

theorem unitedText_alike {texts texts' : List String} (h : List.Forall₂ Text.Alike texts texts') :
    Text.Alike (unitedText texts) (unitedText texts') where
  mentions := by
    rw [mentionsWrapper_unitedText, mentionsWrapper_unitedText, Text.Alike.any_mentions h]
  isEmpty := by
    rw [isEmpty_unitedText, isEmpty_unitedText]
    induction h with
    | nil => rfl
    | cons hab _ ih => rw [List.all_cons, List.all_cons, hab.isEmpty, ih]

/-- The property that all parts of a union have, and its text. -/
theorem uniteProperty_eq {p : Property} {others : List Property} {texts : List String}
    (h : (p :: others).mapM (Property.typeText g) = .ok texts) :
    ∃ q, uniteProperty g p others = .ok q ∧ q.name = p.name ∧
      q.typeText g = .ok (unitedText texts) := by
  have hall := forall₂_of_mapM_eq_ok h
  unfold uniteProperty
  rw [except_bind_of_ok h]
  split
  · next text hone =>
    -- all texts are the one, and the first of them is that of the first property
    refine ⟨p, rfl, rfl, ?_⟩
    rw [unitedText, hone, String.intercalate_singleton]
    cases hall with
    | @cons _ first _ rest hp _ =>
      have hmem : first ∈ distinct (first :: rest) := mem_once.2 List.mem_cons_self
      rw [hone, List.mem_singleton] at hmem
      rw [hp, hmem]
  · exact ⟨_, rfl, rfl, rfl⟩

theorem uniteProperty_alike {name : String} {p p' : Property} {others others' : List Property}
    (hp : Property.Alike g g' name p p')
    (hothers : List.Forall₂ (Property.Alike g g' name) others others') :
    Related (Property.Alike g g' name) (uniteProperty g p others)
      (uniteProperty g' p' others') := by
  have hall : List.Forall₂ (Property.Alike g g' name) (p :: others) (p' :: others') :=
    .cons hp hothers
  rcases (Related.mapM hall fun _ _ hq => hq.text).cases with
    ⟨texts, texts', htexts, htexts', halike⟩ | ⟨err, herr, herr'⟩
  · obtain ⟨q, hq, hname, htext⟩ := uniteProperty_eq htexts
    obtain ⟨q', hq', hname', htext'⟩ := uniteProperty_eq htexts'
    rw [hq, hq']
    refine .ok ⟨hname.trans hp.left, hname'.trans hp.right, ?_⟩
    rw [htext, htext']
    exact .ok (unitedText_alike halike)
  · unfold uniteProperty
    rw [except_bind_of_error herr, except_bind_of_error herr']
    exact .error err

/-- A union has the properties that all its parts have. -/
theorem unite_alike {ts ts' : List ResolvedType}
    (h : List.Forall₂ (ResolvedType.Alike g g') ts ts') :
    Related (ResolvedType.Alike g g') (unite g ts) (unite g' ts') := by
  unfold unite
  cases h with
  | nil => exact .ok .nil
  | @cons first first' others others' hfirst hothers =>
    have hcommon : ∀ name, (others.all fun t => t.properties.contains name) =
        others'.all fun t => t.properties.contains name := by
      intro name
      induction hothers with
      | nil => rfl
      | cons ht _ ih => rw [List.all_cons, List.all_cons, Table.Related.contains ht, ih]
    have hsame : ∀ name, List.Forall₂ (Property.Alike g g' name)
        (others.filterMap fun t => t.properties.get? name)
        (others'.filterMap fun t => t.properties.get? name) :=
      fun name => List.rel_filterMap (fun _ _ ht => Table.Related.get? ht name) hothers
    have hfiltered : Table.Related (Property.Alike g g')
        (first.properties.filter fun e => others.all fun t => t.properties.contains e.1)
        (first'.properties.filter fun e => others'.all fun t => t.properties.contains e.1) := by
      refine List.rel_filter (fun e e' he => ?_) hfirst
      dsimp only
      rw [← he.1, hcommon]
    dsimp only
    refine (Related.mapM hfiltered fun e e' he => ?_).bind
      fun properties properties' hproperties => .ok hproperties
    obtain ⟨name, p⟩ := e
    obtain ⟨name', p'⟩ := e'
    obtain ⟨rfl, hp⟩ := he
    exact (uniteProperty_alike hp (hsame name)).bind fun q q' hq => .ok ⟨rfl, hq⟩

end Parts

/-! ### Declarations -/

section Declared

variable {g g' : ModuleGraph (Except ε)} {resolve resolve' : TypeRef → Except ε ResolvedType}

theorem inherited_alike
    (hresolve : ∀ r r', r.Commented false r' →
      Related (ResolvedType.Alike g g') (resolve r) (resolve' r')) (file : Path)
    {bs bs' : Table String TypeRef} (hbs : Table.Related (fun _ => TypeRef.Commented false) bs bs')
    {before before' : Table String Property}
    (hbefore : Table.Related (Property.Alike g g') before before') {bases bases' : List TypeExpr}
    (hbases : List.Forall₂ (TypeExpr.Commented false) bases bases') :
    Related (Table.Related (Property.Alike g g')) (inherited resolve file bs before bases)
      (inherited resolve' file bs' before' bases') := by
  refine Related.foldlM hbases (fun before before' base base' hbefore hbase => ?_) hbefore
  refine (hresolve _ _ (.of_related file hbase hbs)).bind fun t t' ht => .ok ?_
  refine List.rel_foldl (P := Table.Related (Property.Alike g g')) (fun _ _ h e e' he => ?_)
    hbefore ht
  rw [← he.1]
  exact h.setDefault he.2

/-- Own and inherited properties of the declarations of an interface. -/
theorem interfaceProperties_alike (hg : g.Commented g')
    (hresolve : ∀ r r', r.Commented false r' →
      Related (ResolvedType.Alike g g') (resolve r) (resolve' r'))
    {as as' : List TypeRef} (has : List.Forall₂ (TypeRef.Commented false) as as')
    {ds ds' : List DeclaredType} (hds : List.Forall₂ DeclaredType.Commented ds ds')
    {own own' above above' : Table String Property}
    (hown : Table.Related (Property.Alike g g') own own')
    (habove : Table.Related (Property.Alike g g') above above') :
    Related (fun x x' => Table.Related (Property.Alike g g') x.1 x'.1 ∧
        Table.Related (Property.Alike g g') x.2 x'.2)
      (interfaceProperties resolve as ds own above)
      (interfaceProperties resolve' as' ds' own' above') := by
  induction hds generalizing own own' above above' with
  | nil => exact .ok ⟨hown, habove⟩
  | @cons d d' _ _ hd _ ih =>
    obtain ⟨declaration, file⟩ := d
    obtain ⟨declaration', file'⟩ := d'
    obtain ⟨hdeclaration, rfl⟩ := hd
    cases hdeclaration with
    | «alias» => exact ih hown habove
    | interface hi =>
      have hbindings := bind_commented file hi.parameters has
      have hmembers := membersOf_commented hg
        (TypeRef.Commented.of_related file (TypeExpr.commented_refl false default) hbindings).loosen
        hi.members
      refine (inherited_alike hresolve file hbindings habove hi.bases).bind
        fun above above' habove => ?_
      exact ih (hown.merge hmembers) habove

theorem resolveDeclared_alike (hg : g.Commented g')
    (hresolve : ∀ r r', r.Commented false r' →
      Related (ResolvedType.Alike g g') (resolve r) (resolve' r'))
    {text text' : Except ε String} (htext : Related Text.Alike text text')
    {ds ds' : List DeclaredType} (hds : List.Forall₂ DeclaredType.Commented ds ds')
    {as as' : List TypeRef} (has : List.Forall₂ (TypeRef.Commented false) as as') :
    Related (ResolvedType.Alike g g') (resolveDeclared resolve text ds as)
      (resolveDeclared resolve' text' ds' as') := by
  have hinterface : Related (ResolvedType.Alike g g')
      (do
        let both ← interfaceProperties resolve as ds [] []
        return ⟨← text, both.2.merge both.1⟩)
      (do
        let both ← interfaceProperties resolve' as' ds' [] []
        return ⟨← text', both.2.merge both.1⟩) := by
    refine (interfaceProperties_alike hg hresolve has hds .nil .nil).bind fun x x' hx => ?_
    exact htext.bind fun _ _ _ => .ok (hx.2.merge hx.1)
  unfold resolveDeclared
  cases hds with
  | nil => exact hinterface
  | @cons d d' _ _ hd _ =>
    obtain ⟨declaration, file⟩ := d
    obtain ⟨declaration', file'⟩ := d'
    obtain ⟨hdeclaration, rfl⟩ := hd
    cases hdeclaration with
    | «alias» ha => exact hresolve _ _ (aliased_commented file ha has)
    | interface => exact hinterface

theorem keyedProperties_alike (hg : g.Commented g') {r r' : TypeRef} (hr : r.Commented true r')
    (keys : List String) :
    Table.Related (Property.Alike g g') (keyedProperties r keys) (keyedProperties r' keys) := by
  have hkeys : List.Forall₂ Eq keys keys := List.forall₂_same.2 fun _ _ => rfl
  refine List.rel_foldl (P := Table.Related (Property.Alike g g')) (fun _ _ h k k' hk => ?_) .nil
    hkeys
  subst hk
  exact h.set ⟨rfl, rfl, hg.render hr⟩

theorem resolveBuiltin_alike (hg : g.Commented g')
    (hresolve : ∀ r r', r.Commented false r' →
      Related (ResolvedType.Alike g g') (resolve r) (resolve' r'))
    {keys keys' : TypeRef → Except ε (List String)}
    (hkeys : ∀ r r', r.Commented true r' → Related Eq (keys r) (keys' r'))
    {text text' : Except ε String} (htext : Related Text.Alike text text') (name : String)
    {as as' : List TypeRef} (has : List.Forall₂ (TypeRef.Commented false) as as') :
    Related (ResolvedType.Alike g g') (resolveBuiltin resolve keys text name as)
      (resolveBuiltin resolve' keys' text' name as') := by
  have hempty : Related (ResolvedType.Alike g g') (do return ⟨← text, []⟩)
      (do return ⟨← text', []⟩) := htext.bind fun _ _ _ => .ok .nil
  unfold resolveBuiltin
  cases has with
  | nil => exact hempty
  | cons hfirst hothers =>
    dsimp only
    split
    · refine (hresolve _ _ hfirst).bind fun t t' ht => ?_
      exact htext.bind fun _ _ _ => .ok ht
    · cases hothers with
      | nil => exact hempty
      | cons hvalue hothers =>
        cases hothers with
        | cons => exact hempty
        | nil =>
          dsimp only
          split
          · refine (hkeys _ _ hfirst.loosen).bind fun ks ks' hks => ?_
            subst hks
            exact htext.bind fun _ _ _ => .ok (keyedProperties_alike hg hvalue.loosen ks)
          · exact hempty

end Declared

/-! ### Resolving -/

namespace ModuleGraph.Commented

variable {g g' : ModuleGraph (Except ε)}

theorem resolveFrom (hg : g.Commented g') (steps : Nat) {r r' : TypeRef}
    (hr : r.Commented false r') :
    Related (ResolvedType.Alike g g') (resolveFrom g steps r) (resolveFrom g' steps r') := by
  induction steps generalizing r r' with
  | zero => exact .ok .nil
  | succ k ih =>
    have hresolve : ∀ r r', r.Commented false r' → Related (ResolvedType.Alike g g')
        (RouteLint.resolveFrom g k r) (RouteLint.resolveFrom g' k r') := fun _ _ h => ih h
    have htext := hg.renderFrom (k + 1) hr.loosen
    -- types without properties
    have hplain : Related (ResolvedType.Alike g g')
        (do return ⟨← RouteLint.renderFrom g (k + 1) r, []⟩)
        (do return ⟨← RouteLint.renderFrom g' (k + 1) r', []⟩) := htext.bind fun _ _ _ => .ok .nil
    have htype := hr.type
    rw [RouteLint.resolveFrom, RouteLint.resolveFrom, ← hr.file_eq]
    revert htype
    generalize r.type = t
    generalize r'.type = t'
    intro htype
    cases htype with
    | parenthesized _ ht => exact ih (hr.withType ht)
    | @name _ p p' hp =>
      dsimp only
      rw [← hp]
      rcases optionRel_cases (hr.bindings.get? p.text) with
        ⟨hget, hget'⟩ | ⟨b, b', hget, hget', hb⟩
      · rw [hget, hget']
        refine (hg.visibleTypes r.file p.text).bind fun ds ds' hds => ?_
        cases hds with
        | nil => exact .ok .nil
        | cons hd hds => exact resolveDeclared_alike hg hresolve htext (.cons hd hds) .nil
      · rw [hget, hget']
        exact ih hb
    | @generic _ _ _ head head' ts ts' _ hhead hts =>
      have hargs := hr.map_withType hts.forall₂
      dsimp only
      rcases hhead with rfl | ⟨hnot, hnot', -⟩
      · rw [hr.bindings.contains head.text]
        split
        · refine (hg.visibleTypes r.file head.text).bind fun ds ds' hds => ?_
          cases hds with
          | nil =>
            exact resolveBuiltin_alike hg hresolve (fun _ _ h => hg.literalKeys k h) htext _ hargs
          | cons hd hds => exact resolveDeclared_alike hg hresolve htext (.cons hd hds) hargs
        · exact hplain
      · rw [hnot, hnot']
        exact hplain
    | object _ hms =>
      exact htext.bind fun _ _ _ => .ok (membersOf_commented hg hr.loosen hms.forall₂)
    | intersection _ hts =>
      refine Related.bind (PartsCommented.collect (fun t t' ht => ?_) (fun p => ?_) hts)
        fun _ _ h => intersect_alike h
      · exact (ih (hr.withType ht)).imp fun _ _ h => Table.Related.values h
      · cases k with
        | zero => exact ⟨_, rfl, rfl⟩
        | succ k => exact ⟨_, rfl, rfl⟩
    | union _ hts =>
      exact (Related.mapM hts.forall₂ fun t t' ht => ih (hr.withType ht)).bind
        fun _ _ h => unite_alike h
    | literal | comment | other => exact hplain

/-- **Comments are not seen in the properties of a type.** -/
theorem resolve (hg : g.Commented g') {r r' : TypeRef} (hr : r.Commented false r') :
    Related (ResolvedType.Alike g g') (resolve g r) (resolve g' r') :=
  hg.resolveFrom (maxDepth + 1) hr

end ModuleGraph.Commented

end RouteLint
