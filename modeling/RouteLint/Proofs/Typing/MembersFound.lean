import RouteLint.Proofs.Data.Attempts
import RouteLint.Proofs.Typing.PropertyTables

/-!
# Resolving a type finds its members

Whatever a module graph is asked in, as long as its answers say what names stand for, the
properties that resolving a type finds are members of the type by the rules, and they are all of
them if the type is settled in the steps that there are.  Each function of the resolution gets one
lemma, in the order of their definitions.

## Main definitions

* `Finds` — what is known about the properties of a resolved type.
* `FindsKeys` — what is known about the literals that a type consists of.

## Main results

* `resolveDeclared_ensures` — the properties of what is declared.
* `literalKeys_ensures` — the keys of a record.
* `resolveFrom_ensures` — **the properties of a type.**
-/

namespace RouteLint

open Syntax

variable {m : Type → Type} [Monad m] [LawfulMonad m] {A : Assurance m} {g : ModuleGraph m}
  {V : Visibility} {x : String}

/-! ### Declarations -/

/-- What is known about the properties of a type after resolving it in a number of steps. -/
structure Finds (V : Visibility) (x : String) (n : Nat) (r : TypeRef) (t : ResolvedType) :
    Prop where
  named : PropertiesNamed t.properties
  sound : t.properties.contains x = true → HasMember V r x
  complete : Settled V n r → HasMember V r x → t.properties.contains x = true

namespace Finds

variable {n : Nat} {r r' : TypeRef} {t : ResolvedType}

theorem of_adds {P Q : Prop} (h : Adds x [] t.properties P Q) (hsound : P → HasMember V r x)
    (hcomplete : Settled V n r → HasMember V r x → Q) : Finds V x n r t where
  named := h.named propertiesNamed_nil
  sound hx := hsound ((h.sound hx).resolve_left nofun)
  complete hsettled hx := h.complete (hcomplete hsettled hx)

theorem of_not_hasMember {text : String} (h : ¬HasMember V r x) : Finds V x n r ⟨text, []⟩ :=
  of_adds (.refl []) False.elim fun _ => h

end Finds

theorem named_of_forall₂ {n : Nat} {r : TypeRef} {ts : List TypeExpr} {us : List ResolvedType}
    (h : List.Forall₂ (fun t u => Finds V x n (r.withType t) u) ts us) :
    ∀ u ∈ us, PropertiesNamed u.properties := by
  intro u hu
  obtain ⟨t, -, hfound⟩ := exists_left_of_forall₂ h hu
  exact hfound.named

theorem Settled.of_leads {n : Nat} {r r' : TypeRef} (h : Settled V (n + 1) r)
    (hleads : Leads V r r') : Settled V n r' := by
  cases h with
  | mk hall _ => exact hall r' hleads

theorem Settled.keys {n : Nat} {r keys : TypeRef} (h : Settled V (n + 1) r)
    (hkeys : HasKeys V r keys) : KeysSettled V n keys := by
  cases h with
  | mk _ hall => exact hall keys hkeys

/-- What is found of a type that has the members of another one. -/
theorem Finds.step {n : Nat} {r r' : TypeRef} {t u : ResolvedType} (h : Finds V x n r' t)
    (htu : u.properties = t.properties) (hleads : Leads V r r')
    (hiff : HasMember V r x ↔ HasMember V r' x) : Finds V x (n + 1) r u where
  named := htu ▸ h.named
  sound hx := hiff.2 (h.sound (htu ▸ hx))
  complete hsettled hx := htu ▸ h.complete (hsettled.of_leads hleads) (hiff.1 hx)

variable {n : Nat} {resolve : TypeRef → m ResolvedType}

/-- What an interface extends adds its properties. -/
theorem inherited_ensures {file : Path} {bindings : Table String TypeRef} {bases : List TypeExpr}
    (hresolve : ∀ t ∈ bases, A.Ensures (resolve ⟨t, file, bindings⟩)
      (Finds V x n ⟨t, file, bindings⟩)) (before : Table String Property) :
    A.Ensures (inherited resolve file bindings before bases) fun after =>
      Adds x before after (∃ t ∈ bases, HasMember V ⟨t, file, bindings⟩ x)
        (∃ t ∈ bases, Settled V n ⟨t, file, bindings⟩ ∧ HasMember V ⟨t, file, bindings⟩ x) := by
  refine Adds.foldlM (fun t ht before => ?_) before
  refine A.bind (hresolve t ht) fun u hu => A.pure ?_
  exact (Adds.setDefaults hu.named before).imp hu.sound fun hx => hu.complete hx.1 hx.2

/-- The declarations of an interface add their own members, and apart from these what they
extend. -/
theorem interfaceProperties_ensures {ds : List DeclaredType} {args : List TypeRef}
    (hresolve : ∀ r', IsBase ds args r' → A.Ensures (resolve r') (Finds V x n r'))
    (own above : Table String Property) :
    A.Ensures (interfaceProperties resolve args ds own above) fun both =>
      Adds x own both.1 (IsOwn ds x) (IsOwn ds x) ∧
      Adds x above both.2 (∃ r', IsBase ds args r' ∧ HasMember V r' x)
        (∃ r', IsBase ds args r' ∧ Settled V n r' ∧ HasMember V r' x) := by
  induction ds generalizing own above with
  | nil =>
    exact A.pure ⟨(Adds.refl own).imp False.elim (by simp [IsOwn]),
      (Adds.refl above).imp False.elim (by simp [IsBase])⟩
  | cons d ds ih =>
    obtain ⟨a | i, file⟩ := d
    · rw [interfaceProperties]
      simp only [isOwn_alias, isBase_alias] at hresolve ⊢
      exact ih hresolve own above
    · simp only [isBase_interface, or_imp, forall_and, forall_exists_index, and_imp] at hresolve
      obtain ⟨hbases, hothers⟩ := hresolve
      rw [interfaceProperties]
      refine A.bind (inherited_ensures (fun t ht => hbases _ t ht rfl) above) fun above' habove => ?_
      refine A.mono (ih hothers _ above') fun both hboth => ⟨?_, ?_⟩
      · have hmerge := Adds.merge (x := x)
          (propertiesNamed_membersOf ⟨default, file, bind file i.parameters args⟩ i.members) own
        rw [contains_membersOf_iff] at hmerge
        exact (hmerge.trans hboth.1).imp isOwn_interface.2 isOwn_interface.1
      · exact (habove.trans hboth.2).imp
          (exists_isBase_interface (P := fun r' => HasMember V r' x)).2
          (exists_isBase_interface (P := fun r' => Settled V n r' ∧ HasMember V r' x)).1

/-- A name that is declared has the properties that its declarations give it. -/
theorem resolveDeclared_ensures (hV : V.Definite) {r : TypeRef} {name : String}
    {ds : List DeclaredType} {args : List TypeRef} {text : m String}
    (h : Refers V r name ds args) (hne : ds ≠ [])
    (hresolve : ∀ r', Leads V r r' → A.Ensures (resolve r') (Finds V x n r'))
    (htext : A.Ensures text fun _ => True) :
    A.Ensures (resolveDeclared resolve text ds args) (Finds V x (n + 1) r) := by
  -- declarations that do not start with an alias are those of an interface
  have hinterface (hds : NoAlias ds) : A.Ensures
      (do
        let both ← interfaceProperties resolve args ds [] []
        return ⟨← text, both.2.merge both.1⟩) (Finds V x (n + 1) r) := by
    have hleads : ∀ r', IsBase ds args r' → Leads V r r' :=
      fun r' hbase => (h.leads_iff hV).2 (.inr (.inl ⟨hds, hbase⟩))
    refine A.bind (interfaceProperties_ensures (fun r' hbase => hresolve r' (hleads r' hbase)) [] [])
      fun both hboth => ?_
    obtain ⟨hown, habove⟩ := hboth
    refine A.bind htext fun t _ => A.pure ?_
    have hmerge := (habove.trans (Adds.merge (x := x) (hown.named propertiesNamed_nil) both.2))
    refine Finds.of_adds hmerge ?_ ?_
    · rintro (hx | hx)
      · exact (hasMember_interface_iff hV h hne hds).2 (.inr hx)
      · exact (hasMember_interface_iff hV h hne hds).2 (.inl ((hown.sound hx).resolve_left nofun))
    · intro hsettled hx
      rcases (hasMember_interface_iff hV h hne hds).1 hx with hx | ⟨r', hr', hx⟩
      · exact .inr (hown.complete hx)
      · exact .inl ⟨r', hr', hsettled.of_leads (hleads r' hr'), hx⟩
  rcases ds with _ | ⟨⟨a | i, file⟩, ds⟩
  · exact absurd rfl hne
  · have halias : Leads V r (aliased file a args) := .shares (.follows (.alias h))
    exact A.mono (hresolve _ halias) fun t ht => ht.step rfl halias (hasMember_alias_iff hV h)
  · exact hinterface (by simp [NoAlias])

/-! ### Literal keys -/

/-- What is known about the literals that are found in a number of steps. -/
structure FindsKeys (V : Visibility) (x : String) (n : Nat) (r : TypeRef) (ks : List String) :
    Prop where
  sound : x ∈ ks → Denotes V r x
  complete : KeysSettled V n r → Denotes V r x → x ∈ ks

namespace FindsKeys

variable {n : Nat} {r r' : TypeRef} {ks : List String}

/-- What is found of a name that stands for another type. -/
theorem step (hV : V.Definite) (h : FindsKeys V x n r' ks) (hf : Follows V r r') :
    FindsKeys V x (n + 1) r ks where
  sound hx := (denotes_follows_iff hV hf).2 (h.sound hx)
  complete hsettled hx := h.complete (hsettled.follows hf) ((denotes_follows_iff hV hf).1 hx)

/-- What is found of a type that stands for no other one. -/
theorem literal (hparts : ∀ r', ¬KeyPart r r')
    (hfollows : KeysSettled V n r → ∀ r', ¬Follows V r r') :
    FindsKeys V x n r (literalText? r.type).toList where
  sound hx := by
    rw [Option.mem_toList] at hx
    cases hr : r.type with
    | literal p s =>
      rw [hr] at hx
      obtain rfl : s = some x := hx
      exact .literal hr
    | object | name | generic | union | intersection | parenthesized | comment | other =>
      rw [hr] at hx
      cases hx
  complete hsettled hx := by
    rw [Option.mem_toList]
    exact (denotes_literal_iff hparts (hfollows hsettled)).1 hx

/-- What is found of a type is what is found of its alternatives. -/
theorem of_alternatives {kss : List (List String)}
    (h : List.Forall₂ (fun t ks => FindsKeys V x n (r.withType t) ks) (alternatives r.type) kss) :
    FindsKeys V x n r kss.flatten := by
  have hparts : ∀ t ∈ alternatives r.type, Relation.ReflTransGen KeyPart r (r.withType t) := by
    intro t ht
    have hpart := (keyPart_of_mem_alternatives r r.type t ht).1
    rwa [TypeRef.withType_type] at hpart
  constructor
  · intro hx
    obtain ⟨ks, hks, hx⟩ := List.mem_flatten.1 hx
    obtain ⟨t, ht, hfound⟩ := exists_left_of_forall₂ h hks
    exact (hfound.sound hx).of_parts (hparts t ht)
  · intro hsettled hx
    obtain ⟨t, ht, hx⟩ := hx.alternative
    obtain ⟨ks, hks, hfound⟩ := exists_left_of_forall₂ h.flip ht
    exact List.mem_flatten.2 ⟨ks, hks, hfound.complete (hsettled.parts (hparts t ht)) hx⟩

end FindsKeys

/-- The string literals of a type are found if its keys are plain. -/
theorem literalKeys_ensures (h : A.Shows g V) (n : Nat) {r : TypeRef} (hr : PlainKeys V r) :
    A.Ensures (literalKeys g n r) (FindsKeys V x n r) := by
  induction n generalizing r with
  | zero =>
    have hliterals : (alternatives r.type).filterMap literalText? =
        ((alternatives r.type).map fun t => (literalText? t).toList).flatten := by
      rw [List.filterMap_eq_flatMap_toList, List.flatMap]
    rw [literalKeys, hliterals]
    refine A.pure (.of_alternatives (List.forall₂_map_right_iff.2 (List.forall₂_same.2 ?_)))
    intro t ht
    obtain ⟨hplain, hunion⟩ := hr.alternative ht
    exact .literal (fun _ => hplain.self.not_keyPart hunion) fun hsettled _ =>
      hsettled.not_follows
  | succ n ih =>
    rw [literalKeys]
    refine A.bind (Assurance.mapM (R := fun t ks => FindsKeys V x (n + 1) (r.withType t) ks) _
      fun t ht => ?_) fun kss hkss => A.pure (.of_alternatives hkss)
    obtain ⟨hplain, hunion⟩ := hr.alternative ht
    have hparts : ∀ r', ¬KeyPart (r.withType t) r' := fun _ => hplain.self.not_keyPart hunion
    cases t with
    | name p =>
      dsimp only
      cases hbound : r.bindings.get? p.text with
      | some b =>
        have hf : Follows V (r.withType (.name p)) b := .parameter rfl hbound
        exact A.mono (ih (hplain.follows hf)) fun ks hks => hks.step h.definite hf
      | none =>
        refine A.bind (h.types r.file p.text) fun ds hds => ?_
        have hrefers : Refers V (r.withType (.name p)) p.text ds [] := .name rfl hbound hds
        obtain ⟨a, file, rest, rfl, hfirst, hvalue⟩ | ⟨hnone, hfirst⟩ :=
          hplain.self.firstAlias rfl hrefers
        · -- the alias binds nothing, so that its value stands for itself without bindings
          have hf : Follows V (r.withType (.name p)) (aliased file a []) := .alias hrefers
          have hks := A.mono (ih (hplain.follows hf)) fun ks hks => hks.step h.definite hf
          rw [hfirst]
          rwa [hvalue] at hks
        · rw [hfirst]
          exact A.pure (.literal hparts fun _ _ => not_follows_of_noAlias h.definite hrefers hnone)
    | generic p head ts =>
      exact A.pure (.literal hparts fun _ => hplain.self.arguments p head ts rfl)
    | object | union | intersection | parenthesized | literal | comment | other =>
      exact A.pure (.literal hparts fun _ _ => not_follows nofun nofun)

/-! ### Generic types that are known -/

omit [LawfulMonad m] in
/-- A generic type that is declared nowhere has the properties of its first argument, or those that
its keys name, or none. -/
theorem resolveBuiltin_ensures (hV : V.Definite) {keys : TypeRef → m (List String)}
    {text : m String} {r : TypeRef} {name : String} {args : List TypeRef}
    (h : Refers V r name [] args)
    (hresolve : ∀ r', Leads V r r' → A.Ensures (resolve r') (Finds V x n r'))
    (hkeys : ∀ r', HasKeys V r r' → A.Ensures (keys r') (FindsKeys V x n r'))
    (htext : A.Ensures text fun _ => True) :
    A.Ensures (resolveBuiltin resolve keys text name args) (Finds V x (n + 1) r) := by
  have hiff := hasMember_builtin_iff (x := x) hV h
  -- a type of which only the text is known
  have hplain (hnone : ¬HasMember V r x) :
      A.Ensures (do return ⟨← text, []⟩) (Finds V x (n + 1) r) :=
    A.bind htext fun t _ => A.pure (.of_not_hasMember hnone)
  unfold resolveBuiltin
  cases args with
  | nil => exact hplain (by simp [hiff])
  | cons first others =>
    dsimp only
    split
    · next hname =>
      have hmem : name ∈ transparentGenerics := List.contains_iff_mem.1 hname
      have hrecord : name ≠ "Record" := fun hrecord => by
        rw [hrecord] at hmem
        exact absurd hmem (by decide)
      have hleads : Leads V r first := .shares (.argument h hmem)
      refine A.bind (hresolve first hleads) fun t ht => A.bind htext fun text _ => A.pure ?_
      exact ht.step rfl hleads (by simp [hiff, hmem, hrecord])
    · next hname =>
      have hmem : name ∉ transparentGenerics := fun hmem => hname (List.contains_iff_mem.2 hmem)
      rcases others with _ | ⟨value, _ | ⟨other, others⟩⟩
      · exact hplain (by simp [hiff, hmem])
      · dsimp only
        split
        · next hrecord =>
          have hfirst : HasKeys V r first := (h.hasKeys_iff hV).2 ⟨hrecord, rfl, value, rfl⟩
          have hx : HasMember V r x ↔ Denotes V first x := by
            rw [hiff, or_iff_right fun hname => hmem hname.1]
            simp [hrecord]
          refine A.bind (hkeys first hfirst) fun ks hks => A.bind htext fun text _ => A.pure ?_
          exact .of_adds (adds_keyedProperties value ks) (fun hk => hx.2 (hks.sound hk))
            fun hsettled hr => hks.complete (hsettled.keys hfirst) (hx.1 hr)
        · next hrecord => exact hplain (by simp [hiff, hmem, hrecord])
      · exact hplain (by simp [hiff, hmem])

/-! ### Resolving -/

theorem Uncommented.of_leads {r r' : TypeRef} (hr : Uncommented V r) (h : Leads V r r') :
    Uncommented V r' :=
  fun r'' hr'' => hr r'' (.head h hr'')

theorem PlainlyKeyed.of_leads {r r' : TypeRef} (hr : PlainlyKeyed V r) (h : Leads V r r') :
    PlainlyKeyed V r' :=
  fun r'' hr'' => hr r'' (.head h hr'')

/-- **Resolving a type finds members of it, and if the steps suffice all of them.** -/
theorem resolveFrom_ensures (h : A.Shows g V) (n : Nat) {r : TypeRef} (hr : Uncommented V r)
    (hplain : PlainlyKeyed V r) : A.Ensures (resolveFrom g n r) (Finds V x n r) := by
  -- on the steps: every type that matters for this one is resolved in one step less, and what is
  -- asked of this one holds of it as well
  induction n generalizing r with
  | zero =>
    -- nothing is settled in no steps
    exact A.pure ⟨propertiesNamed_nil, nofun, nofun⟩
  | succ n ih =>
    have htext := h.renderFrom (n + 1) r
    have hresolve : ∀ r', Leads V r r' → A.Ensures (resolveFrom g n r') (Finds V x n r') :=
      fun r' hleads => ih (hr.of_leads hleads) (hplain.of_leads hleads)
    have hkeys : ∀ keys, HasKeys V r keys → A.Ensures (literalKeys g n keys)
        (FindsKeys V x n keys) := fun keys hkeys => literalKeys_ensures h n (hplain r .refl keys hkeys)
    -- a type of which only the text is known
    have hbare (hnone : ¬HasMember V r x) :
        A.Ensures (do return ⟨← renderFrom g (n + 1) r, []⟩) (Finds V x (n + 1) r) :=
      A.bind htext fun t _ => A.pure (.of_not_hasMember hnone)
    rw [resolveFrom]
    cases htype : r.type with
    | parenthesized p inner =>
      have hleads : Leads V r (r.withType inner) := .shares (.parenthesized htype)
      exact A.mono (hresolve _ hleads) fun t ht =>
        ht.step rfl hleads (hasMember_parenthesized_iff htype)
    | object p ms =>
      have hiff := hasMember_object_iff (V := V) (x := x) htype
      refine A.bind htext fun text _ => A.pure ⟨propertiesNamed_membersOf r ms, ?_, ?_⟩
      · exact fun hx => hiff.2 (contains_membersOf_iff.1 hx)
      · exact fun _ hx => contains_membersOf_iff.2 (hiff.1 hx)
    | literal | comment | other => exact hbare (not_hasMember_formless (by simp [htype, Formless]))
    | name p =>
      dsimp only
      cases hbound : r.bindings.get? p.text with
      | some b =>
        have hleads : Leads V r b := .shares (.follows (.parameter htype hbound))
        exact A.mono (hresolve b hleads) fun t ht =>
          ht.step rfl hleads (hasMember_parameter_iff htype hbound)
      | none =>
        refine A.bind (h.types r.file p.text) fun ds hds => ?_
        have hrefers : Refers V r p.text ds [] := .name htype hbound hds
        cases ds with
        | nil =>
          exact A.pure (.of_not_hasMember (by simp [hasMember_builtin_iff h.definite hrefers]))
        | cons d ds =>
          exact resolveDeclared_ensures h.definite hrefers (List.cons_ne_nil d ds) hresolve htext
    | generic p head ts =>
      dsimp only
      split
      · next hhead =>
        obtain ⟨hhead, hfree⟩ := Bool.and_eq_true_iff.1 hhead
        refine A.bind (h.types r.file head.text) fun ds hds => ?_
        have hrefers : Refers V r head.text ds (ts.map r.withType) :=
          .generic htype hhead (by simpa [Table.contains] using hfree) hds
        cases ds with
        | nil => exact resolveBuiltin_ensures h.definite hrefers hresolve hkeys htext
        | cons d ds =>
          exact resolveDeclared_ensures h.definite hrefers (List.cons_ne_nil d ds) hresolve htext
      · next hhead => exact hbare (not_hasMember_generic htype hhead)
    | intersection p parts =>
      refine A.bind (Assurance.mapM (R := fun t u => Finds V x n (r.withType t) u) parts
        fun t ht => hresolve _ (.shares (.part htype ht))) fun ts hts => ?_
      refine A.mono (intersect_ensures h (named_of_forall₂ hts)) fun t ht => .of_adds ht ?_ ?_
      · rintro ⟨u, hu, hx⟩
        obtain ⟨e, he, hfound⟩ := exists_left_of_forall₂ hts hu
        exact (hasMember_intersection_iff htype).2 ⟨e, he, hfound.sound hx⟩
      · intro hsettled hx
        obtain ⟨e, he, hx⟩ := (hasMember_intersection_iff htype).1 hx
        obtain ⟨u, hu, hfound⟩ := exists_left_of_forall₂ hts.flip he
        exact ⟨u, hu, hfound.complete (hsettled.of_leads (.shares (.part htype he))) hx⟩
    | union p parts =>
      refine A.bind (Assurance.mapM (R := fun t u => Finds V x n (r.withType t) u) parts
        fun t ht => hresolve _ (.alternative htype ht)) fun ts hts => ?_
      have hiff := hasMember_union_iff (V := V) (x := x) htype (hr r .refl p parts htype)
      -- the union of no parts has no members, and no properties are found of it
      have hempty : parts ≠ [] ↔ ts ≠ [] := by
        rw [← List.length_pos_iff_ne_nil, hts.length_eq, List.length_pos_iff_ne_nil]
      rw [hempty] at hiff
      refine A.mono (unite_ensures h (named_of_forall₂ hts)) fun t ht => .of_adds ht ?_ ?_
      · rintro ⟨hne, hall⟩
        refine hiff.2 ⟨hne, fun e he => ?_⟩
        obtain ⟨u, hu, hfound⟩ := exists_left_of_forall₂ hts.flip he
        exact hfound.sound (hall u hu)
      · intro hsettled hx
        obtain ⟨hne, hall⟩ := hiff.1 hx
        refine ⟨hne, fun u hu => ?_⟩
        obtain ⟨e, he, hfound⟩ := exists_left_of_forall₂ hts hu
        exact hfound.complete (hsettled.of_leads (.alternative htype he)) (hall e he)

end RouteLint
