import RouteLint.Proofs.Syntax.Comments
import RouteLint.Typing.Render

/-!
# Names and texts under comments

Two graphs of modules whose scopes differ by comments answer every question of typing alike, up to
those comments: a name stands for the same declarations, a parameter for the same argument, and a
type is shown as a text in which a check sees no difference.

Each function of typing gets one lemma, in the order of their definitions: here those that look
up names and show types as texts.

## Main definitions

* `ModuleGraph.Commented` — graphs whose scopes differ by comments.
* `TypeRef.Commented` — types in surroundings that differ by comments.

## Main results

* `ModuleGraph.Commented.visibleTypes` — looking up a name.
* `ModuleGraph.Commented.render` — **comments are not seen in the text of a type.**
-/

namespace RouteLint

open Syntax

variable {ε : Type}

/-- Graphs of modules whose scopes differ by comments. -/
structure ModuleGraph.Commented (g g' : ModuleGraph (Except ε)) : Prop where
  scope : ∀ file, Related Scope.Commented (g.scope file) (g'.scope file)
  target : ∀ file specifier, g.target file specifier = g'.target file specifier

/-! ### Types in their surroundings -/

mutual

/-- A type with comments, under bindings with comments. -/
inductive TypeRef.Commented : Bool → TypeRef → TypeRef → Prop
  | mk {u : Bool} {t t' : TypeExpr} (file : Path) {bs bs' : List (String × TypeRef)}
    (ht : t.Commented u t') (hbs : BindingsCommented u bs bs') :
    TypeRef.Commented u ⟨t, file, bs⟩ ⟨t', file, bs'⟩

/-- Bindings of the same names to types with comments. -/
inductive BindingsCommented : Bool → List (String × TypeRef) → List (String × TypeRef) → Prop
  | nil {u : Bool} : BindingsCommented u [] []
  | cons {u : Bool} (name : String) {r r' : TypeRef} {bs bs' : List (String × TypeRef)}
    (hr : TypeRef.Commented u r r') (hbs : BindingsCommented u bs bs') :
    BindingsCommented u ((name, r) :: bs) ((name, r') :: bs')

end

theorem BindingsCommented.related {u : Bool} : ∀ {bs bs' : List (String × TypeRef)},
    BindingsCommented u bs bs' → Table.Related (fun _ => TypeRef.Commented u) bs bs'
  | _, _, .nil => .nil
  | _, _, .cons _ hr hbs => .cons hr hbs.related

theorem BindingsCommented.of_related {u : Bool} {bs bs' : Table String TypeRef}
    (h : Table.Related (fun _ => TypeRef.Commented u) bs bs') : BindingsCommented u bs bs' := by
  induction h with
  | nil => exact .nil
  | @cons e e' _ _ he _ ih =>
    obtain ⟨name, r⟩ := e
    obtain ⟨name', r'⟩ := e'
    obtain ⟨rfl, hr⟩ := he
    exact .cons name hr ih

mutual

theorem TypeRef.Commented.loosen {u : Bool} : ∀ {r r' : TypeRef}, TypeRef.Commented u r r' →
    TypeRef.Commented true r r'
  | _, _, .mk file ht hbs => .mk file ht.loosen hbs.loosen

theorem BindingsCommented.loosen {u : Bool} : ∀ {bs bs' : List (String × TypeRef)},
    BindingsCommented u bs bs' → BindingsCommented true bs bs'
  | _, _, .nil => .nil
  | _, _, .cons name hr hbs => .cons name hr.loosen hbs.loosen

end

namespace TypeRef.Commented

variable {u : Bool} {r r' : TypeRef}

theorem of_related {t t' : TypeExpr} (file : Path) {bs bs' : Table String TypeRef}
    (ht : t.Commented u t') (hbs : Table.Related (fun _ => TypeRef.Commented u) bs bs') :
    TypeRef.Commented u ⟨t, file, bs⟩ ⟨t', file, bs'⟩ := .mk file ht (.of_related hbs)

theorem type (h : r.Commented u r') : r.type.Commented u r'.type := by
  cases h with
  | mk file ht hbs => exact ht

theorem file_eq (h : r.Commented u r') : r.file = r'.file := by
  cases h with
  | mk file ht hbs => rfl

theorem bindings (h : r.Commented u r') :
    Table.Related (fun _ => TypeRef.Commented u) r.bindings r'.bindings := by
  cases h with
  | mk file ht hbs => exact hbs.related

/-- Another type in the same surroundings. -/
theorem withType (h : r.Commented u r') {t t' : TypeExpr} (ht : t.Commented u t') :
    (r.withType t).Commented u (r'.withType t') := by
  cases h with
  | mk file _ hbs => exact .mk file ht hbs

theorem map_withType (h : r.Commented u r') {ts ts' : List TypeExpr}
    (hts : List.Forall₂ (TypeExpr.Commented u) ts ts') :
    List.Forall₂ (TypeRef.Commented u) (ts.map r.withType) (ts'.map r'.withType) := by
  rw [List.forall₂_map_left_iff, List.forall₂_map_right_iff]
  exact hts.imp fun _ _ ht => h.withType ht

theorem text (h : r.Commented u r') : Text.Alike r.text r'.text := h.type.text.alike.2

end TypeRef.Commented

/-! ### Looking up names -/

/-- A declared type with comments. -/
structure DeclaredType.Commented (d d' : DeclaredType) : Prop where
  declaration : d.declaration.Commented d'.declaration
  file : d.file = d'.file

theorem firstFound_related {α β γ : Type} {R : β → γ → Prop} {f : α → Except ε (List β)}
    {f' : α → Except ε (List γ)} (h : ∀ a, Related (List.Forall₂ R) (f a) (f' a))
    (as : List α) : Related (List.Forall₂ R) (firstFound f as) (firstFound f' as) := by
  induction as with
  | nil => exact .ok .nil
  | cons a as ih =>
    rw [firstFound, firstFound]
    refine (h a).bind fun found found' hfound => ?_
    cases hfound with
    | nil => exact ih
    | cons hd hds => exact .ok (.cons hd hds)

namespace ModuleGraph.Commented

variable {g g' : ModuleGraph (Except ε)} {u : Bool}

/-- Names and exports are looked up alike; each of the two uses the other with fewer steps. -/
theorem lookup (h : g.Commented g') (steps : Nat) :
    (∀ file name, Related (List.Forall₂ DeclaredType.Commented) (lookupType g steps file name)
      (lookupType g' steps file name)) ∧
    (∀ file name, Related (List.Forall₂ DeclaredType.Commented) (lookupExport g steps file name)
      (lookupExport g' steps file name)) := by
  -- imports lead to the same files
  have htarget : ∀ file specifier, Related Eq (g.target file specifier)
      (g'.target file specifier) := by
    intro file specifier
    rw [← h.target]
    cases g.target file specifier with
    | error err => exact .error err
    | ok target => exact .ok rfl
  induction steps with
  | zero =>
    constructor
    · intro file name
      rw [lookupType, lookupType]
      exact .ok .nil
    · intro file name
      rw [lookupExport, lookupExport]
      exact .ok .nil
  | succ k ih =>
    obtain ⟨ihType, ihExport⟩ := ih
    constructor
    · intro file name
      rw [lookupType, lookupType]
      refine (h.scope file).bind fun s s' hs => ?_
      rw [← hs.imports]
      rcases optionRel_cases (hs.types.get? name) with
        ⟨hget, hget'⟩ | ⟨ds, ds', hget, hget', hds⟩
      · rw [hget, hget']
        cases s.imports.get? name with
        | none => exact .ok .nil
        | some i =>
          refine (htarget file i.specifier).bind fun target _ heq => ?_
          subst heq
          cases target with
          | none => exact .ok .nil
          | some target => exact ihExport target i.name
      · rw [hget, hget']
        refine .ok ?_
        rw [List.forall₂_map_left_iff, List.forall₂_map_right_iff]
        exact hds.imp fun _ _ hd => ⟨hd, rfl⟩
    · intro file name
      rw [lookupExport, lookupExport]
      refine (h.scope file).bind fun s s' hs => ?_
      rw [← hs.exports, ← hs.starExports]
      cases s.exports.get? name with
      | some e =>
        obtain ⟨inside, specifier⟩ := e
        cases specifier with
        | none => exact ihType file inside
        | some specifier =>
          refine (htarget file specifier).bind fun target _ heq => ?_
          subst heq
          cases target with
          | none => exact .ok .nil
          | some target => exact ihExport target inside
      | none =>
        refine firstFound_related (fun specifier => ?_) _
        refine (htarget file specifier).bind fun target _ heq => ?_
        subst heq
        cases target with
        | none => exact .ok .nil
        | some target => exact ihExport target name

/-- A name stands for the same declarations. -/
theorem visibleTypes (h : g.Commented g') (file : Path) (name : String) :
    Related (List.Forall₂ DeclaredType.Commented) (visibleTypes g file name)
      (visibleTypes g' file name) :=
  (h.lookup (maxDepth + 1)).1 file name

end ModuleGraph.Commented

/-! ### Types as texts -/

section Binding

variable {u : Bool} {as as' : List TypeRef}

theorem bindFrom_commented (file : Path) {ps ps' : List TypeParameter}
    (hps : List.Forall₂ TypeParameter.Commented ps ps')
    (has : List.Forall₂ (TypeRef.Commented u) as as') {before before' : Table String TypeRef}
    (hbefore : Table.Related (fun _ => TypeRef.Commented u) before before') :
    Table.Related (fun _ => TypeRef.Commented u) (bindFrom file before ps as)
      (bindFrom file before' ps' as') := by
  induction hps generalizing as as' before before' with
  | nil => cases has <;> exact hbefore
  | @cons p p' _ _ hp _ ih =>
    cases has with
    | cons ha has =>
      rw [bindFrom, bindFrom, ← hp.name]
      exact ih has (hbefore.set ha)
    | nil =>
      obtain ⟨name, fallback⟩ := p
      obtain ⟨name', fallback'⟩ := p'
      obtain ⟨rfl, hfallback⟩ := hp
      cases hfallback with
      | none => exact ih .nil hbefore
      | some ht => exact ih .nil (hbefore.set (.of_related file ht.into hbefore))

theorem bind_commented (file : Path) {ps ps' : List TypeParameter}
    (hps : List.Forall₂ TypeParameter.Commented ps ps')
    (has : List.Forall₂ (TypeRef.Commented u) as as') :
    Table.Related (fun _ => TypeRef.Commented u) (bind file ps as) (bind file ps' as') :=
  bindFrom_commented file hps has .nil

theorem aliased_commented (file : Path) {a a' : TypeAlias} (ha : a.Commented a')
    (has : List.Forall₂ (TypeRef.Commented u) as as') :
    (aliased file a as).Commented u (aliased file a' as') :=
  .of_related file ha.value.into (bind_commented file ha.parameters has)

end Binding

/-- The name of a generic type mentions what it did before. -/
theorem Syntax.TypeHead.Commented.mentions {head head' : TypeHead} (h : head.Commented head') :
    mentionsWrapper head.text = mentionsWrapper head'.text := by
  rcases h with rfl | ⟨-, -, htext⟩
  · rfl
  · exact htext.alike.1

/-- A name with arguments. -/
theorem generic_alike {name name' : String} (hname : mentionsWrapper name = mentionsWrapper name')
    {texts texts' : List String} (h : List.Forall₂ Text.Alike texts texts') :
    Text.Alike (name ++ "<" ++ ", ".intercalate texts ++ ">")
      (name' ++ "<" ++ ", ".intercalate texts' ++ ">") := by
  have hnothing : mentionsWrapper "" = mentionsWrapper "" := rfl
  have hjoined := Text.Alike.intercalate (by decide : Breaks ", ") h
  have hopen := Text.Alike.join (by decide : Breaks "<") hname hjoined.mentions
  have hclose := Text.Alike.join (by decide : Breaks ">") hopen.mentions hnothing
  simpa only [String.append_empty] using hclose

namespace ModuleGraph.Commented

variable {g g' : ModuleGraph (Except ε)} {u : Bool}

theorem aliasValue (h : g.Commented g') (file : Path) (name : String) {as as' : List TypeRef}
    (has : List.Forall₂ (TypeRef.Commented u) as as') :
    Related (Option.Rel (TypeRef.Commented u)) (aliasValue g file name as)
      (aliasValue g' file name as') := by
  unfold RouteLint.aliasValue
  refine (h.visibleTypes file name).bind fun ds ds' hds => ?_
  cases hds with
  | nil => exact .ok .none
  | @cons d d' _ _ hd _ =>
    obtain ⟨declaration, file⟩ := d
    obtain ⟨declaration', file'⟩ := d'
    obtain ⟨hdeclaration, rfl⟩ := hd
    cases hdeclaration with
    | «alias» ha => exact .ok (.some (aliased_commented file ha has))
    | interface => exact .ok .none

theorem renderFrom (h : g.Commented g') (steps : Nat) {r r' : TypeRef}
    (hr : r.Commented true r') :
    Related Text.Alike (renderFrom g steps r) (renderFrom g' steps r') := by
  induction steps generalizing r r' with
  | zero => exact .ok hr.text
  | succ k ih =>
    -- types that are neither a name nor generic are shown as they are written
    have hwritten : Related Text.Alike (pure r.text : Except ε String) (pure r'.text) := .ok hr.text
    have htype := hr.type
    rw [RouteLint.renderFrom, RouteLint.renderFrom, ← hr.file_eq]
    revert htype
    generalize r.type = t
    generalize r'.type = t'
    intro htype
    cases htype with
    | @name _ p p' hp =>
      dsimp only
      rw [← hp]
      rcases optionRel_cases (hr.bindings.get? p.text) with
        ⟨hget, hget'⟩ | ⟨b, b', hget, hget', hb⟩
      · rw [hget, hget']
        refine (h.aliasValue (u := true) r.file p.text .nil).bind fun t t' ht => ?_
        cases ht with
        | none => exact .ok (.refl _)
        | some ht => exact ih ht
      · rw [hget, hget']
        exact ih hb
    | @generic _ _ _ head head' ts ts' _ hhead hts =>
      have hargs := hr.map_withType hts.forall₂
      -- a head that is no alias
      have hwithout : Related Text.Alike
          (do
            let texts ← (ts.map r.withType).mapM (RouteLint.renderFrom g k)
            return head.text ++ "<" ++ ", ".intercalate texts ++ ">")
          (do
            let texts ← (ts'.map r'.withType).mapM (RouteLint.renderFrom g' k)
            return head'.text ++ "<" ++ ", ".intercalate texts ++ ">") := by
        refine (Related.mapM hargs fun _ _ ha => ih ha).bind fun texts texts' htexts => ?_
        exact .ok (generic_alike hhead.mentions htexts)
      dsimp only
      rcases hhead with rfl | ⟨hplain, hplain', -⟩
      · rw [hr.bindings.contains head.text]
        split
        · refine (h.aliasValue r.file head.text hargs).bind fun known known' hknown => ?_
          cases hknown with
          | some ht => exact ih ht
          | none => exact hwithout
        · exact hwithout
      · rw [hplain, hplain']
        exact hwithout
    | object | union | intersection | parenthesized | literal | comment | other => exact hwritten

/-- **Comments are not seen in the text of a type.** -/
theorem render (h : g.Commented g') {r r' : TypeRef} (hr : r.Commented true r') :
    Related Text.Alike (render g r) (render g' r') :=
  h.renderFrom (maxDepth + 1) hr

end ModuleGraph.Commented

end RouteLint
