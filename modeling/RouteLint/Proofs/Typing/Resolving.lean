import RouteLint.Proofs.Typing.Graphs
import RouteLint.Routes.Check

/-!
# Types over graphs that answer alike

Resolving, inferring and judging over two graphs of modules that answer alike come out the same, up
to places.  The lemmas follow the order of the definitions; the last of them is about the question
that a check asks of every handler.

## Main results

* `Coupling.Answers.resolve` — resolving a type.
* `Coupling.routeParams_object` — parameters annotated with an object type in place.
* `Coupling.Answers.judge` — judging the second parameter of a handler.
-/

namespace RouteLint

open Syntax

namespace Coupling

variable {m n : Type → Type} [Monad m] [Monad n] {C : Coupling m n} {g : ModuleGraph m}
  {g' : ModuleGraph n}

/-! ### Members and alternatives -/

theorem propertyOf_bare (r : TypeRef) (x : Member) :
    propertyOf r.bare x.bare = (propertyOf r x).map Property.bare := by
  cases x with
  | property name t =>
    rw [Member.bare_property]
    cases hn : name.text? with
    | none => simp [propertyOf, hn]
    | some text =>
      cases t <;>
        simp [propertyOf, hn, Property.bare, Property.Origin.bare, TypeRef.bare_withType]
  | method name p =>
    cases hn : name.text? <;>
      simp [propertyOf, Member.bare, hn, Property.bare, Property.Origin.bare]
  | signature => rfl

theorem membersOf_bare (r : TypeRef) (xs : List Member) :
    membersOf r.bare (xs.map Member.bare) = (membersOf r xs).mapValues Property.bare := by
  unfold membersOf
  rw [Table.mapValues_foldl Property.bare Property.bare
    (fun (t : Table String Property) p => t.set p.name p)
    (fun (t : Table String Property) p => t.set p.name p)
    (fun t p => Table.mapValues_set Property.bare t p.name p)]
  rw [List.filterMap_map, List.map_filterMap]
  congr 1
  exact List.filterMap_congr fun x _ => propertyOf_bare r x

mutual

theorem alternatives_bare : ∀ t : TypeExpr,
    alternatives t.bare = (alternatives t).map TypeExpr.bare
  | .union p ts => by
    rw [TypeExpr.bare, alternatives, bareTypes_eq_map, alternatives, alternativesOf_bare ts]
  | .object _ _ => rfl
  | .name _ => rfl
  | .generic _ _ _ => rfl
  | .intersection _ _ => rfl
  | .parenthesized _ _ => rfl
  | .literal _ _ => rfl
  | .comment _ => rfl
  | .other _ _ => rfl

theorem alternativesOf_bare : ∀ ts : List TypeExpr,
    alternativesOf (ts.map TypeExpr.bare) = (alternativesOf ts).map TypeExpr.bare
  | [] => rfl
  | t :: ts => by
    rw [List.map_cons, alternativesOf, alternativesOf, List.map_append, alternatives_bare t,
      alternativesOf_bare ts]

end

theorem literalText?_bare (t : TypeExpr) : literalText? t.bare = literalText? t := by
  cases t <;> rfl

theorem firstAlias_bare (ds : List DeclaredType) :
    firstAlias (ds.map DeclaredType.bare) =
      (firstAlias ds).map fun (a, file) => (a.bare, file) := by
  induction ds with
  | nil => rfl
  | cons d ds ih =>
    obtain ⟨a | i, file⟩ := d
    · rfl
    · exact ih

/-! ### Declarations -/

theorem inherited_coupled {res : TypeRef → m ResolvedType} {res' : TypeRef → n ResolvedType}
    (hres : ∀ r, C.Maps ResolvedType.bare (res r) (res' r.bare)) (file : Path)
    (bindings : Table String TypeRef) (before : Table String Property) (bases : List TypeExpr) :
    C.Maps (Table.mapValues Property.bare) (inherited res file bindings before bases)
      (inherited res' file (bindings.mapValues TypeRef.bare) (before.mapValues Property.bare)
        (bases.map TypeExpr.bare)) := by
  unfold inherited
  refine C.foldlM TypeExpr.bare (fun before base => ?_) bases before
  have hbase := hres ⟨base, file, bindings⟩
  rw [TypeRef.bare_mk] at hbase
  refine C.bind hbase fun t => C.pure' ?_
  exact Table.mapValues_foldl Property.bare (fun e : String × Property => (e.1, e.2.bare))
    (fun before e => before.setDefault e.1 e.2) (fun before e => before.setDefault e.1 e.2)
    (fun before e => Table.mapValues_setDefault Property.bare before e.1 e.2) t.properties before

/-- Own and inherited properties without places. -/
def bareBoth (both : Table String Property × Table String Property) :
    Table String Property × Table String Property :=
  (both.1.mapValues Property.bare, both.2.mapValues Property.bare)

theorem interfaceProperties_coupled {res : TypeRef → m ResolvedType}
    {res' : TypeRef → n ResolvedType}
    (hres : ∀ r, C.Maps ResolvedType.bare (res r) (res' r.bare)) (as : List TypeRef)
    (ds : List DeclaredType) (own above : Table String Property) :
    C.Maps bareBoth (interfaceProperties res as ds own above)
      (interfaceProperties res' (as.map TypeRef.bare) (ds.map DeclaredType.bare)
        (own.mapValues Property.bare) (above.mapValues Property.bare)) := by
  induction ds generalizing own above with
  | nil => exact C.pure' rfl
  | cons d ds ih =>
    obtain ⟨a | i, file⟩ := d
    · exact ih own above
    · have hown : membersOf ⟨default, file, RouteLint.bind file i.bare.parameters
          (as.map TypeRef.bare)⟩ i.bare.members = (membersOf ⟨default, file, RouteLint.bind file
            i.parameters as⟩ i.members).mapValues Property.bare := by
        rw [← membersOf_bare, TypeRef.bare_mk, mapValues_bind]
        rfl
      have habove := inherited_coupled hres file (RouteLint.bind file i.parameters as) above
        i.bases
      rw [mapValues_bind] at habove
      refine C.bind habove fun above => ?_
      have hrest := ih (own.merge (membersOf ⟨default, file, RouteLint.bind file i.parameters as⟩
        i.members)) above
      rw [Table.mapValues_merge, ← hown] at hrest
      exact hrest

theorem resolveDeclared_coupled {res : TypeRef → m ResolvedType}
    {res' : TypeRef → n ResolvedType} {text : m String} {text' : n String}
    (hres : ∀ r, C.Maps ResolvedType.bare (res r) (res' r.bare)) (htext : C.Maps id text text')
    (ds : List DeclaredType) (as : List TypeRef) :
    C.Maps ResolvedType.bare (resolveDeclared res text ds as)
      (resolveDeclared res' text' (ds.map DeclaredType.bare) (as.map TypeRef.bare)) := by
  -- declarations that do not start with an alias are those of an interface
  have hinterface : C.Maps ResolvedType.bare
      (do
        let both ← interfaceProperties res as ds [] []
        return ⟨← text, both.2.merge both.1⟩)
      (do
        let both ← interfaceProperties res' (as.map TypeRef.bare)
          (ds.map DeclaredType.bare) [] []
        return ⟨← text', both.2.merge both.1⟩) := by
    refine C.bind (interfaceProperties_coupled hres as ds [] []) fun both => ?_
    refine C.bind htext fun t => C.pure' ?_
    rw [ResolvedType.bare, Table.mapValues_merge]
    rfl
  rcases ds with _ | ⟨⟨a | i, file⟩, ds⟩
  · exact hinterface
  · have halias := hres (aliased file a as)
    rw [aliased_bare] at halias
    exact halias
  · exact hinterface

theorem mapValues_keyedProperties (value : TypeRef) (keys : List String) :
    (keyedProperties value keys).mapValues Property.bare = keyedProperties value.bare keys := by
  unfold keyedProperties
  rw [Table.mapValues_foldl Property.bare id _
    (fun (t : Table String Property) k => t.set k ⟨k, .keyed value.bare⟩)
    (fun t k => Table.mapValues_set Property.bare t k _), List.map_id]
  rfl

theorem resolveBuiltin_coupled {res : TypeRef → m ResolvedType} {res' : TypeRef → n ResolvedType}
    {keys : TypeRef → m (List String)} {keys' : TypeRef → n (List String)} {text : m String}
    {text' : n String} (hres : ∀ r, C.Maps ResolvedType.bare (res r) (res' r.bare))
    (hkeys : ∀ r, C.Maps id (keys r) (keys' r.bare)) (htext : C.Maps id text text')
    (name : String) (as : List TypeRef) :
    C.Maps ResolvedType.bare (resolveBuiltin res keys text name as)
      (resolveBuiltin res' keys' text' name (as.map TypeRef.bare)) := by
  -- a type of which only the text is known
  have hplain : C.Maps ResolvedType.bare (do return ⟨← text, []⟩) (do return ⟨← text', []⟩) :=
    C.bind htext fun t => C.pure' rfl
  match as with
  | [] => exact hplain
  | first :: others =>
    simp only [resolveBuiltin, List.map_cons]
    split
    · refine C.bind (hres first) fun inner => ?_
      exact C.bind htext fun t => C.pure' rfl
    · match others with
      | [] => exact hplain
      | [value] =>
        simp only [List.map_cons, List.map_nil]
        split
        · refine C.bind (hkeys first) fun ks => ?_
          refine C.bind htext fun t => C.pure' ?_
          rw [ResolvedType.bare, mapValues_keyedProperties]
          rfl
        · exact hplain
      | _ :: _ :: _ => exact hplain

section Lawful

variable [LawfulMonad m] [LawfulMonad n]

/-! ### Literal keys -/

theorem Answers.literalKeys (h : C.Answers g g') (steps : Nat) (r : TypeRef) :
    C.Maps id (literalKeys g steps r) (literalKeys g' steps r.bare) := by
  induction steps generalizing r with
  | zero =>
    rw [RouteLint.literalKeys, RouteLint.literalKeys, TypeRef.bare_type, alternatives_bare,
      List.filterMap_map]
    exact C.pure' (List.filterMap_congr fun t _ => (literalText?_bare t).symm)
  | succ k ih =>
    rw [RouteLint.literalKeys, RouteLint.literalKeys, TypeRef.bare_type, alternatives_bare,
      TypeRef.bare_bindings, TypeRef.bare_file]
    refine C.bind (C.mapM (ψ := id) TypeExpr.bare _ fun t _ => ?_) fun keys => ?_
    · cases t with
      | name p =>
        simp only [TypeExpr.bare, Piece.bare_text, Table.get?_mapValues]
        cases r.bindings.get? p.text with
        | some b => exact ih b
        | none =>
          refine C.bind (h.visibleTypes r.file p.text) fun ds => ?_
          rw [firstAlias_bare]
          cases firstAlias ds with
          | none => exact C.pure' rfl
          | some found =>
            have hvalue := ih ⟨found.1.value, found.2, []⟩
            rw [TypeRef.bare_mk] at hvalue
            exact hvalue
      | object | generic | union | intersection | parenthesized | literal | comment | other =>
        exact C.pure' rfl
    · rw [List.map_id]
      exact C.pure' rfl

/-! ### Unions and intersections -/

theorem Answers.intersectProperty (h : C.Answers g g') (before : Table String Property)
    (p : Property) :
    C.Maps (Table.mapValues Property.bare) (intersectProperty g before p)
      (intersectProperty g' (before.mapValues Property.bare) p.bare) := by
  unfold RouteLint.intersectProperty
  rw [Table.get?_mapValues, Property.bare_name]
  cases before.get? p.name with
  | none => exact C.pure' (Table.mapValues_set _ _ _ _)
  | some q =>
    refine C.bind (h.typeText q) fun a => ?_
    refine C.bind (h.typeText p) fun b => ?_
    exact C.pure' (Table.mapValues_set _ _ _ _)

theorem map_text_bare (ts : List ResolvedType) :
    (ts.map ResolvedType.bare).map ResolvedType.text = ts.map ResolvedType.text := by
  rw [List.map_map]
  rfl

theorem Answers.intersect (h : C.Answers g g') (ts : List ResolvedType) :
    C.Maps ResolvedType.bare (intersect g ts) (intersect g' (ts.map ResolvedType.bare)) := by
  unfold RouteLint.intersect
  have hvalues : ((ts.map ResolvedType.bare).flatMap fun t => t.properties.values) =
      (ts.flatMap fun t => t.properties.values).map Property.bare := by
    rw [List.flatMap_map, List.map_flatMap]
    exact List.flatMap_congr fun t _ => Table.values_mapValues _ _
  rw [hvalues, map_text_bare]
  refine C.bind (C.foldlM Property.bare h.intersectProperty _ []) fun properties => ?_
  exact C.pure' rfl

theorem Answers.uniteProperty (h : C.Answers g g') (p : Property) (others : List Property) :
    C.Maps Property.bare (uniteProperty g p others)
      (uniteProperty g' p.bare (others.map Property.bare)) := by
  unfold RouteLint.uniteProperty
  rw [← List.map_cons]
  refine C.bind (C.mapM (ψ := id) Property.bare _ fun q _ => h.typeText q) fun texts => ?_
  rw [List.map_id]
  match distinct texts with
  | [] => exact C.pure' rfl
  | [t] => exact C.pure' rfl
  | t :: u :: ts => exact C.pure' rfl

theorem Answers.unite (h : C.Answers g g') (ts : List ResolvedType) :
    C.Maps ResolvedType.bare (unite g ts) (unite g' (ts.map ResolvedType.bare)) := by
  unfold RouteLint.unite
  rw [map_text_bare]
  cases ts with
  | nil => exact C.pure' rfl
  | cons first others =>
    have hcommon : ((first.bare.properties.filter fun e =>
        (others.map ResolvedType.bare).all fun t => t.properties.contains e.1)) =
        Table.mapValues Property.bare
          (first.properties.filter fun e => others.all fun t => t.properties.contains e.1) := by
      unfold ResolvedType.bare Table.mapValues
      rw [List.filter_map]
      congr 1
      refine List.filter_congr fun e _ => ?_
      rw [Function.comp_apply, List.all_map]
      refine congrArg (List.all others) (funext fun t => ?_)
      exact Table.contains_mapValues Property.bare t.properties e.1
    simp only [List.map_cons]
    rw [hcommon]
    refine C.bind (C.mapM (ψ := fun e : String × Property => (e.1, e.2.bare))
      (fun e : String × Property => (e.1, e.2.bare)) _ fun e _ => ?_) fun properties => ?_
    · obtain ⟨name, p⟩ := e
      have hsame : ((others.map ResolvedType.bare).filterMap fun t => t.properties.get? name) =
          (others.filterMap fun t => t.properties.get? name).map Property.bare := by
        rw [List.filterMap_map, List.map_filterMap]
        exact List.filterMap_congr fun t _ => Table.get?_mapValues _ _ _
      simp only
      rw [hsame]
      exact C.bind (h.uniteProperty p _) fun q => C.pure' rfl
    · exact C.pure' rfl

/-! ### Resolving -/

theorem Answers.resolveFrom (h : C.Answers g g') (steps : Nat) (r : TypeRef) :
    C.Maps ResolvedType.bare (resolveFrom g steps r) (resolveFrom g' steps r.bare) := by
  induction steps generalizing r with
  | zero =>
    rw [RouteLint.resolveFrom, RouteLint.resolveFrom, TypeRef.bare_text]
    exact C.pure' rfl
  | succ k ih =>
    have htext := h.renderFrom (k + 1) r
    -- a type of which only the text is known
    have hplain : C.Maps ResolvedType.bare
        (do return ⟨← RouteLint.renderFrom g (k + 1) r, []⟩)
        (do return ⟨← RouteLint.renderFrom g' (k + 1) r.bare, []⟩) :=
      C.bind htext fun t => C.pure' rfl
    -- the parts of a union or an intersection
    have hparts : ∀ ts : List TypeExpr, C.Maps (List.map ResolvedType.bare)
        (ts.mapM fun t => RouteLint.resolveFrom g k (r.withType t))
        ((ts.map TypeExpr.bare).mapM fun t => RouteLint.resolveFrom g' k (r.bare.withType t)) := by
      intro ts
      refine C.mapM TypeExpr.bare ts fun t _ => ?_
      rw [← TypeRef.bare_withType]
      exact ih (r.withType t)
    rw [RouteLint.resolveFrom, RouteLint.resolveFrom, TypeRef.bare_type, TypeRef.bare_bindings,
      TypeRef.bare_file]
    cases r.type with
    | parenthesized p t =>
      have hinner := ih (r.withType t)
      rw [TypeRef.bare_withType] at hinner
      exact hinner
    | name p =>
      simp only [TypeExpr.bare, Piece.bare_text, Table.get?_mapValues]
      cases r.bindings.get? p.text with
      | some b => exact ih b
      | none =>
        refine C.bind (h.visibleTypes r.file p.text) fun ds => ?_
        cases ds with
        | nil => exact C.pure' rfl
        | cons d ds => exact resolveDeclared_coupled ih htext (d :: ds) []
    | generic p head ts =>
      simp only [TypeExpr.bare, bareTypes_eq_map, Table.contains_mapValues]
      rw [← TypeRef.map_bare_withType]
      split
      · refine C.bind (h.visibleTypes r.file head.text) fun ds => ?_
        cases ds with
        | nil => exact resolveBuiltin_coupled ih (h.literalKeys k) htext head.text _
        | cons d ds => exact resolveDeclared_coupled ih htext (d :: ds) _
      · exact hplain
    | object p xs =>
      simp only [TypeExpr.bare, bareMembers_eq_map]
      refine C.bind htext fun t => C.pure' ?_
      rw [membersOf_bare]
      rfl
    | intersection p ts =>
      simp only [TypeExpr.bare, bareTypes_eq_map]
      exact C.bind (hparts ts) h.intersect
    | union p ts =>
      simp only [TypeExpr.bare, bareTypes_eq_map]
      exact C.bind (hparts ts) h.unite
    | literal | comment | other => exact hplain

theorem Answers.resolve (h : C.Answers g g') (r : TypeRef) :
    C.Maps ResolvedType.bare (resolve g r) (resolve g' r.bare) :=
  h.resolveFrom (maxDepth + 1) r

end Lawful

/-! ### Default values -/

theorem objectType_bare (ps : Table String String) : (objectType ps).bare = objectType ps := by
  unfold objectType ResolvedType.bare Table.mapValues
  rw [List.map_map]
  rfl

mutual

theorem Answers.inferAt [LawfulMonad m] [LawfulMonad n] (h : C.Answers g g') (file : Path)
    (depth : Nat) : ∀ e : Expr,
    C.Maps ResolvedType.bare (inferAt g file depth e) (inferAt g' file depth e.bare)
  | .parenthesized e => by
    rw [Expr.bare, RouteLint.inferAt, RouteLint.inferAt]
    split
    · exact Answers.inferAt h file (depth + 1) e
    · exact C.pure' rfl
  | .object es => by
    rw [Expr.bare, RouteLint.inferAt, RouteLint.inferAt]
    split
    · exact C.bind (Answers.inferEntries h file depth es []) fun ps =>
        C.pure' (objectType_bare ps)
    · exact C.pure' rfl
  | .asConst e => by
    rw [Expr.bare, RouteLint.inferAt, RouteLint.inferAt]
    split
    · exact C.bind (Answers.inferAt h file (depth + 1) e) fun t => C.pure' rfl
    · exact C.pure' rfl
  | .satisfies e => by
    rw [Expr.bare, RouteLint.inferAt, RouteLint.inferAt]
    split
    · exact C.bind (Answers.inferAt h file (depth + 1) e) fun t => C.pure' rfl
    · exact C.pure' rfl
  | .asType e t => by
    rw [Expr.bare, RouteLint.inferAt, RouteLint.inferAt]
    have ht := h.render ⟨t, file, []⟩
    rw [TypeRef.bare_mk] at ht
    exact C.bind ht fun text => C.pure' rfl
  | .call object method none => by
    rw [Expr.bare, RouteLint.inferAt, RouteLint.inferAt]
    split
    · exact C.pure' rfl
    · split
      · exact C.pure' rfl
      · split <;> exact C.pure' rfl
  | .call object method (some e) => by
    rw [Expr.bare, RouteLint.inferAt, RouteLint.inferAt]
    split
    · exact C.pure' rfl
    · split
      · exact C.pure' rfl
      · split
        · exact C.pure' rfl
        · split
          · exact C.bind (Answers.inferAt h file (depth + 1) e) fun t => C.pure' rfl
          · exact C.pure' rfl
  | .construct target => by
    rw [Expr.bare, RouteLint.inferAt, RouteLint.inferAt]
    exact C.pure' rfl
  | .text | .number | .truth | .null | .undefined | .member _ _ | .other => by
    rw [Expr.bare, RouteLint.inferAt, RouteLint.inferAt]
    exact C.pure' rfl

theorem Answers.inferEntries [LawfulMonad m] [LawfulMonad n] (h : C.Answers g g') (file : Path)
    (depth : Nat) : ∀ (es : List Entry) (before : Table String String),
      C.Maps id (inferEntries g file depth before es)
        (inferEntries g' file depth before (bareEntries es))
  | [], before => by
    rw [bareEntries, RouteLint.inferEntries, RouteLint.inferEntries]
    exact C.pure' rfl
  | .pair name e :: es, before => by
    rw [bareEntries, Entry.bare, RouteLint.inferEntries, RouteLint.inferEntries]
    cases name.text? with
    | none => exact Answers.inferEntries h file depth es before
    | some text =>
      exact C.bind (Answers.inferAt h file (depth + 1) e) fun t =>
        Answers.inferEntries h file depth es (before.set text t.text)
  | .shorthand name :: es, before => by
    rw [bareEntries, Entry.bare, RouteLint.inferEntries, RouteLint.inferEntries]
    exact Answers.inferEntries h file depth es (before.set name "any")

end

/-! ### Properties and parameters -/

variable [LawfulMonad m] [LawfulMonad n]

theorem Answers.nonemptyRender (h : C.Answers g g') (t : TypeRef) :
    C.Maps id (nonempty <$> RouteLint.render g t) (nonempty <$> RouteLint.render g' t.bare) :=
  C.map (h.render t) fun _ => rfl

theorem Answers.declaredType (h : C.Answers g g') (p : Property) :
    C.Maps id (declaredType g p) (declaredType g' p.bare) := by
  obtain ⟨name, origin⟩ := p
  cases origin with
  | property t =>
    cases t with
    | none => exact C.pure' rfl
    | some t => exact h.nonemptyRender t
  | method | keyed | derived => exact C.pure' rfl

theorem Answers.ownedType (h : C.Answers g g') (owner : ResolvedType) (p : Property) :
    C.Maps id (ownedType g owner p) (ownedType g' owner.bare p.bare) := by
  have hget : owner.bare.properties.get? p.name =
      (owner.properties.get? p.name).map Property.bare := Table.get?_mapValues _ _ _
  unfold RouteLint.ownedType
  rw [Property.bare_name, hget]
  cases owner.properties.get? p.name with
  | none => exact C.pure' rfl
  | some q =>
    obtain ⟨name, origin⟩ := q
    cases origin with
    | property t =>
      cases t with
      | none => exact C.pure' rfl
      | some t => exact h.nonemptyRender t
    | keyed t => exact h.nonemptyRender t
    | method | derived => exact C.pure' rfl

theorem Answers.propertyType (h : C.Answers g g') (owner : ResolvedType) (p : Property) :
    C.Maps id (propertyType g owner p) (propertyType g' owner.bare p.bare) := by
  refine C.bind (h.declaredType p) fun text => ?_
  cases text with
  | none => exact h.ownedType owner p
  | some text => exact C.pure' rfl

/-- Members are read in the file and under the bindings of their type. -/
theorem membersOf_type (t t' : TypeExpr) (file : Path) (bindings : Table String TypeRef)
    (xs : List Member) : membersOf ⟨t, file, bindings⟩ xs = membersOf ⟨t', file, bindings⟩ xs :=
  rfl

omit [LawfulMonad m] in
theorem propertyType_text (g : ModuleGraph m) (text text' : String) (ps : Table String Property)
    (q : Property) :
    RouteLint.propertyType g ⟨text, ps⟩ q = RouteLint.propertyType g ⟨text', ps⟩ q :=
  rfl

/-- A parameter annotated with an object type in place has the members written there; the text of
the object type does not matter. -/
theorem routeParams_object (g : ModuleGraph m) (file : Path) {p : Parameter} {piece : Piece}
    {xs : List Member} (hp : p.type = some (.object piece xs)) :
    routeParams g file p =
      match (membersOf ⟨default, file, []⟩ xs).get? routeMember with
      | none => Pure.pure none
      | some q => RouteLint.propertyType g ⟨"", membersOf ⟨default, file, []⟩ xs⟩ q := by
  simp only [routeParams, parameterType, hp, RouteLint.resolve, RouteLint.resolveFrom,
    RouteLint.renderFrom, TypeRef.type, pure_bind, map_pure]
  rw [membersOf_type (.object piece xs) default]
  cases (membersOf ⟨default, file, []⟩ xs).get? routeMember with
  | none => rfl
  | some q => exact propertyType_text g _ _ _ q

/-- A parameter that is not annotated with an object type in place. -/
theorem Answers.routeParams_of_type (h : C.Answers g g') (file : Path) {p q : Parameter}
    (htype : q.type = p.type.map TypeExpr.bare) (hvalue : q.value = p.value.map Expr.bare) :
    C.Maps id (routeParams g file p) (routeParams g' file q) := by
  have howner : C.Maps (Option.map ResolvedType.bare) (parameterType g file p)
      (parameterType g' file q) := by
    unfold parameterType
    rw [htype, hvalue]
    cases p.type with
    | some t =>
      have ht := h.resolve ⟨t, file, []⟩
      rw [TypeRef.bare_mk] at ht
      exact C.map ht fun _ => rfl
    | none =>
      cases p.value with
      | some e => exact C.map (h.inferAt file 0 e) fun _ => rfl
      | none => exact C.pure' rfl
  refine C.bind howner fun owner => ?_
  cases owner with
  | none => exact C.pure' rfl
  | some owner =>
    simp only [Option.map_some, ResolvedType.bare, Table.get?_mapValues]
    cases owner.properties.get? routeMember with
    | none => exact C.pure' rfl
    | some x => exact h.propertyType owner x

theorem Answers.routeParams (h : C.Answers g g') (file : Path) (p : Parameter) :
    C.Maps id (routeParams g file p) (routeParams g' file p.bare) := by
  by_cases hobject : ∃ piece xs, p.type = some (.object piece xs)
  · obtain ⟨piece, xs, hp⟩ := hobject
    have hbare : p.bare.type = some (.object default (xs.map Member.bare)) := by
      unfold Parameter.bare
      rw [hp]
    have hmembers : membersOf ⟨default, file, []⟩ (xs.map Member.bare) =
        (membersOf ⟨default, file, []⟩ xs).mapValues Property.bare := by
      rw [← membersOf_bare]
      rfl
    rw [routeParams_object g file hp, routeParams_object g' file hbare, hmembers,
      Table.get?_mapValues]
    cases (membersOf ⟨default, file, []⟩ xs).get? routeMember with
    | none => exact C.pure' rfl
    | some x => exact h.propertyType ⟨"", _⟩ x
  · refine h.routeParams_of_type file ?_ rfl
    unfold Parameter.bare
    split
    · next piece xs hp => exact absurd ⟨piece, xs, hp⟩ hobject
    · rfl

/-- **Judging a parameter looks neither at places nor at anything else that the view of a scope
leaves out.** -/
theorem Answers.judge (h : C.Answers g g') (file : Path) (p : Parameter) :
    C.Maps id (judge g file p) (judge g' file p.bare) :=
  C.bind (h.routeParams file p) fun _ => C.pure' rfl
end Coupling

end RouteLint
