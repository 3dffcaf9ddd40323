import RouteLint.Proofs.Data.Related
import RouteLint.Proofs.Scope.Tables
import RouteLint.Proofs.Text.Mentions
import RouteLint.Proofs.Typing.Places

/-!
# Trees with comments

Putting comments between the tokens of a type changes its text and the texts of the types it is
made of.  The tree stays as it is, except that a comment among the parts of a union or an
intersection is one more part.

Whether a comment may be one more part of a union is told apart: it may in the type of a member,
which is only ever shown, while a union elsewhere may be asked for its properties.

## Main definitions

* `TypeExpr.Commented` — a type with comments put between its tokens.
* `Module.Commented` — a module with comments put into the types that it declares and into those
  of parameters.
* `Scope.Commented` — what becomes of its scope.

## Main results

* `TypeExpr.Commented.loosen` — comments that may stand in any type may stand in that of a member.
* `Scope.ofModule_commented` — the scope of a module with comments.
* `handlers_commented` — and its handlers.
-/

namespace RouteLint.Syntax

/-! ### Types -/

/-- A piece with comments put between its tokens. -/
def Piece.Commented (p p' : Piece) : Prop := Text.Commented p.text.toList p'.text.toList

/-- The name of a generic type with comments put between its tokens; a plain name is one token. -/
def TypeHead.Commented (h h' : TypeHead) : Prop :=
  h = h' ∨ h.plain = false ∧ h'.plain = false ∧ Text.Commented h.text.toList h'.text.toList

mutual

/-- A type with comments put between its tokens.  The flag says whether a comment may be put among
the parts of a union. -/
inductive TypeExpr.Commented : Bool → TypeExpr → TypeExpr → Prop
  | object {u : Bool} {p p' : Piece} {ms ms' : List Member} (hp : p.Commented p')
    (hms : MembersCommented ms ms') : TypeExpr.Commented u (.object p ms) (.object p' ms')
  | name {u : Bool} {p p' : Piece} (hp : p.text = p'.text) :
    TypeExpr.Commented u (.name p) (.name p')
  | generic {u : Bool} {p p' : Piece} {h h' : TypeHead} {ts ts' : List TypeExpr}
    (hp : p.Commented p') (hh : h.Commented h') (hts : PartsCommented u false ts ts') :
    TypeExpr.Commented u (.generic p h ts) (.generic p' h' ts')
  | union {u : Bool} {p p' : Piece} {ts ts' : List TypeExpr} (hp : p.Commented p')
    (hts : PartsCommented u u ts ts') : TypeExpr.Commented u (.union p ts) (.union p' ts')
  | intersection {u : Bool} {p p' : Piece} {ts ts' : List TypeExpr} (hp : p.Commented p')
    (hts : PartsCommented u true ts ts') :
    TypeExpr.Commented u (.intersection p ts) (.intersection p' ts')
  | parenthesized {u : Bool} {p p' : Piece} {t t' : TypeExpr} (hp : p.Commented p')
    (ht : TypeExpr.Commented u t t') :
    TypeExpr.Commented u (.parenthesized p t) (.parenthesized p' t')
  | literal {u : Bool} {p p' : Piece} (contents : Option String) (hp : p.Commented p') :
    TypeExpr.Commented u (.literal p contents) (.literal p' contents)
  | comment {u : Bool} {p p' : Piece} (hp : p.text = p'.text) :
    TypeExpr.Commented u (.comment p) (.comment p')
  | other {u : Bool} {p p' : Piece} (kind : TypeKind) (hp : p.Commented p') :
    TypeExpr.Commented u (.other p kind) (.other p' kind)

/-- Types with comments put between their tokens, and with comments put among them if the second
flag allows it. -/
inductive PartsCommented : Bool → Bool → List TypeExpr → List TypeExpr → Prop
  | nil {u free : Bool} : PartsCommented u free [] []
  | cons {u free : Bool} {t t' : TypeExpr} {ts ts' : List TypeExpr}
    (ht : TypeExpr.Commented u t t') (hts : PartsCommented u free ts ts') :
    PartsCommented u free (t :: ts) (t' :: ts')
  | comment {u : Bool} (p : Piece) {ts ts' : List TypeExpr}
    (hts : PartsCommented u true ts ts') : PartsCommented u true ts (.comment p :: ts')

/-- A member with comments put between its tokens. -/
inductive Member.Commented : Member → Member → Prop
  | property (name : PropertyName) {t t' : TypeExpr} (ht : TypeExpr.Commented true t t') :
    Member.Commented (.property name (some t)) (.property name (some t'))
  | untyped (name : PropertyName) : Member.Commented (.property name none) (.property name none)
  | method (name : PropertyName) {p p' : Piece} (hp : p.Commented p') :
    Member.Commented (.method name p) (.method name p')
  | signature : Member.Commented .signature .signature

/-- Members with comments put between their tokens. -/
inductive MembersCommented : List Member → List Member → Prop
  | nil : MembersCommented [] []
  | cons {m m' : Member} {ms ms' : List Member} (hm : Member.Commented m m')
    (hms : MembersCommented ms ms') : MembersCommented (m :: ms) (m' :: ms')

end

theorem MembersCommented.forall₂ : ∀ {ms ms' : List Member}, MembersCommented ms ms' →
    List.Forall₂ Member.Commented ms ms'
  | _, _, .nil => .nil
  | _, _, .cons hm hms => .cons hm hms.forall₂

theorem PartsCommented.forall₂ {u : Bool} : ∀ {ts ts' : List TypeExpr},
    PartsCommented u false ts ts' → List.Forall₂ (TypeExpr.Commented u) ts ts'
  | _, _, .nil => .nil
  | _, _, .cons ht hts => .cons ht hts.forall₂

theorem PartsCommented.free {u free : Bool} : ∀ {ts ts' : List TypeExpr},
    PartsCommented u free ts ts' → PartsCommented u true ts ts'
  | _, _, .nil => .nil
  | _, _, .cons ht hts => .cons ht hts.free
  | _, _, .comment p hts => .comment p hts.free

/-- What holds of types with comments among them, if each type and each comment keeps it. -/
theorem PartsCommented.induct {u free : Bool} {motive : List TypeExpr → List TypeExpr → Prop}
    (nil : motive [] [])
    (cons : ∀ {t t' : TypeExpr} {ts ts' : List TypeExpr}, TypeExpr.Commented u t t' →
      motive ts ts' → motive (t :: ts) (t' :: ts'))
    (comment : ∀ (p : Piece) {ts ts' : List TypeExpr}, motive ts ts' →
      motive ts (.comment p :: ts')) : ∀ {ts ts' : List TypeExpr},
    PartsCommented u free ts ts' → motive ts ts'
  | _, _, .nil => nil
  | _, _, .cons ht hts => cons ht (hts.induct nil cons comment)
  | _, _, .comment p hts => comment p (hts.induct nil cons comment)

mutual

/-- Comments that may stand in any type may stand in that of a member. -/
theorem TypeExpr.Commented.loosen {u : Bool} : ∀ {t t' : TypeExpr}, TypeExpr.Commented u t t' →
    TypeExpr.Commented true t t'
  | _, _, .object hp hms => .object hp hms
  | _, _, .name hp => .name hp
  | _, _, .generic hp hh hts => .generic hp hh hts.loosen
  | _, _, .union hp hts => .union hp hts.loosen.free
  | _, _, .intersection hp hts => .intersection hp hts.loosen
  | _, _, .parenthesized hp ht => .parenthesized hp ht.loosen
  | _, _, .literal contents hp => .literal contents hp
  | _, _, .comment hp => .comment hp
  | _, _, .other kind hp => .other kind hp

theorem PartsCommented.loosen {u free : Bool} : ∀ {ts ts' : List TypeExpr},
    PartsCommented u free ts ts' → PartsCommented true free ts ts'
  | _, _, .nil => .nil
  | _, _, .cons ht hts => .cons ht.loosen hts.loosen
  | _, _, .comment p hts => .comment p hts.loosen

end

/-- Comments that may stand in any type may stand where some more may. -/
theorem TypeExpr.Commented.into {u : Bool} {t t' : TypeExpr}
    (h : TypeExpr.Commented false t t') : TypeExpr.Commented u t t' := by
  cases u with
  | false => exact h
  | true => exact h.loosen

theorem Piece.Commented.refl (p : Piece) : p.Commented p := Text.Commented.refl

mutual

theorem TypeExpr.commented_refl (u : Bool) : ∀ t : TypeExpr, TypeExpr.Commented u t t
  | .object p ms => .object (.refl p) (membersCommented_refl ms)
  | .name _ => .name rfl
  | .generic p _ ts => .generic (.refl p) (.inl rfl) (partsCommented_refl u false ts)
  | .union p ts => .union (.refl p) (partsCommented_refl u u ts)
  | .intersection p ts => .intersection (.refl p) (partsCommented_refl u true ts)
  | .parenthesized p t => .parenthesized (.refl p) (TypeExpr.commented_refl u t)
  | .literal p contents => .literal contents (.refl p)
  | .comment _ => .comment rfl
  | .other p kind => .other kind (.refl p)

theorem partsCommented_refl (u free : Bool) : ∀ ts : List TypeExpr, PartsCommented u free ts ts
  | [] => .nil
  | t :: ts => .cons (TypeExpr.commented_refl u t) (partsCommented_refl u free ts)

theorem membersCommented_refl : ∀ ms : List Member, MembersCommented ms ms
  | [] => .nil
  | .property name (some t) :: ms =>
    .cons (.property name (TypeExpr.commented_refl true t)) (membersCommented_refl ms)
  | .property name none :: ms => .cons (.untyped name) (membersCommented_refl ms)
  | .method name p :: ms => .cons (.method name (.refl p)) (membersCommented_refl ms)
  | .signature :: ms => .cons .signature (membersCommented_refl ms)

end

/-- The text of a type with comments. -/
theorem TypeExpr.Commented.text {u : Bool} {t t' : TypeExpr} (h : TypeExpr.Commented u t t') :
    Text.Commented t.text.toList t'.text.toList := by
  cases h with
  | object hp | generic hp | union hp | intersection hp | parenthesized hp => exact hp
  | literal _ hp | other _ hp => exact hp
  | name hp | comment hp => exact Text.Commented.of_eq (congrArg String.toList hp)

/-! ### Declarations -/

/-- A parameter with comments put into its type. -/
structure Parameter.Commented (p p' : Parameter) : Prop where
  type : Option.Rel (TypeExpr.Commented false) p.type p'.type
  value : p.value.map Expr.bare = p'.value.map Expr.bare

/-- A function with comments put into the types of its parameters. -/
structure FunctionDeclaration.Commented (f f' : FunctionDeclaration) : Prop where
  name : f.name = f'.name
  parameters : List.Forall₂ Parameter.Commented f.parameters f'.parameters

/-- A type parameter with comments put between its tokens. -/
structure TypeParameter.Commented (p p' : TypeParameter) : Prop where
  name : p.name = p'.name
  fallback : Option.Rel (TypeExpr.Commented false) p.fallback p'.fallback

/-- An alias with comments put between its tokens. -/
structure TypeAlias.Commented (a a' : TypeAlias) : Prop where
  name : a.name = a'.name
  parameters : List.Forall₂ TypeParameter.Commented a.parameters a'.parameters
  value : TypeExpr.Commented false a.value a'.value

/-- An interface with comments put between its tokens. -/
structure Interface.Commented (i i' : Interface) : Prop where
  name : i.name = i'.name
  parameters : List.Forall₂ TypeParameter.Commented i.parameters i'.parameters
  bases : List.Forall₂ (TypeExpr.Commented false) i.bases i'.bases
  members : List.Forall₂ Member.Commented i.members i'.members

/-- A declared type with comments put between its tokens. -/
inductive TypeDeclaration.Commented : TypeDeclaration → TypeDeclaration → Prop
  | alias {a a' : TypeAlias} (h : a.Commented a') : TypeDeclaration.Commented (.alias a) (.alias a')
  | interface {i i' : Interface} (h : i.Commented i') :
    TypeDeclaration.Commented (.interface i) (.interface i')

/-- A declaration with comments put into types. -/
inductive Declaration.Commented : Declaration → Declaration → Prop
  | type {d d' : TypeDeclaration} (h : d.Commented d') : Declaration.Commented (.type d) (.type d')
  | function {f f' : FunctionDeclaration} (h : f.Commented f') :
    Declaration.Commented (.function f) (.function f')
  | value {v v' : ValueDeclaration} (h : v.name = v'.name) :
    Declaration.Commented (.value v) (.value v')

/-- A statement with comments put into types. -/
inductive Statement.Commented : Statement → Statement → Prop
  | imports (specifier : String) (names : List ImportedName) :
    Statement.Commented (.imports specifier names) (.imports specifier names)
  | exports (names : List ExportedName) (specifier : Option String) :
    Statement.Commented (.exports names specifier) (.exports names specifier)
  | exportsAll (specifier : String) :
    Statement.Commented (.exportsAll specifier) (.exportsAll specifier)
  | declares (exporting : Exporting) {ds ds' : List Declaration}
    (hds : List.Forall₂ Declaration.Commented ds ds') :
    Statement.Commented (.declares exporting ds) (.declares exporting ds')
  | other : Statement.Commented .other .other

/-- A module with comments put into the types that it declares and into those of parameters. -/
def Module.Commented (m m' : Module) : Prop :=
  List.Forall₂ Statement.Commented m.statements m'.statements

theorem TypeParameter.commented_refl (p : TypeParameter) : p.Commented p :=
  ⟨rfl, optionRel_refl (TypeExpr.commented_refl false) _⟩

theorem Declaration.commented_refl : ∀ d : Declaration, d.Commented d
  | .type (.alias _) => .type (.alias ⟨rfl, List.forall₂_same.2 fun p _ => p.commented_refl,
      TypeExpr.commented_refl false _⟩)
  | .type (.interface _) => .type (.interface ⟨rfl, List.forall₂_same.2 fun p _ => p.commented_refl,
      List.forall₂_same.2 fun t _ => t.commented_refl false, (membersCommented_refl _).forall₂⟩)
  | .function _ => .function ⟨rfl, List.forall₂_same.2 fun _ _ =>
      ⟨optionRel_refl (TypeExpr.commented_refl false) _, rfl⟩⟩
  | .value _ => .value rfl

theorem Module.commented_refl (m : Module) : m.Commented m :=
  List.forall₂_same.2 fun t _ =>
    match t with
    | .imports specifier names => .imports specifier names
    | .exports names specifier => .exports names specifier
    | .exportsAll specifier => .exportsAll specifier
    | .declares exporting _ =>
      .declares exporting (List.forall₂_same.2 fun d _ => d.commented_refl)
    | .other => .other

theorem TypeDeclaration.Commented.name_eq {d d' : TypeDeclaration} (h : d.Commented d') :
    d.name = d'.name :=
  match h with
  | .alias h => h.name
  | .interface h => h.name

theorem Declaration.Commented.name_eq {d d' : Declaration} (h : d.Commented d') :
    d.name = d'.name := by
  cases h with
  | type h => exact h.name_eq
  | function h => exact h.name
  | value h => exact h

end RouteLint.Syntax

namespace RouteLint

open Syntax

/-! ### Scopes -/

/-- A scope with comments put into types. -/
structure Scope.Commented (s s' : Scope) : Prop where
  types : Table.Related (fun _ => List.Forall₂ TypeDeclaration.Commented) s.types s'.types
  functions :
    Table.Related (fun _ => List.Forall₂ FunctionDeclaration.Commented) s.functions s'.functions
  imports : s.imports = s'.imports
  exports : s.exports = s'.exports
  starExports : s.starExports = s'.starExports

namespace Scope

variable {s s' : Scope}

theorem declare_commented (h : s.Commented s') {d d' : Declaration} (hd : d.Commented d') :
    (s.declare d).Commented (s'.declare d') := by
  cases hd with
  | @type d d' hd =>
    refine { h with types := ?_ }
    show Table.Related _ (s.types.append d.name d) (s'.types.append d'.name d')
    rw [← hd.name_eq]
    exact h.types.append hd
  | @function f f' hf =>
    refine { h with functions := ?_ }
    show Table.Related _ (s.functions.append f.name f) (s'.functions.append f'.name f')
    rw [← hf.name]
    exact h.functions.append hf
  | value => exact { h with }

theorem exportAs_commented (h : s.Commented s') (outside : String) (e : Export) :
    (s.exportAs outside e).Commented (s'.exportAs outside e) :=
  { h with exports := congrArg (Table.set · outside e) h.exports }

theorem exportDeclared_commented (h : s.Commented s') (names : List String) (e : Exporting) :
    (s.exportDeclared names e).Commented (s'.exportDeclared names e) := by
  cases e with
  | none => exact h
  | named =>
    unfold exportDeclared
    induction names generalizing s s' with
    | nil => exact h
    | cons n names ih => exact ih (exportAs_commented h n _)
  | default =>
    cases names with
    | nil => exact h
    | cons n names => exact exportAs_commented h _ _

theorem read_commented (h : s.Commented s') {t t' : Statement} (ht : t.Commented t') :
    (s.read t).Commented (s'.read t') := by
  cases ht with
  | @declares exporting ds ds' hds =>
    have hnames : ds.map Declaration.name = ds'.map Declaration.name := by
      rw [← List.forall₂_eq_eq_eq, List.forall₂_map_left_iff, List.forall₂_map_right_iff]
      exact hds.imp fun _ _ hd => hd.name_eq
    have hdeclared : (ds.foldl declare s).Commented (ds'.foldl declare s') :=
      List.rel_foldl (P := Scope.Commented) (R := Declaration.Commented)
        (fun _ _ hs _ _ hd => declare_commented hs hd) h hds
    unfold read
    dsimp only
    rw [hnames]
    exact exportDeclared_commented hdeclared _ _
  | imports specifier names =>
    unfold read
    dsimp only
    induction names generalizing s s' with
    | nil => exact h
    | cons n names ih =>
      rw [List.foldl_cons, List.foldl_cons, h.imports]
      exact ih { h with imports := rfl }
  | exports names specifier =>
    unfold read
    dsimp only
    induction names generalizing s s' with
    | nil => exact h
    | cons n names ih => exact ih (exportAs_commented h _ _)
  | exportsAll specifier =>
    exact { h with starExports := congrArg (· ++ [specifier]) h.starExports }
  | other => exact h

/-- The scope of a module with comments. -/
theorem ofModule_commented {m m' : Module} (h : m.Commented m') :
    (ofModule m).Commented (ofModule m') := by
  have hempty : Scope.Commented {} {} := ⟨.nil, .nil, rfl, rfl, rfl⟩
  exact List.rel_foldl (P := Scope.Commented) (R := Statement.Commented)
    (fun _ _ hs _ _ ht => read_commented hs ht) hempty h

end Scope

/-- The handlers of a scope with comments. -/
theorem handlers_commented {s s' : Scope} (h : s.Commented s') :
    List.Forall₂ (fun x x' => x.name = x'.name ∧ x.declaration.Commented x'.declaration)
      (handlers s) (handlers s') := by
  rw [handlers_eq_flatMap, handlers_eq_flatMap, h.exports]
  have hsame : List.Forall₂ Eq s'.exports s'.exports := List.forall₂_same.2 fun _ _ => rfl
  refine List.rel_flatMap hsame fun e e' he => ?_
  subst he
  split
  · rw [List.forall₂_map_left_iff, List.forall₂_map_right_iff]
    exact (h.functions.list e.2.name).imp fun _ _ hf => ⟨rfl, hf⟩
  · exact .nil

end RouteLint
