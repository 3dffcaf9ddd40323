import RouteLint.Proofs.Routes.JudgedMember

/-!
# Default values that are wrapped

Parentheses around a default value, `as const` and `satisfies` behind it do not change what the value
is, and neither do they change the text of its type.  Its properties are another matter: they are
inferred behind parentheses only.  A value that is taken as a constant or checked against a type is
looked into for its text, and what is known of its members is thrown away; one that is taken as a
type has the text of that type, which is not looked into.  So a handler is never reported whose
context has a default value that is wrapped in such a way.

All this is so as far as inference goes into a value, which is limited.  A stack of wrappers uses up
one level each, so that what is left for the value itself has to suffice for it.

## Main definitions

* `Wrapper`, `wrapped` — a stack of wrappers around an expression.
* `Syntax.Expr.nesting` — how many levels inference goes into an expression.

## Main results

* `inferAt_add` — inference does not depend on the level if the levels suffice.
* `inferAt_wrapped` — what a stack of wrappers leaves.
* `infer_wrapped` — **wrappers keep the text, and parentheses the properties.**
* `judge_of_not_parentheses` — handlers that are not judged.
* `checkRoutes_wrapped` — a value that is reported in parentheses and not as a constant.
-/

namespace RouteLint

open Syntax Project

/-! ### Levels -/

namespace Syntax

mutual

/-- How many levels inference goes into an expression. -/
def Expr.nesting : Expr → Nat
  | .parenthesized inner => inner.nesting + 1
  | .object entries => Entry.nestings entries + 1
  | .asConst inner => inner.nesting + 1
  | .satisfies inner => inner.nesting + 1
  | .call object method (some first) =>
    if object = "Promise" ∧ method = "resolve" then first.nesting + 1 else 0
  | _ => 0

/-- How many levels it goes into the values of entries; those with a computed name are left out. -/
def Entry.nestings : List Entry → Nat
  | [] => 0
  | .pair name value :: es =>
    if name.text?.isSome then max value.nesting (Entry.nestings es) else Entry.nestings es
  | .shorthand _ :: es => Entry.nestings es

end

end Syntax

variable {m : Type → Type} [Monad m] (g : ModuleGraph m)

mutual

/-- The type of an expression does not depend on the level where inference starts, if there are
levels enough. -/
theorem inferAt_add (file : Path) (depth k : Nat) : ∀ e : Expr,
    depth + k + e.nesting ≤ maxDepth → inferAt g file (depth + k) e = inferAt g file depth e
  | .parenthesized e, h => by
    rw [Expr.nesting] at h
    have ih := inferAt_add file (depth + 1) k e (by omega)
    rw [Nat.add_right_comm] at ih
    rw [inferAt, inferAt, if_pos (by omega), if_pos (by omega), ih]
  | .object es, h => by
    rw [Expr.nesting] at h
    have ih := inferEntries_add file depth k es [] (by omega)
    rw [inferAt, inferAt, if_pos (by omega), if_pos (by omega), ih]
  | .asConst e, h => by
    rw [Expr.nesting] at h
    have ih := inferAt_add file (depth + 1) k e (by omega)
    rw [Nat.add_right_comm] at ih
    rw [inferAt, inferAt, if_pos (by omega), if_pos (by omega), ih]
  | .satisfies e, h => by
    rw [Expr.nesting] at h
    have ih := inferAt_add file (depth + 1) k e (by omega)
    rw [Nat.add_right_comm] at ih
    rw [inferAt, inferAt, if_pos (by omega), if_pos (by omega), ih]
  | .call object method (some e), h => by
    rw [Expr.nesting] at h
    rw [inferAt, inferAt]
    by_cases hcall : object = "Promise" ∧ method = "resolve"
    · -- the only call whose argument is looked into
      rw [if_pos hcall] at h
      obtain ⟨rfl, rfl⟩ := hcall
      have ih := inferAt_add file (depth + 1) k e (by omega)
      rw [Nat.add_right_comm] at ih
      have hdeep : depth + k < maxDepth := by omega
      have hlevel : depth < maxDepth := by omega
      simp [hdeep, hlevel, ih]
    · by_cases hobject : object = "Promise"
      · have hmethod : method ≠ "resolve" := fun hmethod => hcall ⟨hobject, hmethod⟩
        rw [if_pos hmethod, if_pos hmethod]
      · rw [if_pos hobject, if_pos hobject]
  | .call object method none, h => by
    rw [inferAt, inferAt]
  | .text, _ | .number, _ | .truth, _ | .null, _ | .undefined, _ | .asType _ _, _
  | .construct _, _ | .member _ _, _ | .other, _ => by
    rw [inferAt, inferAt]

theorem inferEntries_add (file : Path) (depth k : Nat) :
    ∀ (es : List Entry) (before : Table String String),
      depth + 1 + k + Entry.nestings es ≤ maxDepth →
      inferEntries g file (depth + k) before es = inferEntries g file depth before es
  | [], before, _ => by
    rw [inferEntries, inferEntries]
  | .pair name e :: es, before, h => by
    rw [Entry.nestings] at h
    rw [inferEntries, inferEntries]
    cases hname : name.text? with
    | none =>
      rw [hname] at h
      exact inferEntries_add file depth k es before h
    | some n =>
      rw [hname, Option.isSome_some, if_pos rfl] at h
      have ih := inferAt_add file (depth + 1) k e (by omega)
      rw [Nat.add_right_comm] at ih
      have hrest := fun t : ResolvedType =>
        inferEntries_add file depth k es (before.set n t.text) (by omega)
      dsimp only
      simp only [ih, hrest]
  | .shorthand name :: es, before, h => by
    rw [Entry.nestings] at h
    rw [inferEntries, inferEntries]
    exact inferEntries_add file depth k es (before.set name "any") h

end

/-! ### Wrappers -/

/-- What can stand around an expression without changing what it is. -/
inductive Wrapper where
  /-- Parentheses around it. -/
  | parentheses
  /-- Taking it as a constant. -/
  | asConst
  /-- Checking it against a type. -/
  | satisfies
  deriving DecidableEq

/-- An expression in a wrapper. -/
def Wrapper.around : Wrapper → Expr → Expr
  | .parentheses, e => .parenthesized e
  | .asConst, e => .asConst e
  | .satisfies, e => .satisfies e

/-- An expression in a stack of wrappers, the first one outermost. -/
def wrapped (ws : List Wrapper) (e : Expr) : Expr := ws.foldr Wrapper.around e

/-- What is left of a type behind a stack of wrappers. -/
def leftBehind (ws : List Wrapper) (t : ResolvedType) : ResolvedType :=
  ⟨t.text, if ∀ w ∈ ws, w = .parentheses then t.properties else []⟩

theorem wrapped_cons (w : Wrapper) (ws : List Wrapper) (e : Expr) :
    wrapped (w :: ws) e = w.around (wrapped ws e) := rfl

theorem leftBehind_nil (t : ResolvedType) : leftBehind [] t = t := by
  simp [leftBehind]

theorem leftBehind_cons_parentheses (ws : List Wrapper) (t : ResolvedType) :
    leftBehind (.parentheses :: ws) t = leftBehind ws t := by
  simp [leftBehind]

theorem leftBehind_cons {w : Wrapper} (hw : w ≠ .parentheses) (ws : List Wrapper)
    (t : ResolvedType) : leftBehind (w :: ws) t = ⟨(leftBehind ws t).text, []⟩ := by
  simp [leftBehind, hw]

variable [LawfulMonad m]

/-- A stack of wrappers uses up one level for each of them. -/
theorem inferAt_wrapped (file : Path) (depth : Nat) (ws : List Wrapper) (e : Expr)
    (h : depth + ws.length ≤ maxDepth) : inferAt g file depth (wrapped ws e) =
      leftBehind ws <$> inferAt g file (depth + ws.length) e := by
  induction ws generalizing depth with
  | nil =>
    have hid : leftBehind [] = id := funext leftBehind_nil
    rw [hid, id_map]
    rfl
  | cons w ws ih =>
    rw [List.length_cons] at h ⊢
    have hrest := ih (depth + 1) (by omega)
    rw [Nat.add_right_comm] at hrest
    -- the level below the outermost wrapper, which only parentheses hand on as it is
    have hlevel : depth < maxDepth := by omega
    cases w with
    | parentheses =>
      have hsame : leftBehind (.parentheses :: ws) = leftBehind ws :=
        funext (leftBehind_cons_parentheses ws)
      rw [wrapped_cons, Wrapper.around, inferAt, if_pos hlevel, hrest, hsame]
      rfl
    | asConst =>
      rw [wrapped_cons, Wrapper.around, inferAt, if_pos hlevel, hrest]
      simp only [leftBehind_cons (w := .asConst) nofun, map_eq_pure_bind, bind_assoc, pure_bind]
      rfl
    | satisfies =>
      rw [wrapped_cons, Wrapper.around, inferAt, if_pos hlevel, hrest]
      simp only [leftBehind_cons (w := .satisfies) nofun, map_eq_pure_bind, bind_assoc, pure_bind]
      rfl

theorem infer_eq_leftBehind (file : Path) {ws : List Wrapper} (h : ws.length ≤ maxDepth)
    (e : Expr) : infer g file (wrapped ws e) = leftBehind ws <$> inferAt g file ws.length e := by
  have hwrapped := inferAt_wrapped g file 0 ws e (by omega)
  rw [Nat.zero_add] at hwrapped
  exact hwrapped

/-- **Wrappers keep the text, and parentheses the properties.**  Behind a stack of wrappers that
inference gets through, the type of an expression is the one that it has that many levels down,
with its properties if all of the wrappers are parentheses and without them otherwise; and where the
levels that are left suffice for the expression, its type is the one that it has by itself.  An
expression that is taken as a type has the text of that type and no properties. -/
theorem infer_wrapped (file : Path) {ws : List Wrapper} (h : ws.length ≤ maxDepth) (e : Expr)
    (type : TypeExpr) :
    infer g file (wrapped ws e) = (fun t =>
      ⟨t.text, if ∀ w ∈ ws, w = .parentheses then t.properties else []⟩) <$>
        inferAt g file ws.length e ∧
    (ws.length + e.nesting ≤ maxDepth → inferAt g file ws.length e = infer g file e) ∧
    infer g file (.asType e type) = (fun text => ⟨text, []⟩) <$> render g ⟨type, file, []⟩ := by
  refine ⟨infer_eq_leftBehind g file h e, fun hnesting => ?_, ?_⟩
  · have hsame := inferAt_add g file 0 ws.length e (by omega)
    rw [Nat.zero_add] at hsame
    exact hsame
  · rw [infer, inferAt, map_eq_pure_bind]

/-- A handler is not judged whose context has a default value behind other wrappers than
parentheses. -/
theorem judge_of_not_parentheses (file : Path) {p : Parameter} (htype : p.type = none)
    {ws : List Wrapper} {e : Expr} (hvalue : p.value = some (wrapped ws e))
    (h : ws.length ≤ maxDepth) (hws : ¬∀ w ∈ ws, w = .parentheses) :
    judge g file p = (fun _ => none) <$> inferAt g file ws.length e := by
  have hinfer := infer_eq_leftBehind g file h e
  unfold judge routeParams parameterType
  rw [htype, hvalue]
  dsimp only
  rw [hinfer]
  simp only [leftBehind, map_eq_pure_bind, bind_assoc, pure_bind, if_neg hws, Table.get?_nil,
    Option.filter_none]

/-! ### One value in different wrappers -/

namespace Defaults

/-- A type, and a handler whose second parameter has a default value in the place of an annotation:
```
| type T={params:z}
| export function GET(a,b=…){}
``` -/
def file (value : String) : Bytes :=
  bytesOfLines ["type T=\x7bparams:z\x7d", "export function GET(a,b=" ++ value ++ ")\x7b\x7d"]

/-- An object with the parameters of a route. -/
def object : Expr := .object [.pair (.identifier "params") .number]

/-- The name of the type. -/
def typeName (column : Nat) : TypeExpr :=
  .name ⟨⟨18 + column, 19 + column, 1, column⟩, "T"⟩

/-- The file loaded. -/
def bench (value : String) : Bench :=
  (outcome (Project.load Module.parse Sample.request.directory Sample.request.config
    (Sample.request.files (Clauses.workspace (file value))))
    (Clauses.workspace (file value)).bench).2

theorem bench_eq (value : String) : bench value = Clauses.loaded eagerParse (file value) := by
  rw [eagerParse_eq]
  rfl

/-- The parameter of the only handler. -/
def contexts (value : String) : List Parameter :=
  (Source.ofContent Module.parse Comments.path .typescript (file value)).contexts

/-- The text and the names of the properties of a type. -/
def summary (t : ResolvedType) : String × List String := (t.text, t.properties.keys)

/-- A default value is read from the file as an expression, and its type has a text and properties
with certain names. -/
def Infers (value : String) (e : Expr) (text : String) (names : List String) : Prop :=
  (contexts value).map (fun p => (p.type, p.value)) = [(none, some e)] ∧
    (outcome (infer Project.graph Comments.path e) (bench value)).1.toOption.map summary =
      some (text, names)

instance (value : String) (e : Expr) (text : String) (names : List String) :
    Decidable (Infers value e text names) :=
  inferInstanceAs (Decidable (_ ∧ _))

/-- So many violations are reported. -/
def Reports (value : String) (count : Nat) : Prop :=
  (checkRoutes Module.parse { Sample.request with fix := false }
      (Clauses.workspace (file value))).1.isError = false ∧
    (checkRoutes Module.parse { Sample.request with fix := false }
      (Clauses.workspace (file value))).1.violations.length = count

instance (value : String) (count : Nat) : Decidable (Reports value count) :=
  inferInstanceAs (Decidable (_ ∧ _))

/-- What the type is resolved to whose name stands behind the value. -/
def resolved (value : String) : Option (String × List String) :=
  (outcome (resolve Project.graph ⟨typeName 38, Comments.path, []⟩)
    (bench value)).1.toOption.map summary

end Defaults

open Defaults in
/-- A stack of three wrappers, one of which is no pair of parentheses: the text is that of the object,
and its property is gone. -/
theorem infer_wrapped_stack :
    [Wrapper.parentheses, .satisfies, .parentheses].length ≤ maxDepth ∧
    infer Project.graph Comments.path (.parenthesized (.satisfies (.parenthesized object))) =
      (fun t => ⟨t.text, []⟩) <$> infer Project.graph Comments.path object ∧
    infer Project.graph Comments.path (.parenthesized (.parenthesized object)) =
      infer Project.graph Comments.path object := by
  have hstack := infer_wrapped Project.graph Comments.path
    (show [Wrapper.parentheses, .satisfies, .parentheses].length ≤ maxDepth by decide) object default
  have hparentheses := infer_wrapped Project.graph Comments.path
    (show [Wrapper.parentheses, .parentheses].length ≤ maxDepth by decide) object default
  rw [hstack.2.1 (by decide)] at hstack
  rw [hparentheses.2.1 (by decide)] at hparentheses
  refine ⟨by decide, hstack.1, hparentheses.1.trans ?_⟩
  exact id_map (infer Project.graph Comments.path object)

set_option synthInstance.maxSize 1024 in
open Defaults in
/-- An object as a default value is reported, by itself and in parentheses; as a constant and checked
against a type it is not, although the text of its type is the same, because its property is gone;
and neither is it as a type, although that type has the property. -/
theorem checkRoutes_wrapped :
    (Infers "\x7bparams:1\x7d" object "\x7b params: number; \x7d" ["params"] ∧
      Reports "\x7bparams:1\x7d" 1) ∧
    (Infers "(\x7bparams:1\x7d)" (wrapped [.parentheses] object) "\x7b params: number; \x7d"
      ["params"] ∧ Reports "(\x7bparams:1\x7d)" 1) ∧
    (Infers "\x7bparams:1\x7d as const" (wrapped [.asConst] object) "\x7b params: number; \x7d"
      [] ∧ Reports "\x7bparams:1\x7d as const" 0) ∧
    (Infers "\x7bparams:1\x7d satisfies T" (wrapped [.satisfies] object)
      "\x7b params: number; \x7d" [] ∧ Reports "\x7bparams:1\x7d satisfies T" 0) ∧
    Infers "\x7bparams:1\x7d as T" (.asType object (typeName 38)) "\x7bparams:z\x7d" [] ∧
      resolved "\x7bparams:1\x7d as T" = some ("\x7bparams:z\x7d", ["params"]) ∧
      Reports "\x7bparams:1\x7d as T" 0 := by
  simp only [Infers, Reports, resolved, contexts, bench_eq, ← eagerParse_eq]
  -- all of it together, so that each file is read only once
  decide +kernel

end RouteLint
