import RouteLint.Syntax.Tree

/-!
# Equality of trees

Whether two syntax trees are the same can be decided.  Types and expressions hold lists of types and
expressions, so both are compared together with such lists; everything above them is compared
field by field.

## Main results

* `Module` has decidable equality, and so has all it is made of.
-/

namespace RouteLint.Syntax

/-! ### Types -/

mutual

/-- Whether two types are the same. -/
def TypeExpr.same : TypeExpr → TypeExpr → Bool
  | .object p ms, .object q ns => p = q && sameMembers ms ns
  | .name p, .name q => p = q
  | .generic p h ts, .generic q k us => p = q && h = k && sameTypes ts us
  | .union p ts, .union q us => p = q && sameTypes ts us
  | .intersection p ts, .intersection q us => p = q && sameTypes ts us
  | .parenthesized p t, .parenthesized q u => p = q && t.same u
  | .literal p c, .literal q d => p = q && c = d
  | .comment p, .comment q => p = q
  | .other p k, .other q l => p = q && k = l
  | _, _ => false

/-- Whether two members are the same. -/
def Member.same : Member → Member → Bool
  | .property m (some t), .property n (some u) => m = n && t.same u
  | .property m none, .property n none => m = n
  | .method m p, .method n q => m = n && p = q
  | .signature, .signature => true
  | _, _ => false

/-- Whether two lists of types are the same. -/
def sameTypes : List TypeExpr → List TypeExpr → Bool
  | [], [] => true
  | t :: ts, u :: us => t.same u && sameTypes ts us
  | _, _ => false

/-- Whether two lists of members are the same. -/
def sameMembers : List Member → List Member → Bool
  | [], [] => true
  | m :: ms, n :: ns => m.same n && sameMembers ms ns
  | _, _ => false

end

mutual

theorem TypeExpr.same_iff : ∀ t u : TypeExpr, t.same u = true ↔ t = u
  | .object _ ms, u => by cases u <;> simp [TypeExpr.same, sameMembers_iff ms]
  | .name _, u => by cases u <;> simp [TypeExpr.same]
  | .generic _ _ ts, u => by cases u <;> simp [TypeExpr.same, sameTypes_iff ts, and_assoc]
  | .union _ ts, u => by cases u <;> simp [TypeExpr.same, sameTypes_iff ts]
  | .intersection _ ts, u => by cases u <;> simp [TypeExpr.same, sameTypes_iff ts]
  | .parenthesized _ t, u => by cases u <;> simp [TypeExpr.same, TypeExpr.same_iff t]
  | .literal _ _, u => by cases u <;> simp [TypeExpr.same]
  | .comment _, u => by cases u <;> simp [TypeExpr.same]
  | .other _ _, u => by cases u <;> simp [TypeExpr.same]

theorem Member.same_iff : ∀ m n : Member, m.same n = true ↔ m = n
  | .property _ (some t), n => by
    rcases n with ⟨_, _ | u⟩ | _ | _ <;> simp [Member.same, TypeExpr.same_iff t]
  | .property _ none, n => by rcases n with ⟨_, _ | u⟩ | _ | _ <;> simp [Member.same]
  | .method _ _, n => by cases n <;> simp [Member.same]
  | .signature, n => by cases n <;> simp [Member.same]

theorem sameTypes_iff : ∀ ts us : List TypeExpr, sameTypes ts us = true ↔ ts = us
  | [], us => by cases us <;> simp [sameTypes]
  | t :: ts, us => by cases us <;> simp [sameTypes, TypeExpr.same_iff t, sameTypes_iff ts]

theorem sameMembers_iff : ∀ ms ns : List Member, sameMembers ms ns = true ↔ ms = ns
  | [], ns => by cases ns <;> simp [sameMembers]
  | m :: ms, ns => by cases ns <;> simp [sameMembers, Member.same_iff m, sameMembers_iff ms]

end

instance : DecidableEq TypeExpr := fun t u => decidable_of_iff _ (t.same_iff u)

instance : DecidableEq Member := fun m n => decidable_of_iff _ (m.same_iff n)

/-! ### Expressions -/

mutual

/-- Whether two expressions are the same. -/
def Expr.same : Expr → Expr → Bool
  | .parenthesized e, .parenthesized f => e.same f
  | .object es, .object fs => sameEntries es fs
  | .text, .text => true
  | .number, .number => true
  | .truth, .truth => true
  | .null, .null => true
  | .undefined, .undefined => true
  | .asConst e, .asConst f => e.same f
  | .asType e t, .asType f u => e.same f && t = u
  | .satisfies e, .satisfies f => e.same f
  | .construct s, .construct t => s = t
  | .member o p, .member q r => o = q && p = r
  | .call o m (some e), .call q n (some f) => o = q && m = n && e.same f
  | .call o m none, .call q n none => o = q && m = n
  | .other, .other => true
  | _, _ => false

/-- Whether two entries are the same. -/
def Entry.same : Entry → Entry → Bool
  | .pair m e, .pair n f => m = n && e.same f
  | .shorthand m, .shorthand n => m = n
  | _, _ => false

/-- Whether two lists of entries are the same. -/
def sameEntries : List Entry → List Entry → Bool
  | [], [] => true
  | e :: es, f :: fs => e.same f && sameEntries es fs
  | _, _ => false

end

mutual

theorem Expr.same_iff : ∀ e f : Expr, e.same f = true ↔ e = f
  | .parenthesized e, f => by cases f <;> simp [Expr.same, Expr.same_iff e]
  | .object es, f => by cases f <;> simp [Expr.same, sameEntries_iff es]
  | .text, f => by cases f <;> simp [Expr.same]
  | .number, f => by cases f <;> simp [Expr.same]
  | .truth, f => by cases f <;> simp [Expr.same]
  | .null, f => by cases f <;> simp [Expr.same]
  | .undefined, f => by cases f <;> simp [Expr.same]
  | .asConst e, f => by cases f <;> simp [Expr.same, Expr.same_iff e]
  | .asType e _, f => by cases f <;> simp [Expr.same, Expr.same_iff e]
  | .satisfies e, f => by cases f <;> simp [Expr.same, Expr.same_iff e]
  | .construct _, f => by cases f <;> simp [Expr.same]
  | .member _ _, f => by cases f <;> simp [Expr.same]
  | .call _ _ (some e), f => by
    rcases f with _ | _ | _ | _ | _ | _ | _ | _ | _ | _ | _ | _ | ⟨_, _, _ | f⟩ | _ <;>
      simp [Expr.same, Expr.same_iff e, and_assoc]
  | .call _ _ none, f => by
    rcases f with _ | _ | _ | _ | _ | _ | _ | _ | _ | _ | _ | _ | ⟨_, _, _ | f⟩ | _ <;>
      simp [Expr.same]
  | .other, f => by cases f <;> simp [Expr.same]

theorem Entry.same_iff : ∀ e f : Entry, e.same f = true ↔ e = f
  | .pair _ e, f => by cases f <;> simp [Entry.same, Expr.same_iff e]
  | .shorthand _, f => by cases f <;> simp [Entry.same]

theorem sameEntries_iff : ∀ es fs : List Entry, sameEntries es fs = true ↔ es = fs
  | [], fs => by cases fs <;> simp [sameEntries]
  | e :: es, fs => by cases fs <;> simp [sameEntries, Entry.same_iff e, sameEntries_iff es]

end

instance : DecidableEq Expr := fun e f => decidable_of_iff _ (e.same_iff f)

/-! ### Modules -/

deriving instance DecidableEq for Parameter, TypeParameter

deriving instance DecidableEq for FunctionDeclaration, TypeAlias, Interface

deriving instance DecidableEq for TypeDeclaration

deriving instance DecidableEq for Declaration

deriving instance DecidableEq for Statement

deriving instance DecidableEq for Module

end RouteLint.Syntax
