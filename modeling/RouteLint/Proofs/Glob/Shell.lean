import Mathlib.Data.List.TakeDrop
import Mathlib.Data.List.TakeWhile
import RouteLint.Glob.Pattern

/-!
# Wildcards

What a part of a pattern matches is said here by rules, one for each thing that may stand at the
front of it, as a shell has them.  A bracket is read up to its closing bracket, which may not be the
first character of what stands inside; if it is never closed, it stands for itself.

## Main definitions

* `Glob.Encloses` — what stands inside a bracket, and what comes after it.
* `Glob.Listed` — the characters that the inside of a bracket lists.
* `Glob.Admitted` — the characters that a bracket stands for.
* `Glob.Shell` — **the names that a part matches.**

## Main results

* `Glob.bracket_eq_some_iff` — brackets are read up to where they are closed.
* `Glob.accepts_bracketed_iff` — a bracket matches the characters that it stands for.
* `Glob.matchesChars_pieces_iff` — **a name is matched if it is by the rules.**
-/

namespace RouteLint.Glob

/-! ### Rules -/

/-- A text that stands after an opening bracket: with a mark or without one, what stands inside the
bracket, the closing bracket, and the rest. -/
structure Encloses (cs : List Char) (negated : Bool) (inside rest : List Char) : Prop where
  text : cs = (if negated then ['!'] else []) ++ inside ++ ']' :: rest
  ne_nil : inside ≠ []
  closing : ']' ∉ inside.tail
  unmarked : negated = false → inside.head? ≠ some '!'

/-- The characters that the inside of a bracket lists: single ones, and those of ranges. -/
inductive Listed (c : Char) : List Char → Prop
  | range {a b : Char} (r : List Char) (ha : a ≤ c) (hb : c ≤ b) : Listed c (a :: '-' :: b :: r)
  | afterRange {a b : Char} {r : List Char} (h : Listed c r) : Listed c (a :: '-' :: b :: r)
  | single {r : List Char} (hr : ∀ b r', r ≠ '-' :: b :: r') : Listed c (c :: r)
  | afterSingle {a : Char} {r : List Char} (hr : ∀ b r', r ≠ '-' :: b :: r') (h : Listed c r) :
    Listed c (a :: r)

/-- Ranges that run backwards, one after the other. -/
inductive Backward : List Char → Prop
  | nil : Backward []
  | cons {a b : Char} {r : List Char} (hab : ¬a ≤ b) (h : Backward r) : Backward (a :: '-' :: b :: r)

/-- An exclamation mark comes to the front of the inside of a bracket when ranges that run backwards
are left out, and is not left out with them; `r` comes after it. -/
def Turns (inside r : List Char) : Prop :=
  ∃ back, Backward back ∧ inside = back ++ '!' :: r ∧ ∀ b r', r = '-' :: b :: r' → '!' ≤ b

/-- The characters that a bracket stands for, with a mark or without one: those that are listed, or
those that are not.  An exclamation mark that comes to the front of the inside is a mark as well; if
it starts a range, the other two characters of the range are listed instead. -/
inductive Admitted (c : Char) : Bool → List Char → Prop
  | listed {inside : List Char} (hplain : ∀ r, ¬Turns inside r) (h : Listed c inside) :
    Admitted c false inside
  | unlisted {inside : List Char} (h : ¬Listed c inside) : Admitted c true inside
  | turned {inside r : List Char} (hturns : Turns inside r) (hr : ∀ b r', r ≠ '-' :: b :: r')
    (h : ¬Listed c r) : Admitted c false inside
  | turnedRange {inside r : List Char} {b : Char} (hturns : Turns inside ('-' :: b :: r))
    (hdash : c ≠ '-') (hb : c ≠ b) (h : ¬Listed c r) : Admitted c false inside

/-- The names that a part of a pattern matches. -/
inductive Shell : List Char → List Char → Prop
  | nil : Shell [] []
  | star {r cs : List Char} (front : List Char) (h : Shell r cs) : Shell ('*' :: r) (front ++ cs)
  | any {r cs : List Char} (c : Char) (h : Shell r cs) : Shell ('?' :: r) (c :: cs)
  | set {negated : Bool} {inside rest r cs : List Char} {c : Char}
    (hr : Encloses r negated inside rest) (hc : Admitted c negated inside) (h : Shell rest cs) : Shell ('[' :: r) (c :: cs)
  | unclosed {r cs : List Char} (hr : ∀ negated inside rest, ¬Encloses r negated inside rest)
    (h : Shell r cs) : Shell ('[' :: r) ('[' :: cs)
  | char {d : Char} {r cs : List Char} (hstar : d ≠ '*') (hany : d ≠ '?') (hset : d ≠ '[')
    (h : Shell r cs) : Shell (d :: r) (d :: cs)

/-! ### Brackets -/

theorem closed_eq_some_iff {cs inside rest : List Char} :
    closed cs = some (inside, rest) ↔ cs = inside ++ ']' :: rest ∧ ']' ∉ inside := by
  have hspan : closed cs = some (inside, rest) ↔
      cs.takeWhile (· ≠ ']') = inside ∧ cs.dropWhile (· ≠ ']') = ']' :: rest := by
    rw [← Prod.mk.injEq, ← List.span_eq_takeWhile_dropWhile]
    unfold closed
    constructor
    · intro h
      split at h
      · next hspan =>
        cases h
        exact hspan
      · cases h
    · intro h
      rw [h]
      rfl
  rw [hspan]
  constructor
  · rintro ⟨rfl, hrest⟩
    refine ⟨?_, fun hmem => ?_⟩
    · rw [← hrest, List.takeWhile_append_dropWhile]
    · simpa using List.mem_takeWhile_imp hmem
  · rintro ⟨rfl, hmem⟩
    have hall : ∀ c ∈ inside, decide (c ≠ ']') = true := fun c hc =>
      decide_eq_true fun h => hmem (h ▸ hc)
    rw [List.takeWhile_append_of_pos hall, List.dropWhile_append_of_pos hall]
    simp

theorem insideOf_eq_some_iff {cs inside rest : List Char} :
    insideOf cs = some (inside, rest) ↔
      cs = inside ++ ']' :: rest ∧ inside ≠ [] ∧ ']' ∉ inside.tail := by
  unfold insideOf
  split
  · next r =>
    -- the first character belongs to the inside, whatever it is
    rw [Option.map_eq_some_iff]
    constructor
    · rintro ⟨⟨more, rest'⟩, hmore, heq⟩
      cases heq
      obtain ⟨rfl, hmem⟩ := closed_eq_some_iff.1 hmore
      exact ⟨rfl, List.cons_ne_nil _ _, hmem⟩
    · rintro ⟨htext, hne, hclosing⟩
      obtain ⟨c, more, rfl⟩ := List.exists_cons_of_ne_nil hne
      obtain ⟨rfl, rfl⟩ := List.cons.inj htext
      exact ⟨(more, rest), closed_eq_some_iff.2 ⟨rfl, hclosing⟩, rfl⟩
  · next hfront =>
    rw [closed_eq_some_iff]
    refine and_congr_right fun htext => ?_
    cases inside with
    | nil => exact absurd htext (hfront rest)
    | cons c more =>
      have hc : c ≠ ']' := by
        rintro rfl
        exact hfront _ htext
      simp [hc.symm]

/-- **Brackets are read up to where they are closed.** -/
theorem bracket_eq_some_iff {cs inside rest : List Char} {negated : Bool} :
    bracket cs = some (negated, inside, rest) ↔ Encloses cs negated inside rest := by
  unfold bracket
  split
  · next r =>
    rw [Option.map_eq_some_iff]
    constructor
    · rintro ⟨_, hinside, heq⟩
      cases heq
      obtain ⟨rfl, hne, hclosing⟩ := insideOf_eq_some_iff.1 hinside
      exact ⟨rfl, hne, hclosing, nofun⟩
    · rintro ⟨htext, hne, hclosing, hunmarked⟩
      cases negated with
      | true =>
        obtain ⟨-, rfl⟩ := List.cons.inj htext
        exact ⟨(inside, rest), insideOf_eq_some_iff.2 ⟨rfl, hne, hclosing⟩, rfl⟩
      | false =>
        obtain ⟨c, more, rfl⟩ := List.exists_cons_of_ne_nil hne
        obtain ⟨rfl, -⟩ := List.cons.inj htext
        exact absurd rfl (hunmarked rfl)
  · next hmark =>
    rw [Option.map_eq_some_iff]
    constructor
    · rintro ⟨_, hinside, heq⟩
      cases heq
      obtain ⟨rfl, hne, hclosing⟩ := insideOf_eq_some_iff.1 hinside
      refine ⟨rfl, hne, hclosing, fun _ hhead => ?_⟩
      obtain ⟨more, rfl⟩ := List.head?_eq_some_iff.1 hhead
      exact hmark _ rfl
    · rintro ⟨htext, hne, hclosing, -⟩
      cases negated with
      | true => exact absurd htext (hmark _)
      | false => exact ⟨(inside, rest), insideOf_eq_some_iff.2 ⟨htext, hne, hclosing⟩, rfl⟩

/-! ### Sets of characters -/

theorem any_intervals_iff {c : Char} (inside : List Char) :
    (intervals inside).any (fun i => i.lo ≤ c && c ≤ i.hi) = true ↔ Listed c inside := by
  induction inside using intervals.induct with
  | case1 a b r hab ih =>
    rw [intervals, if_pos hab, List.any_cons, Bool.or_eq_true, ih, Bool.and_eq_true,
      decide_eq_true_eq, decide_eq_true_eq]
    constructor
    · rintro (⟨ha, hb⟩ | h)
      · exact .range r ha hb
      · exact .afterRange h
    · intro h
      cases h with
      | range _ ha hb => exact .inl ⟨ha, hb⟩
      | afterRange h => exact .inr h
      | single hr => exact absurd rfl (hr b r)
      | afterSingle hr => exact absurd rfl (hr b r)
  | case2 a b r hab ih =>
    rw [intervals, if_neg hab, ih]
    constructor
    · exact .afterRange
    · intro h
      cases h with
      | range _ ha hb => exact absurd (Char.le_trans ha hb) hab
      | afterRange h => exact h
      | single hr => exact absurd rfl (hr b r)
      | afterSingle hr => exact absurd rfl (hr b r)
  | case3 a r hr ih =>
    rw [intervals, List.any_cons, Bool.or_eq_true, ih, Bool.and_eq_true, decide_eq_true_eq,
      decide_eq_true_eq]
    · constructor
      · rintro (⟨ha, hb⟩ | h)
        · cases Char.le_antisymm ha hb
          exact .single fun b r' h => hr b r' h
        · exact .afterSingle (fun b r' h => hr b r' h) h
      · intro h
        cases h with
        | range _ _ _ => exact (hr _ _ rfl).elim
        | afterRange _ => exact (hr _ _ rfl).elim
        | single _ => exact .inl ⟨Char.le_refl c, Char.le_refl c⟩
        | afterSingle _ h => exact .inr h
    · exact hr
  | case4 => exact iff_of_false Bool.false_ne_true nofun

theorem forward_eq_iff {inside r : List Char} :
    forward inside = '!' :: r ↔ Turns inside r := by
  constructor
  · intro h
    induction inside using forward.induct with
    | case1 a b rest hab =>
      rw [forward, if_pos hab] at h
      obtain ⟨rfl, rfl⟩ := List.cons.inj h
      refine ⟨[], .nil, rfl, fun b' r' heq => ?_⟩
      cases heq
      exact hab
    | case2 a b rest hab ih =>
      rw [forward, if_neg hab] at h
      obtain ⟨back, hback, rfl, hr⟩ := ih h
      exact ⟨a :: '-' :: b :: back, .cons hab hback, rfl, hr⟩
    | case3 cs hcs =>
      rw [forward] at h
      · subst h
        exact ⟨[], .nil, rfl, fun b r' heq => (hcs '!' b r' (heq ▸ rfl)).elim⟩
      · exact hcs
  · rintro ⟨back, hback, rfl, hr⟩
    induction hback with
    | nil =>
      rw [List.nil_append, forward.eq_def]
      split
      · next heq =>
        obtain ⟨rfl, rfl⟩ := List.cons.inj heq
        rw [if_pos (hr _ _ rfl)]
      · rfl
    | cons hab _ ih =>
      rw [List.cons_append, List.cons_append, List.cons_append, forward, if_neg hab, ih]

theorem Turns.unique {inside r r' : List Char} (h : Turns inside r) (h' : Turns inside r') :
    r = r' :=
  (List.cons.inj ((forward_eq_iff.2 h).symm.trans (forward_eq_iff.2 h'))).2

section Brackets

variable {inside r : List Char} {b c : Char}

theorem admitted_marked_iff : Admitted c true inside ↔ ¬Listed c inside :=
  ⟨fun h => by cases h; assumption, .unlisted⟩

theorem admitted_plain_iff (hplain : ∀ r, ¬Turns inside r) :
    Admitted c false inside ↔ Listed c inside := by
  refine ⟨fun h => ?_, .listed hplain⟩
  cases h with
  | listed _ h => exact h
  | turned hturns => exact absurd hturns (hplain _)
  | turnedRange hturns => exact absurd hturns (hplain _)

theorem admitted_turned_iff (hturns : Turns inside r) (hr : ∀ b r', r ≠ '-' :: b :: r') :
    Admitted c false inside ↔ ¬Listed c r := by
  refine ⟨fun h => ?_, .turned hturns hr⟩
  cases h with
  | listed hplain => exact absurd hturns (hplain _)
  | turned hturns' _ h => exact hturns.unique hturns' ▸ h
  | turnedRange hturns' => exact absurd (hturns.unique hturns') (hr _ _)

theorem admitted_turnedRange_iff (hturns : Turns inside ('-' :: b :: r)) :
    Admitted c false inside ↔ c ≠ '-' ∧ c ≠ b ∧ ¬Listed c r := by
  refine ⟨fun h => ?_, fun ⟨hdash, hb, h⟩ => .turnedRange hturns hdash hb h⟩
  cases h with
  | listed hplain => exact absurd hturns (hplain _)
  | turned hturns' hr => exact absurd (hturns'.unique hturns) (hr _ _)
  | turnedRange hturns' hdash hb h =>
    cases hturns.unique hturns'
    exact ⟨hdash, hb, h⟩

theorem single_iff : (b ≤ c && c ≤ b) = true ↔ c = b := by
  rw [Bool.and_eq_true, decide_eq_true_eq, decide_eq_true_eq]
  exact ⟨fun h => Char.le_antisymm h.2 h.1, fun h => h ▸ ⟨Char.le_refl _, Char.le_refl _⟩⟩

/-- A bracket matches the characters that it stands for. -/
theorem accepts_bracketed_iff {negated : Bool} :
    (bracketed negated inside).accepts c = true ↔ Admitted c negated inside := by
  cases negated with
  | true =>
    rw [admitted_marked_iff, bracketed, Piece.accepts, bne_iff_ne, ne_eq, any_intervals_iff]
    · exact nofun
    · exact nofun
  | false =>
    unfold bracketed
    split
    · next b r _ hfront =>
      rw [Piece.accepts, admitted_turnedRange_iff (forward_eq_iff.1 hfront), bne_iff_ne, ne_eq,
        List.any_cons, List.any_cons, Bool.or_eq_true, Bool.or_eq_true, any_intervals_iff,
        single_iff, single_iff, not_or, not_or]
    · next r hr _ hfront =>
      rw [Piece.accepts, admitted_turned_iff (forward_eq_iff.1 hfront) hr, bne_iff_ne, ne_eq,
        any_intervals_iff]
    · next _ hmark =>
      rw [Piece.accepts, admitted_plain_iff fun r hturns => hmark r rfl (forward_eq_iff.2 hturns),
        Bool.bne_false, any_intervals_iff]

end Brackets

theorem bracketed_ne_star (negated : Bool) (inside : List Char) :
    bracketed negated inside ≠ .star := by
  unfold bracketed
  split <;> nofun

/-! ### Names -/

section Rules

variable {r rest name : List Char}

theorem shell_nil_iff : Shell [] name ↔ name = [] :=
  ⟨fun h => by cases h; rfl, fun h => h ▸ .nil⟩

theorem shell_star_iff :
    Shell ('*' :: r) name ↔ ∃ front back, name = front ++ back ∧ Shell r back := by
  constructor
  · intro h
    cases h with
    | star front h => exact ⟨front, _, rfl, h⟩
    | char hstar => exact absurd rfl hstar
  · rintro ⟨front, back, rfl, h⟩
    exact .star front h

theorem shell_any_iff : Shell ('?' :: r) name ↔ ∃ c cs, name = c :: cs ∧ Shell r cs := by
  constructor
  · intro h
    cases h with
    | any c h => exact ⟨c, _, rfl, h⟩
    | char _ hany => exact absurd rfl hany
  · rintro ⟨c, cs, rfl, h⟩
    exact .any c h

theorem shell_set_iff {negated : Bool} {inside : List Char}
    (hr : Encloses r negated inside rest) : Shell ('[' :: r) name ↔
      ∃ c cs, name = c :: cs ∧ Admitted c negated inside ∧ Shell rest cs := by
  constructor
  · intro h
    cases h with
    | set hr' hc h =>
      -- a bracket is read in one way only
      cases (bracket_eq_some_iff.2 hr).symm.trans (bracket_eq_some_iff.2 hr')
      exact ⟨_, _, rfl, hc, h⟩
    | unclosed hopen => exact absurd hr (hopen _ _ _)
    | char _ _ hset => exact absurd rfl hset
  · rintro ⟨c, cs, rfl, hc, h⟩
    exact .set hr hc h

theorem shell_unclosed_iff (hr : ∀ negated inside rest, ¬Encloses r negated inside rest) :
    Shell ('[' :: r) name ↔ ∃ cs, name = '[' :: cs ∧ Shell r cs := by
  constructor
  · intro h
    cases h with
    | set hclosed => exact absurd hclosed (hr _ _ _)
    | unclosed _ h => exact ⟨_, rfl, h⟩
    | char _ _ hset => exact absurd rfl hset
  · rintro ⟨cs, rfl, h⟩
    exact .unclosed hr h

theorem shell_char_iff {d : Char} (hstar : d ≠ '*') (hany : d ≠ '?') (hset : d ≠ '[') :
    Shell (d :: r) name ↔ ∃ cs, name = d :: cs ∧ Shell r cs := by
  constructor
  · intro h
    cases h with
    | star => exact absurd rfl hstar
    | any => exact absurd rfl hany
    | set => exact absurd rfl hset
    | unclosed => exact absurd rfl hset
    | char _ _ _ h => exact ⟨_, rfl, h⟩
  · rintro ⟨cs, rfl, h⟩
    exact .char hstar hany hset h

end Rules

theorem anyTail_iff {test : List Char → Bool} {cs : List Char} :
    anyTail test cs = true ↔ ∃ front back, cs = front ++ back ∧ test back = true := by
  induction cs with
  | nil =>
    rw [anyTail]
    constructor
    · exact fun h => ⟨[], [], rfl, h⟩
    · rintro ⟨front, back, htext, h⟩
      rwa [(List.append_eq_nil_iff.1 htext.symm).2] at h
  | cons c cs ih =>
    rw [anyTail, Bool.or_eq_true, ih]
    constructor
    · rintro (h | ⟨front, back, rfl, h⟩)
      · exact ⟨[], c :: cs, rfl, h⟩
      · exact ⟨c :: front, back, rfl, h⟩
    · rintro ⟨front, back, htext, h⟩
      cases front with
      | nil => exact .inl (by rwa [htext])
      | cons d front =>
        obtain ⟨-, rfl⟩ := List.cons.inj htext
        exact .inr ⟨front, back, rfl, h⟩

/-- What a piece for one character asks of a name. -/
theorem matchesChars_cons_iff {p : Piece} (hp : p ≠ .star) {ps : List Piece} {name : List Char} :
    matchesChars (p :: ps) name = true ↔
      ∃ c cs, name = c :: cs ∧ p.accepts c = true ∧ matchesChars ps cs = true := by
  cases name with
  | nil => cases p <;> simp_all [matchesChars]
  | cons c cs => cases p <;> simp_all [matchesChars]

theorem matchesChars_char_iff {d : Char} {ps : List Piece} {name : List Char} :
    matchesChars (.char d :: ps) name = true ↔
      ∃ cs, name = d :: cs ∧ matchesChars ps cs = true := by
  rw [matchesChars_cons_iff (p := .char d) nofun]
  constructor
  · rintro ⟨c, cs, rfl, hc, h⟩
    exact ⟨cs, by rw [of_decide_eq_true hc], h⟩
  · rintro ⟨cs, rfl, h⟩
    exact ⟨d, cs, rfl, decide_eq_true rfl, h⟩

theorem Encloses.length_lt {cs inside rest : List Char} {negated : Bool}
    (h : Encloses cs negated inside rest) : rest.length < cs.length := by
  rw [h.text, List.length_append, List.length_cons]
  omega

theorem matchesChars_piecesFrom_iff {n : Nat} {part name : List Char} (hn : part.length ≤ n) :
    matchesChars (piecesFrom n part) name = true ↔ Shell part name := by
  induction n generalizing part name with
  | zero =>
    rw [List.eq_nil_of_length_eq_zero (Nat.le_zero.1 hn), piecesFrom, matchesChars, shell_nil_iff,
      List.isEmpty_iff]
  | succ n ih =>
    have hlater {c : Char} {r : List Char} (hn : (c :: r).length ≤ n + 1) (cs : List Char) :
        matchesChars (piecesFrom n r) cs = true ↔ Shell r cs :=
      ih (Nat.le_of_succ_le_succ hn)
    rw [piecesFrom.eq_def]
    split
    · next hzero => cases hzero
    · rw [matchesChars, shell_nil_iff, List.isEmpty_iff]
    · next hfuel =>
      cases hfuel
      simp only [matchesChars, anyTail_iff, shell_star_iff, hlater hn]
    · next hfuel =>
      cases hfuel
      simp [matchesChars_cons_iff, Piece.accepts, shell_any_iff, hlater hn]
    · next r hfuel =>
      cases hfuel
      split
      · next negated inside rest hbracket =>
        have hr := bracket_eq_some_iff.1 hbracket
        have hrest : rest.length ≤ n := by
          have hlt := hr.length_lt
          rw [List.length_cons] at hn
          omega
        simp only [matchesChars_cons_iff (bracketed_ne_star negated inside), shell_set_iff hr,
          accepts_bracketed_iff, ih hrest]
      · next hbracket =>
        have hopen (negated : Bool) (inside rest : List Char) :
            ¬Encloses r negated inside rest := by
          intro hr
          rw [bracket_eq_some_iff.2 hr] at hbracket
          cases hbracket
        simp only [matchesChars_char_iff, shell_unclosed_iff hopen, hlater hn]
    · next d r hstar hany hset hfuel =>
      cases hfuel
      simp only [matchesChars_char_iff, shell_char_iff hstar hany hset, hlater hn]

/-- **A name is matched if it is by the rules.** -/
theorem matchesChars_pieces_iff (part name : String) :
    matchesChars (pieces part) name.toList = true ↔ Shell part.toList name.toList :=
  matchesChars_piecesFrom_iff (Nat.le_of_eq String.length_toList)

end RouteLint.Glob
