import RouteLint.Syntax.Types

/-!
# What scans pass over

A scan that succeeds has gone over some text from where it started.  This is shown for each scan of
tokens and types from the scans that it is made of, by a class whose instances follow the ways in
which scans are put together.  It makes the text between two places, which is cut out by counting
characters, the text that was gone over between them.

Blanks and comments before a token are passed over, and nothing else is; there are none where a
token starts.

## Main definitions

* `Cursor.Passes` — going over some text from one place to another.
* `Trivia` — blanks and comments.
* `Yields` — what a scan gives if it succeeds.
* `Forward` — scans that go over some text.

## Main results

* `Cursor.Passes.textTo_eq` — the text between two places.
* `Cursor.token_token`, `Cursor.exists_trivia` — blanks and comments before a token.
-/

namespace RouteLint.Syntax

/-! ### Going over text -/

namespace Cursor

/-- Going over some text from one place to another. -/
inductive Passes : Cursor → List Char → Cursor → Prop
  | here (c : Cursor) : c.Passes [] c
  | past {a b : Cursor} {x : Char} {xs rest : List Char} (ha : a.rest = x :: rest)
    (h : (a.past x rest).Passes xs b) : a.Passes (x :: xs) b

variable {a b c : Cursor} {xs ys : List Char}

theorem Passes.append (h : a.Passes xs b) (h' : b.Passes ys c) : a.Passes (xs ++ ys) c := by
  induction h with
  | here => exact h'
  | past ha _ ih => exact .past ha (ih h')

theorem Passes.rest_eq (h : a.Passes xs b) : a.rest = xs ++ b.rest := by
  induction h with
  | here => rfl
  | past ha _ ih => rw [ha, List.cons_append, ← ih]; rfl

theorem Passes.index_eq (h : a.Passes xs b) : b.index = a.index + xs.length := by
  induction h with
  | here => rfl
  | @past a _ x xs rest _ _ ih =>
    rw [ih, List.length_cons, Nat.add_comm xs.length, ← Nat.add_assoc]
    rfl

/-- The text between two places is what is gone over between them. -/
theorem Passes.textTo_eq (h : a.Passes xs b) : a.textTo b = String.ofList xs := by
  unfold textTo
  rw [h.rest_eq, h.index_eq, Nat.add_sub_cancel_left, List.take_left]

theorem passes_advance (n : Nat) (c : Cursor) : c.Passes (c.rest.take n) (c.advance n) := by
  induction n generalizing c with
  | zero => exact .here c
  | succ n ih =>
    unfold advance
    split
    · next hrest =>
      rw [hrest, List.take_nil]
      exact .here c
    · next x xs hrest =>
      rw [hrest, List.take_succ_cons]
      exact .past hrest (ih _)

end Cursor

/-! ### Blanks and comments -/

/-- A character that starts no comment. -/
theorem triviaFrom_gap_cons {c : Char} {cs : List Char}
    (hline : ∀ r, c = '/' → cs = '/' :: r → False) (hblock : ∀ r, c = '/' → cs = '*' :: r → False)
    (taken kept : Nat) : triviaFrom .gap taken kept (c :: cs) =
      if isGap c then triviaFrom .gap (taken + 1) taken cs else taken := by
  rw [triviaFrom.eq_def]
  split
  case h_7 heq => cases heq; exact (hline _ rfl rfl).elim
  case h_8 heq => cases heq; exact (hblock _ rfl rfl).elim
  case h_9 heq => cases heq; rfl
  all_goals contradiction

/-- A character in a comment that does not end it. -/
theorem triviaFrom_block_cons {c : Char} {cs : List Char}
    (hend : ∀ r, c = '*' → cs = '/' :: r → False) (taken kept : Nat) :
    triviaFrom .block taken kept (c :: cs) = triviaFrom .block (taken + 1) kept cs := by
  rw [triviaFrom.eq_def]
  split
  case h_4 heq => cases heq; exact (hend _ rfl rfl).elim
  case h_5 heq => cases heq; rfl
  all_goals contradiction

/-- Blanks and comments. -/
inductive Trivia : List Char → Prop
  | nil : Trivia []
  | blank {c : Char} {cs : List Char} (hc : isGap c = true) (h : Trivia cs) : Trivia (c :: cs)
  | line {body cs : List Char} {c : Char} (hbody : ∀ x ∈ body, isLineEnd x = false)
    (hc : isLineEnd c = true) (h : Trivia cs) : Trivia ('/' :: '/' :: body ++ c :: cs)
  | block {body cs : List Char} (hbody : ¬['*', '/'] <:+: body ++ ['*']) (h : Trivia cs) :
    Trivia ('/' :: '*' :: body ++ '*' :: '/' :: cs)

theorem Trivia.append {cs ds : List Char} (h : Trivia cs) (hds : Trivia ds) : Trivia (cs ++ ds) := by
  induction h with
  | nil => exact hds
  | blank hc _ ih => exact .blank hc ih
  | line hbody hc _ ih =>
    rw [List.append_assoc]
    exact .line hbody hc ih
  | block hbody _ ih =>
    rw [List.append_assoc]
    exact .block hbody ih

theorem isWordChar_of_isGap {c : Char} (h : isGap c = true) : isWordChar c = false := by
  unfold isWordChar
  rw [h, Bool.not_true, Bool.and_false, Bool.false_and]

theorem isGap_of_isLineEnd {c : Char} (h : isLineEnd c = true) : isGap c = true := by
  have hline : c.toNat = 10 ∨ c.toNat = 13 ∨ c.toNat = 0x2028 ∨ c.toNat = 0x2029 := by
    unfold isLineEnd at h
    simp only [Bool.or_eq_true, decide_eq_true_eq, beq_iff_eq] at h
    rcases h with ((rfl | rfl) | h) | h
    · exact .inl rfl
    · exact .inr (.inl rfl)
    · exact .inr (.inr (.inl h))
    · exact .inr (.inr (.inr h))
  unfold isGap
  rcases hline with h | h | h | h <;> rw [h] <;> rfl

/-- No word starts blanks and comments. -/
theorem Trivia.head {cs : List Char} (h : Trivia cs) {x : Char} (hx : cs.head? = some x) :
    isWordChar x = false := by
  cases h with
  | nil => cases hx
  | blank hc => cases hx; exact isWordChar_of_isGap hc
  | line => cases hx; decide
  | block => cases hx; decide

/-- No word ends blanks and comments. -/
theorem Trivia.last {cs : List Char} (h : Trivia cs) {x : Char} (hx : cs.getLast? = some x) :
    isWordChar x = false := by
  have hcons {c : Char} {cs : List Char} (hc : isWordChar c = false)
      (ih : ∀ {x}, cs.getLast? = some x → isWordChar x = false) :
      isWordChar (cs.getLast?.getD c) = false := by
    cases hlast : cs.getLast? with
    | none => exact hc
    | some y => exact ih hlast
  induction h generalizing x with
  | nil => cases hx
  | blank hc _ ih =>
    rw [List.getLast?_cons] at hx
    cases hx
    exact hcons (isWordChar_of_isGap hc) ih
  | line _ hc _ ih =>
    rw [List.getLast?_append, List.getLast?_cons] at hx
    cases hx
    exact hcons (isWordChar_of_isGap (isGap_of_isLineEnd hc)) ih
  | block _ _ ih =>
    rw [List.getLast?_append, List.getLast?_cons, List.getLast?_cons] at hx
    cases hx
    exact hcons (by decide) ih

/-- A text before which nothing is passed over. -/
def StartsToken (cs : List Char) : Prop := ∀ taken kept, triviaFrom .gap taken kept cs = taken

/-- How far blanks and comments go, from between comments or from inside one: up to a token, and not
to the end of the text unless there is no token. -/
def Passing.Settles : Passing → List Char → Prop
  | .gap, cs => ∃ n, (∀ taken kept, triviaFrom .gap taken kept cs = taken + n) ∧
      StartsToken (cs.drop n) ∧ (cs.drop n ≠ [] → Trivia (cs.take n))
  | .line, cs => ∃ n, (∀ taken kept, triviaFrom .line taken kept cs = taken + n) ∧
      StartsToken (cs.drop n) ∧ (cs.drop n ≠ [] → ∃ body c gap, cs.take n = body ++ c :: gap ∧
        (∀ x ∈ body, isLineEnd x = false) ∧ isLineEnd c = true ∧ Trivia gap)
  | .block, cs => (∀ taken kept, triviaFrom .block taken kept cs = kept) ∨
      ∃ n, (∀ taken kept, triviaFrom .block taken kept cs = taken + n) ∧
        StartsToken (cs.drop n) ∧ (cs.drop n ≠ [] → ∃ body gap, cs.take n =
          body ++ '*' :: '/' :: gap ∧ ¬['*', '/'] <:+: body ++ ['*'] ∧ Trivia gap)

/-- A character before the end of a comment does not end it. -/
theorem not_infix_cons {c : Char} {cs body rest : List Char} {n : Nat}
    (hend : ∀ r, c = '*' → cs = '/' :: r → False) (hcs : cs.take n = body ++ '*' :: rest)
    (hbody : ¬['*', '/'] <:+: body ++ ['*']) : ¬['*', '/'] <:+: c :: body ++ ['*'] := by
  rw [List.cons_append, List.infix_cons_iff, not_or]
  refine ⟨?_, hbody⟩
  rintro ⟨r, hr⟩
  obtain ⟨rfl, hr'⟩ := List.cons.inj hr
  cases body with
  | nil => cases hr'
  | cons d body =>
    obtain ⟨rfl, -⟩ := List.cons.inj hr'
    have hall := List.take_append_drop n cs
    rw [hcs] at hall
    exact hend _ rfl hall.symm

theorem Passing.settles (p : Passing) (taken kept : Nat) (cs : List Char) : p.Settles cs := by
  induction p, taken, kept, cs using triviaFrom.induct with
  | case1 => exact .inl fun _ _ => rfl
  | case2 => exact ⟨0, fun _ _ => rfl, fun _ _ => rfl, fun h => absurd rfl h⟩
  | case3 => exact ⟨0, fun _ _ => rfl, fun _ _ => rfl, fun _ => .nil⟩
  | case4 _ _ cs ih =>
    obtain ⟨n, hn, hstarts, htrivia⟩ := ih
    refine .inr ⟨n + 1 + 1, fun taken kept => ?_, hstarts, fun hne => ?_⟩
    · exact (hn (taken + 2) kept).trans (by omega)
    · exact ⟨[], _, rfl, by decide, htrivia hne⟩
  | case5 _ _ c cs hend ih =>
    rcases ih with ih | ⟨n, hn, hstarts, htrivia⟩
    · exact .inl fun taken kept => (triviaFrom_block_cons hend taken kept).trans (ih _ kept)
    · refine .inr ⟨n + 1, fun taken kept => ?_, hstarts, fun hne => ?_⟩
      · rw [triviaFrom_block_cons hend, hn]
        omega
      · obtain ⟨body, gap, htake, hbody, hgap⟩ := htrivia hne
        refine ⟨c :: body, gap, ?_, not_infix_cons hend htake hbody, hgap⟩
        rw [List.take_succ_cons, htake, List.cons_append]
  | case6 _ _ c cs hc ih =>
    obtain ⟨n, hn, hstarts, htrivia⟩ := ih
    refine ⟨n + 1, fun taken kept => ?_, hstarts, fun hne => ?_⟩
    · show (if isLineEnd c then _ else _) = _
      rw [if_pos hc, hn]
      omega
    · exact ⟨[], c, _, rfl, nofun, hc, htrivia hne⟩
  | case7 _ _ c cs hc ih =>
    obtain ⟨n, hn, hstarts, htrivia⟩ := ih
    refine ⟨n + 1, fun taken kept => ?_, hstarts, fun hne => ?_⟩
    · show (if isLineEnd c then _ else _) = _
      rw [if_neg hc, hn]
      omega
    · obtain ⟨body, d, gap, htake, hbody, hd, hgap⟩ := htrivia hne
      refine ⟨c :: body, d, gap, ?_, ?_, hd, hgap⟩
      · rw [List.take_succ_cons, htake, List.cons_append]
      · exact List.forall_mem_cons.2 ⟨Bool.eq_false_iff.2 hc, hbody⟩
  | case8 _ _ cs ih =>
    obtain ⟨n, hn, hstarts, htrivia⟩ := ih
    refine ⟨n + 1 + 1, fun taken kept => ?_, hstarts, fun hne => ?_⟩
    · exact (hn (taken + 2) taken).trans (by omega)
    · obtain ⟨body, c, gap, htake, hbody, hc, hgap⟩ := htrivia hne
      rw [List.take_succ_cons, List.take_succ_cons, htake]
      exact .line hbody hc hgap
  | case9 _ _ cs ih =>
    rcases ih with ih | ⟨n, hn, hstarts, htrivia⟩
    · -- a comment without an end is left
      exact ⟨0, fun taken _ => ih _ taken, fun taken _ => ih _ taken, fun _ => .nil⟩
    · refine ⟨n + 1 + 1, fun taken kept => ?_, hstarts, fun hne => ?_⟩
      · exact (hn (taken + 2) taken).trans (by omega)
      · obtain ⟨body, gap, htake, hbody, hgap⟩ := htrivia hne
        rw [List.take_succ_cons, List.take_succ_cons, htake]
        exact .block hbody hgap
  | case10 _ _ c cs hline hblock hc ih =>
    obtain ⟨n, hn, hstarts, htrivia⟩ := ih
    refine ⟨n + 1, fun taken kept => ?_, hstarts, fun hne => .blank hc (htrivia hne)⟩
    rw [triviaFrom_gap_cons hline hblock, if_pos hc, hn]
    omega
  | case11 _ _ c cs hline hblock hc =>
    have hstarts : StartsToken (c :: cs) := fun taken kept => by
      rw [triviaFrom_gap_cons hline hblock, if_neg hc]
    exact ⟨0, hstarts, hstarts, fun _ => .nil⟩

namespace Cursor

theorem rest_advance (n : Nat) (c : Cursor) : (c.advance n).rest = c.rest.drop n := by
  have h := (passes_advance n c).rest_eq
  conv at h => lhs; rw [← List.take_append_drop n c.rest]
  exact (List.append_cancel_left h).symm

theorem startsToken_token (c : Cursor) : StartsToken c.token.rest := by
  obtain ⟨n, hn, hstarts, -⟩ := Passing.gap.settles 0 0 c.rest
  unfold token
  rw [hn, Nat.zero_add, rest_advance]
  exact hstarts

@[simp] theorem token_token (c : Cursor) : c.token.token = c.token := by
  have hzero := startsToken_token c 0 0
  rw [token, hzero, advance]

/-- Blanks and comments are passed over before a token. -/
theorem exists_trivia (c : Cursor) :
    ∃ gap, c.Passes gap c.token ∧ (c.token.rest ≠ [] → Trivia gap) := by
  obtain ⟨n, hn, -, htrivia⟩ := Passing.gap.settles 0 0 c.rest
  unfold token
  rw [hn, Nat.zero_add]
  refine ⟨_, passes_advance n c, ?_⟩
  rw [rest_advance]
  exact htrivia

end Cursor

/-! ### What scans give -/

/-- What a scan gives from a place on, if it succeeds. -/
def Yields {α : Type} (s : Scan α) (c : Cursor) (P : α → Cursor → Prop) : Prop :=
  ∀ a d, s.run c = some (a, d) → P a d

section Yields

variable {α β : Type} {s t : Scan α} {c : Cursor} {P Q : α → Cursor → Prop}

theorem Yields.imp (h : Yields s c P) (himp : ∀ a d, P a d → Q a d) : Yields s c Q :=
  fun a d had => himp a d (h a d had)

theorem yields_pure {a : α} (h : P a c) : Yields (pure a) c P := by
  intro b d hbd
  cases hbd
  exact h

theorem yields_failure : Yields (failure : Scan α) c P := nofun

theorem Yields.bind {f : α → Scan β} {R : β → Cursor → Prop} (hs : Yields s c P)
    (hf : ∀ a d, P a d → Yields (f a) d R) : Yields (s >>= f) c R := by
  intro b e hbe
  rw [StateT.run_bind] at hbe
  obtain ⟨⟨a, d⟩, had, hbe⟩ := Option.bind_eq_some_iff.1 hbe
  exact hf a d (hs a d had) b e hbe

theorem Yields.orElse (hs : Yields s c P) (ht : Yields t c P) : Yields (s <|> t) c P := by
  intro a d had
  have hrun : (s <|> t).run c = (s.run c <|> t.run c) := rfl
  rw [hrun] at had
  cases hsc : s.run c with
  | some x => rw [hsc] at had; exact hs a d (hsc.trans had)
  | none => rw [hsc] at had; exact ht a d had

theorem yields_anyOf {ss : List (Scan α)} (h : ∀ s ∈ ss, Yields s c P) : Yields (anyOf ss) c P := by
  induction ss with
  | nil => exact yields_failure
  | cons s ss ih =>
    rw [List.forall_mem_cons] at h
    exact h.1.orElse (ih h.2)

theorem yields_get {P : Cursor → Cursor → Prop} (h : P c c) : Yields get c P := by
  intro a d had
  cases had
  exact h

theorem yields_mark {P : Cursor → Cursor → Prop} (h : P c.token c.token) : Yields mark c P := by
  intro a d had
  cases had
  exact h

theorem yields_bind_get {f : Cursor → Scan β} {R : β → Cursor → Prop} (h : Yields (f c) c R) :
    Yields (get >>= f) c R :=
  (yields_get (P := fun a d => a = c ∧ d = c) ⟨rfl, rfl⟩).bind fun _ _ ⟨ha, hd⟩ => ha ▸ hd ▸ h

theorem yields_bind_mark {f : Cursor → Scan β} {R : β → Cursor → Prop}
    (h : Yields (f c.token) c.token R) : Yields (mark >>= f) c R :=
  (yields_mark (P := fun a d => a = c.token ∧ d = c.token) ⟨rfl, rfl⟩).bind
    fun _ _ ⟨ha, hd⟩ => ha ▸ hd ▸ h

theorem yields_optionally (h : Yields s c P) :
    Yields (optionally s) c fun o d => o = none ∧ d = c ∨ ∃ a, o = some a ∧ P a d := by
  unfold optionally
  refine .orElse ?_ (yields_pure (.inl ⟨rfl, rfl⟩))
  rw [map_eq_pure_bind]
  exact h.bind fun a d ha => yields_pure (.inr ⟨a, rfl, ha⟩)

theorem yields_discard (h : Yields s c P) : Yields (discard s) c fun _ d => ∃ a, P a d := by
  show Yields (Function.const _ () <$> s) c _
  rw [map_eq_pure_bind]
  exact h.bind fun a d ha => yields_pure ⟨a, ha⟩

/-- What is kept by extending once is kept by extending. -/
theorem yields_extend {s : α → Scan α} {a : α} (ha : P a c)
    (hs : ∀ b d, P b d → Yields (s b) d P) : Yields (extend s a) c P := by
  have hfrom : ∀ (fuel : List Char) (a : α) (c : Cursor), P a c →
      Yields (extendFrom s fuel a) c P := by
    intro fuel
    induction fuel with
    | nil => exact fun _ _ => yields_pure
    | cons _ fuel ih =>
      intro a c ha
      exact ((hs a c ha).bind ih).orElse (yields_pure ha)
  exact (yields_get (P := fun _ d => P a d) ha).bind fun _ d => hfrom _ a d

end Yields

/-! ### Scans go over text -/

/-- Some text leads from one place to another. -/
def Cursor.Reaches (a b : Cursor) : Prop := ∃ xs, a.Passes xs b

theorem Cursor.Reaches.refl (c : Cursor) : c.Reaches c := ⟨[], .here c⟩

theorem Cursor.Reaches.trans {a b c : Cursor} (h : a.Reaches b) (h' : b.Reaches c) :
    a.Reaches c := by
  obtain ⟨xs, hxs⟩ := h
  obtain ⟨ys, hys⟩ := h'
  exact ⟨xs ++ ys, hxs.append hys⟩

theorem Cursor.reaches_token (c : Cursor) : c.Reaches c.token := ⟨_, passes_advance _ c⟩

/-- A scan goes over some text if it succeeds. -/
class Forward {α : Type} (s : Scan α) : Prop where
  reaches (c : Cursor) : Yields s c fun _ d => c.Reaches d

section Forward

variable {α β : Type} (s t : Scan α)

theorem yields_bind_forward {s : Scan α} [Forward s] {c : Cursor} {f : α → Scan β}
    {R : β → Cursor → Prop} (h : ∀ a d, c.Reaches d → Yields (f a) d R) : Yields (s >>= f) c R :=
  (Forward.reaches c).bind h

instance (a : α) : Forward (pure a : Scan α) := ⟨fun c => yields_pure (.refl c)⟩

instance : Forward (failure : Scan α) := ⟨fun _ => yields_failure⟩

instance : Forward (get : Scan Cursor) := ⟨fun c => yields_get (.refl c)⟩

instance : Forward mark := ⟨fun c => yields_mark c.reaches_token⟩

instance : Forward trivia := ⟨fun c a d had => by cases had; exact c.reaches_token⟩

instance forward_bind (f : α → Scan β) [Forward s] [∀ a, Forward (f a)] : Forward (s >>= f) :=
  ⟨fun c => (Forward.reaches c).bind fun a d hd =>
    (Forward.reaches (s := f a) d).imp fun _ _ => hd.trans⟩

instance [Forward s] [Forward t] : Forward (s <|> t) :=
  ⟨fun c => (Forward.reaches c).orElse (Forward.reaches c)⟩

instance (p : Prop) [Decidable p] [Forward s] [Forward t] : Forward (if p then s else t) := by
  split <;> assumption

instance (f : α → β) [Forward s] : Forward (f <$> s) := by
  rw [map_eq_pure_bind]
  infer_instance

instance [Forward s] : Forward (discard s) := inferInstanceAs (Forward (Function.const _ () <$> s))

instance (b : Bool) : Forward (require b) := by unfold require; infer_instance

instance [Forward s] : Forward (optionally s) := by unfold optionally; infer_instance

instance [Forward s] : Forward (succeeds s) := by unfold succeeds; infer_instance

/-- Looking ahead goes over nothing. -/
instance : Forward (wouldSucceed s) := by
  refine ⟨fun c => ?_⟩
  unfold wouldSucceed
  refine (yields_get (P := fun a _ => a = c) rfl).bind ?_
  rintro _ d rfl b e hbe
  rw [StateT.run_bind] at hbe
  obtain ⟨⟨found, d'⟩, -, hbe⟩ := Option.bind_eq_some_iff.1 hbe
  cases hbe
  exact .refl _

instance : Forward endsLine := by unfold endsLine; infer_instance

instance : Forward ahead := by unfold ahead; infer_instance

instance : Forward (anyOf ([] : List (Scan α))) := by unfold anyOf; infer_instance

instance (ss : List (Scan α)) [Forward s] [Forward (anyOf ss)] : Forward (anyOf (s :: ss)) := by
  unfold anyOf
  infer_instance

instance [Forward s] : Forward (many s) := by
  have hfrom : ∀ fuel, Forward (manyFrom s fuel) := by
    intro fuel
    induction fuel with
    | nil => unfold manyFrom; infer_instance
    | cons _ fuel ih => unfold manyFrom; infer_instance
  unfold many
  infer_instance

instance (f : α → Scan α) (a : α) [∀ a, Forward (f a)] : Forward (extend f a) :=
  ⟨fun c => yields_extend (P := fun _ d => c.Reaches d) (.refl c) fun b d hd =>
    (Forward.reaches (s := f b) d).imp fun _ _ => hd.trans⟩

instance (xs : List α) (b : β) (f : α → β → Scan (ForInStep β)) [∀ x b, Forward (f x b)] :
    Forward (forIn xs b f) := by
  induction xs generalizing b with
  | nil => rw [List.forIn_nil]; infer_instance
  | cons x xs ih =>
    rw [List.forIn_cons]
    refine @forward_bind _ _ _ _ inferInstance fun step => ?_
    cases step <;> infer_instance

end Forward

/-! ### Tokens -/

instance (test : Char → Bool) : Forward (characterIf test) := by
  refine ⟨fun c => ?_⟩
  unfold characterIf
  refine yields_bind_get ?_
  split
  · next x xs hrest =>
    split
    · intro a d had
      cases had
      exact ⟨[x], .past hrest (.here _)⟩
    · exact yields_failure
  · exact yields_failure

theorem yields_exactly (s : String) (c : Cursor) :
    Yields (exactly s) c fun _ d => c.Passes s.toList d := by
  unfold exactly
  refine yields_bind_get ?_
  split
  · next hprefix =>
    obtain ⟨rest, hrest⟩ := List.isPrefixOf_iff_prefix.1 hprefix
    intro a d had
    cases had
    have hpasses := Cursor.passes_advance s.length c
    rwa [← hrest, ← String.length_toList, List.take_left] at hpasses
  · exact yields_failure

instance (s : String) : Forward (exactly s) :=
  ⟨fun c => (yields_exactly s c).imp fun _ _ hd => ⟨_, hd⟩⟩

section Tokens

variable {α : Type} (s : Scan α)

instance (sign : String) : Forward (symbol sign) := by unfold symbol; infer_instance

instance (signs : List String) : Forward (symbolOf signs) := by
  unfold symbolOf
  induction signs with
  | nil => rw [List.map_nil]; infer_instance
  | cons sign signs ih => rw [List.map_cons]; infer_instance

instance (test : Char → Bool) : Forward (wordPart test) := by unfold wordPart; infer_instance

instance : Forward anyWord := by unfold anyWord; infer_instance

instance (w : String) : Forward (word w) := by unfold word; infer_instance

instance : Forward identifier := by unfold identifier; infer_instance

instance [Forward s] : Forward (piece s) := by unfold piece; infer_instance

theorem yields_piece [Forward s] (c : Cursor) :
    Yields (piece s) c fun x d => c.token.Reaches d ∧ x.2.text = c.token.textTo d := by
  unfold piece
  refine yields_bind_mark (yields_bind_forward fun a d hd => ?_)
  exact yields_bind_get (yields_pure ⟨hd, rfl⟩)

instance (separator : String) [Forward s] : Forward (list separator s) := by
  unfold list
  refine @forward_bind _ _ _ _ inferInstance fun first => ?_
  cases first <;> infer_instance

end Tokens

/-! ### Literals and groups -/

instance (quote : Char) : Forward (quotedPart quote) := by unfold quotedPart; infer_instance

instance : Forward quotedText := by unfold quotedText; infer_instance

instance : Forward digits := by unfold digits; infer_instance

instance : Forward decimals := by unfold decimals; infer_instance

instance : Forward numberTail := by unfold numberTail; infer_instance

instance : Forward number := by unfold number; infer_instance

instance : Forward patternPart := by unfold patternPart; infer_instance

instance : Forward regularExpression := by unfold regularExpression; infer_instance

instance : Forward templateText := by unfold templateText; infer_instance

instance (hole : Scan Unit) [Forward hole] : Forward (template hole) := by
  unfold template
  infer_instance

instance (opened : List Opened) : Forward (skimTemplate opened) := by
  unfold skimTemplate
  infer_instance

instance (s : Skim) : Forward (skimClosing s) := by
  unfold skimClosing
  split <;> infer_instance

set_option synthInstance.maxSize 1000 in
instance (s : Skim) : Forward (skim s) := by unfold skim; infer_instance

instance (opening : Char) : Forward (group opening) := by unfold group; infer_instance

instance : Forward propertyName := by
  have hnumber : Forward (do
      let (_, p) ← piece number
      return PropertyName.identifier p.text) := by
    infer_instance
  unfold propertyName
  infer_instance

/-! ### Types -/

section Types

set_option synthInstance.maxSize 1000

variable (r : Rules) [Forward r.type] [Forward r.union] [Forward r.single]

instance : Forward (typeArguments r) := by unfold typeArguments; infer_instance

instance : Forward variance := by unfold variance; infer_instance

instance : Forward (typeParameter r) := by unfold typeParameter; infer_instance

instance : Forward (typeParameters r) := by unfold typeParameters; infer_instance

instance : Forward (resultType r) := by unfold resultType; infer_instance

instance : Forward (signature r) := by unfold signature; infer_instance

instance : Forward memberModifier := by
  have hahead (cs : List Char) : Forward (match cs with
      | c :: _ => require (isWordChar c || c == '"' || c == '\'' || c == '[' || c == '#' || c == '*')
      | [] => failure) := by
    cases cs <;> infer_instance
  unfold memberModifier
  infer_instance

instance : Forward indexSignature := by unfold indexSignature; infer_instance

instance : Forward (namedMember r) := by unfold namedMember; infer_instance

instance : Forward (member r) := by unfold member; infer_instance

instance : Forward (members r) := by unfold members; infer_instance

instance : Forward (queryType r) := by unfold queryType; infer_instance

instance : Forward (functionType r) := by unfold functionType; infer_instance

instance : Forward (constructorType r) := by unfold constructorType; infer_instance

instance : Forward (inferType r) := by unfold inferType; infer_instance

instance : Forward comment := by unfold comment; infer_instance

instance : Forward comments := by unfold comments; infer_instance

end Types

end RouteLint.Syntax
