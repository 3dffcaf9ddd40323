import RouteLint.Proofs.Json.Grammar

/-!
# Skipping blanks and comments

The reader skips blanks and comments before each token.  It skips all that may stand there: a gap
before anything else is passed over.  It skips nothing more: what it passed over is a gap, or the
text has ended.  A comment that is never closed is not skipped, and no token starts like one.

## Main results

* `Gap.skip_append` — gaps are skipped.
* `skip_cases`, `gap_of_skip` — only gaps are skipped.
* `Ending.skip_eq` — after the last token nothing is left.
-/

namespace RouteLint.Json

/-! ### Single steps -/

theorem isSpace_iff (c : Char) : isSpace c = true ↔ c ∈ blanks := by
  constructor
  · intro h
    have hc : c = Char.ofNat c.toNat := (Char.ofNat_toNat c).symm
    have hn : c.toNat = 32 ∨ c.toNat = 9 ∨ c.toNat = 10 ∨ c.toNat = 11 ∨ c.toNat = 12 ∨
        c.toNat = 13 := by
      unfold isSpace at h
      rw [Bool.or_eq_true, beq_iff_eq, Bool.and_eq_true, decide_eq_true_eq, decide_eq_true_eq] at h
      rcases h with h | h
      · exact .inl (congrArg Char.toNat h)
      · omega
    rcases hn with hn | hn | hn | hn | hn | hn <;>
      (rw [hn] at hc; rw [hc]; decide)
  · intro h
    have hall : ∀ d ∈ blanks, isSpace d = true := List.all_iff_forall_prop.1 (by decide)
    exact hall c h

@[simp] theorem skip_nil : skip [] = [] := rfl

/-- Where no comment starts, one character is skipped, or none. -/
theorem skip_cons {c : Char} {cs : List Char} (hline : ∀ r, c = '/' → cs ≠ '/' :: r)
    (hblock : ∀ r, c = '/' → cs ≠ '*' :: r) :
    skip (c :: cs) = if isSpace c then skip cs else c :: cs :=
  skipFrom.eq_4 c cs hline hblock

theorem skip_blank {c : Char} (hc : c ∈ blanks) (cs : List Char) : skip (c :: cs) = skip cs := by
  have hslash : c ≠ '/' := by
    rintro rfl
    revert hc
    decide
  rw [skip_cons (fun _ h => absurd h hslash) (fun _ h => absurd h hslash),
    if_pos ((isSpace_iff c).2 hc)]

/-- Where a token starts there is nothing to skip. -/
theorem skip_solid {c : Char} (hc : c ∉ blanks) (hslash : c ≠ '/') (cs : List Char) :
    skip (c :: cs) = c :: cs := by
  rw [skip_cons (fun _ h => absurd h hslash) (fun _ h => absurd h hslash),
    if_neg fun h => hc ((isSpace_iff c).1 h)]

theorem skip_line (cs : List Char) : skip ('/' :: '/' :: cs) = skipFrom .line cs := rfl

theorem skip_block (cs : List Char) :
    skip ('/' :: '*' :: cs) = skipFrom (.block ('/' :: '*' :: cs)) cs := rfl

/-- A slash that starts no comment is not skipped. -/
theorem skip_slash {cs : List Char} (hline : ∀ r, cs ≠ '/' :: r) (hblock : ∀ r, cs ≠ '*' :: r) :
    skip ('/' :: cs) = '/' :: cs := by
  rw [skip_cons (fun r _ => hline r) (fun r _ => hblock r), if_neg (by decide)]

/-! ### Comments -/

/-- Inside a comment that ends with its line, one character before the end of the line. -/
theorem skipFrom_line_cons {c : Char} (hc : c ≠ '\n') (cs : List Char) :
    skipFrom .line (c :: cs) = skipFrom .line cs :=
  if_neg hc

theorem skipFrom_line_append {body : List Char} (hbody : '\n' ∉ body) (cs : List Char) :
    skipFrom .line (body ++ '\n' :: cs) = skip cs := by
  induction body with
  | nil => rfl
  | cons c body ih =>
    obtain ⟨hc, hbody⟩ : '\n' ≠ c ∧ '\n' ∉ body := by simpa using hbody
    rw [List.cons_append, skipFrom_line_cons (Ne.symm hc), ih hbody]

/-- The last line needs no end. -/
theorem skipFrom_line_end {body : List Char} (hbody : '\n' ∉ body) :
    skipFrom .line body = [] := by
  induction body with
  | nil => rfl
  | cons c body ih =>
    obtain ⟨hc, hbody⟩ : '\n' ≠ c ∧ '\n' ∉ body := by simpa using hbody
    rw [skipFrom_line_cons (Ne.symm hc), ih hbody]

/-- Inside a comment in marks, one character that does not start the closing mark. -/
theorem skipFrom_block_cons {start : List Char} {c : Char} {cs : List Char}
    (h : ¬['*', '/'] <+: c :: cs) :
    skipFrom (.block start) (c :: cs) = skipFrom (.block start) cs := by
  refine skipFrom.eq_9 start c cs fun r hc hr => h ?_
  rw [hc, hr]
  exact ⟨r, rfl⟩

theorem skipFrom_block_append {start body : List Char}
    (hbody : ¬['*', '/'] <:+: body ++ ['*']) (cs : List Char) :
    skipFrom (.block start) (body ++ '*' :: '/' :: cs) = skip cs := by
  induction body with
  | nil => rfl
  | cons c body ih =>
    rw [List.cons_append, List.infix_cons_iff, not_or] at hbody
    obtain ⟨hc, hbody⟩ := hbody
    rw [List.cons_append, skipFrom_block_cons, ih hbody]
    -- The closing mark does not begin here: it would lie before the star that begins the real one.
    rintro ⟨r, hr⟩
    refine hc ?_
    cases body with
    | nil => simp at hr
    | cons d body =>
      simp only [List.cons_append, List.nil_append, List.cons.injEq] at hr
      obtain ⟨rfl, rfl, -⟩ := hr
      exact ⟨body ++ ['*'], rfl⟩

/-- A comment that is never closed is not skipped. -/
theorem skipFrom_block_unclosed {start cs : List Char} (h : ¬['*', '/'] <:+: cs) :
    skipFrom (.block start) cs = start := by
  induction cs with
  | nil => rfl
  | cons c cs ih =>
    rw [List.infix_cons_iff, not_or] at h
    rw [skipFrom_block_cons h.1, ih h.2]

/-- The first closing mark of a text splits it. -/
theorem exists_first_mark {cs : List Char} (h : ['*', '/'] <:+: cs) :
    ∃ body r, cs = body ++ '*' :: '/' :: r ∧ ¬['*', '/'] <:+: body ++ ['*'] := by
  induction cs with
  | nil => simp at h
  | cons c cs ih =>
    by_cases hc : ['*', '/'] <+: c :: cs
    · obtain ⟨r, hr⟩ := hc
      exact ⟨[], r, hr.symm, by decide⟩
    · obtain ⟨body, r, rfl, hbody⟩ := ih ((List.infix_cons_iff.1 h).resolve_left hc)
      refine ⟨c :: body, r, rfl, ?_⟩
      rw [List.cons_append, List.infix_cons_iff, not_or]
      refine ⟨fun hp => hc ?_, hbody⟩
      have hsplit : c :: (body ++ '*' :: '/' :: r) = c :: (body ++ ['*']) ++ '/' :: r := by simp
      rw [hsplit]
      exact hp.trans (List.prefix_append _ _)

/-! ### Gaps -/

theorem Gap.append {g g' : List Char} (h : Gap g) (h' : Gap g') : Gap (g ++ g') := by
  induction h with
  | nil => exact h'
  | blank hc _ ih => exact .blank hc ih
  | @line body g hbody _ ih =>
    have := Gap.line hbody ih
    simpa using this
  | @block body g hbody _ ih =>
    have := Gap.block hbody ih
    simpa using this

/-- Gaps are skipped. -/
theorem Gap.skip_append {g : List Char} (h : Gap g) (cs : List Char) :
    skip (g ++ cs) = skip cs := by
  induction h with
  | nil => rfl
  | blank hc _ ih => rw [List.cons_append, skip_blank hc, ih]
  | @line body g hbody _ ih =>
    rw [List.cons_append, List.cons_append, List.append_assoc, List.cons_append, skip_line,
      skipFrom_line_append hbody, ih]
  | @block body g hbody _ ih =>
    rw [List.cons_append, List.cons_append, List.append_assoc, List.cons_append,
      List.cons_append, skip_block, skipFrom_block_append hbody, ih]

theorem Gap.ending {g e : List Char} (h : Gap g) (he : Ending e) : Ending (g ++ e) := by
  cases he with
  | gap hg => exact .gap (h.append hg)
  | line hg hbody =>
    rw [← List.append_assoc]
    exact .line (h.append hg) hbody

theorem Ending.skip_eq {e : List Char} (h : Ending e) : skip e = [] := by
  cases h with
  | gap hg => simpa using hg.skip_append []
  | line hg hbody => rw [hg.skip_append, skip_line, skipFrom_line_end hbody]

/-- Only gaps are skipped, and a comment that ends with the text. -/
theorem skip_cases (cs : List Char) :
    (∃ g, Gap g ∧ cs = g ++ skip cs) ∨ skip cs = [] ∧ Ending cs := by
  -- By the length of the text: a comment may take away any number of characters.
  induction hn : cs.length using Nat.strong_induction_on generalizing cs with
  | _ n ih =>
    have after : ∀ front rest : List Char, Gap front → front ≠ [] → cs = front ++ rest →
        (∃ g, Gap g ∧ cs = g ++ skip cs) ∨ skip cs = [] ∧ Ending cs := by
      rintro front rest hfront hne rfl
      have hlt : rest.length < n := by
        have := List.length_pos_of_ne_nil hne
        rw [← hn, List.length_append]
        omega
      rw [hfront.skip_append]
      rcases ih rest.length hlt rest rfl with ⟨g, hg, hrest⟩ | ⟨hskip, he⟩
      · refine .inl ⟨front ++ g, hfront.append hg, ?_⟩
        rw [List.append_assoc, ← hrest]
      · exact .inr ⟨hskip, hfront.ending he⟩
    have stay : skip cs = cs → (∃ g, Gap g ∧ cs = g ++ skip cs) ∨ skip cs = [] ∧ Ending cs :=
      fun h => .inl ⟨[], .nil, h.symm⟩
    cases cs with
    | nil => exact stay rfl
    | cons c cs =>
      by_cases hc : c ∈ blanks
      · exact after [c] cs (.blank hc .nil) (by simp) rfl
      by_cases hslash : c = '/'
      · subst hslash
        by_cases hline : ∃ r, cs = '/' :: r
        · obtain ⟨r, rfl⟩ := hline
          by_cases hr : '\n' ∈ r
          · obtain ⟨body, r', rfl, hbody⟩ := List.eq_append_cons_of_mem hr
            exact after ('/' :: '/' :: (body ++ ['\n'])) r' (.line hbody .nil) (by simp) (by simp)
          · refine .inr ⟨?_, .line .nil hr⟩
            rw [skip_line, skipFrom_line_end hr]
        by_cases hblock : ∃ r, cs = '*' :: r
        · obtain ⟨r, rfl⟩ := hblock
          by_cases hr : ['*', '/'] <:+: r
          · obtain ⟨body, r', rfl, hbody⟩ := exists_first_mark hr
            exact after ('/' :: '*' :: (body ++ ['*', '/'])) r' (.block hbody .nil) (by simp)
              (by simp)
          · refine stay ?_
            rw [skip_block, skipFrom_block_unclosed hr]
        exact stay (skip_slash (fun r h => hline ⟨r, h⟩) fun r h => hblock ⟨r, h⟩)
      · exact stay (skip_solid hc hslash cs)

/-- What stands before a token is a gap. -/
theorem gap_of_skip {cs r : List Char} {c : Char} (h : skip cs = c :: r) :
    ∃ g, Gap g ∧ cs = g ++ c :: r := by
  rcases skip_cases cs with ⟨g, hg, hcs⟩ | ⟨hskip, -⟩
  · exact ⟨g, hg, h ▸ hcs⟩
  · rw [h] at hskip
    cases hskip

/-- Where nothing is left the text has ended. -/
theorem ending_of_skip {cs : List Char} (h : skip cs = []) : Ending cs := by
  rcases skip_cases cs with ⟨g, hg, hcs⟩ | ⟨-, he⟩
  · rw [h, List.append_nil] at hcs
    exact .gap (hcs ▸ hg)
  · exact he

end RouteLint.Json
