import Mathlib.Data.List.TakeDrop
import RouteLint.Proofs.Data.Attempts
import RouteLint.Proofs.Json.Grammar

/-!
# Reading texts and numbers

The reader takes a text or a number off the front and works out later what it denotes.  Both steps
together accept exactly the texts and numbers of the grammar.  A number goes as far as it can, so
what follows it must not look like more of it.

## Main results

* `isText_of_textBody`, `IsText.textBody_append` — texts.
* `isNumber_of_number`, `IsNumber.number` — numbers.
-/

namespace RouteLint.Json

/-! ### Code points -/

theorem joins_iff (us ps : List Nat) : Joins us ps ↔ joinSurrogates us = ps := by
  constructor
  · intro h
    induction h with
    | nil => rfl
    | @pair a b us ps ha hb _ ih =>
      unfold IsHigh at ha
      unfold IsLow at hb
      rw [joinSurrogates, if_pos (by simp [ha, hb]), ih]
    | @single a us ps ha _ ih =>
      cases us with
      | nil => simpa [joinSurrogates] using ih
      | cons b us =>
        have hpair : ¬(IsHigh a ∧ IsLow b) := fun h => ha h.1 b rfl h.2
        rw [joinSurrogates, if_neg, ih]
        intro h
        simp only [Bool.and_eq_true, decide_eq_true_eq] at h
        exact hpair ⟨h.1.1, h.1.2, h.2⟩
  · rintro rfl
    induction us using joinSurrogates.induct with
    | case1 => exact .nil
    | case2 a => exact .single (by simp) .nil
    | case3 a b us h ih =>
      rw [joinSurrogates, if_pos h]
      simp only [Bool.and_eq_true, decide_eq_true_eq] at h
      exact .pair h.1.1 ⟨h.1.2, h.2⟩ ih
    | case4 a b us h ih =>
      rw [joinSurrogates, if_neg h]
      refine .single ?_ ih
      intro ha c hc hb
      cases hc
      exact h (by simp [ha.1, ha.2, hb.1, hb.2])

/-! ### Texts -/

/-- A character that stands for itself inside a text. -/
def IsPlain (c : Char) : Prop := c ≠ '"' ∧ c ≠ '\\' ∧ c ≠ '\n'

theorem isPlain_of_le {c : Char} (hquote : c ≠ '"') (hslash : c ≠ '\\') (hc : 0x20 ≤ c.toNat) :
    IsPlain c := by
  refine ⟨hquote, hslash, ?_⟩
  rintro rfl
  revert hc
  decide

theorem isPlain_of_hexDigit {c : Char} {n : Nat} (h : hexDigit? c = some n) : IsPlain c := by
  refine ⟨?_, ?_, ?_⟩ <;>
    (rintro rfl; revert h; decide +revert)

theorem isPlain_of_hexQuad {a b c d : Char} {n : Nat} (h : hexQuad? a b c d = some n) :
    IsPlain a ∧ IsPlain b ∧ IsPlain c ∧ IsPlain d := by
  simp only [hexQuad?, Option.bind_eq_bind, Option.bind_eq_some_iff] at h
  obtain ⟨_, ha, _, hb, _, hc, _, hd, -⟩ := h
  exact ⟨isPlain_of_hexDigit ha, isPlain_of_hexDigit hb, isPlain_of_hexDigit hc,
    isPlain_of_hexDigit hd⟩

theorem textBody_cons_plain {c : Char} (h : IsPlain c) (cs : List Char) :
    textBody (c :: cs) = (textBody cs).map fun (b, r) => (c :: b, r) := by
  obtain ⟨hquote, hslash, hline⟩ := h
  rw [textBody.eq_5 _ _ (fun hc => hquote hc) (fun _ _ hc _ => hslash hc) (fun hc => hline hc),
    if_neg hslash]

theorem textBody_cons_escape {c : Char} (hc : isEscapable c = true) (cs : List Char) :
    textBody ('\\' :: c :: cs) = (textBody cs).map fun (b, r) => ('\\' :: c :: b, r) :=
  if_pos hc

/-- The ways in which the inside of a text can begin. -/
theorem textBody_cases {cs b r : List Char} (h : textBody cs = some (b, r)) :
    (b = [] ∧ cs = '"' :: r) ∨
    (∃ c cs' b', isEscapable c = true ∧ cs = '\\' :: c :: cs' ∧ b = '\\' :: c :: b' ∧
      textBody cs' = some (b', r)) ∨
    b = ['\n'] ∨
    ∃ c cs' b', IsPlain c ∧ cs = c :: cs' ∧ b = c :: b' ∧ textBody cs' = some (b', r) := by
  fun_cases textBody cs with
  | case1 => simp [textBody] at h
  | case2 cs =>
    simp only [textBody, Option.some.injEq, Prod.mk.injEq] at h
    exact .inl ⟨h.1.symm, h.2 ▸ rfl⟩
  | case3 c cs hc =>
    rw [textBody_cons_escape hc, Option.map_eq_some_iff] at h
    obtain ⟨⟨b', r'⟩, hcs, hbr⟩ := h
    cases hbr
    exact .inr (.inl ⟨c, cs, b', hc, rfl, rfl, hcs⟩)
  | case4 c cs hc =>
    rw [textBody, if_neg hc] at h
    cases h
  | case5 cs r' hr =>
    rw [textBody.eq_4, hr] at h
    cases h
    exact .inr (.inr (.inl rfl))
  | case6 cs hr =>
    rw [textBody.eq_4] at h
    split at h
    · next r' hr' => exact absurd hr' (hr r')
    · cases h
  | case7 cs _ hcs _ =>
    rw [textBody.eq_5 _ _ (by decide) hcs (by decide), if_pos rfl] at h
    cases h
  | case8 c cs hquote _ hline hslash =>
    have hc : IsPlain c := ⟨hquote, hslash, hline⟩
    rw [textBody_cons_plain hc, Option.map_eq_some_iff] at h
    obtain ⟨⟨b', r'⟩, hcs, hbr⟩ := h
    cases hbr
    exact .inr (.inr (.inr ⟨c, cs, b', hc, rfl, rfl, hcs⟩))

/-- A text that begins with a plain character. -/
theorem textBody_eq_cons {cs b r : List Char} {c : Char} (hc : IsPlain c)
    (h : textBody cs = some (c :: b, r)) : ∃ cs', cs = c :: cs' ∧ textBody cs' = some (b, r) := by
  obtain ⟨hb, -⟩ | ⟨_, _, _, -, -, hb, -⟩ | hb | ⟨_, cs', _, -, rfl, hb, h'⟩ := textBody_cases h
  · cases hb
  · exact absurd (List.cons.inj hb).1 hc.2.1
  · exact absurd (List.cons.inj hb).1 hc.2.2
  · obtain ⟨rfl, rfl⟩ := List.cons.inj hb
    exact ⟨cs', rfl, h'⟩

/-- A text that begins with a backslash. -/
theorem textBody_eq_escape {cs b r : List Char} {c : Char}
    (h : textBody cs = some ('\\' :: c :: b, r)) :
    isEscapable c = true ∧ ∃ cs', cs = '\\' :: c :: cs' ∧ textBody cs' = some (b, r) := by
  obtain ⟨hb, -⟩ | ⟨_, cs', _, hc, rfl, hb, h'⟩ | hb | ⟨_, _, _, hc, -, hb, -⟩ := textBody_cases h
  · cases hb
  · cases hb
    exact ⟨hc, cs', rfl, h'⟩
  · cases hb
  · exact absurd (List.cons.inj hb).1.symm hc.2.1

theorem mem_escapes {c : Char} (hc : isEscapable c = true) (hu : c ≠ 'u') :
    (c, escaped c) ∈ escapes := by
  have hall : ∀ d ∈ ['"', '\\', '/', 'b', 'f', 'n', 'r', 't', 'u'], d ≠ 'u' →
      (d, escaped d) ∈ escapes := List.all_iff_forall_prop.1 (by decide)
  exact hall c (List.contains_iff_mem.1 hc) hu

/-- What is taken for a text, and denotes something, is a text. -/
theorem isBody_of_textBody {b : List Char} {p : Nat} {us : List Nat} (hus : unescape p b = .ok us)
    {cs r : List Char} (h : textBody cs = some (b, r)) : cs = b ++ '"' :: r ∧ IsBody b us := by
  induction p, b using unescape.induct generalizing cs us with
  | case1 p =>
    cases hus
    obtain ⟨-, rfl⟩ | ⟨_, _, _, -, -, hb, -⟩ | hb | ⟨_, _, _, -, -, hb, -⟩ := textBody_cases h
    · exact ⟨rfl, .nil⟩
    · cases hb
    · cases hb
    · cases hb
  | case2 p a b c d b' n hn ih =>
    rw [unescape, hn] at hus
    obtain ⟨us', hus', rfl⟩ := except_ok_of_map hus
    obtain ⟨ha, hb, hc, hd⟩ := isPlain_of_hexQuad hn
    obtain ⟨-, cs₀, rfl, h₀⟩ := textBody_eq_escape h
    obtain ⟨cs₁, rfl, h₁⟩ := textBody_eq_cons ha h₀
    obtain ⟨cs₂, rfl, h₂⟩ := textBody_eq_cons hb h₁
    obtain ⟨cs₃, rfl, h₃⟩ := textBody_eq_cons hc h₂
    obtain ⟨cs₄, rfl, h₄⟩ := textBody_eq_cons hd h₃
    obtain ⟨rfl, hbody⟩ := ih hus' h₄
    exact ⟨rfl, .unit hn hbody⟩
  | case3 p a b c d b' hn =>
    rw [unescape, hn] at hus
    cases hus
  | case4 p b' hb' =>
    rw [unescape.eq_3 _ _ hb'] at hus
    cases hus
  | case5 p c b' hb' hu ih =>
    rw [unescape.eq_4 _ _ _ hb' hu] at hus
    obtain ⟨us', hus', rfl⟩ := except_ok_of_map hus
    obtain ⟨hc, cs', rfl, h'⟩ := textBody_eq_escape h
    obtain ⟨rfl, hbody⟩ := ih hus' h'
    exact ⟨rfl, .letter (mem_escapes hc hu) hbody⟩
  | case6 p c b' h₁ h₂ h₃ hlt =>
    rw [unescape.eq_5 _ _ _ h₁ h₂ h₃, if_pos hlt] at hus
    cases hus
  | case7 p c b' h₁ h₂ h₃ hlt ih =>
    rw [unescape.eq_5 _ _ _ h₁ h₂ h₃, if_neg hlt] at hus
    obtain ⟨us', hus', rfl⟩ := except_ok_of_map hus
    obtain ⟨hb, -⟩ | ⟨d, _, b, -, -, hb, -⟩ | hb | ⟨_, cs', _, hc, rfl, hb, h'⟩ :=
      textBody_cases h
    · cases hb
    · obtain ⟨rfl, rfl⟩ := List.cons.inj hb
      exact (h₃ d b rfl rfl).elim
    · obtain ⟨rfl, -⟩ := List.cons.inj hb
      exact absurd (by decide) hlt
    · obtain ⟨rfl, rfl⟩ := List.cons.inj hb
      obtain ⟨rfl, hbody⟩ := ih hus' h'
      exact ⟨rfl, .plain hc.1 hc.2.1 (Nat.le_of_not_lt hlt) hbody⟩

theorem isText_of_textBody {cs b r : List Char} {t : CodePoints} (h : textBody cs = some (b, r))
    (ht : textOf b = .ok t) : ∃ w, '"' :: cs = w ++ r ∧ IsText w t := by
  obtain ⟨us, hus, rfl⟩ := except_ok_of_map ht
  obtain ⟨rfl, hbody⟩ := isBody_of_textBody hus h
  exact ⟨'"' :: (b ++ ['"']), by simp, .mk hbody ((joins_iff _ _).2 rfl)⟩

theorem isEscapable_of_mem {c : Char} {n : Nat} (h : (c, n) ∈ escapes) :
    isEscapable c = true ∧ c ≠ 'u' ∧ escaped c = n := by
  have hall : ∀ e ∈ escapes, isEscapable e.1 = true ∧ e.1 ≠ 'u' ∧ escaped e.1 = e.2 := by decide
  exact hall _ h

/-- The inside of a text is taken off the front, and denotes what it spells. -/
theorem IsBody.textBody_append {b : List Char} {us : List Nat} (h : IsBody b us) (r : List Char) :
    textBody (b ++ '"' :: r) = some (b, r) ∧ ∀ p, unescape p b = .ok us := by
  induction h with
  | nil => exact ⟨rfl, fun _ => rfl⟩
  | @plain c b us hquote hslash hc _ ih =>
    constructor
    · rw [List.cons_append, textBody_cons_plain (isPlain_of_le hquote hslash hc), ih.1]
      rfl
    · intro p
      rw [unescape.eq_5 _ _ _ (fun _ _ _ _ _ h => absurd h hslash) (fun _ h => absurd h hslash)
        (fun _ _ h => absurd h hslash), if_neg (Nat.not_lt_of_le hc), ih.2]
      rfl
  | @letter c n b us hcn _ ih =>
    obtain ⟨hc, hu, hn⟩ := isEscapable_of_mem hcn
    constructor
    · rw [List.cons_append, List.cons_append, textBody_cons_escape hc, ih.1]
      rfl
    · intro p
      rw [unescape.eq_4 _ _ _ (fun _ _ _ _ _ h => absurd h hu) (fun h => absurd h hu), ih.2, hn]
      rfl
  | @unit a b c d n b' us hn _ ih =>
    obtain ⟨ha, hb, hc, hd⟩ := isPlain_of_hexQuad hn
    constructor
    · simp only [List.cons_append]
      rw [textBody_cons_escape (by decide), textBody_cons_plain ha, textBody_cons_plain hb,
        textBody_cons_plain hc, textBody_cons_plain hd, ih.1]
      rfl
    · intro p
      rw [unescape, hn, ih.2]
      rfl

theorem IsText.textBody_append {w : List Char} {t : CodePoints} (h : IsText w t) :
    ∃ b cs, w = '"' :: cs ∧ (∀ r, textBody (cs ++ r) = some (b, r)) ∧ textOf b = .ok t := by
  obtain @⟨b, us, ps, hbody, hps⟩ := h
  refine ⟨b, b ++ ['"'], rfl, fun r => ?_, ?_⟩
  · rw [List.append_assoc]
    exact (hbody.textBody_append r).1
  · rw [textOf, (hbody.textBody_append []).2, ← (joins_iff _ _).1 hps]
    rfl

/-! ### Digits -/

/-- What follows does not begin with a digit. -/
def NoDigit (r : List Char) : Prop := ∀ c ∈ r.head?, c.isDigit = false

theorem digits_append {ds r : List Char} (hds : ∀ d ∈ ds, d.isDigit = true) (hr : NoDigit r) :
    digits (ds ++ r) = (ds, r) := by
  have hr' : r.takeWhile Char.isDigit = [] ∧ r.dropWhile Char.isDigit = r := by
    cases r with
    | nil => exact ⟨rfl, rfl⟩
    | cons c r =>
      have hc : c.isDigit = false := hr c rfl
      exact ⟨by rw [List.takeWhile_cons, hc]; rfl, by rw [List.dropWhile_cons, hc]; rfl⟩
  rw [digits, List.span_eq_takeWhile_dropWhile, List.takeWhile_append_of_pos hds,
    List.dropWhile_append_of_pos hds, hr'.1, hr'.2, List.append_nil]

theorem digits_cases {cs ds r : List Char} (h : digits cs = (ds, r)) :
    cs = ds ++ r ∧ (∀ d ∈ ds, d.isDigit = true) ∧ NoDigit r := by
  rw [digits, List.span_eq_takeWhile_dropWhile, Prod.mk.injEq] at h
  obtain ⟨rfl, rfl⟩ := h
  refine ⟨(List.takeWhile_append_dropWhile).symm, List.all_eq_true.1 List.all_takeWhile, ?_⟩
  intro c hc
  cases hcs : cs.dropWhile Char.isDigit with
  | nil => rw [hcs] at hc; cases hc
  | cons d r =>
    rw [hcs] at hc
    cases hc
    have := List.head?_dropWhile_not Char.isDigit cs
    rw [hcs] at this
    simpa using this

/-- Without digits nothing is taken. -/
theorem digits_eq_nil {r : List Char} (hr : NoDigit r) : digits r = ([], r) := by
  show digits ([] ++ r) = ([], r)
  exact digits_append (by simp) hr

theorem natOf_eq (ds : List Char) : natOf ds = digitsValue ds := by
  rw [natOf, digitsValue, Nat.ofDigits_eq_foldr, List.foldr_map, List.foldr_reverse]
  congr 1
  funext n d
  simp [Nat.add_comm, Nat.mul_comm]

theorem ne_of_isDigit {c d : Char} (hd : d.isDigit = true) (hc : c.isDigit = false) : d ≠ c := by
  rintro rfl
  rw [hd] at hc
  cases hc

/-! ### The parts of numbers -/

theorem IsWhole.isDigits {ds : List Char} (h : IsWhole ds) : IsDigits ds := by
  cases h with
  | zero => exact ⟨by simp, List.all_iff_forall_prop.1 (by decide)⟩
  | digits _ hds => exact hds

/-- A whole number starts with no minus sign. -/
theorem IsWhole.append_ne_minus {ds : List Char} (h : IsWhole ds) (r r' : List Char) :
    ds ++ r ≠ '-' :: r' := by
  obtain ⟨hne, hds⟩ := h.isDigits
  obtain ⟨d, ds, rfl⟩ := List.exists_cons_of_ne_nil hne
  intro heq
  exact ne_of_isDigit (c := '-') (hds d (by simp)) (by decide) (List.cons.inj heq).1

theorem wholePart_cases {cs ds r : List Char} (h : wholePart cs = some (ds, r)) :
    cs = ds ++ r ∧ IsWhole ds := by
  by_cases hzero : ∃ cs', cs = '0' :: cs'
  · obtain ⟨cs', rfl⟩ := hzero
    cases h
    exact ⟨rfl, .zero⟩
  · rw [wholePart.eq_2 _ fun cs' hcs => hzero ⟨cs', hcs⟩] at h
    rcases hcs : digits cs with ⟨_ | ⟨d, ds'⟩, r'⟩
    · rw [hcs] at h
      cases h
    · rw [hcs] at h
      cases h
      obtain ⟨rfl, hds, -⟩ := digits_cases hcs
      refine ⟨rfl, .digits ?_ ⟨by simp, hds⟩⟩
      rintro rfl
      exact hzero ⟨_, rfl⟩

theorem IsWhole.wholePart_append {ds r : List Char} (h : IsWhole ds) (hr : NoDigit r) :
    wholePart (ds ++ r) = some (ds, r) := by
  cases h with
  | zero => rfl
  | @digits d ds hd hds =>
    have hzero : ∀ cs, d :: ds ++ r = '0' :: cs → False := fun cs hcs => hd (List.cons.inj hcs).1
    rw [wholePart.eq_2 _ hzero, digits_append hds.2 hr]

/-- A bare point is no fraction, though it is read. -/
theorem fractionPart_cases {cs f r : List Char} (h : fractionPart cs = (f, r)) :
    cs = f ++ r ∧ ((∃ fs, IsFraction f fs) ∨ f = ['.']) := by
  by_cases hpoint : ∃ cs', cs = '.' :: cs'
  · obtain ⟨cs', rfl⟩ := hpoint
    rcases hcs : digits cs' with ⟨ds, r'⟩
    obtain ⟨rfl, hds, -⟩ := digits_cases hcs
    rw [fractionPart, hcs] at h
    cases h
    refine ⟨rfl, ?_⟩
    by_cases hne : ds = []
    · exact .inr (by rw [hne])
    · exact .inl ⟨ds, .digits ⟨hne, hds⟩⟩
  · rw [fractionPart.eq_2 _ fun cs' hcs => hpoint ⟨cs', hcs⟩] at h
    cases h
    exact ⟨rfl, .inl ⟨[], .none⟩⟩

theorem IsFraction.fractionPart_append {f fs r : List Char} (h : IsFraction f fs)
    (hr : NoDigit r) (hpoint : ∀ r', r ≠ '.' :: r') : fractionPart (f ++ r) = (f, r) := by
  cases h with
  | none => exact fractionPart.eq_2 _ hpoint
  | digits hds => rw [List.cons_append, fractionPart, digits_append hds.2 hr]

theorem exponentPart_minus (e : Char) (ds : List Char) :
    exponentPart (e :: '-' :: ds) = match digits ds with
      | (d :: ds', r) =>
        if e = 'e' || e = 'E' then (e :: '-' :: d :: ds', r) else ([], e :: '-' :: ds)
      | _ => ([], e :: '-' :: ds) := by
  rcases hds : digits ds with ⟨_ | ⟨d, ds'⟩, r⟩ <;> simp [exponentPart, hds]

theorem exponentPart_plain (e : Char) {ds : List Char} (h : ∀ ds', ds ≠ '-' :: ds') :
    exponentPart (e :: ds) = match digits ds with
      | (d :: ds', r) => if e = 'e' || e = 'E' then (e :: d :: ds', r) else ([], e :: ds)
      | _ => ([], e :: ds) := by
  rcases hds : digits ds with ⟨_ | ⟨d, ds'⟩, r⟩
  · simp [exponentPart, hds]
  · simp [exponentPart, hds]

theorem exponentPart_cases (cs : List Char) :
    cs = (exponentPart cs).1 ++ (exponentPart cs).2 ∧ ∃ e, IsExponent (exponentPart cs).1 e := by
  have letter : ∀ e : Char, (decide (e = 'e') || decide (e = 'E')) = true → e = 'e' ∨ e = 'E' := by
    simp
  cases cs with
  | nil => exact ⟨rfl, 0, .none⟩
  | cons e cs =>
    by_cases hminus : ∃ ds, cs = '-' :: ds
    · obtain ⟨ds, rfl⟩ := hminus
      rw [exponentPart_minus]
      split
      · next d ds' r hds =>
        obtain ⟨rfl, hdigits, -⟩ := digits_cases hds
        split
        · next he => exact ⟨rfl, _, .minus (letter e he) ⟨by simp, hdigits⟩⟩
        · exact ⟨rfl, 0, .none⟩
      · exact ⟨rfl, 0, .none⟩
    · rw [exponentPart_plain e fun ds hds => hminus ⟨ds, hds⟩]
      split
      · next d ds' r hds =>
        obtain ⟨rfl, hdigits, -⟩ := digits_cases hds
        split
        · next he => exact ⟨rfl, _, .plain (letter e he) ⟨by simp, hdigits⟩⟩
        · exact ⟨rfl, 0, .none⟩
      · exact ⟨rfl, 0, .none⟩

/-- What follows is no more of a number. -/
def StopsNumber (r : List Char) : Prop :=
  ∀ c ∈ r.head?, c.isDigit = false ∧ c ≠ '.' ∧ c ≠ 'e' ∧ c ≠ 'E'

theorem StopsNumber.noDigit {r : List Char} (h : StopsNumber r) : NoDigit r :=
  fun c hc => (h c hc).1

theorem IsExponent.exponentPart_append {x r : List Char} {e : Int} (h : IsExponent x e)
    (hr : StopsNumber r) : exponentPart (x ++ r) = (x, r) := by
  cases h with
  | none =>
    -- Whatever `r` starts with is not the letter of an exponent.
    cases r with
    | nil => rfl
    | cons c r =>
      obtain ⟨-, -, he, hE⟩ := hr c rfl
      by_cases hminus : ∃ ds, r = '-' :: ds
      · obtain ⟨ds, rfl⟩ := hminus
        rw [List.nil_append, exponentPart_minus]
        split <;> simp [he, hE]
      · rw [List.nil_append, exponentPart_plain c fun ds hds => hminus ⟨ds, hds⟩]
        split <;> simp [he, hE]
  | @plain c ds hc hds =>
    obtain ⟨hne, hdigits⟩ := hds
    obtain ⟨d, ds, rfl⟩ := List.exists_cons_of_ne_nil hne
    have hminus : ∀ ds', d :: ds ++ r ≠ '-' :: ds' := fun ds' hds' =>
      ne_of_isDigit (c := '-') (hdigits d (by simp)) (by decide) (List.cons.inj hds').1
    rw [List.cons_append, exponentPart_plain c hminus, digits_append hdigits hr.noDigit]
    simp [hc]
  | @minus c ds hc hds =>
    obtain ⟨hne, hdigits⟩ := hds
    obtain ⟨d, ds, rfl⟩ := List.exists_cons_of_ne_nil hne
    rw [List.cons_append, List.cons_append, exponentPart_minus,
      digits_append hdigits hr.noDigit]
    simp [hc]

theorem IsExponent.exponentOf_drop {x : List Char} {e : Int} (h : IsExponent x e) :
    exponentOf (x.drop 1) = e := by
  cases h with
  | none => rfl
  | @plain c ds hc hds =>
    obtain ⟨hne, hdigits⟩ := hds
    obtain ⟨d, ds, rfl⟩ := List.exists_cons_of_ne_nil hne
    have hd : d.isDigit = true := hdigits d (by simp)
    have hsign : d ≠ '-' ∧ d ≠ '+' :=
      ⟨ne_of_isDigit hd (by decide), ne_of_isDigit hd (by decide)⟩
    rw [List.drop_one, List.tail_cons,
      exponentOf.eq_3 _ (fun ds' h => hsign.1 (List.cons.inj h).1)
        (fun ds' h => hsign.2 (List.cons.inj h).1), natOf_eq]
    rfl
  | minus _ hds =>
    rw [List.drop_one, List.tail_cons, exponentOf, natOf_eq]
    rfl

/-- An exponent starts with its letter. -/
theorem IsExponent.head {x r : List Char} {e : Int} (h : IsExponent x e) (hr : StopsNumber r) :
    NoDigit (x ++ r) ∧ ∀ r', x ++ r ≠ '.' :: r' := by
  have hletter : ∀ {c : Char}, c = 'e' ∨ c = 'E' → c.isDigit = false ∧ c ≠ '.' := by
    rintro c (rfl | rfl) <;> decide
  cases h with
  | none =>
    refine ⟨hr.noDigit, fun r' hr' => ?_⟩
    rw [List.nil_append] at hr'
    exact (hr '.' (by rw [hr']; rfl)).2.1 rfl
  | plain hc _ | minus hc _ =>
    refine ⟨?_, fun r' hr' => (hletter hc).2 (List.cons.inj hr').1⟩
    intro d hd
    cases hd
    exact (hletter hc).1

/-! ### Numbers -/

/-- What is taken for a number once its sign has been read. -/
def numberAfter (s cs : List Char) : Option (List Char × List Char) :=
  (wholePart cs).map fun (whole, r) =>
    (s ++ whole ++ (fractionPart r).1 ++ (exponentPart (fractionPart r).2).1,
      (exponentPart (fractionPart r).2).2)

theorem number_minus (cs : List Char) : number ('-' :: cs) = numberAfter ['-'] cs := rfl

theorem number_plain {cs : List Char} (h : ∀ cs', cs ≠ '-' :: cs') :
    number cs = numberAfter [] cs := by
  simp [number, numberAfter]

/-- A sign comes off, unless another follows. -/
theorem IsSign.number_append {s ds : List Char} {negative : Bool} (hs : IsSign s negative)
    (hds : IsWhole ds) (r : List Char) : number (s ++ (ds ++ r)) = numberAfter s (ds ++ r) := by
  cases hs with
  | none => exact number_plain (hds.append_ne_minus r)
  | minus => exact number_minus (ds ++ r)

theorem exists_sign (cs : List Char) :
    ∃ s negative cs', IsSign s negative ∧ cs = s ++ cs' ∧ number cs = numberAfter s cs' := by
  by_cases hminus : ∃ cs', cs = '-' :: cs'
  · obtain ⟨cs', rfl⟩ := hminus
    exact ⟨['-'], true, cs', .minus, rfl, number_minus cs'⟩
  · exact ⟨[], false, cs, .none, rfl, number_plain fun cs' h => hminus ⟨cs', h⟩⟩

theorem numberOf_int {s ds : List Char} {negative : Bool} (hs : IsSign s negative)
    (hds : IsWhole ds) : numberOf (s ++ ds) =
      .ok (.int (if negative then -digitsValue ds else digitsValue ds)) := by
  have hdigits : digits ds = (ds, []) := by
    simpa using digits_append (r := []) hds.isDigits.2 (by simp [NoDigit])
  have hminus : ∀ r, ds ≠ '-' :: r := by simpa using hds.append_ne_minus []
  cases hs with
  | none => simp [numberOf, hdigits, natOf_eq]
  | minus => simp [numberOf, hdigits, natOf_eq]

theorem numberOf_exponent {s ds x : List Char} {negative : Bool} {e : Int}
    (hs : IsSign s negative) (hds : IsWhole ds) (hx : IsExponent x e) (hne : x ≠ []) :
    numberOf (s ++ (ds ++ x)) = .ok (.float (.ofDecimal negative (digitsValue ds) e)) := by
  have hhead := hx.head (r := []) (by simp [StopsNumber])
  rw [List.append_nil] at hhead
  obtain ⟨c, x', rfl⟩ := List.exists_cons_of_ne_nil hne
  have hc : c ≠ '.' := fun hc => hhead.2 x' (hc ▸ rfl)
  have hexp : exponentOf x' = e := hx.exponentOf_drop
  have hdigits : digits (ds ++ c :: x') = (ds, c :: x') := digits_append hds.isDigits.2 hhead.1
  have hminus := hds.append_ne_minus (c :: x')
  cases hs with
  | none => simp [numberOf, hdigits, natOf_eq, hexp]
  | minus => simp [numberOf, hdigits, natOf_eq, hexp]

theorem numberOf_fraction {s ds fs x : List Char} {negative : Bool} {e : Int}
    (hs : IsSign s negative) (hds : IsWhole ds) (hfs : IsDigits fs) (hx : IsExponent x e) :
    numberOf (s ++ (ds ++ '.' :: (fs ++ x))) =
      .ok (.float (.ofDecimal negative (digitsValue (ds ++ fs)) (e - fs.length))) := by
  have hhead := hx.head (r := []) (by simp [StopsNumber])
  rw [List.append_nil] at hhead
  have hwhole : digits (ds ++ '.' :: (fs ++ x)) = (ds, '.' :: (fs ++ x)) :=
    digits_append hds.isDigits.2 (by rintro c ⟨⟩; decide)
  have hfraction : digits (fs ++ x) = (fs, x) := digits_append hfs.2 hhead.1
  have hexp := hx.exponentOf_drop
  have hminus := hds.append_ne_minus ('.' :: (fs ++ x))
  obtain ⟨f, fs, rfl⟩ := List.exists_cons_of_ne_nil hfs.1
  rw [List.cons_append] at hwhole hfraction hminus
  rw [List.drop_one] at hexp
  cases hs with
  | none => simp [numberOf, hwhole, hfraction, natOf_eq, hexp]
  | minus => simp [numberOf, hwhole, hfraction, natOf_eq, hexp]

/-- A number that ends in a bare point, or has its exponent there, denotes nothing. -/
theorem numberOf_point {s ds x : List Char} {negative : Bool} {e : Int} {v : Value}
    (hs : IsSign s negative) (hds : IsWhole ds) (hx : IsExponent x e) :
    numberOf (s ++ (ds ++ '.' :: x)) ≠ .ok v := by
  have hhead := hx.head (r := []) (by simp [StopsNumber])
  rw [List.append_nil] at hhead
  have hwhole : digits (ds ++ '.' :: x) = (ds, '.' :: x) :=
    digits_append hds.isDigits.2 (by rintro c ⟨⟩; decide)
  have hfraction : digits x = ([], x) := digits_eq_nil hhead.1
  have hminus := hds.append_ne_minus ('.' :: x)
  cases hs with
  | none => simp [numberOf, hwhole, hfraction]
  | minus => simp [numberOf, hwhole, hfraction]

/-- What a number denotes is worked out from what is written. -/
theorem IsNumber.numberOf_eq {w : List Char} {v : Value} (h : IsNumber w v) :
    numberOf w = .ok v := by
  cases h with
  | int hs hds => exact numberOf_int hs hds
  | float hs hds hf hx hfx =>
    cases hf with
    | none =>
      simpa using numberOf_exponent hs hds hx hfx
    | digits hfs =>
      simpa using numberOf_fraction hs hds hfs hx

/-- What is taken for a number, and denotes something, is a number. -/
theorem isNumber_of_number {cs w r : List Char} {v : Value} (h : number cs = some (w, r))
    (hv : numberOf w = .ok v) : cs = w ++ r ∧ IsNumber w v := by
  obtain ⟨s, negative, cs', hs, rfl, hnumber⟩ := exists_sign cs
  rw [hnumber, numberAfter, Option.map_eq_some_iff] at h
  obtain ⟨⟨ds, r₁⟩, hwhole, hwr⟩ := h
  cases hwr
  obtain ⟨rfl, hds⟩ := wholePart_cases hwhole
  rcases hfraction : fractionPart r₁ with ⟨f, r₂⟩
  rw [hfraction] at hv
  obtain ⟨rfl, hf⟩ := fractionPart_cases hfraction
  obtain ⟨hr₂, e, hx⟩ := exponentPart_cases r₂
  generalize (exponentPart r₂).1 = x at hr₂ hv hx ⊢
  generalize (exponentPart r₂).2 = r at hr₂ hv ⊢
  subst hr₂
  refine ⟨by simp, ?_⟩
  obtain ⟨fs, hf⟩ | rfl := hf
  · by_cases hfx : f ++ x = []
    · obtain ⟨rfl, rfl⟩ := List.append_eq_nil_iff.1 hfx
      have hint := numberOf_int hs hds
      simp only [List.append_nil] at hv ⊢
      rw [hint] at hv
      cases hv
      exact .int hs hds
    · have hfloat := IsNumber.float hs hds hf hx hfx
      rw [hfloat.numberOf_eq] at hv
      cases hv
      exact hfloat
  · refine absurd ?_ (numberOf_point (v := v) hs hds hx)
    simpa using hv

/-- A number is taken off the front. -/
theorem IsNumber.number_append {w r : List Char} {v : Value} (h : IsNumber w v)
    (hr : StopsNumber r) : number (w ++ r) = some (w, r) := by
  have parts : ∀ {s ds f fs x : List Char} {negative : Bool} {e : Int}, IsSign s negative →
      IsWhole ds → IsFraction f fs → IsExponent x e →
      number (s ++ ds ++ f ++ x ++ r) = some (s ++ ds ++ f ++ x, r) := by
    intro s ds f fs x negative e hs hds hf hx
    have hx' := hx.head hr
    have hf' : NoDigit (f ++ (x ++ r)) := by
      cases hf with
      | none => exact hx'.1
      | digits _ => rintro c ⟨⟩; decide
    simp only [List.append_assoc]
    rw [hs.number_append hds, numberAfter, hds.wholePart_append hf', Option.map_some]
    simp [hf.fractionPart_append hx'.1 hx'.2, hx.exponentPart_append hr]
  cases h with
  | int hs hds => simpa using parts hs hds .none .none
  | float hs hds hf hx _ => exact parts hs hds hf hx

end RouteLint.Json
