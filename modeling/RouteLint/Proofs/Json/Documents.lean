import RouteLint.Proofs.Json.Gaps
import RouteLint.Proofs.Json.Tokens

/-!
# Reading documents

The reader gives a document exactly the values that the grammar gives it.  In one direction what
the reader takes off the front is a value of the grammar, by induction on the steps it takes.  In
the other direction a value of the grammar is taken off the front, whatever stands after it: a value
starts with a character that no separator has, and what follows a value starts with a separator, so
the reader finds where one ends.

## Main results

* `isValue_of_value`, `IsValue.value_append` — values.
* `readChars_eq_ok_iff` — documents.
* `read_eq_ok_iff` — texts.
* `proper_of_readChars` — in no object that is read a key stands twice.
-/

namespace RouteLint.Json

/-! ### Where tokens start and end -/

/-- A value starts with this character. -/
def IsOpening (c : Char) : Prop := c ∈ ['"', '-', 'f', 'n', 't', '[', '\x7b'] ∨ c.isDigit = true

/-- The characters that may stand right after a value. -/
def separators : List Char := '/' :: ',' :: ':' :: ']' :: '\x7d' :: blanks

/-- What follows may stand right after a value. -/
def Stops (r : List Char) : Prop := ∀ c ∈ r.head?, c ∈ separators

theorem IsOpening.not_mem_separators {c : Char} (h : IsOpening c) : c ∉ separators := by
  have hletters : ∀ d ∈ ['"', '-', 'f', 'n', 't', '[', '\x7b'], d ∉ separators :=
    List.all_iff_forall_prop.1 (by decide)
  have hdigits : ∀ d ∈ separators, d.isDigit = false := List.all_iff_forall_prop.1 (by decide)
  rcases h with h | h
  · exact hletters c h
  · intro hc
    rw [hdigits c hc] at h
    cases h

theorem IsOpening.ne {c d : Char} (h : IsOpening c) (hd : d ∈ separators) : c ≠ d :=
  fun hcd => h.not_mem_separators (hcd ▸ hd)

/-- Where a value starts there is nothing to skip. -/
theorem IsOpening.skip_eq {c : Char} (h : IsOpening c) (cs : List Char) :
    skip (c :: cs) = c :: cs := by
  refine skip_solid (fun hc => h.not_mem_separators ?_) (h.ne (by decide)) cs
  have hall : ∀ d ∈ blanks, d ∈ separators := List.all_iff_forall_prop.1 (by decide)
  exact hall c hc

theorem Stops.stopsNumber {r : List Char} (h : Stops r) : StopsNumber r := by
  have hall : ∀ c ∈ separators, c.isDigit = false ∧ c ≠ '.' ∧ c ≠ 'e' ∧ c ≠ 'E' :=
    List.all_iff_forall_prop.1 (by decide)
  exact fun c hc => hall c (h c hc)

theorem stops_cons {c : Char} (hc : c ∈ separators) (r : List Char) : Stops (c :: r) := by
  rintro d ⟨⟩
  exact hc

theorem Gap.stops {g r : List Char} (h : Gap g) (hr : Stops r) : Stops (g ++ r) := by
  have hall : ∀ d ∈ blanks, d ∈ separators := List.all_iff_forall_prop.1 (by decide)
  cases h with
  | nil => exact hr
  | blank hc _ => exact stops_cons (hall _ hc) _
  | line _ _ | block _ _ => exact stops_cons (by decide) _

theorem Ending.stops {e : List Char} (h : Ending e) : Stops e := by
  cases h with
  | gap hg => simpa using hg.stops (r := []) (by simp [Stops])
  | line hg _ => exact hg.stops (stops_cons (by decide) _)

theorem IsRest.stops {r : List Char} (h : IsRest r) : Stops r := by
  cases h with
  | ending he => exact he.stops
  | comma hg _ => exact hg.stops (stops_cons (by decide) _)

theorem IsStray.stops {s r : List Char} (h : IsStray s) (hr : Stops r) : Stops (s ++ r) := by
  cases h with
  | none => exact hr
  | comma _ => exact stops_cons (by decide) _

theorem IsNumber.start {w : List Char} {v : Value} (h : IsNumber w v) :
    ∃ c cs, w = c :: cs ∧ (c = '-' ∨ c.isDigit = true) := by
  have signed : ∀ {s ds : List Char} {negative : Bool}, IsSign s negative → IsWhole ds →
      ∀ r, ∃ c cs, s ++ ds ++ r = c :: cs ∧ (c = '-' ∨ c.isDigit = true) := by
    intro s ds negative hs hds r
    cases hs with
    | none =>
      obtain ⟨hne, hdigits⟩ := hds.isDigits
      obtain ⟨d, ds, rfl⟩ := List.exists_cons_of_ne_nil hne
      exact ⟨d, ds ++ r, rfl, .inr (hdigits d (by simp))⟩
    | minus => exact ⟨'-', ds ++ r, rfl, .inl rfl⟩
  cases h with
  | int hs hds => simpa using signed hs hds []
  | @float s ds f fs x _ _ hs hds _ _ _ => simpa using signed hs hds (f ++ x)

theorem IsValue.start {w : List Char} {v : Value} (h : IsValue w v) :
    ∃ c cs, w = c :: cs ∧ IsOpening c := by
  cases h with
  | nullWord | trueWord | falseWord => exact ⟨_, _, rfl, .inl (by decide)⟩
  | number h =>
    obtain ⟨c, cs, rfl, rfl | hc⟩ := h.start
    · exact ⟨_, cs, rfl, .inl (by decide)⟩
    · exact ⟨c, cs, rfl, .inr hc⟩
  | text h =>
    obtain ⟨_, _⟩ := h
    exact ⟨_, _, rfl, .inl (by decide)⟩
  | emptyArray | singleton | array | emptyObject | object =>
    exact ⟨_, _, rfl, .inl (by decide)⟩

/-- Before a value a gap is skipped, and nothing more. -/
theorem IsValue.skip_append {w g : List Char} {v : Value} (h : IsValue w v) (hg : Gap g)
    (r : List Char) : skip (g ++ (w ++ r)) = w ++ r := by
  obtain ⟨c, cs, rfl, hc⟩ := h.start
  rw [hg.skip_append, List.cons_append, hc.skip_eq]

/-- What is skipped before a value is a gap. -/
theorem IsValue.gap_of_skip {w cs r : List Char} {v : Value} (hw : IsValue w v)
    (h : skip cs = w ++ r) : ∃ g, Gap g ∧ cs = g ++ (w ++ r) := by
  obtain ⟨c, cs', rfl, -⟩ := hw.start
  exact Json.gap_of_skip h

/-! ### Closing brackets -/

theorem closing_cases {b : Char} {cs r : List Char} (h : closing true b (skip cs) = some r) :
    ∃ g s, Gap g ∧ IsStray s ∧ cs = g ++ s ++ b :: r := by
  unfold closing at h
  split at h
  · next c r' hcs =>
    obtain ⟨g, hg, rfl⟩ := gap_of_skip hcs
    by_cases hc : c = b
    · rw [if_pos hc] at h
      cases h
      exact ⟨g, [], hg, .none, by simp [hc]⟩
    · rw [if_neg hc] at h
      split at h
      · next hcomma =>
        obtain ⟨rfl, -⟩ : c = ',' ∧ true = true := by simpa using hcomma
        split at h
        · next d r'' hr' =>
          obtain ⟨g', hg', rfl⟩ := gap_of_skip hr'
          split at h
          · next hd =>
            cases h
            exact ⟨g, ',' :: g', hg, .comma hg', by simp [hd]⟩
          · cases h
        · cases h
      · cases h
  · cases h

/-- A bracket closes, also after a comma that is left over. -/
theorem closing_of_stray {b : Char} (hb : b = ']' ∨ b = '\x7d') {g s : List Char} (hg : Gap g)
    (hs : IsStray s) (r : List Char) : closing true b (skip (g ++ (s ++ b :: r))) = some r := by
  have hskip : skip (b :: r) = b :: r := by
    rcases hb with rfl | rfl
    · exact skip_solid (by decide) (by decide) r
    · exact skip_solid (by decide) (by decide) r
  have hcomma : ',' ≠ b := by rcases hb with rfl | rfl <;> decide
  rw [hg.skip_append]
  cases hs with
  | none => rw [List.nil_append, hskip, closing, if_pos rfl]
  | comma hg' =>
    rw [List.cons_append, skip_solid (by decide) (by decide), closing, if_neg hcomma,
      if_pos (by decide), hg'.skip_append, hskip]
    exact if_pos rfl

/-- No bracket closes where a value starts. -/
theorem IsOpening.closing_eq_none {b c : Char} (hb : b = ']' ∨ b = '\x7d') (hc : IsOpening c)
    (cs : List Char) : closing true b (c :: cs) = none := by
  have hcb : c ≠ b := by rcases hb with rfl | rfl <;> exact hc.ne (by decide)
  have hcomma : c ≠ ',' := hc.ne (by decide)
  rw [closing, if_neg hcb, if_neg (by simp [hcomma])]

/-- A comma that something follows is not left over. -/
theorem IsOpening.closing_comma {b c : Char} (hb : b = ']' ∨ b = '\x7d') (hc : IsOpening c)
    {cs r : List Char} (h : skip cs = c :: r) : closing true b (',' :: cs) = none := by
  have hcb : c ≠ b := by rcases hb with rfl | rfl <;> exact hc.ne (by decide)
  have hcomma : ',' ≠ b := by rcases hb with rfl | rfl <;> decide
  rw [closing, if_neg hcomma, if_pos (by decide), h]
  exact if_neg hcb

/-! ### Values that are no objects or arrays -/

theorem number_eq_none {c : Char} (hminus : c ≠ '-') (hc : c.isDigit = false) (cs : List Char) :
    number (c :: cs) = none := by
  have hzero : ∀ cs', c :: cs = '0' :: cs' → False := by
    intro cs' h
    rw [(List.cons.inj h).1] at hc
    revert hc
    decide
  rw [number_plain fun cs' h => hminus (List.cons.inj h).1, numberAfter, wholePart.eq_2 _ hzero,
    digits_eq_nil (by rintro d ⟨⟩; exact hc)]
  rfl

theorem afterWord_cases {word : String} {cs r : List Char} (h : afterWord word cs = some r) :
    cs = word.toList ++ r := by
  unfold afterWord at h
  split at h
  · next hprefix =>
    cases h
    obtain ⟨r', rfl⟩ := List.isPrefixOf_iff_prefix.1 hprefix
    rw [← String.length_toList, List.drop_left]
  · cases h

theorem isValue_of_scalar {cs r : List Char} {raw : Raw} {v : Value}
    (h : scalar cs = some (raw, r)) (hv : raw.toValue = .ok v) : ∃ w, cs = w ++ r ∧ IsValue w v := by
  by_cases hquote : ∃ cs', cs = '"' :: cs'
  · obtain ⟨cs', rfl⟩ := hquote
    rw [scalar, Option.map_eq_some_iff] at h
    obtain ⟨⟨b, r'⟩, hb, hbr⟩ := h
    cases hbr
    obtain ⟨t, ht, rfl⟩ := except_ok_of_map hv
    obtain ⟨w, hcs, hw⟩ := isText_of_textBody hb ht
    exact ⟨w, hcs, .text hw⟩
  · rw [scalar.eq_2 _ fun cs' hcs => hquote ⟨cs', hcs⟩] at h
    split at h
    · next n r' hn =>
      cases h
      obtain ⟨rfl, hw⟩ := isNumber_of_number hn hv
      exact ⟨n, rfl, .number hw⟩
    · split at h
      · next r' hr =>
        cases h
        cases hv
        exact ⟨_, afterWord_cases hr, .trueWord⟩
      · next r' hr _ =>
        cases h
        cases hv
        exact ⟨_, afterWord_cases hr, .falseWord⟩
      · next r' hr _ _ =>
        cases h
        cases hv
        exact ⟨_, afterWord_cases hr, .nullWord⟩
      · cases h

theorem IsNumber.scalar_append {w r : List Char} {v : Value} (h : IsNumber w v) (hr : Stops r) :
    scalar (w ++ r) = some (.number w, r) := by
  have hquote : ∀ cs, w ++ r = '"' :: cs → False := by
    obtain ⟨c, cs, rfl, hc⟩ := h.start
    intro cs' hcs
    obtain ⟨rfl, -⟩ := List.cons.inj hcs
    rcases hc with hc | hc
    · cases hc
    · cases hc
  rw [scalar.eq_2 _ hquote, h.number_append hr.stopsNumber]

/-- What starts like no text and no number is a word, or nothing. -/
theorem scalar_eq_word {c : Char} (hquote : c ≠ '"') (hminus : c ≠ '-') (hc : c.isDigit = false)
    (cs : List Char) : scalar (c :: cs) =
      match afterWord "true" (c :: cs), afterWord "false" (c :: cs), afterWord "null" (c :: cs) with
      | some r, _, _ => some (.word (.bool true), r)
      | _, some r, _ => some (.word (.bool false), r)
      | _, _, some r => some (.word .null, r)
      | _, _, _ => none := by
  rw [scalar.eq_2 _ fun _ h => hquote (List.cons.inj h).1]
  exact number_eq_none hminus hc cs ▸ rfl

theorem scalar_true (r : List Char) :
    scalar ('t' :: 'r' :: 'u' :: 'e' :: r) = some (.word (.bool true), r) :=
  scalar_eq_word (by decide) (by decide) (by decide) _

theorem scalar_false (r : List Char) :
    scalar ('f' :: 'a' :: 'l' :: 's' :: 'e' :: r) = some (.word (.bool false), r) :=
  scalar_eq_word (by decide) (by decide) (by decide) _

theorem scalar_null (r : List Char) :
    scalar ('n' :: 'u' :: 'l' :: 'l' :: r) = some (.word .null, r) :=
  scalar_eq_word (by decide) (by decide) (by decide) _

/-! ### Fields -/

theorem Collects.distinct {fs : List (CodePoints × Value)} {t : Table CodePoints Value}
    (h : Collects fs t) : t.Distinct := by
  rw [Table.Distinct, h.keys]
  exact nodup_once _

/-- Writing the fields one after the other collects them. -/
theorem collects_iff (fs : List (CodePoints × Value)) (t : Table CodePoints Value) :
    Collects fs t ↔ t = Table.merge [] fs := by
  have hmerge : Collects fs (Table.merge [] fs) := by
    refine ⟨Table.keys_merge _ _, fun k => ?_⟩
    rw [Table.get?_merge, Table.get?_nil, Option.or_none]
  constructor
  · intro h
    refine h.distinct.ext (Table.distinct_merge Table.distinct_nil fs) ?_ fun k => ?_
    · rw [h.keys, hmerge.keys]
    · rw [h.get?, hmerge.get?]
  · rintro rfl
    exact hmerge

theorem fieldValues_cons_eq_ok {before t : Table CodePoints Value} {key : List Char} {raw : Raw}
    {raws : List (List Char × Raw)} (h : fieldValues before ((key, raw) :: raws) = .ok t) :
    ∃ k v, textOf key = .ok k ∧ raw.toValue = .ok v ∧
      fieldValues (Table.set before k v) raws = .ok t := by
  rw [fieldValues] at h
  obtain ⟨v, hv, h⟩ := except_bind_eq_ok h
  obtain ⟨k, hk, h⟩ := except_bind_eq_ok h
  exact ⟨k, v, hk, hv, h⟩

/-! ### Steps of the reader -/

/-- What starts like no array and no object is none. -/
theorem value_cons {c : Char} (harray : c ≠ '[') (hobject : c ≠ '\x7b') (stray : Bool)
    (fuel : Nat) (cs : List Char) : value stray (fuel + 1) (c :: cs) = scalar (c :: cs) :=
  value.eq_4 _ _ _ (fun _ h => harray (List.cons.inj h).1) fun _ h => hobject (List.cons.inj h).1

theorem value_array_cases {fuel : Nat} {cs r : List Char} {raw : Raw}
    (h : value true (fuel + 1) ('[' :: cs) = some (raw, r)) :
    (closing true ']' (skip cs) = some r ∧ raw = .array []) ∨
    ∃ raw₁ r₁, value true fuel (skip cs) = some (raw₁, r₁) ∧
      ((closing true ']' (skip r₁) = some r ∧ raw = .array [raw₁]) ∨
        ∃ raws, itemsAfter true fuel (skip r₁) = some (raws, r) ∧
          raw = .array (raw₁ :: raws)) := by
  rw [value.eq_2] at h
  split at h
  · next hclose =>
    cases h
    exact .inl ⟨hclose, rfl⟩
  · obtain ⟨⟨raw₁, r₁⟩, hvalue, h⟩ := Option.bind_eq_some_iff.1 h
    refine .inr ⟨raw₁, r₁, hvalue, ?_⟩
    dsimp only at h
    split at h
    · next hclose =>
      cases h
      exact .inl ⟨hclose, rfl⟩
    · obtain ⟨⟨raws, r₂⟩, hitems, h⟩ := Option.bind_eq_some_iff.1 h
      cases h
      exact .inr ⟨raws, hitems, rfl⟩

theorem value_object_cases {fuel : Nat} {cs r : List Char} {raw : Raw}
    (h : value true (fuel + 1) ('\x7b' :: cs) = some (raw, r)) :
    (closing true '\x7d' (skip cs) = some r ∧ raw = .object []) ∨
    ∃ raws, fields true fuel (skip cs) = some (raws, r) ∧ raw = .object raws := by
  rw [value.eq_3] at h
  split at h
  · next hclose =>
    cases h
    exact .inl ⟨hclose, rfl⟩
  · obtain ⟨⟨raws, r₁⟩, hfields, h⟩ := Option.bind_eq_some_iff.1 h
    cases h
    exact .inr ⟨raws, hfields, rfl⟩

theorem itemsAfter_cases {fuel : Nat} {cs r : List Char} {raws : List Raw}
    (h : itemsAfter true (fuel + 1) cs = some (raws, r)) :
    (cs = ']' :: r ∧ raws = []) ∨
    ∃ cs' raw r₁ raws', cs = ',' :: cs' ∧ value true fuel (skip cs') = some (raw, r₁) ∧
      itemsAfter true fuel (skip r₁) = some (raws', r) ∧ raws = raw :: raws' := by
  by_cases hbracket : ∃ cs', cs = ']' :: cs'
  · obtain ⟨cs', rfl⟩ := hbracket
    rw [itemsAfter.eq_2] at h
    cases h
    exact .inl ⟨rfl, rfl⟩
  by_cases hcomma : ∃ cs', cs = ',' :: cs'
  · obtain ⟨cs', rfl⟩ := hcomma
    rw [itemsAfter.eq_3] at h
    obtain ⟨⟨raw, r₁⟩, hvalue, h⟩ := Option.bind_eq_some_iff.1 h
    obtain ⟨⟨raws', r₂⟩, hitems, h⟩ := Option.bind_eq_some_iff.1 h
    cases h
    exact .inr ⟨cs', raw, r₁, raws', rfl, hvalue, hitems, rfl⟩
  · rw [itemsAfter.eq_4 _ _ _ (fun cs' hcs => hbracket ⟨cs', hcs⟩)
      fun cs' hcs => hcomma ⟨cs', hcs⟩] at h
    cases h

theorem fields_cases {fuel : Nat} {cs r : List Char} {raws : List (List Char × Raw)}
    (h : fields true (fuel + 1) cs = some (raws, r)) :
    ∃ cs' key r₁ r₂ raw r₃, cs = '"' :: cs' ∧ textBody cs' = some (key, r₁) ∧
      skip r₁ = ':' :: r₂ ∧ value true fuel (skip r₂) = some (raw, r₃) ∧
      ((closing true '\x7d' (skip r₃) = some r ∧ raws = [(key, raw)]) ∨
        ∃ r₄ raws', skip r₃ = ',' :: r₄ ∧ fields true fuel (skip r₄) = some (raws', r) ∧
          raws = (key, raw) :: raws') := by
  by_cases hquote : ∃ cs', cs = '"' :: cs'
  · obtain ⟨cs', rfl⟩ := hquote
    rw [fields.eq_2] at h
    obtain ⟨⟨key, r₁⟩, hkey, h⟩ := Option.bind_eq_some_iff.1 h
    dsimp only at h
    split at h
    · next r₂ hcolon =>
      obtain ⟨⟨raw, r₃⟩, hvalue, h⟩ := Option.bind_eq_some_iff.1 h
      refine ⟨cs', key, r₁, r₂, raw, r₃, rfl, hkey, hcolon, hvalue, ?_⟩
      dsimp only at h
      split at h
      · next hclose =>
        cases h
        exact .inl ⟨hclose, rfl⟩
      · split at h
        · next r₄ hcomma =>
          obtain ⟨⟨raws', r₅⟩, hfields, h⟩ := Option.bind_eq_some_iff.1 h
          cases h
          exact .inr ⟨r₄, raws', hcomma, hfields, rfl⟩
        · cases h
    · cases h
  · rw [fields.eq_3 _ _ _ fun cs' hcs => hquote ⟨cs', hcs⟩] at h
    cases h

theorem values_cases {fuel : Nat} {cs : List Char} {raws : List Raw}
    (h : values true (fuel + 1) cs = some raws) :
    (raws = [] ∧ (cs = [] ∨ ∃ r, cs = ',' :: r ∧ skip r = [])) ∨
    ∃ raw r raws', value true fuel cs = some (raw, r) ∧
      values true fuel (skip r) = some raws' ∧ raws = raw :: raws' := by
  by_cases hnil : cs = []
  · subst hnil
    cases h
    exact .inl ⟨rfl, .inl rfl⟩
  by_cases hcomma : ∃ r, cs = ',' :: r
  · obtain ⟨r, rfl⟩ := hcomma
    rw [values.eq_3] at h
    split at h
    · next hr =>
      cases h
      refine .inl ⟨rfl, .inr ⟨r, rfl, ?_⟩⟩
      simpa using hr
    · cases h
  · rw [values.eq_4 _ _ _ hnil fun r hr => hcomma ⟨r, hr⟩] at h
    obtain ⟨⟨raw, r⟩, hvalue, h⟩ := Option.bind_eq_some_iff.1 h
    obtain ⟨raws', hvalues, h⟩ := Option.bind_eq_some_iff.1 h
    cases h
    exact .inr ⟨raw, r, raws', hvalue, hvalues, rfl⟩

/-! ### What is read is written in the grammar -/

mutual

/-- A value that is taken off the front, and denotes something, is written in the grammar. -/
theorem isValue_of_value : ∀ (fuel : Nat) {cs r : List Char} {raw : Raw} {v : Value},
    value true fuel cs = some (raw, r) → raw.toValue = .ok v → ∃ w, cs = w ++ r ∧ IsValue w v
  | 0, cs, r, raw, v, h, hv => by
    rw [value] at h
    cases h
  | fuel + 1, cs, r, raw, v, h, hv => by
    by_cases harray : ∃ cs', cs = '[' :: cs'
    · obtain ⟨cs', rfl⟩ := harray
      obtain ⟨hclose, rfl⟩ | ⟨raw₁, r₁, hvalue, hrest⟩ := value_array_cases h
      · cases hv
        obtain ⟨g, s, hg, hs, rfl⟩ := closing_cases hclose
        exact ⟨_, by simp, .emptyArray hg hs⟩
      obtain ⟨hclose, rfl⟩ | ⟨raws, hitems, rfl⟩ := hrest
      · obtain ⟨vs, hvs, rfl⟩ := except_ok_of_map hv
        obtain ⟨v₁, hv₁, hvs⟩ := except_bind_eq_ok hvs
        cases hvs
        obtain ⟨w₁, hw₁, hvalue₁⟩ := isValue_of_value fuel hvalue hv₁
        obtain ⟨l, hl, rfl⟩ := hvalue₁.gap_of_skip hw₁
        obtain ⟨g, s, hg, hs, rfl⟩ := closing_cases hclose
        exact ⟨_, by simp, .singleton hl hvalue₁ hg hs⟩
      · obtain ⟨vs, hvs, rfl⟩ := except_ok_of_map hv
        obtain ⟨v₁, hv₁, hvs⟩ := except_bind_eq_ok hvs
        obtain ⟨vs', hvs', hvs⟩ := except_bind_eq_ok hvs
        cases hvs
        obtain ⟨w₁, hw₁, hvalue₁⟩ := isValue_of_value fuel hvalue hv₁
        obtain ⟨l, hl, rfl⟩ := hvalue₁.gap_of_skip hw₁
        obtain ⟨w, hw, hitems'⟩ := isItems_of_itemsAfter fuel hl hvalue₁ hitems hvs'
        exact ⟨_, by rw [hw]; simp, .array hitems'⟩
    by_cases hobject : ∃ cs', cs = '\x7b' :: cs'
    · obtain ⟨cs', rfl⟩ := hobject
      obtain ⟨hclose, rfl⟩ | ⟨raws, hfields, rfl⟩ := value_object_cases h
      · cases hv
        obtain ⟨g, s, hg, hs, rfl⟩ := closing_cases hclose
        exact ⟨_, by simp, .emptyObject hg hs⟩
      · obtain ⟨t, ht, rfl⟩ := except_ok_of_map hv
        obtain ⟨w, s, fs, hw, hfs, hs, rfl⟩ := isFields_of_fields fuel hfields ht
        exact ⟨_, by rw [hw]; simp, .object hfs hs ((collects_iff _ _).2 rfl)⟩
    · rw [value.eq_4 _ _ _ (fun cs' hcs => harray ⟨cs', hcs⟩)
        fun cs' hcs => hobject ⟨cs', hcs⟩] at h
      exact isValue_of_scalar h hv

/-- The items of an array after one that is written in the grammar. -/
theorem isItems_of_itemsAfter : ∀ (fuel : Nat) {l w cs r : List Char} {v : Value}
    {raws : List Raw} {vs : List Value}, Gap l → IsValue w v →
    itemsAfter true fuel (skip cs) = some (raws, r) → itemValues raws = .ok vs →
    ∃ w', l ++ (w ++ cs) = w' ++ ']' :: r ∧ IsItems w' (v :: vs)
  | 0, l, w, cs, r, v, raws, vs, hl, hw, h, hvs => by
    rw [itemsAfter] at h
    cases h
  | fuel + 1, l, w, cs, r, v, raws, vs, hl, hw, h, hvs => by
    obtain ⟨hcs, rfl⟩ | ⟨cs', raw, r₁, raws', hcs, hvalue, hitems, rfl⟩ := itemsAfter_cases h
    · cases hvs
      obtain ⟨g, hg, rfl⟩ := gap_of_skip hcs
      exact ⟨_, by simp, .one hl hw hg⟩
    · obtain ⟨g, hg, rfl⟩ := gap_of_skip hcs
      obtain ⟨v', hv', hvs⟩ := except_bind_eq_ok hvs
      obtain ⟨vs', hvs', hvs⟩ := except_bind_eq_ok hvs
      cases hvs
      obtain ⟨w₁, hw₁, hvalue₁⟩ := isValue_of_value fuel hvalue hv'
      obtain ⟨l₁, hl₁, rfl⟩ := hvalue₁.gap_of_skip hw₁
      obtain ⟨rest, hrest, hitems'⟩ := isItems_of_itemsAfter fuel hl₁ hvalue₁ hitems hvs'
      exact ⟨_, by rw [hrest]; simp, .cons hl hw hg hitems'⟩

/-- The fields of an object, written over those before them. -/
theorem isFields_of_fields : ∀ (fuel : Nat) {cs r : List Char} {raws : List (List Char × Raw)}
    {before t : Table CodePoints Value}, fields true fuel (skip cs) = some (raws, r) →
    fieldValues before raws = .ok t →
    ∃ w s fs, cs = w ++ s ++ '\x7d' :: r ∧ IsFields w fs ∧ IsStray s ∧ t = before.merge fs
  | 0, cs, r, raws, before, t, h, ht => by
    rw [fields] at h
    cases h
  | fuel + 1, cs, r, raws, before, t, h, ht => by
    obtain ⟨cs', key, r₁, r₂, raw, r₃, hcs, hkey, hcolon, hvalue, hrest⟩ := fields_cases h
    have one : ∀ {raws'}, fieldValues before ((key, raw) :: raws') = .ok t →
        ∃ l f k v, Gap l ∧ IsField f k v ∧ cs = l ++ (f ++ r₃) ∧
          fieldValues (Table.set before k v) raws' = .ok t := by
      intro raws' ht
      obtain ⟨k, v, hk, hv, ht⟩ := fieldValues_cons_eq_ok ht
      obtain ⟨w, hw, hvalue'⟩ := isValue_of_value fuel hvalue hv
      obtain ⟨l₂, hl₂, rfl⟩ := hvalue'.gap_of_skip hw
      obtain ⟨l₁, hl₁, rfl⟩ := gap_of_skip hcolon
      obtain ⟨w₀, hw₀, htext⟩ := isText_of_textBody hkey hk
      obtain ⟨l, hl, rfl⟩ := gap_of_skip hcs
      exact ⟨l, _, k, v, hl, .mk htext hl₁ hl₂ hvalue', by rw [hw₀]; simp, ht⟩
    obtain ⟨hclose, rfl⟩ | ⟨r₄, raws', hcomma, hfields, rfl⟩ := hrest
    · obtain ⟨l, f, k, v, hl, hf, rfl, ht⟩ := one ht
      cases ht
      obtain ⟨g, s, hg, hs, rfl⟩ := closing_cases hclose
      exact ⟨_, s, _, by simp, .one hl hf hg, hs, rfl⟩
    · obtain ⟨l, f, k, v, hl, hf, rfl, ht⟩ := one ht
      obtain ⟨g, hg, rfl⟩ := gap_of_skip hcomma
      obtain ⟨w, s, fs, rfl, hfs, hs, rfl⟩ := isFields_of_fields fuel hfields ht
      exact ⟨_, s, _, by simp, .cons hl hf hg hfs, hs, rfl⟩

end

/-! ### What is written in the grammar is read -/

theorem IsItems.start {w : List Char} {vs : List Value} (h : IsItems w vs) (r : List Char) :
    ∃ c cs, skip (w ++ r) = c :: cs ∧ IsOpening c := by
  have item : ∀ {l w : List Char} {v : Value}, Gap l → IsValue w v →
      ∀ r, ∃ c cs, skip (l ++ (w ++ r)) = c :: cs ∧ IsOpening c := by
    intro l w v hl hw r
    obtain ⟨c, cs, rfl, hc⟩ := hw.start
    exact ⟨c, cs ++ r, hw.skip_append hl r, hc⟩
  cases h with
  | @one l w g v hl h hr => simpa using item hl h (g ++ r)
  | @cons l w g rest v vs hl h hr hrest => simpa using item hl h (g ++ ',' :: (rest ++ r))

theorem IsFields.start {w : List Char} {fs : List (CodePoints × Value)} (h : IsFields w fs)
    (r : List Char) : ∃ cs, skip (w ++ r) = '"' :: cs := by
  have field : ∀ {l w : List Char} {k : CodePoints} {v : Value}, Gap l → IsField w k v →
      ∀ r, ∃ cs, skip (l ++ (w ++ r)) = '"' :: cs := by
    rintro l w k v hl ⟨⟨_, _⟩, _, _, _⟩ r
    rw [hl.skip_append]
    exact ⟨_, skip_solid (by decide) (by decide) _⟩
  cases h with
  | @one l w g k v hl h hr => simpa using field hl h (g ++ r)
  | @cons l w g rest k v fs hl h hr hrest => simpa using field hl h (g ++ ',' :: (rest ++ r))

theorem value_of_items {fuel : Nat} {cs r r₁ : List Char} {raw : Raw} {raws : List Raw}
    (hopen : closing true ']' (skip cs) = none) (hvalue : value true fuel (skip cs) = some (raw, r₁))
    (hitems : itemsAfter true fuel (skip r₁) = some (raws, r))
    (hclose : (raws = [] ∧ closing true ']' (skip r₁) = some r) ∨
      closing true ']' (skip r₁) = none) :
    value true (fuel + 1) ('[' :: cs) = some (.array (raw :: raws), r) := by
  rw [value.eq_2, hopen]
  rcases hclose with ⟨rfl, hclose⟩ | hclose
  · simp [hvalue, hclose]
  · simp [hvalue, hclose, hitems]

mutual

/-- A value of the grammar is taken off the front, and denotes what the grammar says. -/
theorem IsValue.value_append : ∀ {w : List Char} {v : Value}, IsValue w v →
    ∀ (fuel : Nat) {r : List Char}, w.length ≤ fuel → Stops r →
    ∃ raw, value true fuel (w ++ r) = some (raw, r) ∧ raw.toValue = .ok v
  | _, _, .nullWord, fuel + 1, r, _, _ => by
    refine ⟨.word .null, ?_, rfl⟩
    exact (value_cons (by decide) (by decide) _ _ _).trans (scalar_null r)
  | _, _, .trueWord, fuel + 1, r, _, _ => by
    refine ⟨.word (.bool true), ?_, rfl⟩
    exact (value_cons (by decide) (by decide) _ _ _).trans (scalar_true r)
  | _, _, .falseWord, fuel + 1, r, _, _ => by
    refine ⟨.word (.bool false), ?_, rfl⟩
    exact (value_cons (by decide) (by decide) _ _ _).trans (scalar_false r)
  | w, v, .number h, fuel + 1, r, _, hr => by
    obtain ⟨c, cs, rfl, hc⟩ := h.start
    have hopening : c ≠ '[' ∧ c ≠ '\x7b' := by
      rcases hc with rfl | hc
      · decide
      · exact ⟨ne_of_isDigit hc (by decide), ne_of_isDigit hc (by decide)⟩
    exact ⟨_, (value_cons hopening.1 hopening.2 _ _ _).trans (h.scalar_append hr), h.numberOf_eq⟩
  | w, _, .text h, fuel + 1, r, _, hr => by
    obtain ⟨b, cs, rfl, hb, ht⟩ := h.textBody_append
    refine ⟨.text b, ?_, ?_⟩
    · rw [List.cons_append, value_cons (by decide) (by decide), scalar, hb]
      rfl
    · rw [Raw.toValue, ht]
      rfl
  | _, _, .emptyArray hg hs, fuel + 1, r, _, _ => by
    refine ⟨.array [], ?_, rfl⟩
    have hclose := closing_of_stray (.inl rfl) hg hs r
    simp only [List.cons_append, List.append_assoc, List.nil_append]
    rw [value.eq_2, hclose]
  | _, _, @IsValue.singleton l w g s _ hl h hg hs, fuel + 1, r, hfuel, _ => by
    simp only [List.length_cons, List.length_append, List.length_nil] at hfuel
    obtain ⟨raw, hvalue, hv⟩ := IsValue.value_append h fuel (by omega)
      (hg.stops (hs.stops (stops_cons (c := ']') (by decide) r)))
    obtain ⟨c, cs, hw, hc⟩ := h.start
    have hskip := h.skip_append hl (g ++ (s ++ ']' :: r))
    have hopen : closing true ']' (w ++ (g ++ (s ++ ']' :: r))) = none := by
      rw [hw]
      exact hc.closing_eq_none (.inl rfl) _
    have hclose := closing_of_stray (.inl rfl) hg hs r
    refine ⟨.array [raw], ?_, ?_⟩
    · simp only [List.cons_append, List.append_assoc, List.nil_append]
      rw [value.eq_2, hskip, hopen]
      simp [hvalue, hclose]
    · simp [Raw.toValue, itemValues, hv]
      rfl
  | _, _, @IsValue.array w _ h, fuel + 1, r, hfuel, _ => by
    simp only [List.length_cons, List.length_append, List.length_nil] at hfuel
    obtain ⟨raw, raws, r₁, hvalue, hitems, hvs, hclose⟩ :=
      IsItems.items_append h fuel (r := r) (by omega)
    obtain ⟨c, cs, hskip, hc⟩ := h.start (']' :: r)
    have hopen : closing true ']' (skip (w ++ ']' :: r)) = none := by
      rw [hskip]
      exact hc.closing_eq_none (.inl rfl) _
    refine ⟨.array (raw :: raws), ?_, ?_⟩
    · rw [List.cons_append, List.append_assoc]
      exact value_of_items hopen hvalue hitems hclose
    · rw [Raw.toValue, hvs]
      rfl
  | _, _, .emptyObject hg hs, fuel + 1, r, _, _ => by
    refine ⟨.object [], ?_, rfl⟩
    have hclose := closing_of_stray (.inr rfl) hg hs r
    simp only [List.cons_append, List.append_assoc, List.nil_append]
    rw [value.eq_3, hclose]
  | _, _, @IsValue.object w s _ _ h hs ht, fuel + 1, r, hfuel, _ => by
    simp only [List.length_cons, List.length_append, List.length_nil] at hfuel
    obtain ⟨raws, hfields, hfs⟩ := IsFields.fields_append h fuel hs (r := r) (by omega)
    obtain ⟨cs, hskip⟩ := h.start (s ++ '\x7d' :: r)
    have hopen : closing true '\x7d' (skip (w ++ (s ++ '\x7d' :: r))) = none := by
      rw [hskip]
      exact IsOpening.closing_eq_none (.inr rfl) (.inl (by decide)) _
    refine ⟨.object raws, ?_, ?_⟩
    · simp only [List.cons_append, List.append_assoc, List.nil_append]
      rw [value.eq_3, hopen]
      simp [hfields]
    · rw [Raw.toValue, hfs, ← (collects_iff _ _).1 ht]
      rfl
  | w, v, h, 0, r, hfuel, _ => by
    obtain ⟨c, cs, rfl, -⟩ := h.start
    simp at hfuel

/-- The items of an array are taken off the front, with the bracket that closes it. -/
theorem IsItems.items_append : ∀ {w : List Char} {vs : List Value}, IsItems w vs →
    ∀ (fuel : Nat) {r : List Char}, w.length < fuel →
    ∃ raw raws r₁, value true fuel (skip (w ++ ']' :: r)) = some (raw, r₁) ∧
      itemsAfter true fuel (skip r₁) = some (raws, r) ∧ itemValues (raw :: raws) = .ok vs ∧
      ((raws = [] ∧ closing true ']' (skip r₁) = some r) ∨ closing true ']' (skip r₁) = none)
  | _, _, @IsItems.one l w g _ hl h hg, fuel + 1, r, hfuel => by
    simp only [List.length_append] at hfuel
    obtain ⟨raw, hvalue, hv⟩ := IsValue.value_append h (fuel + 1) (by omega)
      (hg.stops (stops_cons (c := ']') (by decide) r))
    have hskip := h.skip_append hl (g ++ ']' :: r)
    have hbracket : skip (g ++ ']' :: r) = ']' :: r := by
      rw [hg.skip_append, skip_solid (by decide) (by decide)]
    refine ⟨raw, [], g ++ ']' :: r, ?_, ?_, ?_, .inl ⟨rfl, ?_⟩⟩
    · rw [List.append_assoc, List.append_assoc, hskip, hvalue]
    · rw [hbracket, itemsAfter]
    · simp [itemValues, hv]
      rfl
    · rw [hbracket, closing, if_pos rfl]
  | _, _, @IsItems.cons l w g rest _ _ hl h hg hrest, fuel + 1, r, hfuel => by
    simp only [List.length_append, List.length_cons] at hfuel
    obtain ⟨raw, hvalue, hv⟩ := IsValue.value_append h (fuel + 1) (by omega)
      (hg.stops (stops_cons (c := ',') (by decide) (rest ++ ']' :: r)))
    obtain ⟨raw', raws', r₁, hvalue', hitems', hvs', -⟩ :=
      IsItems.items_append hrest fuel (r := r) (by omega)
    have hskip := h.skip_append hl (g ++ ',' :: (rest ++ ']' :: r))
    have hcomma : skip (g ++ ',' :: (rest ++ ']' :: r)) = ',' :: (rest ++ ']' :: r) := by
      rw [hg.skip_append, skip_solid (by decide) (by decide)]
    obtain ⟨c, cs, hnext, hc⟩ := hrest.start (']' :: r)
    refine ⟨raw, raw' :: raws', g ++ ',' :: (rest ++ ']' :: r), ?_, ?_, ?_, .inr ?_⟩
    · simp only [List.append_assoc, List.cons_append]
      rw [hskip, hvalue]
    · rw [hcomma, itemsAfter, hvalue']
      simp [hitems']
    · rw [itemValues, hv, hvs']
      rfl
    · rw [hcomma]
      exact hc.closing_comma (.inl rfl) hnext
  | _, _, _, 0, _, hfuel => absurd hfuel (Nat.not_lt_zero _)

/-- The fields of an object are taken off the front, with the bracket that closes it. -/
theorem IsFields.fields_append : ∀ {w : List Char} {fs : List (CodePoints × Value)},
    IsFields w fs → ∀ (fuel : Nat) {s r : List Char}, IsStray s → w.length < fuel →
    ∃ raws, fields true fuel (skip (w ++ (s ++ '\x7d' :: r))) = some (raws, r) ∧
      ∀ before, fieldValues before raws = .ok (Table.merge before fs)
  | _, _, @IsFields.one l _ g _ _ hl (@IsField.mk key l₁ l₂ w k v hk hl₁ hl₂ h) hg,
      fuel + 1, s, r, hs, hfuel => by
    simp only [List.length_append, List.length_cons] at hfuel
    obtain ⟨raw, hvalue, hv⟩ := IsValue.value_append h fuel (by omega)
      (hg.stops (hs.stops (stops_cons (c := '\x7d') (by decide) r)))
    obtain ⟨b, cs, rfl, hb, ht⟩ := hk.textBody_append
    have hcolon : skip (l₁ ++ ':' :: (l₂ ++ (w ++ (g ++ (s ++ '\x7d' :: r))))) =
        ':' :: (l₂ ++ (w ++ (g ++ (s ++ '\x7d' :: r)))) := by
      rw [hl₁.skip_append, skip_solid (by decide) (by decide)]
    have hskip := h.skip_append hl₂ (g ++ (s ++ '\x7d' :: r))
    have hclose := closing_of_stray (.inr rfl) hg hs r
    refine ⟨[(b, raw)], ?_, ?_⟩
    · simp only [List.append_assoc, List.cons_append]
      rw [hl.skip_append, skip_solid (by decide) (by decide), fields.eq_2, hb]
      simp [hcolon, hskip, hvalue, hclose]
    · intro before
      rw [fieldValues, hv, ht]
      rfl
  | _, _, @IsFields.cons l _ g rest _ _ _ hl (@IsField.mk key l₁ l₂ w k v hk hl₁ hl₂ h) hg hrest,
      fuel + 1, s, r, hs, hfuel => by
    simp only [List.length_append, List.length_cons] at hfuel
    obtain ⟨raw, hvalue, hv⟩ := IsValue.value_append h fuel (by omega)
      (hg.stops (stops_cons (c := ',') (by decide) (rest ++ (s ++ '\x7d' :: r))))
    obtain ⟨raws, hfields, hfs⟩ := IsFields.fields_append hrest fuel hs (r := r) (by omega)
    obtain ⟨b, cs, rfl, hb, ht⟩ := hk.textBody_append
    have hcolon : skip (l₁ ++ ':' :: (l₂ ++ (w ++ (g ++ ',' :: (rest ++ (s ++ '\x7d' :: r)))))) =
        ':' :: (l₂ ++ (w ++ (g ++ ',' :: (rest ++ (s ++ '\x7d' :: r))))) := by
      rw [hl₁.skip_append, skip_solid (by decide) (by decide)]
    have hskip := h.skip_append hl₂ (g ++ ',' :: (rest ++ (s ++ '\x7d' :: r)))
    have hcomma : skip (g ++ ',' :: (rest ++ (s ++ '\x7d' :: r))) =
        ',' :: (rest ++ (s ++ '\x7d' :: r)) := by
      rw [hg.skip_append, skip_solid (by decide) (by decide)]
    obtain ⟨cs', hnext⟩ := hrest.start (s ++ '\x7d' :: r)
    have hclose : closing true '\x7d' (',' :: (rest ++ (s ++ '\x7d' :: r))) = none :=
      IsOpening.closing_comma (.inr rfl) (.inl (by decide)) hnext
    refine ⟨(b, raw) :: raws, ?_, ?_⟩
    · simp only [List.append_assoc, List.cons_append]
      rw [hl.skip_append, skip_solid (by decide) (by decide), fields.eq_2, hb]
      simp [hcolon, hskip, hvalue, hcomma, hclose, hfields]
    · intro before
      rw [fieldValues, hv, ht]
      exact hfs _
  | _, _, _, 0, _, _, _, hfuel => absurd hfuel (Nat.not_lt_zero _)

end

/-! ### Documents -/

theorem exists_mark (cs : List Char) :
    ∃ mark, (mark = [] ∨ mark = ['\uFEFF']) ∧ cs = mark ++ dropMark cs := by
  cases cs with
  | nil => exact ⟨[], .inl rfl, rfl⟩
  | cons c cs =>
    by_cases hc : c = '\uFEFF'
    · exact ⟨['\uFEFF'], .inr rfl, by simp [dropMark, hc]⟩
    · exact ⟨[], .inl rfl, by simp [dropMark, hc]⟩

/-- A byte order mark is neither a blank nor the start of a value. -/
theorem IsOpening.dropMark_append {c : Char} (hc : IsOpening c) {mark g : List Char}
    (hmark : mark = [] ∨ mark = ['\uFEFF']) (hg : Gap g) (r : List Char) :
    dropMark (mark ++ (g ++ c :: r)) = g ++ c :: r := by
  obtain ⟨d, cs, hcs, hd⟩ : ∃ d cs, g ++ c :: r = d :: cs ∧ d ≠ '\uFEFF' := by
    have hblanks : ∀ c ∈ blanks, c ≠ '\uFEFF' := List.all_iff_forall_prop.1 (by decide)
    have hletters : ∀ c ∈ ['"', '-', 'f', 'n', 't', '[', '\x7b'], c ≠ '\uFEFF' :=
      List.all_iff_forall_prop.1 (by decide)
    cases hg with
    | nil =>
      rcases hc with hc | hc
      · exact ⟨c, _, rfl, hletters c hc⟩
      · exact ⟨c, _, rfl, ne_of_isDigit hc (by decide)⟩
    | blank hc _ => exact ⟨_, _, rfl, hblanks _ hc⟩
    | line _ _ | block _ _ => exact ⟨_, _, rfl, by decide⟩
  rcases hmark with rfl | rfl
  · rw [List.nil_append, hcs, dropMark, if_neg hd]
  · rw [List.singleton_append, dropMark, if_pos rfl]

theorem dropMark_append {mark g w : List Char} {v : Value}
    (hmark : mark = [] ∨ mark = ['\uFEFF']) (hg : Gap g) (h : IsValue w v) (r : List Char) :
    dropMark (mark ++ (g ++ (w ++ r))) = g ++ (w ++ r) := by
  obtain ⟨c, cs, rfl, hc⟩ := h.start
  exact hc.dropMark_append hmark hg (cs ++ r)

theorem isRest_of_values {fuel : Nat} {r : List Char} (h : values true fuel (skip r) = some []) :
    IsRest r := by
  cases fuel with
  | zero =>
    rw [values] at h
    cases h
  | succ fuel =>
    obtain ⟨-, hr | ⟨r', hr, hr'⟩⟩ | ⟨_, _, _, -, -, hraws⟩ := values_cases h
    · exact .ending (ending_of_skip hr)
    · obtain ⟨g, hg, rfl⟩ := gap_of_skip hr
      exact .comma hg (ending_of_skip hr')
    · cases hraws

theorem IsRest.values_eq {r : List Char} (h : IsRest r) (fuel : Nat) :
    values true (fuel + 1) (skip r) = some [] := by
  cases h with
  | ending he => rw [he.skip_eq, values]
  | comma hg he =>
    rw [hg.skip_append, skip_solid (by decide) (by decide), values.eq_3, he.skip_eq]
    rfl

theorem readChars_eq_ok {cs : List Char} {v : Value} :
    readChars cs = .ok v ↔ ∃ raw, document true cs = some [raw] ∧ raw.toValue = .ok v := by
  constructor
  · intro h
    unfold readChars at h
    split at h
    · cases h
    · cases h
    · next raw hraw =>
      refine ⟨raw, hraw, ?_⟩
      cases hv : raw.toValue with
      | error e =>
        rw [hv] at h
        cases h
      | ok v' =>
        rw [hv] at h
        cases h
        rfl
    · cases h
  · rintro ⟨raw, hraw, hv⟩
    simp [readChars, hraw, hv, Except.mapError]

/-- Characters are read as a value if, and only if, they are a document that denotes it. -/
theorem readChars_eq_ok_iff (cs : List Char) (v : Value) :
    readChars cs = .ok v ↔ IsDocument cs v := by
  rw [readChars_eq_ok]
  constructor
  · rintro ⟨raw, hdocument, hv⟩
    obtain ⟨mark, hmark, hcs⟩ := exists_mark cs
    obtain ⟨hraws, -⟩ | ⟨raw', r, raws, hvalue, hvalues, hraws⟩ := values_cases hdocument
    · cases hraws
    · cases hraws
      obtain ⟨w, hw, hvalue'⟩ := isValue_of_value _ hvalue hv
      obtain ⟨g, hg, hdrop⟩ := hvalue'.gap_of_skip hw
      have hrest := isRest_of_values hvalues
      rw [hcs, hdrop, ← List.append_assoc, ← List.append_assoc]
      exact .mk hmark hg hvalue' hrest
  · rintro @⟨mark, g, w, r, v, hmark, hg, h, hr⟩
    obtain ⟨raw, hvalue, hv⟩ := h.value_append ((mark ++ g ++ w ++ r).length + 1)
      (by simp only [List.length_append]; omega) hr.stops
    have hdocument : document true (mark ++ g ++ w ++ r) = some [raw] := by
      -- The value does not begin as a comma that is left over would.
      obtain ⟨c, cs, hw, hc⟩ := h.start
      have hnil : w ++ r = [] → False := by simp [hw]
      have hcomma : ∀ r', w ++ r = ',' :: r' → False := by
        rw [hw]
        exact fun r' h => hc.ne (d := ',') (by decide) (List.cons.inj h).1
      rw [document, List.append_assoc, List.append_assoc, dropMark_append hmark hg h,
        h.skip_append hg, ← List.append_assoc g, ← List.append_assoc mark,
        ← List.append_assoc mark, values.eq_4 _ _ _ hnil hcomma, hvalue]
      simp [hr.values_eq]
    exact ⟨raw, hdocument, hv⟩

/-- In no object inside a value a key stands twice. -/
inductive Value.Proper : Value → Prop
  | null : Proper .null
  | bool (b : Bool) : Proper (.bool b)
  | int (n : Int) : Proper (.int n)
  | float (x : Binary64) : Proper (.float x)
  | text (t : CodePoints) : Proper (.text t)
  | array {vs : List Value} (h : ∀ v ∈ vs, Proper v) : Proper (.array vs)
  | object {t : Table CodePoints Value} (ht : t.Distinct) (h : ∀ k v, t.get? k = some v → Proper v) :
    Proper (.object t)

theorem Collects.mem {fs : List (CodePoints × Value)} {t : Table CodePoints Value}
    (h : Collects fs t) {k : CodePoints} {v : Value} (hv : t.get? k = some v) : (k, v) ∈ fs := by
  rw [h.get?, Table.last?, Option.map_eq_some_iff] at hv
  obtain ⟨⟨k', v'⟩, hlast, rfl⟩ := hv
  obtain ⟨hmem, hk⟩ := List.mem_filter.1 (List.mem_of_getLast? hlast)
  obtain rfl : k' = k := by simpa using hk
  exact hmem

mutual

/-- In no object of the grammar a key stands twice. -/
theorem IsValue.proper : ∀ {w : List Char} {v : Value}, IsValue w v → v.Proper
  | _, _, .nullWord => .null
  | _, _, .trueWord | _, _, .falseWord => .bool _
  | _, _, .number (.int _ _) => .int _
  | _, _, .number (.float _ _ _ _ _) => .float _
  | _, _, .text _ => .text _
  | _, _, .emptyArray _ _ => .array (by simp)
  | _, _, .singleton _ h _ _ => by
    have hproper := IsValue.proper h
    exact .array (by simpa using hproper)
  | _, _, .array h => .array (IsItems.proper h)
  | _, _, .emptyObject _ _ => .object Table.distinct_nil (by simp)
  | _, _, .object h _ ht => by
    have hproper := IsFields.proper h
    exact .object ht.distinct fun k v hv => hproper (k, v) (ht.mem hv)

theorem IsItems.proper : ∀ {w : List Char} {vs : List Value}, IsItems w vs → ∀ v ∈ vs, v.Proper
  | _, _, .one _ h _ => by
    have hproper := IsValue.proper h
    simpa using hproper
  | _, _, .cons _ h _ hrest => by
    have hproper := IsValue.proper h
    have hrest' := IsItems.proper hrest
    exact List.forall_mem_cons.2 ⟨hproper, hrest'⟩

theorem IsFields.proper : ∀ {w : List Char} {fs : List (CodePoints × Value)}, IsFields w fs →
    ∀ e ∈ fs, e.2.Proper
  | _, _, .one _ (.mk _ _ _ h) _ => by
    have hproper := IsValue.proper h
    simpa using hproper
  | _, _, .cons _ (.mk _ _ _ h) _ hrest => by
    have hproper := IsValue.proper h
    have hrest' := IsFields.proper hrest
    exact List.forall_mem_cons.2 ⟨hproper, hrest'⟩

end

/-- In no object that is read a key stands twice. -/
theorem proper_of_readChars {cs : List Char} {v : Value} (h : readChars cs = .ok v) :
    v.Proper := by
  obtain ⟨_, _, hvalue, _⟩ := (readChars_eq_ok_iff cs v).1 h
  exact hvalue.proper

end RouteLint.Json
