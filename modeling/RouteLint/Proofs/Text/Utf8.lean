import Mathlib.Data.List.Basic
import RouteLint.Text.Utf8

/-!
# Writing and reading UTF-8

Reading the bytes of characters gives the characters back, and bytes that can be read are those of
the characters that were read.  So a text is written in one way only, and where the bytes of two
texts agree the texts themselves do.

## Main results

* `Utf8.next_encodeChar` — a character is read off the front of its bytes.
* `Utf8.bytes_of_next` — what is read off the front are the bytes of a character.
* `Utf8.decodeChars_eq_ok_iff` — **what can be read is what has been written.**
* `Utf8.prefix_of_encodeChars` — texts whose bytes start alike start alike.
-/

namespace RouteLint.Utf8

/-! ### One character -/

theorem isTail_ofNat {n : Nat} (h : n < 64) : isTail (UInt8.ofNat (n + 0x80)) = true := by
  have hn : (UInt8.ofNat (n + 0x80)).toNat = n + 0x80 :=
    UInt8.toNat_ofNat_of_lt' (show _ < 256 by omega)
  simp only [isTail, UInt8.le_iff_toNat_le, hn, UInt8.reduceToNat, Bool.and_eq_true,
    decide_eq_true_eq]
  omega

theorem tailBits_ofNat {n : Nat} (h : n < 64) : tailBits (UInt8.ofNat (n + 0x80)) = n := by
  have hn : (UInt8.ofNat (n + 0x80)).toNat = n + 0x80 :=
    UInt8.toNat_ofNat_of_lt' (show _ < 256 by omega)
  unfold tailBits
  omega

/-- A second byte is right where the code point is neither too small, a surrogate, nor too
large. -/
theorem isSecond_ofNat {a n : Nat} (ha : a < 256) (hn : n < 64) (hlow : a = 0xE0 → 0x20 ≤ n)
    (hsurrogate : a = 0xED → n < 0x20) (hlow' : a = 0xF0 → 0x10 ≤ n) (hhigh : a = 0xF4 → n < 0x10) :
    isSecond (UInt8.ofNat a) (UInt8.ofNat (n + 0x80)) = true := by
  have htoNat : (UInt8.ofNat (n + 0x80)).toNat = n + 0x80 :=
    UInt8.toNat_ofNat_of_lt' (show _ < 256 by omega)
  have heq : ∀ k : UInt8, UInt8.ofNat a = k → a = k.toNat := by
    intro k hk
    rw [← hk, UInt8.toNat_ofNat_of_lt' ha]
  unfold isSecond
  rw [isTail_ofNat hn, Bool.true_and]
  simp only [beq_iff_eq, UInt8.le_iff_toNat_le, htoNat, UInt8.reduceToNat]
  split
  · next h =>
    have := hlow (heq _ h)
    exact decide_eq_true (by omega)
  · split
    · next h =>
      have := hsurrogate (heq _ h)
      exact decide_eq_true (by omega)
    · split
      · next h =>
        have := hlow' (heq _ h)
        exact decide_eq_true (by omega)
      · split
        · next h =>
          have := hhigh (heq _ h)
          exact decide_eq_true (by omega)
        · rfl

/-- A code point is no surrogate and not too large. -/
theorem codePoint_valid (c : Char) : c.toNat < 0xD800 ∨ 0xDFFF < c.toNat ∧ c.toNat < 0x110000 := by
  rcases c.valid with h | h
  · exact .inl h
  · exact .inr h

/-- A character is read off the front of its bytes. -/
theorem next_encodeChar (c : Char) (rest : Bytes) :
    next (String.utf8EncodeChar c ++ rest) = .char c rest := by
  have hvalid := codePoint_valid c
  have hchar : ∀ n, n = c.toNat → Char.ofNat n = c := by
    rintro n rfl
    exact Char.ofNat_toNat c
  rw [String.utf8EncodeChar]
  rw [show c.val.toNat = c.toNat from rfl]
  generalize c.toNat = v at *
  -- the four widths of a character
  split
  · next h1 =>
    have ha : (UInt8.ofNat v).toNat = v := UInt8.toNat_ofNat_of_lt' (show _ < 256 by omega)
    simp only [List.cons_append, List.nil_append, next, UInt8.lt_iff_toNat_lt, ha,
      UInt8.reduceToNat]
    rw [if_pos (by omega), hchar v rfl]
  · split
    · next h1 h2 =>
      have ha : (UInt8.ofNat (v / 64 % 32 + 0xC0)).toNat = v / 64 % 32 + 0xC0 :=
        UInt8.toNat_ofNat_of_lt' (show _ < 256 by omega)
      simp only [List.cons_append, List.nil_append, next, UInt8.lt_iff_toNat_lt, ha,
        UInt8.reduceToNat]
      rw [if_neg (by omega), if_neg (by omega), if_pos (by omega),
        isTail_ofNat (by omega), tailBits_ofNat (by omega)]
      simp only [Bool.not_true, Bool.false_eq_true, if_false]
      rw [hchar _ (by omega)]
    · split
      · next h1 h2 h3 =>
        have ha : (UInt8.ofNat (v / 4096 % 16 + 0xE0)).toNat = v / 4096 % 16 + 0xE0 :=
          UInt8.toNat_ofNat_of_lt' (show _ < 256 by omega)
        simp only [List.cons_append, List.nil_append, next, UInt8.lt_iff_toNat_lt, ha,
          UInt8.reduceToNat]
        rw [if_neg (by omega), if_neg (by omega), if_neg (by omega),
          if_pos (by omega), nextThree,
          isSecond_ofNat (by omega) (by omega) (by omega) (by omega) (by omega) (by omega)]
        simp only [Bool.not_true, Bool.false_eq_true, if_false]
        rw [isTail_ofNat (by omega), tailBits_ofNat (by omega), tailBits_ofNat (by omega), ha]
        simp only [Bool.not_true, Bool.false_eq_true, if_false]
        rw [hchar _ (by omega)]
      · next h1 h2 h3 =>
        have ha : (UInt8.ofNat (v / 262144 % 8 + 0xF0)).toNat = v / 262144 % 8 + 0xF0 :=
          UInt8.toNat_ofNat_of_lt' (show _ < 256 by omega)
        simp only [List.cons_append, List.nil_append, next, UInt8.lt_iff_toNat_lt, ha,
          UInt8.reduceToNat]
        rw [if_neg (by omega), if_neg (by omega), if_neg (by omega),
          if_neg (by omega), if_pos (by omega), nextFour,
          isSecond_ofNat (by omega) (by omega) (by omega) (by omega) (by omega) (by omega)]
        simp only [Bool.not_true, Bool.false_eq_true, if_false]
        rw [isTail_ofNat (by omega), isTail_ofNat (by omega), tailBits_ofNat (by omega),
          tailBits_ofNat (by omega), tailBits_ofNat (by omega), ha]
        simp only [Bool.not_true, Bool.false_eq_true, if_false]
        rw [hchar _ (by omega)]

/-! ### Bytes that were read -/

theorem ofNat_eq_of_toNat {a : UInt8} {n : Nat} (h : n = a.toNat) : UInt8.ofNat n = a := by
  rw [h, UInt8.ofNat_toNat]

/-- The bytes of a character, by its code point. -/
theorem encodeChar_ofNat {n : Nat} (h : n.isValidChar) :
    String.utf8EncodeChar (Char.ofNat n) =
      if n ≤ 0x7F then [.ofNat n]
      else if n ≤ 0x7FF then [.ofNat (n / 64 % 32 + 0xC0), .ofNat (n % 64 + 0x80)]
      else if n ≤ 0xFFFF then
        [.ofNat (n / 4096 % 16 + 0xE0), .ofNat (n / 64 % 64 + 0x80), .ofNat (n % 64 + 0x80)]
      else
        [.ofNat (n / 262144 % 8 + 0xF0), .ofNat (n / 4096 % 64 + 0x80),
          .ofNat (n / 64 % 64 + 0x80), .ofNat (n % 64 + 0x80)] := by
  have hn : (Char.ofNat n).val.toNat = n := by
    unfold Char.ofNat
    rw [dif_pos h]
    rfl
  rw [String.utf8EncodeChar]
  simp only [hn]

theorem isTail_iff {b : UInt8} : isTail b = true ↔ 0x80 ≤ b.toNat ∧ b.toNat ≤ 0xBF := by
  simp [isTail, UInt8.le_iff_toNat_le]

/-- What a second byte is like: the code point is neither too small, a surrogate, nor too large. -/
theorem bounds_of_isSecond {a b : UInt8} (h : isSecond a b = true) :
    (0x80 ≤ b.toNat ∧ b.toNat ≤ 0xBF) ∧ (a.toNat = 0xE0 → 0xA0 ≤ b.toNat) ∧
      (a.toNat = 0xED → b.toNat ≤ 0x9F) ∧ (a.toNat = 0xF0 → 0x90 ≤ b.toNat) ∧
      (a.toNat = 0xF4 → b.toNat ≤ 0x8F) := by
  unfold isSecond at h
  rw [Bool.and_eq_true, isTail_iff] at h
  obtain ⟨htail, h⟩ := h
  refine ⟨htail, ?_⟩
  simp only [beq_iff_eq, ← UInt8.toNat_inj, UInt8.reduceToNat, UInt8.le_iff_toNat_le] at h
  split at h
  · simp at h; omega
  · split at h
    · simp at h; omega
    · split at h
      · simp at h; omega
      · split at h
        · simp at h; omega
        · omega

theorem encodeChar_one {a : UInt8} (ha : a.toNat < 0x80) :
    String.utf8EncodeChar (Char.ofNat a.toNat) = [a] := by
  rw [encodeChar_ofNat (.inl (by omega)), if_pos (by omega), UInt8.ofNat_toNat]

theorem encodeChar_two {a b : UInt8} (ha : 0xC2 ≤ a.toNat) (ha' : a.toNat < 0xE0)
    (hb : isTail b = true) :
    String.utf8EncodeChar (Char.ofNat ((a.toNat - 0xC0) * 64 + tailBits b)) = [a, b] := by
  rw [isTail_iff] at hb
  unfold tailBits
  rw [encodeChar_ofNat (.inl (by omega)), if_neg (by omega), if_pos (by omega),
    ofNat_eq_of_toNat (a := a) (by omega), ofNat_eq_of_toNat (a := b) (by omega)]

theorem encodeChar_three {a b c : UInt8} (ha : 0xE0 ≤ a.toNat) (ha' : a.toNat < 0xF0)
    (hb : isSecond a b = true) (hc : isTail c = true) :
    String.utf8EncodeChar
      (Char.ofNat ((a.toNat - 0xE0) * 4096 + tailBits b * 64 + tailBits c)) = [a, b, c] := by
  rw [isTail_iff] at hc
  have hb := bounds_of_isSecond hb
  unfold tailBits
  have hvalid : ((a.toNat - 0xE0) * 4096 + (b.toNat - 0x80) * 64 + (c.toNat - 0x80)).isValidChar := by
    unfold Nat.isValidChar
    omega
  rw [encodeChar_ofNat hvalid, if_neg (by omega), if_neg (by omega), if_pos (by omega),
    ofNat_eq_of_toNat (a := a) (by omega), ofNat_eq_of_toNat (a := b) (by omega),
    ofNat_eq_of_toNat (a := c) (by omega)]

theorem encodeChar_four {a b c d : UInt8} (ha : 0xF0 ≤ a.toNat) (ha' : a.toNat < 0xF5)
    (hb : isSecond a b = true) (hc : isTail c = true) (hd : isTail d = true) :
    String.utf8EncodeChar
      (Char.ofNat ((a.toNat - 0xF0) * 262144 + tailBits b * 4096 + tailBits c * 64 + tailBits d)) =
        [a, b, c, d] := by
  rw [isTail_iff] at hc hd
  have hb := bounds_of_isSecond hb
  unfold tailBits
  have hvalid : ((a.toNat - 0xF0) * 262144 + (b.toNat - 0x80) * 4096 + (c.toNat - 0x80) * 64 +
      (d.toNat - 0x80)).isValidChar := by
    unfold Nat.isValidChar
    omega
  rw [encodeChar_ofNat hvalid, if_neg (by omega), if_neg (by omega), if_neg (by omega),
    ofNat_eq_of_toNat (a := a) (by omega), ofNat_eq_of_toNat (a := b) (by omega),
    ofNat_eq_of_toNat (a := c) (by omega), ofNat_eq_of_toNat (a := d) (by omega)]

theorem bytes_of_nextThree {a : UInt8} {bytes rest : Bytes} {c : Char} (ha : 0xE0 ≤ a.toNat)
    (ha' : a.toNat < 0xF0) (h : nextThree a bytes = .char c rest) :
    a :: bytes = String.utf8EncodeChar c ++ rest := by
  unfold nextThree at h
  split at h
  · cases h
  · next b r₁ =>
    split at h
    · cases h
    · next hb =>
      split at h
      · cases h
      · next d r₂ =>
        split at h
        · cases h
        · next hd =>
          obtain ⟨rfl, rfl⟩ := Step.char.inj h
          rw [Bool.not_eq_true', Bool.not_eq_false] at hb hd
          rw [encodeChar_three ha ha' hb hd]
          rfl

theorem bytes_of_nextFour {a : UInt8} {bytes rest : Bytes} {c : Char} (ha : 0xF0 ≤ a.toNat)
    (ha' : a.toNat < 0xF5) (h : nextFour a bytes = .char c rest) :
    a :: bytes = String.utf8EncodeChar c ++ rest := by
  unfold nextFour at h
  split at h
  · cases h
  · next b r₁ =>
    split at h
    · cases h
    · next hb =>
      split at h
      · cases h
      · next d r₂ =>
        split at h
        · cases h
        · next hd =>
          split at h
          · cases h
          · next e r₃ =>
            split at h
            · cases h
            · next he =>
              obtain ⟨rfl, rfl⟩ := Step.char.inj h
              rw [Bool.not_eq_true', Bool.not_eq_false] at hb hd he
              rw [encodeChar_four ha ha' hb hd he]
              rfl

/-- What is read off the front are the bytes of a character. -/
theorem bytes_of_next {bytes rest : Bytes} {c : Char} (h : next bytes = .char c rest) :
    bytes = String.utf8EncodeChar c ++ rest := by
  cases bytes with
  | nil => cases h
  | cons a r =>
    unfold next at h
    simp only [UInt8.lt_iff_toNat_lt, UInt8.reduceToNat] at h
    -- by the first byte, as it is read
    split at h
    · next ha =>
      obtain ⟨rfl, rfl⟩ := Step.char.inj h
      rw [encodeChar_one ha]
      rfl
    · split at h
      · cases h
      · next hlow =>
        split at h
        · next hhigh =>
          split at h
          · cases h
          · next b r₁ =>
            split at h
            · cases h
            · next hb =>
              obtain ⟨rfl, rfl⟩ := Step.char.inj h
              rw [Bool.not_eq_true', Bool.not_eq_false] at hb
              rw [encodeChar_two (by omega) hhigh hb]
              rfl
        · split at h
          · exact bytes_of_nextThree (by omega) ‹_› h
          · split at h
            · exact bytes_of_nextFour (by omega) ‹_› h
            · cases h

theorem nextThree_ne_done (a : UInt8) (bytes : Bytes) : nextThree a bytes ≠ .done := by
  unfold nextThree
  repeat' split
  all_goals exact Step.noConfusion

theorem nextFour_ne_done (a : UInt8) (bytes : Bytes) : nextFour a bytes ≠ .done := by
  unfold nextFour
  repeat' split
  all_goals exact Step.noConfusion

theorem eq_nil_of_next {bytes : Bytes} (h : next bytes = .done) : bytes = [] := by
  cases bytes with
  | nil => rfl
  | cons a r =>
    unfold next at h
    dsimp only at h
    split at h
    · cases h
    · split at h
      · cases h
      · split at h
        · split at h
          · cases h
          · split at h <;> cases h
        · split at h
          · exact absurd h (nextThree_ne_done a r)
          · split at h
            · exact absurd h (nextFour_ne_done a r)
            · cases h

/-! ### Texts -/

@[simp] theorem encodeChars_nil : encodeChars [] = [] := rfl

@[simp] theorem encodeChars_cons (c : Char) (cs : List Char) :
    encodeChars (c :: cs) = String.utf8EncodeChar c ++ encodeChars cs := rfl

@[simp] theorem encodeChars_append (cs ds : List Char) :
    encodeChars (cs ++ ds) = encodeChars cs ++ encodeChars ds := List.flatMap_append

theorem length_encodeChars_cons (c : Char) (cs : List Char) :
    (encodeChars (c :: cs)).length = c.utf8Size + (encodeChars cs).length := by
  rw [encodeChars_cons, List.length_append, String.length_utf8EncodeChar]

/-- Reading the bytes of a text, with at least as much fuel as there are bytes. -/
theorem decodeFrom_encodeChars (cs : List Char) (fuel position : Nat)
    (h : (encodeChars cs).length ≤ fuel) : decodeFrom fuel position (encodeChars cs) = .ok cs := by
  induction cs generalizing fuel position with
  | nil => cases fuel <;> rfl
  | cons c cs ih =>
    rw [length_encodeChars_cons] at h
    have hpos := c.utf8Size_pos
    obtain ⟨fuel, rfl⟩ : ∃ k, fuel = k + 1 := ⟨fuel - 1, by omega⟩
    rw [decodeFrom, encodeChars_cons, next_encodeChar]
    simp only
    rw [ih fuel _ (by omega)]
    rfl

/-- What has been written can be read. -/
theorem decodeChars_encodeChars (cs : List Char) : decodeChars (encodeChars cs) = .ok cs :=
  decodeFrom_encodeChars cs _ 0 (Nat.le_refl _)

/-- Bytes that can be read, with at least as much fuel as there are bytes. -/
theorem bytes_of_decodeFrom {fuel position : Nat} {bytes : Bytes} {cs : List Char}
    (hfuel : bytes.length ≤ fuel) (h : decodeFrom fuel position bytes = .ok cs) :
    bytes = encodeChars cs := by
  induction fuel generalizing position bytes cs with
  | zero =>
    cases h
    rw [List.length_eq_zero_iff.1 (Nat.le_zero.1 hfuel)]
    rfl
  | succ fuel ih =>
    rw [decodeFrom] at h
    split at h
    · next hnext =>
      cases h
      exact eq_nil_of_next hnext
    · next c rest hnext =>
      have hbytes := bytes_of_next hnext
      have hlen : bytes.length = c.utf8Size + rest.length := by
        rw [hbytes, List.length_append, String.length_utf8EncodeChar]
      have hpos := c.utf8Size_pos
      cases hrest : decodeFrom fuel (position + width c) rest with
      | error fault =>
        rw [hrest] at h
        cases h
      | ok ds =>
        rw [hrest] at h
        cases h
        rw [encodeChars_cons, ← ih (by omega) hrest, hbytes]
    · cases h

/-- **What can be read is what has been written.** -/
theorem decodeChars_eq_ok_iff {bytes : Bytes} {cs : List Char} :
    decodeChars bytes = .ok cs ↔ bytes = encodeChars cs := by
  constructor
  · exact bytes_of_decodeFrom (Nat.le_refl _)
  · rintro rfl
    exact decodeChars_encodeChars cs

theorem decodeLossyFrom_encodeChars (cs : List Char) {fuel : Nat}
    (h : (encodeChars cs).length ≤ fuel) : decodeLossyFrom fuel (encodeChars cs) = cs := by
  induction cs generalizing fuel with
  | nil => cases fuel <;> rfl
  | cons c cs ih =>
    rw [length_encodeChars_cons] at h
    have hpos := c.utf8Size_pos
    obtain ⟨fuel, rfl⟩ : ∃ k, fuel = k + 1 := ⟨fuel - 1, by omega⟩
    rw [decodeLossyFrom, encodeChars_cons, next_encodeChar]
    simp only
    rw [ih (by omega)]

/-- In what has been written nothing has to be replaced. -/
theorem decodeLossy_encodeChars (cs : List Char) : decodeLossy (encodeChars cs) = cs :=
  decodeLossyFrom_encodeChars cs (Nat.le_refl _)

theorem encodeChars_injective {cs ds : List Char} (h : encodeChars cs = encodeChars ds) :
    cs = ds := by
  have hcs := decodeChars_encodeChars cs
  rw [h, decodeChars_encodeChars] at hcs
  exact (Except.ok.inj hcs).symm

/-- Of two texts that start the same bytes, the one with fewer bytes starts the other. -/
theorem prefix_of_encodeChars {cs cs' ds ds' : List Char}
    (h : encodeChars (cs ++ cs') = encodeChars (ds ++ ds'))
    (hlen : (encodeChars cs).length ≤ (encodeChars ds).length) : ∃ es, ds = cs ++ es := by
  have heq : cs ++ cs' = ds ++ ds' := encodeChars_injective h
  rcases List.append_eq_append_iff.1 heq with ⟨es, hds, -⟩ | ⟨es, hcs, -⟩
  · exact ⟨es, hds⟩
  · -- the longer way round leaves nothing over
    rw [hcs, encodeChars_append, List.length_append] at hlen
    cases es with
    | nil => exact ⟨[], by rw [hcs, List.append_nil, List.append_nil]⟩
    | cons c es =>
      rw [length_encodeChars_cons] at hlen
      have hpos := c.utf8Size_pos
      omega

end RouteLint.Utf8
