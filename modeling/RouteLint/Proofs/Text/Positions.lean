import Mathlib.Data.List.TakeWhile
import RouteLint.Proofs.Routes.Insertion
import RouteLint.Proofs.Syntax.Scans

/-!
# Lines and columns

Syntax counts in bytes, and a reader counts in characters.  A construct is told about by the bytes
before it: how many there are, how many of them are line breaks, and how many come after the last
line break.  The place that is reported counts the line breaks and the characters after the last
one, so the bytes of the line up to the construct must be cut out and read again.  No byte of a
longer character is a line break, so lines are cut at the same places in the bytes and in the
characters, and what is cut out can be read.

Two constructs at different bytes are at different places: if there are as many line breaks before
both, they are on one line, and the one that comes later has more characters before it there.

## Main definitions

* `afterLast` — the end of a list after the last time that something stands in it.
* `Syntax.Extent.StandsAfter` — constructs that come after some characters of a text.

## Main results

* `lineBreaks_encodeChars`, `afterLast_encodeChars` — line breaks in bytes and in characters.
* `Syntax.Cursor.Passes.standsAfter` — the places that scans come to.
* `positionIn_standsAfter` — **the place of a construct.**
-/

namespace RouteLint

open Syntax Utf8

/-! ### After the last line break -/

section AfterLast

variable {α : Type} [DecidableEq α] {x : α} {l front back : List α}

/-- What comes after the last `x` of a list, which is all of it if there is none. -/
def afterLast (x : α) (l : List α) : List α := (l.reverse.takeWhile (· ≠ x)).reverse

theorem afterLast_of_not_mem (h : x ∉ l) : afterLast x l = l := by
  unfold afterLast
  rw [List.takeWhile_eq_self_iff.2, List.reverse_reverse]
  intro y hy
  rw [List.mem_reverse] at hy
  exact decide_eq_true fun hyx => h (hyx ▸ hy)

theorem afterLast_append_cons (h : x ∉ back) (front : List α) :
    afterLast x (front ++ x :: back) = back := by
  have hback : ∀ y ∈ back.reverse, decide (y ≠ x) = true := by
    intro y hy
    rw [List.mem_reverse] at hy
    exact decide_eq_true fun hyx => h (hyx ▸ hy)
  unfold afterLast
  rw [List.reverse_append, List.reverse_cons, List.append_assoc,
    List.takeWhile_append_of_pos hback, List.singleton_append,
    List.takeWhile_cons_of_neg (by simp), List.append_nil, List.reverse_reverse]

omit [DecidableEq α] in
/-- A list is cut after the last time that something stands in it. -/
theorem exists_last_of_mem (h : x ∈ l) : ∃ front back, l = front ++ x :: back ∧ x ∉ back := by
  obtain ⟨back, front, hl, hback⟩ := List.eq_append_cons_of_mem (List.mem_reverse.2 h)
  refine ⟨front.reverse, back.reverse, ?_, by rwa [List.mem_reverse]⟩
  rw [← List.reverse_reverse l, hl]
  simp

theorem afterLast_append_of_not_mem (h : x ∉ back) (front : List α) :
    afterLast x (front ++ back) = afterLast x front ++ back := by
  by_cases hx : x ∈ front
  · obtain ⟨a, b, rfl, hb⟩ := exists_last_of_mem hx
    have hboth : x ∉ b ++ back := by
      rw [List.mem_append, not_or]
      exact ⟨hb, h⟩
    rw [List.append_assoc, List.cons_append, afterLast_append_cons hboth, afterLast_append_cons hb]
  · rw [afterLast_of_not_mem hx, afterLast_of_not_mem]
    rw [List.mem_append, not_or]
    exact ⟨hx, h⟩

theorem afterLast_suffix (x : α) (l : List α) : afterLast x l <:+ l := by
  unfold afterLast
  rw [← List.reverse_prefix, List.reverse_reverse]
  exact List.takeWhile_prefix _

end AfterLast

/-! ### Line breaks in bytes and in characters -/

/-- No byte of another character is a line break. -/
theorem not_mem_utf8EncodeChar {c : Char} (hc : c ≠ '\n') : 10 ∉ String.utf8EncodeChar c := by
  have hv : c.val.toNat ≠ 10 := by
    intro h
    exact hc (Char.ext (UInt32.toNat_inj.1 h))
  have hbyte : ∀ n, n < 256 → n ≠ 10 → 10 ≠ UInt8.ofNat n := by
    intro n hn hne h
    rw [← UInt8.toNat_inj, UInt8.toNat_ofNat_of_lt' hn] at h
    exact hne h.symm
  rw [String.utf8EncodeChar]
  generalize c.val.toNat = v at *
  -- every byte of a longer character has its highest bit set
  split
  · rw [List.mem_singleton]
    exact hbyte v (by omega) hv
  · split
    · simp only [List.mem_cons, List.not_mem_nil, or_false, not_or]
      exact ⟨hbyte _ (by omega) (by omega), hbyte _ (by omega) (by omega)⟩
    · split
      · simp only [List.mem_cons, List.not_mem_nil, or_false, not_or]
        exact ⟨hbyte _ (by omega) (by omega), hbyte _ (by omega) (by omega),
          hbyte _ (by omega) (by omega)⟩
      · simp only [List.mem_cons, List.not_mem_nil, or_false, not_or]
        exact ⟨hbyte _ (by omega) (by omega), hbyte _ (by omega) (by omega),
          hbyte _ (by omega) (by omega), hbyte _ (by omega) (by omega)⟩

theorem lineBreaks_encodeChars (cs : List Char) :
    lineBreaks (encodeChars cs) = cs.count '\n' := by
  induction cs with
  | nil => rfl
  | cons c cs ih =>
    rw [encodeChars_cons, lineBreaks_append, ih, List.count_cons, Nat.add_comm]
    by_cases hc : c = '\n'
    · subst hc
      rfl
    · rw [lineBreaks, List.count_eq_zero.2 (not_mem_utf8EncodeChar hc)]
      simp [hc]

theorem mem_encodeChars_iff {cs : List Char} : 10 ∈ encodeChars cs ↔ '\n' ∈ cs := by
  rw [← List.count_pos_iff, ← List.count_pos_iff, ← lineBreaks_encodeChars]
  rfl

/-- Lines are cut at the same places in the bytes and in the characters. -/
theorem afterLast_encodeChars (cs : List Char) :
    afterLast 10 (encodeChars cs) = encodeChars (afterLast '\n' cs) := by
  by_cases hmem : '\n' ∈ cs
  · obtain ⟨front, back, rfl, hback⟩ := exists_last_of_mem hmem
    have hbytes : encodeChars (front ++ '\n' :: back) =
        encodeChars front ++ 10 :: encodeChars back := by
      rw [encodeChars_append, encodeChars_cons]
      rfl
    rw [hbytes, afterLast_append_cons (mt mem_encodeChars_iff.1 hback), afterLast_append_cons hback]
  · rw [afterLast_of_not_mem (mt mem_encodeChars_iff.1 hmem), afterLast_of_not_mem hmem]

/-! ### The place of a construct -/

/-- A construct that comes after some characters of a file that can be read, with what syntax says
about its place: its first byte, the line breaks before it, and the bytes between the last line
break, or the start of the file, and the construct. -/
structure Syntax.Extent.StandsAfter (e : Extent) (content : Bytes) (before : List Char) :
    Prop where
  readable : ∃ after, decodeChars content = .ok (before ++ after)
  start : e.start = (encodeChars before).length
  row : e.row = lineBreaks (content.take e.start)
  column : e.column = (afterLast 10 (content.take e.start)).length

namespace Syntax.Extent.StandsAfter

variable {content : Bytes} {before before' : List Char} {e e' : Extent}

theorem take_start (h : e.StandsAfter content before) :
    content.take e.start = encodeChars before := by
  obtain ⟨after, hafter⟩ := h.readable
  rw [decodeChars_eq_ok_iff.1 hafter, h.start, encodeChars_append, List.take_left]

theorem position (h : e.StandsAfter content before) : positionIn content e =
    ⟨1 + before.count '\n', 1 + (afterLast '\n' before).length⟩ := by
  have hrow := h.row
  have hcolumn := h.column
  rw [h.take_start] at hrow hcolumn
  -- what is cut out are the bytes after the last line break
  have hcut : (encodeChars before).drop (e.start - e.column) =
      encodeChars (afterLast '\n' before) := by
    rw [h.start, hcolumn, ← afterLast_encodeChars]
    exact (List.suffix_iff_eq_drop.1 (afterLast_suffix 10 (encodeChars before))).symm
  unfold positionIn
  dsimp only
  rw [h.take_start, hcut, decodeLossy_encodeChars, hrow, lineBreaks_encodeChars, Nat.add_comm,
    Nat.add_comm (List.length _)]

/-- A construct that comes later is at another place. -/
theorem eq_nil_of_position {more : List Char} (h : e.StandsAfter content before)
    (h' : e'.StandsAfter content (before ++ more)) (heq : positionIn content e' = positionIn content e) :
    more = [] := by
  rw [h.position, h'.position, Position.mk.injEq, List.count_append] at heq
  have hline : '\n' ∉ more := by
    rw [← List.count_eq_zero]
    omega
  rw [afterLast_append_of_not_mem hline, List.length_append] at heq
  exact List.length_eq_zero_iff.1 (by omega)

end Syntax.Extent.StandsAfter

/-! ### Places that scans come to -/

/-- A place in a text that counts what comes before it. -/
structure Syntax.Cursor.Counts (c : Cursor) (before : List Char) : Prop where
  offset : c.offset = (encodeChars before).length
  row : c.row = before.count '\n'
  column : c.column = (encodeChars (afterLast '\n' before)).length

theorem Syntax.Cursor.Counts.past {c : Cursor} {before : List Char} (h : c.Counts before) (x : Char)
    (rest : List Char) : (c.past x rest).Counts (before ++ [x]) where
  offset := by
    show c.offset + x.utf8Size = _
    rw [encodeChars_append, List.length_append, length_encodeChars_cons, h.offset]
    rfl
  row := by
    show (if x = '\n' then c.row + 1 else c.row) = _
    rw [List.count_append, h.row]
    split
    · next hx => rw [hx]; rfl
    · next hx =>
      have hnone : '\n' ∉ [x] := by simpa using Ne.symm hx
      rw [List.count_eq_zero.2 hnone, Nat.add_zero]
  column := by
    show (if x = '\n' then 0 else c.column + x.utf8Size) = _
    split
    · next hx =>
      rw [hx, afterLast_append_cons List.not_mem_nil]
      rfl
    · next hx =>
      rw [afterLast_append_of_not_mem (by simpa using Ne.symm hx), encodeChars_append,
        List.length_append, length_encodeChars_cons, h.column]
      rfl

theorem Syntax.Cursor.Counts.passes {a b : Cursor} {before xs : List Char} (h : a.Counts before)
    (hpasses : a.Passes xs b) : b.Counts (before ++ xs) := by
  induction hpasses generalizing before with
  | here =>
    rw [List.append_nil]
    exact h
  | @past a b x xs rest _ _ ih =>
    rw [List.append_cons]
    exact ih (h.past x rest)

/-- A construct comes after what scans have gone over from the start of its file. -/
theorem Syntax.Cursor.Passes.standsAfter {content : Bytes} {text before : List Char} {a : Cursor}
    (hcontent : decodeChars content = .ok text) (h : (Cursor.start text).Passes before a)
    (b : Cursor) : (a.extentTo b).StandsAfter content before := by
  have hstart : (Cursor.start text).Counts [] := ⟨rfl, rfl, rfl⟩
  have hcounts : a.Counts before := hstart.passes h
  have htext : text = before ++ a.rest := h.rest_eq
  have htake : content.take a.offset = encodeChars before := by
    rw [decodeChars_eq_ok_iff.1 hcontent, htext, hcounts.offset, encodeChars_append, List.take_left]
  refine ⟨⟨a.rest, htext ▸ hcontent⟩, hcounts.offset, ?_, ?_⟩
  · show a.row = lineBreaks (content.take a.offset)
    rw [htake, lineBreaks_encodeChars, hcounts.row]
  · show a.column = (afterLast 10 (content.take a.offset)).length
    rw [htake, afterLast_encodeChars, hcounts.column]

/-- **The place of a construct.**  In a file that can be read, the line of a construct counts the
line breaks before it and its column the characters after the last of them, both from one on; and
constructs with different first bytes are at different places. -/
theorem positionIn_standsAfter {content : Bytes} {before : List Char} {e : Extent}
    (h : e.StandsAfter content before) :
    positionIn content e = ⟨1 + before.count '\n', 1 + (afterLast '\n' before).length⟩ ∧
      ∀ before' e', e'.StandsAfter content before' → e'.start ≠ e.start →
        positionIn content e' ≠ positionIn content e := by
  refine ⟨h.position, fun before' e' h' hne heq => hne ?_⟩
  rw [h.start, h'.start]
  -- of two starts of one text, one goes on from the other
  obtain ⟨after, hafter⟩ := h.readable
  obtain ⟨after', hafter'⟩ := h'.readable
  rw [hafter, Except.ok.injEq] at hafter'
  rcases List.append_eq_append_iff.1 hafter' with ⟨more, rfl, -⟩ | ⟨more, rfl, -⟩
  · rw [h.eq_nil_of_position h' heq, List.append_nil]
  · rw [h'.eq_nil_of_position h heq.symm, List.append_nil]

namespace MixedText

/-- A text with characters of one, two, three and four bytes on two lines. -/
def text : List Char := ['é', '\r', '\n', '€', '𝒙', ';']

/-- The last character. -/
def last : Extent := ⟨11, 12, 1, 7⟩

/-- The character before it. -/
def letter : Extent := ⟨7, 11, 1, 3⟩

theorem last_standsAfter : last.StandsAfter (encodeChars text) ['é', '\r', '\n', '€', '𝒙'] where
  readable := ⟨[';'], decodeChars_encodeChars _⟩
  start := by decide
  row := by decide
  column := by decide

theorem letter_standsAfter : letter.StandsAfter (encodeChars text) ['é', '\r', '\n', '€'] where
  readable := ⟨['𝒙', ';'], decodeChars_encodeChars _⟩
  start := by decide
  row := by decide
  column := by decide

end MixedText

open MixedText in
/-- The seven bytes before the last character of a line are two characters. -/
theorem positionIn_standsAfter_mixed :
    last.StandsAfter (encodeChars text) ['é', '\r', '\n', '€', '𝒙'] ∧
      positionIn (encodeChars text) last = ⟨2, 3⟩ ∧
      positionIn (encodeChars text) letter ≠ positionIn (encodeChars text) last := by
  obtain ⟨hposition, happart⟩ := positionIn_standsAfter last_standsAfter
  exact ⟨last_standsAfter, hposition, happart _ _ letter_standsAfter (by decide)⟩

end RouteLint
