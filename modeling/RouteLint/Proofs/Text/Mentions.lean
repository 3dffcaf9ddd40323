import Mathlib.Data.List.Basic
import RouteLint.Routes.Repair
import RouteLint.Syntax.Cursor
import RouteLint.Text.Blank

/-!
# What a text mentions

A check asks of a text whether it is empty and whether it mentions a promise, and nothing else.
Both can be said part by part: nothing is mentioned across a character that is no letter of the
word, so texts that are joined with signs between them mention what one of them does, and a text
that is put on one line mentions what it did before.

A comment that is put between two tokens changes neither of the two answers, unless it mentions a
promise itself.

## Main definitions

* `Text.Alike` — texts between which a check sees no difference.
* `Text.Commented` — a text with comments put between its tokens.

## Main results

* `Text.occurs_append_cons` — what stands on both sides of a sign is looked at by itself.
* `mentionsWrapper_intercalate`, `mentionsWrapper_collapse` — joining, and putting on one line.
* `Text.Commented.alike` — **a check does not see comments between tokens.**
-/

namespace RouteLint

namespace Text

variable {w : List Char} {c : Char}

/-! ### Signs between texts -/

theorem isPrefixOf_append_cons (hc : c ∉ w) (a b : List Char) :
    w.isPrefixOf (a ++ c :: b) = w.isPrefixOf a := by
  induction w generalizing a with
  | nil => rw [List.isPrefixOf_nil_left, List.isPrefixOf_nil_left]
  | cons x w ih =>
    obtain ⟨hx, hw⟩ : c ≠ x ∧ c ∉ w := by simpa using hc
    cases a with
    | nil => simp [List.isPrefixOf, hx.symm]
    | cons y a => rw [List.cons_append, List.isPrefixOf, List.isPrefixOf, ih hw]

/-- What stands on both sides of a sign is looked at by itself. -/
theorem occurs_append_cons (hw : w ≠ []) (hc : c ∉ w) (a b : List Char) :
    occurs w (a ++ c :: b) = (occurs w a || occurs w b) := by
  have hnil : occurs w [] = false := by simpa [occurs] using hw
  induction a with
  | nil =>
    have hstart := isPrefixOf_append_cons hc [] b
    rw [List.nil_append] at hstart
    have hempty : w.isPrefixOf [] = false := by
      cases w with
      | nil => exact absurd rfl hw
      | cons x w => rfl
    rw [List.nil_append, hnil, Bool.false_or]
    show (w.isPrefixOf (c :: b) || occurs w b) = occurs w b
    rw [hstart, hempty, Bool.false_or]
  | cons x a ih =>
    rw [List.cons_append, occurs, occurs, ih, ← List.cons_append, isPrefixOf_append_cons hc,
      Bool.or_assoc]

theorem occurs_cons (hw : w ≠ []) (hc : c ∉ w) (b : List Char) :
    occurs w (c :: b) = occurs w b := by
  have h := occurs_append_cons hw hc [] b
  have hnil : occurs w [] = false := by simpa [occurs] using hw
  rwa [List.nil_append, hnil, Bool.false_or] at h

theorem occurs_append_singleton (hw : w ≠ []) (hc : c ∉ w) (a : List Char) :
    occurs w (a ++ [c]) = occurs w a := by
  have hnil : occurs w [] = false := by simpa [occurs] using hw
  rw [occurs_append_cons hw hc, hnil, Bool.or_false]

/-- A text between two others, of which no sign belongs to the word. -/
theorem occurs_append_append (hw : w ≠ []) {sep : List Char} (hsep : sep ≠ [])
    (hsigns : ∀ c ∈ sep, c ∉ w) (a b : List Char) :
    occurs w (a ++ sep ++ b) = (occurs w a || occurs w b) := by
  -- signs at the start of a text are passed over
  have hpass : ∀ s : List Char, (∀ c ∈ s, c ∉ w) → occurs w (s ++ b) = occurs w b := by
    intro s
    induction s with
    | nil => exact fun _ => rfl
    | cons x s ih =>
      intro hs
      rw [List.cons_append, occurs_cons hw (hs x List.mem_cons_self),
        ih fun c hc => hs c (List.mem_cons_of_mem _ hc)]
  cases sep with
  | nil => exact absurd rfl hsep
  | cons x s =>
    rw [List.append_assoc, List.cons_append, occurs_append_cons hw (hsigns x List.mem_cons_self),
      hpass s fun c hc => hsigns c (List.mem_cons_of_mem _ hc)]

/-! ### Words of a text -/

/-- The first word of a text, and the words of the rest. -/
theorem words_cons {cs : List Char} (hc : isBlank c = false) :
    words (c :: cs) = (c :: cs.takeWhile fun d => !isBlank d) ::
      words (cs.dropWhile fun d => !isBlank d) := by
  induction cs generalizing c with
  | nil => exact words_singleton hc
  | cons d cs ih =>
    cases hd : isBlank d with
    | true =>
      rw [words_cons_of_blank hc hd]
      simp [hd]
    | false =>
      rw [words_cons_of_solid hc hd (ih hd)]
      simp [hd]

theorem words_eq_nil {cs : List Char} : words cs = [] ↔ ∀ c ∈ cs, isBlank c = true := by
  induction cs with
  | nil => simp
  | cons c cs ih =>
    cases hc : isBlank c with
    | true => rw [words_cons_blank hc, ih, List.forall_mem_cons, and_iff_right hc]
    | false =>
      rw [words_cons hc, List.forall_mem_cons]
      simp [hc]

/-- A word without blanks stands at the start of a text if it stands at the start of its first
word. -/
theorem isPrefixOf_takeWhile (hblank : ∀ c ∈ w, isBlank c = false) (cs : List Char) :
    w.isPrefixOf (cs.takeWhile fun d => !isBlank d) = w.isPrefixOf cs := by
  induction w generalizing cs with
  | nil => rw [List.isPrefixOf_nil_left, List.isPrefixOf_nil_left]
  | cons x w ih =>
    rw [List.forall_mem_cons] at hblank
    cases cs with
    | nil => rfl
    | cons c cs =>
      cases hc : isBlank c with
      | true =>
        have hne : x ≠ c := by
          rintro rfl
          rw [hc] at hblank
          cases hblank.1
        simp [hc, List.isPrefixOf, hne]
      | false => simp [hc, List.isPrefixOf, ih hblank.2]

/-- A word without blanks occurs in a text if it occurs in one of its words. -/
theorem occurs_eq_any_words (hw : w ≠ []) (hblank : ∀ c ∈ w, isBlank c = false)
    (cs : List Char) : occurs w cs = (words cs).any (occurs w) := by
  have hnil : occurs w [] = false := by simpa [occurs] using hw
  induction cs with
  | nil => exact hnil
  | cons c cs ih =>
    cases hc : isBlank c with
    | true =>
      have hsign : c ∉ w := by
        intro hmem
        rw [hblank c hmem] at hc
        cases hc
      rw [words_cons_blank hc, occurs_cons hw hsign, ih]
    | false =>
      -- the rest starts with what belongs to the first word
      have hrest : (words cs).any (occurs w) = (occurs w (cs.takeWhile fun d => !isBlank d) ||
          (words (cs.dropWhile fun d => !isBlank d)).any (occurs w)) := by
        cases cs with
        | nil => simp [hnil]
        | cons d cs =>
          cases hd : isBlank d with
          | true => simp [hd, hnil]
          | false => simp [words_cons hd, hd]
      have hstart := isPrefixOf_takeWhile hblank (c :: cs)
      rw [List.takeWhile_cons, hc, Bool.not_false, if_pos rfl] at hstart
      rw [words_cons hc, List.any_cons, occurs, occurs, ih, hrest, hstart, Bool.or_assoc]

/-- A word without blanks occurs in a text on one line if it does in the text as it is. -/
theorem occurs_collapseChars (hw : w ≠ []) (hblank : ∀ c ∈ w, isBlank c = false)
    (cs : List Char) : occurs w (collapseChars cs) = occurs w cs := by
  have hspace : ' ' ∉ w := by
    intro hmem
    have hno := hblank _ hmem
    revert hno
    decide
  have hjoin : ∀ ws : List (List Char), occurs w (List.intercalate [' '] ws) =
      ws.any (occurs w) := by
    intro ws
    induction ws with
    | nil => simpa [occurs] using hw
    | cons a ws ih =>
      cases ws with
      | nil => simp
      | cons b ws =>
        rw [List.intercalate_cons_cons, List.append_assoc, List.singleton_append,
          occurs_append_cons hw hspace, ih]
        rfl
  rw [collapseChars, hjoin, ← occurs_eq_any_words hw hblank]

/-- A text on one line is empty if the text has nothing but blanks. -/
theorem isEmpty_collapse (s : String) : (collapse s).isEmpty = s.toList.all isBlank := by
  rw [Bool.eq_iff_iff, List.all_eq_true, String.isEmpty_iff, collapse, ← String.toList_inj,
    String.toList_ofList]
  constructor
  · intro h c hc
    by_contra hblank
    -- a character that is no blank still occurs on the line
    have hline := occurs_collapseChars (w := [c]) (by simp) (by simpa using hblank) s.toList
    have hoccurs : occurs [c] s.toList = true := by
      obtain ⟨before, after, hsplit⟩ := List.append_of_mem hc
      rw [ occurs_iff_infix, hsplit]
      exact ⟨before, after, by simp⟩
    rw [h, hoccurs] at hline
    cases hline
  · intro h
    rw [collapseChars, words_eq_nil.2 h]
    rfl

end Text

/-! ### Mentioning a promise -/

theorem wrapper_ne_nil : wrapper.toList ≠ [] := by decide

/-- Texts that no letter of the word stands in. -/
def Breaks (sep : String) : Prop := sep.toList ≠ [] ∧ ∀ c ∈ sep.toList, c ∉ wrapper.toList

instance (sep : String) : Decidable (Breaks sep) :=
  decidable_of_iff (sep.toList ≠ [] ∧ (sep.toList.all fun c => !wrapper.toList.contains c) = true)
    (by simp [Breaks])

theorem mentionsWrapper_join {sep : String} (h : Breaks sep) (a b : String) :
    mentionsWrapper (a ++ sep ++ b) = (mentionsWrapper a || mentionsWrapper b) := by
  unfold mentionsWrapper Text.mentions
  rw [String.toList_append, String.toList_append,
    Text.occurs_append_append wrapper_ne_nil h.1 h.2]

theorem mentionsWrapper_intercalate {sep : String} (h : Breaks sep) (texts : List String) :
    mentionsWrapper (sep.intercalate texts) = texts.any mentionsWrapper := by
  induction texts with
  | nil => rfl
  | cons a texts ih =>
    cases texts with
    | nil => simp [String.intercalate_singleton]
    | cons b texts =>
      rw [String.intercalate_cons_cons, mentionsWrapper_join h, ih]
      rfl

theorem mentionsWrapper_collapse (s : String) :
    mentionsWrapper (Text.collapse s) = mentionsWrapper s := by
  unfold mentionsWrapper Text.mentions Text.collapse
  rw [String.toList_ofList]
  have hblank : (wrapper.toList.all fun c => !Text.isBlank c) = true := by decide
  exact Text.occurs_collapseChars wrapper_ne_nil (by simpa using hblank) s.toList

/-! ### Texts that are seen alike -/

/-- Texts between which a check sees no difference. -/
structure Text.Alike (a b : String) : Prop where
  mentions : mentionsWrapper a = mentionsWrapper b
  isEmpty : a.isEmpty = b.isEmpty

namespace Text.Alike

theorem refl (a : String) : Alike a a := ⟨rfl, rfl⟩

theorem isEmpty_join {sep : String} (h : Breaks sep) (a b : String) :
    (a ++ sep ++ b).isEmpty = false := by
  rw [Bool.eq_false_iff, ne_eq, String.isEmpty_iff, ← String.toList_inj, String.toList_append,
    String.toList_append]
  intro hnil
  have hsep : sep.toList = [] := by
    have happend := List.append_eq_nil_iff.1 hnil
    exact (List.append_eq_nil_iff.1 happend.1).2
  exact h.1 hsep

/-- Texts with a sign between them. -/
theorem join {sep a a' b b' : String} (h : Breaks sep)
    (ha : mentionsWrapper a = mentionsWrapper a') (hb : mentionsWrapper b = mentionsWrapper b') :
    Alike (a ++ sep ++ b) (a' ++ sep ++ b') where
  mentions := by rw [mentionsWrapper_join h, mentionsWrapper_join h, ha, hb]
  isEmpty := by rw [isEmpty_join h, isEmpty_join h]

theorem any_mentions {texts texts' : List String} (h : List.Forall₂ Alike texts texts') :
    texts.any mentionsWrapper = texts'.any mentionsWrapper := by
  induction h with
  | nil => rfl
  | cons hab _ ih => rw [List.any_cons, List.any_cons, hab.mentions, ih]

/-- Several texts with a sign between each two. -/
theorem intercalate {sep : String} (h : Breaks sep) {texts texts' : List String}
    (htexts : List.Forall₂ Alike texts texts') :
    Alike (sep.intercalate texts) (sep.intercalate texts') where
  mentions := by
    rw [mentionsWrapper_intercalate h, mentionsWrapper_intercalate h, any_mentions htexts]
  isEmpty := by
    cases htexts with
    | nil => rfl
    | cons hab hrest =>
      cases hrest with
      | nil => simpa [String.intercalate_singleton] using hab.isEmpty
      | cons =>
        rw [String.intercalate_cons_cons, String.intercalate_cons_cons, isEmpty_join h,
          isEmpty_join h]

end Text.Alike

/-! ### Comments between tokens -/

namespace Text

open Syntax

/-- A comment before what comes after it: in marks of its own, up to a line end of its own, or up to
the line end after it. -/
inductive IsComment : List Char → List Char → Prop
  | block (body after : List Char) : IsComment ('/' :: '*' :: body ++ ['*', '/']) after
  | line (body : List Char) {c : Char} (hc : isLineEnd c = true) (after : List Char) :
    IsComment ('/' :: '/' :: body ++ [c]) after
  | rest (body : List Char) {c : Char} (hc : isLineEnd c = true) (after : List Char) :
    IsComment ('/' :: '/' :: body) (c :: after)

/-- Two texts between which one token ends and another starts: both have something in them, and no
word goes on from one to the other. -/
structure Between (a b : List Char) : Prop where
  left : ∃ c ∈ a, isBlank c = false
  right : ∃ c ∈ b, isBlank c = false
  apart : ∀ c d, a.getLast? = some c → b.head? = some d →
    isWordChar c = false ∨ isWordChar d = false

/-- A text with comments put between its tokens, none of which mentions a promise. -/
inductive Commented (t : List Char) : List Char → Prop
  | refl : Commented t t
  | insert {a b c : List Char} (h : Commented t (a ++ b)) (hbetween : Between a b)
    (hcomment : IsComment c b) (hc : occurs wrapper.toList c = false) : Commented t (a ++ c ++ b)

theorem Commented.of_eq {t t' : List Char} (h : t = t') : Commented t t' := h ▸ .refl

/-- No sign belongs to the word. -/
theorem not_mem_wrapper {c : Char} (h : isWordChar c = false) : c ∉ wrapper.toList := by
  have hletters : wrapper.toList.all isWordChar = true := by decide
  rw [List.all_eq_true] at hletters
  intro hmem
  rw [hletters c hmem] at h
  cases h

/-- Where no word goes on, nothing is mentioned across. -/
theorem Between.occurs_append {a b : List Char} (h : Between a b) :
    occurs wrapper.toList (a ++ b) =
      (occurs wrapper.toList a || occurs wrapper.toList b) := by
  obtain ⟨⟨x, hx, -⟩, ⟨y, hy, -⟩, hapart⟩ := h
  cases b with
  | nil => exact absurd hy List.not_mem_nil
  | cons d b =>
    rcases List.eq_nil_or_concat a with rfl | ⟨a, c, rfl⟩
    · exact absurd hx List.not_mem_nil
    · rw [List.concat_eq_append] at hapart ⊢
      rcases hapart c d (by simp) rfl with hc | hd
      · rw [List.append_assoc, List.singleton_append,
          Text.occurs_append_cons wrapper_ne_nil (not_mem_wrapper hc),
          Text.occurs_append_singleton wrapper_ne_nil (not_mem_wrapper hc)]
      · rw [Text.occurs_append_cons wrapper_ne_nil (not_mem_wrapper hd),
          Text.occurs_cons wrapper_ne_nil (not_mem_wrapper hd)]

/-- A comment and what comes after it are looked at by themselves. -/
theorem IsComment.occurs_append {c b : List Char} (h : IsComment c b) (a : List Char) :
    occurs wrapper.toList (a ++ c ++ b) = (occurs wrapper.toList a ||
      (occurs wrapper.toList c || occurs wrapper.toList b)) := by
  have hslash : '/' ∉ wrapper.toList := by decide
  have hends : (wrapper.toList.all fun c => !isLineEnd c) = true := by decide
  rw [List.all_eq_true] at hends
  have hend : ∀ {c}, isLineEnd c = true → c ∉ wrapper.toList := by
    intro c hc hmem
    have hno := hends c hmem
    rw [hc] at hno
    cases hno
  -- a sign at the end of the comment, or after it
  have hlast : ∀ (body : List Char) {x : Char}, x ∉ wrapper.toList →
      occurs wrapper.toList (a ++ ('/' :: body ++ [x]) ++ b) = (occurs wrapper.toList a ||
        (occurs wrapper.toList ('/' :: body ++ [x]) || occurs wrapper.toList b)) := by
    intro body x hx
    rw [List.append_assoc, List.cons_append, List.cons_append,
      Text.occurs_append_cons wrapper_ne_nil hslash, List.append_assoc, List.singleton_append,
      Text.occurs_append_cons wrapper_ne_nil hx, ← List.cons_append,
      Text.occurs_append_singleton wrapper_ne_nil hx, Text.occurs_cons wrapper_ne_nil hslash]
  cases h with
  | block body =>
    have h := hlast ('*' :: body ++ ['*']) hslash
    simpa using h
  | line body hc => exact hlast ('/' :: body) (hend hc)
  | rest body hc =>
    rw [List.append_assoc, List.cons_append, Text.occurs_append_cons wrapper_ne_nil hslash,
      Text.occurs_append_cons wrapper_ne_nil (hend hc), Text.occurs_cons wrapper_ne_nil (hend hc),
      ← Text.occurs_cons wrapper_ne_nil hslash ('/' :: body)]

/-- Comments between tokens add no promise. -/
theorem Commented.occurs_eq {t t' : List Char} (h : Commented t t') :
    occurs wrapper.toList t = occurs wrapper.toList t' := by
  induction h with
  | refl => rfl
  | insert _ hbetween hcomment hc ih =>
    rw [ih, hbetween.occurs_append, hcomment.occurs_append, hc, Bool.false_or]

/-- Comments between tokens stand where something else stands already. -/
theorem Commented.all_blank {t t' : List Char} (h : Commented t t') :
    t.all isBlank = t'.all isBlank := by
  induction h with
  | refl => rfl
  | insert _ hbetween _ _ ih =>
    obtain ⟨x, hx, hblank⟩ := hbetween.left
    rw [ih, List.all_append, List.all_append, List.all_append]
    rw [List.all_eq_false.2 ⟨x, hx, Bool.eq_false_iff.1 hblank⟩, Bool.false_and, Bool.false_and,
      Bool.false_and]

/-- **A check does not see comments between tokens**, neither in a text as it is written nor on one
line. -/
theorem Commented.alike {s s' : String} (h : Commented s.toList s'.toList) :
    mentionsWrapper s = mentionsWrapper s' ∧ Alike (collapse s) (collapse s') := by
  have hmentions : mentionsWrapper s = mentionsWrapper s' := h.occurs_eq
  refine ⟨hmentions, ?_, ?_⟩
  · rw [mentionsWrapper_collapse, mentionsWrapper_collapse, hmentions]
  · rw [isEmpty_collapse, isEmpty_collapse, h.all_blank]

end Text

end RouteLint
