import Mathlib.Data.List.Induction
import Mathlib.Data.List.Perm.Basic
import RouteLint.Proofs.Text.Utf8
import RouteLint.Routes.Repair

/-!
# Repairs only insert

A repair replaces the bytes of a type by the same bytes with a text before and after them.  Several
such edits are applied from the last to the first, each by cutting and joining the bytes that the
edits before it have left.  What comes out is said here without any cutting: walking once through
the old bytes, at every offset the texts that belong there are put in, and nothing else happens.

## Main definitions

* `Edit.insertAround` — bytes with texts inserted around spans.
* `Edit.shift` — where a byte has moved to.
* `Edit.Wraps` — edits that put back what they replace, with a text around it.

## Main results

* `Edit.applyAll_eq_insertAround` — **applying repairs that stand apart only inserts.**
* `Edit.exists_encodeChars_applyAll` — the result is a text if the content was one.
* `Edit.take_insertAround`, `Edit.getElem?_insertAround` — how old bytes move.
* `Edit.lineBreaks_insertAround` — no line break comes or goes.
-/

namespace RouteLint

open Syntax

/-- How many line breaks there are in some bytes. -/
def lineBreaks (bytes : Bytes) : Nat := bytes.count 10

theorem lineBreaks_append (xs ys : Bytes) :
    lineBreaks (xs ++ ys) = lineBreaks xs + lineBreaks ys := List.count_append

namespace Edit

/-- What is put before a type. -/
def opening : Bytes := Utf8.encode (wrapper ++ "<")

/-- What is put after it. -/
def closing : Bytes := Utf8.encode ">"

/-- What an edit inserts before the byte at an offset. -/
def insertedAt (e : Edit) (k : Nat) : Bytes :=
  (if e.start = k then opening else []) ++ (if e.stop = k then closing else [])

/-- What edits insert before the byte at an offset. -/
def gap (es : List Edit) (k : Nat) : Bytes := es.flatMap fun e => e.insertedAt k

/-- Bytes from an offset on, each with what is inserted before it. -/
def weave (es : List Edit) : Nat → Bytes → Bytes
  | _, [] => []
  | k, b :: bs => gap es k ++ b :: weave es (k + 1) bs

/-- Bytes with the texts inserted that belong around the spans of edits. -/
def insertAround (es : List Edit) (content : Bytes) : Bytes :=
  weave es 0 content ++ gap es content.length

/-- Where the byte at an offset has moved to. -/
def shift (es : List Edit) (k : Nat) : Nat :=
  k + 8 * es.countP (fun e => e.start ≤ k) + es.countP (fun e => e.stop ≤ k)

/-- Edits with at least one byte between them. -/
def Apart (a b : Edit) : Prop := a.stop < b.start ∨ b.stop < a.start

/-- An edit of some text that puts it back with a text around it. -/
def Wraps (content : Bytes) (e : Edit) : Prop :=
  ∃ before text after : List Char, content = Utf8.encodeChars (before ++ text ++ after) ∧
    e.start = (Utf8.encodeChars before).length ∧
    e.stop = (Utf8.encodeChars (before ++ text)).length ∧
    Utf8.encode e.replacement = opening ++ Utf8.encodeChars text ++ closing

/-! ### Weaving -/

theorem weave_append (es : List Edit) (k : Nat) (xs ys : Bytes) :
    weave es k (xs ++ ys) = weave es k xs ++ weave es (k + xs.length) ys := by
  induction xs generalizing k with
  | nil => rfl
  | cons x xs ih =>
    rw [List.cons_append, weave, weave, ih, List.length_cons, List.append_assoc, List.cons_append,
      Nat.add_right_comm, ← Nat.add_assoc]

/-- Weaving looks only at what is inserted on its way. -/
theorem weave_congr {es fs : List Edit} {k : Nat} {xs : Bytes}
    (h : ∀ j, k ≤ j → j < k + xs.length → gap es j = gap fs j) : weave es k xs = weave fs k xs := by
  induction xs generalizing k with
  | nil => rfl
  | cons x xs ih =>
    rw [List.length_cons] at h
    rw [weave, weave, h k (Nat.le_refl k) (by omega),
      ih fun j hj hlt => h j (by omega) (by omega)]

@[simp] theorem gap_nil (k : Nat) : gap [] k = [] := rfl

theorem gap_cons (e : Edit) (es : List Edit) (k : Nat) :
    gap (e :: es) k = e.insertedAt k ++ gap es k := rfl

theorem weave_nil (k : Nat) (xs : Bytes) : weave [] k xs = xs := by
  induction xs generalizing k with
  | nil => rfl
  | cons x xs ih => rw [weave, ih, gap_nil, List.nil_append]

/-- Where nothing is inserted nothing changes. -/
theorem weave_eq_self {es : List Edit} {k : Nat} {xs : Bytes}
    (h : ∀ j, k ≤ j → j < k + xs.length → gap es j = []) : weave es k xs = xs := by
  have hnone : ∀ j, k ≤ j → j < k + xs.length → gap es j = gap [] j := h
  rw [weave_congr hnone, weave_nil]

/-- Bytes from an offset on after which nothing is inserted. -/
theorem weave_last {es : List Edit} {k : Nat} (xs : Bytes) (h : ∀ j, k < j → gap es j = []) :
    weave es k xs ++ gap es (k + xs.length) = gap es k ++ xs := by
  cases xs with
  | nil => rw [weave, List.nil_append, List.length_nil, Nat.add_zero, List.append_nil]
  | cons x xs =>
    have hlast : gap es (k + (xs.length + 1)) = [] := h _ (by omega)
    rw [weave, weave_eq_self fun j hj _ => h j (by omega), List.length_cons, hlast,
      List.append_nil]

theorem insertedAt_of_ne {e : Edit} {k : Nat} (hstart : e.start ≠ k) (hstop : e.stop ≠ k) :
    e.insertedAt k = [] := by
  rw [insertedAt, if_neg hstart, if_neg hstop, List.append_nil]

theorem gap_eq_nil {es : List Edit} {k : Nat} (h : ∀ e ∈ es, e.start ≠ k ∧ e.stop ≠ k) :
    gap es k = [] :=
  List.flatMap_eq_nil_iff.2 fun e he => insertedAt_of_ne (h e he).1 (h e he).2

@[simp] theorem insertAround_nil (xs : Bytes) : insertAround [] xs = xs := by
  rw [insertAround, weave_nil, gap_nil, List.append_nil]

/-- Inserting in two pieces of some bytes. -/
theorem insertAround_append_cons (es : List Edit) (xs ys : Bytes) (y : UInt8) :
    insertAround es (xs ++ y :: ys) = insertAround es xs ++ y ::
      (weave es (xs.length + 1) ys ++ gap es (xs.length + 1 + ys.length)) := by
  have hlen : (xs ++ y :: ys).length = xs.length + 1 + ys.length := by
    rw [List.length_append, List.length_cons]
    omega
  rw [insertAround, insertAround, weave_append, weave, hlen, Nat.zero_add, List.append_assoc,
    List.append_assoc, List.append_assoc, List.cons_append]

/-! ### How bytes move -/

theorem length_opening : opening.length = 8 := by decide

theorem length_closing : closing.length = 1 := by decide

theorem shift_cons (e : Edit) (es : List Edit) (k : Nat) :
    shift (e :: es) k =
      shift es k + 8 * (if e.start ≤ k then 1 else 0) + (if e.stop ≤ k then 1 else 0) := by
  unfold shift
  rw [List.countP_cons, List.countP_cons]
  simp only [decide_eq_true_eq]
  omega

theorem length_insertedAt (e : Edit) (k : Nat) :
    (e.insertedAt k).length =
      8 * (if e.start = k then 1 else 0) + (if e.stop = k then 1 else 0) := by
  unfold insertedAt
  rw [List.length_append]
  congr 1
  · split
    · exact length_opening
    · rfl
  · split
    · exact length_closing
    · rfl

theorem shift_zero (es : List Edit) : shift es 0 = (gap es 0).length := by
  induction es with
  | nil => rfl
  | cons e es ih =>
    rw [shift_cons, ih, gap_cons, List.length_append, length_insertedAt]
    simp only [Nat.le_zero]
    omega

/-- From one byte to the next. -/
theorem shift_succ (es : List Edit) (k : Nat) :
    shift es (k + 1) = shift es k + 1 + (gap es (k + 1)).length := by
  induction es with
  | nil => rfl
  | cons e es ih =>
    rw [shift_cons, shift_cons, ih, gap_cons, List.length_append, length_insertedAt]
    split_ifs <;> omega

theorem length_insertAround (es : List Edit) (xs : Bytes) :
    (insertAround es xs).length = shift es xs.length := by
  induction xs using List.reverseRecOn with
  | nil => exact (shift_zero es).symm
  | append_singleton xs x ih =>
    rw [insertAround_append_cons, List.length_append, ih, List.length_append, List.length_singleton,
      shift_succ]
    simp only [weave, List.nil_append, List.length_cons, List.length_nil, Nat.add_zero]
    omega

/-- What stands before a byte after inserting is what stood before it, with its insertions. -/
theorem take_insertAround (es : List Edit) {content : Bytes} {k : Nat} (h : k ≤ content.length) :
    (insertAround es content).take (shift es k) = insertAround es (content.take k) := by
  have hlen : (insertAround es (content.take k)).length = shift es k := by
    rw [length_insertAround, List.length_take, Nat.min_eq_left h]
  rw [← hlen]
  cases hdrop : content.drop k with
  | nil =>
    have htake : content.take k = content := by
      exact List.take_of_length_le (List.drop_eq_nil_iff.1 hdrop)
    rw [htake, List.take_length]
  | cons y ys =>
    have hcontent : content = content.take k ++ y :: ys := by rw [← hdrop, List.take_append_drop]
    conv_lhs => rw [hcontent]
    rw [insertAround_append_cons, List.take_left']
    rw [← hcontent]

/-- The byte at an offset is found where it has moved to. -/
theorem getElem?_insertAround (es : List Edit) {content : Bytes} {k : Nat}
    (h : k ≤ content.length) : (insertAround es content)[shift es k]? = content[k]? := by
  have hlen : (insertAround es (content.take k)).length = shift es k := by
    rw [length_insertAround, List.length_take, Nat.min_eq_left h]
  rcases Nat.lt_or_eq_of_le h with hlt | rfl
  · have hcontent : content = content.take k ++ content[k] :: content.drop (k + 1) := by
      rw [List.getElem_cons_drop, List.take_append_drop]
    conv_lhs => rw [hcontent]
    rw [insertAround_append_cons, List.getElem?_append_right (Nat.le_of_eq hlen), hlen,
      Nat.sub_self, List.getElem?_cons_zero, List.getElem?_eq_getElem hlt]
  · rw [List.getElem?_eq_none (Nat.le_refl _),
      List.getElem?_eq_none (Nat.le_of_eq (length_insertAround es content))]

/-! ### Line breaks -/

theorem lineBreaks_insertedAt (e : Edit) (k : Nat) : lineBreaks (e.insertedAt k) = 0 := by
  unfold insertedAt
  rw [lineBreaks_append]
  have hopening : lineBreaks opening = 0 := by decide
  have hclosing : lineBreaks closing = 0 := by decide
  have hnone : lineBreaks [] = 0 := rfl
  split_ifs <;> simp only [hopening, hclosing, hnone]

theorem lineBreaks_gap (es : List Edit) (k : Nat) : lineBreaks (gap es k) = 0 := by
  induction es with
  | nil => rfl
  | cons e es ih => rw [gap_cons, lineBreaks_append, lineBreaks_insertedAt, ih]

theorem lineBreaks_weave (es : List Edit) (k : Nat) (xs : Bytes) :
    lineBreaks (weave es k xs) = lineBreaks xs := by
  induction xs generalizing k with
  | nil => rfl
  | cons x xs ih =>
    rw [weave, lineBreaks_append, lineBreaks_gap, Nat.zero_add]
    unfold lineBreaks at ih ⊢
    rw [List.count_cons, List.count_cons, ih]

/-- No line break comes or goes. -/
theorem lineBreaks_insertAround (es : List Edit) (xs : Bytes) :
    lineBreaks (insertAround es xs) = lineBreaks xs := by
  rw [insertAround, lineBreaks_append, lineBreaks_weave, lineBreaks_gap, Nat.add_zero]

/-! ### Applying edits -/

@[simp] theorem applyAll_nil (content : Bytes) : applyAll [] content = content := by
  unfold applyAll fromLast
  rw [List.mergeSort_nil, List.foldl_nil]

/-- Lists of which at most one is not empty can be joined in any order. -/
theorem flatMap_eq_of_perm {α β : Type} {f : α → List β} {l l' : List α} (h : l.Perm l')
    (hf : l.Pairwise fun a b => f a = [] ∨ f b = []) : l.flatMap f = l'.flatMap f := by
  induction h with
  | nil => rfl
  | cons a _ ih => rw [List.flatMap_cons, List.flatMap_cons, ih (List.pairwise_cons.1 hf).2]
  | swap a b l =>
    rcases (List.pairwise_cons.1 hf).1 a List.mem_cons_self with hempty | hempty <;>
      simp only [List.flatMap_cons, hempty, List.nil_append]
  | trans h _ ih ih' =>
    exact (ih hf).trans (ih' ((h.pairwise_iff fun hab => hab.symm).1 hf))

theorem Wraps.start_le_stop {content : Bytes} {e : Edit} (h : e.Wraps content) :
    e.start ≤ e.stop := by
  obtain ⟨before, text, after, -, hstart, hstop, -⟩ := h
  rw [hstart, hstop, Utf8.encodeChars_append, List.length_append]
  exact Nat.le_add_right _ _

theorem Apart.symm {a b : Edit} (h : a.Apart b) : b.Apart a := Or.symm h

theorem insertedAt_eq_nil_of_apart {a b : Edit} {content : Bytes} (ha : a.Wraps content)
    (hb : b.Wraps content) (h : a.Apart b) (k : Nat) :
    a.insertedAt k = [] ∨ b.insertedAt k = [] := by
  have hastart := ha.start_le_stop
  have hbstart := hb.start_le_stop
  by_cases hk : a.start = k ∨ a.stop = k
  · right
    unfold Apart at h
    exact insertedAt_of_ne (by omega) (by omega)
  · left
    rw [not_or] at hk
    exact insertedAt_of_ne hk.1 hk.2

/-- The order of edits that stand apart does not matter. -/
theorem insertAround_perm {es fs : List Edit} {content : Bytes} (h : es.Perm fs)
    (hwraps : ∀ e ∈ es, e.Wraps content) (hapart : es.Pairwise Apart) :
    insertAround es content = insertAround fs content := by
  have hgap : ∀ k, gap es k = gap fs k := by
    intro k
    refine flatMap_eq_of_perm h (hapart.imp_of_mem fun ha hb hab => ?_)
    exact insertedAt_eq_nil_of_apart (hwraps _ ha) (hwraps _ hb) hab k
  rw [insertAround, insertAround, weave_congr fun j _ _ => hgap j, hgap]

theorem Wraps.applyTo_eq {content : Bytes} {e : Edit} {before text after : List Char}
    (hcontent : content = Utf8.encodeChars (before ++ text ++ after))
    (hstart : e.start = (Utf8.encodeChars before).length)
    (hstop : e.stop = (Utf8.encodeChars (before ++ text)).length) :
    e.applyTo content =
      Utf8.encodeChars before ++ Utf8.encode e.replacement ++ Utf8.encodeChars after := by
  unfold applyTo
  rw [hcontent, hstop, Utf8.encodeChars_append, List.drop_left, hstart, Utf8.encodeChars_append,
    List.append_assoc (Utf8.encodeChars before) (Utf8.encodeChars text), List.take_left]

/-- An edit that stands after others leaves what they replace. -/
theorem Wraps.applyTo {content : Bytes} {e f : Edit} (hf : f.Wraps content) (he : e.Wraps content)
    (h : f.stop ≤ e.start) : f.Wraps (e.applyTo content) := by
  obtain ⟨before, text, after, hcontent, hstart, hstop, hreplacement⟩ := hf
  obtain ⟨before', text', after', hcontent', hstart', hstop', -⟩ := he
  rw [applyTo_eq hcontent' hstart' hstop']
  -- the text before the later edit goes on from the earlier one
  obtain ⟨between, rfl⟩ : ∃ between, before' = (before ++ text) ++ between := by
    rw [hstop, hstart'] at h
    rw [List.append_assoc] at hcontent'
    exact Utf8.prefix_of_encodeChars (hcontent.symm.trans hcontent') h
  refine ⟨before, text, between ++ e.replacement.toList ++ after', ?_, hstart, hstop, hreplacement⟩
  simp only [Utf8.encodeChars_append, Utf8.encode, List.append_assoc]

/-- What one edit weaves into its own span. -/
theorem weave_span {e : Edit} {es : List Edit} {k : Nat} {ys : Bytes} (hstart : e.start = k)
    (hstop : e.stop = k + ys.length) (h : ∀ j, k ≤ j → gap es j = e.insertedAt j) :
    weave es k ys ++ gap es e.stop = opening ++ ys ++ closing := by
  rw [h _ (by omega)]
  cases ys with
  | nil =>
    have hsame : e.start = e.stop := by rw [hstart, hstop, List.length_nil, Nat.add_zero]
    rw [weave, insertedAt, if_pos hsame, if_pos rfl, List.nil_append, List.append_nil]
  | cons y ys =>
    rw [List.length_cons] at hstop
    have hrest : weave es (k + 1) ys = ys := by
      refine weave_eq_self fun j hj hlt => ?_
      rw [h j (by omega), insertedAt_of_ne (by omega) (by omega)]
    have hfirst : e.insertedAt k = opening := by
      rw [insertedAt, if_pos hstart, if_neg (by omega), List.append_nil]
    have hlast : e.insertedAt e.stop = closing := by
      rw [insertedAt, if_neg (by omega), if_pos rfl, List.nil_append]
    rw [weave, h k (Nat.le_refl k), hfirst, hrest, hlast]

/-- One more edit that stands after all others. -/
theorem insertAround_cons {content : Bytes} {e : Edit} {es : List Edit} (he : e.Wraps content)
    (hes : ∀ f ∈ es, f.start ≤ f.stop ∧ f.stop < e.start) :
    insertAround es (e.applyTo content) = insertAround (e :: es) content := by
  obtain ⟨before, text, after, hcontent, hstart, hstop, hreplacement⟩ := he
  rw [Wraps.applyTo_eq hcontent hstart hstop, hreplacement, hcontent]
  simp only [Utf8.encodeChars_append] at hstop ⊢
  generalize Utf8.encodeChars before = xs at *
  generalize Utf8.encodeChars text = ys at *
  generalize Utf8.encodeChars after = zs at *
  rw [List.length_append] at hstop
  -- the others insert nothing from the new edit on, and the new edit nothing before it
  have hafter : ∀ j, xs.length ≤ j → gap es j = [] := by
    intro j hj
    refine gap_eq_nil fun f hf => ?_
    have := hes f hf
    omega
  have hgap : ∀ j, xs.length ≤ j → gap (e :: es) j = e.insertedAt j := by
    intro j hj
    rw [gap_cons, hafter j hj, List.append_nil]
  have hbefore : weave (e :: es) 0 xs = weave es 0 xs := by
    refine weave_congr fun j _ hj => ?_
    rw [gap_cons, insertedAt_of_ne (by omega) (by omega), List.nil_append]
  have hlast : ∀ j, e.stop < j → gap (e :: es) j = [] := by
    intro j hj
    rw [hgap j (by omega), insertedAt_of_ne (by omega) (by omega)]
  have hend : weave (e :: es) e.stop zs ++ gap (e :: es) (e.stop + zs.length) =
      gap (e :: es) e.stop ++ zs := weave_last zs hlast
  calc insertAround es (xs ++ (opening ++ ys ++ closing) ++ zs)
      = weave es 0 xs ++ ((opening ++ ys ++ closing) ++ zs) := by
        rw [insertAround, hafter _ (by simp only [List.length_append]; omega), List.append_nil,
          List.append_assoc xs, weave_append, Nat.zero_add,
          weave_eq_self fun j hj _ => hafter j hj]
    _ = weave es 0 xs ++ ((weave (e :: es) xs.length ys ++ gap (e :: es) e.stop) ++ zs) := by
        rw [weave_span hstart hstop hgap]
    _ = insertAround (e :: es) (xs ++ ys ++ zs) := by
        have hspan : (xs ++ ys).length = e.stop := by rw [List.length_append, hstop]
        have hall : (xs ++ ys ++ zs).length = e.stop + zs.length := by
          rw [List.length_append, hspan]
        rw [insertAround, weave_append, weave_append, hbefore, Nat.zero_add, Nat.zero_add, hall,
          hspan, List.append_assoc (_ ++ _), hend, List.append_assoc, List.append_assoc]

/-- Edits in order from the last to the first, none touching the next. -/
def Descending (es : List Edit) : Prop := es.Pairwise fun e f => f.stop < e.start

theorem wraps_of_descending {content : Bytes} {e : Edit} {es : List Edit} (h : Descending (e :: es))
    (hwraps : ∀ f ∈ e :: es, f.Wraps content) : ∀ f ∈ es, f.Wraps (e.applyTo content) := by
  intro f hf
  have hlt := (List.pairwise_cons.1 h).1 f hf
  exact (hwraps f (List.mem_cons_of_mem _ hf)).applyTo (hwraps e List.mem_cons_self)
    (Nat.le_of_lt hlt)

theorem foldl_applyTo_eq_insertAround {es : List Edit} {content : Bytes} (h : Descending es)
    (hwraps : ∀ e ∈ es, e.Wraps content) :
    es.foldl (fun c e => e.applyTo c) content = insertAround es content := by
  induction es generalizing content with
  | nil => rw [List.foldl_nil, insertAround_nil]
  | cons e es ih =>
    have hrest := wraps_of_descending h hwraps
    rw [List.foldl_cons, ih (List.pairwise_cons.1 h).2 hrest]
    refine insertAround_cons (hwraps e List.mem_cons_self) fun f hf => ?_
    exact ⟨(hrest f hf).start_le_stop, (List.pairwise_cons.1 h).1 f hf⟩

theorem exists_encodeChars_foldl {es : List Edit} {content : Bytes} (h : Descending es)
    (hwraps : ∀ e ∈ es, e.Wraps content) (hcontent : ∃ cs, content = Utf8.encodeChars cs) :
    ∃ cs, es.foldl (fun c e => e.applyTo c) content = Utf8.encodeChars cs := by
  induction es generalizing content with
  | nil => exact hcontent
  | cons e es ih =>
    rw [List.foldl_cons]
    refine ih (List.pairwise_cons.1 h).2 (wraps_of_descending h hwraps) ?_
    obtain ⟨before, text, after, hbytes, hstart, hstop, -⟩ := hwraps e List.mem_cons_self
    refine ⟨before ++ e.replacement.toList ++ after, ?_⟩
    rw [Wraps.applyTo_eq hbytes hstart hstop, Utf8.encodeChars_append, Utf8.encodeChars_append]
    rfl

/-- Sorting edits puts them in order from the last start to the first, and keeps what holds of any
two of them. -/
theorem pairwise_fromLast {R : Edit → Edit → Prop} (hsymm : ∀ {a b}, R a b → R b a)
    {es : List Edit} (h : es.Pairwise R) :
    (fromLast es).Pairwise fun a b => b.start ≤ a.start ∧ R a b := by
  have hperm : (fromLast es).Perm es := List.mergeSort_perm _ _
  have hsorted : (fromLast es).Pairwise fun a b => decide (b.start ≤ a.start) = true := by
    refine List.pairwise_mergeSort (fun a b c hab hbc => ?_) (fun a b => ?_) es
    · simp only [decide_eq_true_eq] at hab hbc ⊢
      omega
    · simp only [Bool.or_eq_true, decide_eq_true_eq]
      omega
  have hrelated : (fromLast es).Pairwise R := (hperm.pairwise_iff hsymm).2 h
  exact (hsorted.and hrelated).imp fun hab => ⟨of_decide_eq_true hab.1, hab.2⟩

/-- Sorting edits that stand apart puts them in order from the last to the first. -/
theorem descending_fromLast {es : List Edit} {content : Bytes} (hwraps : ∀ e ∈ es, e.Wraps content)
    (hapart : es.Pairwise Apart) : Descending (fromLast es) := by
  refine (pairwise_fromLast Apart.symm hapart).imp_of_mem fun {a b} ha hb hab => ?_
  obtain ⟨hle, hab⟩ := hab
  have hbounds := (hwraps a ((List.mergeSort_perm es _).mem_iff.1 ha)).start_le_stop
  rcases hab with hlt | hlt
  · omega
  · exact hlt

/-- **Applying repairs that stand apart only inserts.** -/
theorem applyAll_eq_insertAround {es : List Edit} {content : Bytes}
    (hwraps : ∀ e ∈ es, e.Wraps content) (hapart : es.Pairwise Apart) :
    applyAll es content = insertAround es content := by
  have hperm : (fromLast es).Perm es := List.mergeSort_perm _ _
  unfold applyAll
  rw [foldl_applyTo_eq_insertAround (descending_fromLast hwraps hapart)
    fun e he => hwraps e (hperm.mem_iff.1 he)]
  exact (insertAround_perm hperm.symm hwraps hapart).symm

/-- Repairs of a text leave a text. -/
theorem exists_encodeChars_applyAll {es : List Edit} {content : Bytes}
    (hwraps : ∀ e ∈ es, e.Wraps content) (hapart : es.Pairwise Apart)
    (hcontent : ∃ cs, content = Utf8.encodeChars cs) :
    ∃ cs, applyAll es content = Utf8.encodeChars cs :=
  exists_encodeChars_foldl (descending_fromLast hwraps hapart)
    (fun e he => hwraps e ((List.mergeSort_perm es _).mem_iff.1 he)) hcontent

end Edit

end RouteLint
