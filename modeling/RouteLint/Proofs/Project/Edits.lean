import Mathlib.Data.List.Pairwise
import RouteLint.Proofs.Project.Buffers
import RouteLint.Proofs.Project.ResolvedMembers
import RouteLint.Proofs.Routes.Insertion

/-!
# Edits are applied at once

Edits are applied from the last to the first, each to the bytes that the ones before it have left,
at offsets that were counted in the old bytes.  What comes out is said here without any cutting:
walking once through the old bytes, every replacement is put where its span starts, and a byte is
left out if it lies in a span.  That the two are the same rests on what staging lets through: no two
of the staged edits have a byte in common, though one may start where another one ends.

## Main definitions

* `Edit.replaceAll` — bytes with several spans replaced at once.
* `Edit.Within` — edits of some characters of a text.
* `Edit.Clash` — different edits with a byte in common.
* `stageCalls` — edits that are staged one after another, and the ones that are accepted.

## Main results

* `Edit.applyAll_eq_replaceAll` — **applying edits that are apart replaces their spans at once.**
* `Staging.step` — what staging one more edit does.
* `stage_apply` — **staging any edits and applying those that are accepted.**
-/

namespace RouteLint

open Syntax Project

/-! ### Characters in bytes -/

namespace Utf8

/-- An offset at which a character of a text starts, or at which the text ends. -/
def Boundary (chars : List Char) (k : Nat) : Prop :=
  ∃ before after, chars = before ++ after ∧ (encodeChars before).length = k

theorem boundary_nil {k : Nat} : Boundary [] k ↔ k = 0 := by
  constructor
  · rintro ⟨before, after, h, rfl⟩
    rw [(List.append_eq_nil_iff.1 h.symm).1]
    rfl
  · rintro rfl
    exact ⟨[], [], rfl, rfl⟩

theorem boundary_cons {c : Char} {cs : List Char} {k : Nat} :
    Boundary (c :: cs) k ↔ k = 0 ∨ ∃ j, Boundary cs j ∧ k = c.utf8Size + j := by
  constructor
  · rintro ⟨_ | ⟨d, before⟩, after, h, rfl⟩
    · exact .inl rfl
    · cases h
      exact .inr ⟨_, ⟨before, after, rfl, rfl⟩, length_encodeChars_cons c before⟩
  · rintro (rfl | ⟨j, ⟨before, after, rfl, rfl⟩, rfl⟩)
    · exact ⟨[], c :: cs, rfl, rfl⟩
    · exact ⟨c :: before, after, rfl, length_encodeChars_cons c before⟩

/-- Boundaries can be searched for. -/
def decidableBoundary : (chars : List Char) → (k : Nat) → Decidable (Boundary chars k)
  | [], k => decidable_of_iff (k = 0) boundary_nil.symm
  | c :: cs, k =>
    have := decidableBoundary cs (k - c.utf8Size)
    decidable_of_iff (k = 0 ∨ c.utf8Size ≤ k ∧ Boundary cs (k - c.utf8Size)) (by
      rw [boundary_cons]
      refine or_congr_right ⟨fun h => ⟨_, h.2, by omega⟩, ?_⟩
      rintro ⟨j, hj, rfl⟩
      exact ⟨by omega, by rwa [Nat.add_sub_cancel_left]⟩)

instance (chars : List Char) (k : Nat) : Decidable (Boundary chars k) := decidableBoundary chars k

namespace Boundary

variable {chars others : List Char} {k : Nat}

theorem append (h : Boundary chars k) (others : List Char) : Boundary (chars ++ others) k := by
  obtain ⟨before, after, rfl, rfl⟩ := h
  exact ⟨before, after ++ others, by rw [List.append_assoc], rfl⟩

/-- A boundary in the first part of a text is one of that part. -/
theorem of_append (h : Boundary (chars ++ others) k) (hk : k ≤ (encodeChars chars).length) :
    Boundary chars k := by
  obtain ⟨before, after, heq, rfl⟩ := h
  obtain ⟨between, rfl⟩ := prefix_of_encodeChars (congrArg encodeChars heq.symm) hk
  exact ⟨before, between, rfl, rfl⟩

theorem le_length (h : Boundary chars k) : k ≤ (encodeChars chars).length := by
  obtain ⟨before, after, rfl, rfl⟩ := h
  rw [encodeChars_append, List.length_append]
  exact Nat.le_add_right _ _

end Boundary

end Utf8

/-! ### Replacing at once -/

namespace Edit

/-- Whether a byte lies in the span of an edit. -/
def covers (e : Edit) (k : Nat) : Bool := e.start ≤ k && k < e.stop

/-- What edits put in front of the byte at an offset. -/
def putAt (es : List Edit) (k : Nat) : Bytes :=
  es.flatMap fun e => if e.start = k then Utf8.encode e.replacement else []

/-- Bytes from an offset on with the spans of edits replaced: each byte has what is put in front of
it, and is left out if it lies in a span. -/
def replaceFrom (es : List Edit) : Nat → Bytes → Bytes
  | _, [] => []
  | k, b :: bs =>
    putAt es k ++ (if es.any (covers · k) then [] else [b]) ++ replaceFrom es (k + 1) bs

/-- Bytes with the spans of edits replaced, all at once. -/
def replaceAll (es : List Edit) (content : Bytes) : Bytes := replaceFrom es 0 content

variable {e : Edit} {es fs : List Edit} {k : Nat}

theorem covers_iff : e.covers k = true ↔ e.start ≤ k ∧ k < e.stop := by
  simp [covers]

theorem covers_eq_false_iff : e.covers k = false ↔ k < e.start ∨ e.stop ≤ k := by
  rw [covers, Bool.and_eq_false_iff, decide_eq_false_iff_not, decide_eq_false_iff_not, Nat.not_le,
    Nat.not_lt]

/-- Edits overlap if some byte lies in the spans of both. -/
theorem overlaps_iff {a b : Edit} (ha : a.start < a.stop) (hb : b.start < b.stop) :
    a.overlaps b = true ↔ ∃ k, a.covers k = true ∧ b.covers k = true := by
  simp only [overlaps, covers_iff, Bool.and_eq_true, decide_eq_true_eq]
  constructor
  · intro h
    exact ⟨max a.start b.start, by omega⟩
  · rintro ⟨k, hk⟩
    omega

theorem replaceFrom_append (es : List Edit) (k : Nat) (xs ys : Bytes) :
    replaceFrom es k (xs ++ ys) = replaceFrom es k xs ++ replaceFrom es (k + xs.length) ys := by
  induction xs generalizing k with
  | nil => rfl
  | cons x xs ih =>
    rw [List.cons_append, replaceFrom, replaceFrom, ih, List.length_cons,
      List.append_assoc _ (replaceFrom es (k + 1) xs), Nat.add_right_comm, ← Nat.add_assoc]

/-- Replacing looks only at what starts on its way, and at what is left out there. -/
theorem replaceFrom_congr {xs : Bytes}
    (h : ∀ j, k ≤ j → j < k + xs.length →
      putAt es j = putAt fs j ∧ es.any (covers · j) = fs.any (covers · j)) :
    replaceFrom es k xs = replaceFrom fs k xs := by
  induction xs generalizing k with
  | nil => rfl
  | cons x xs ih =>
    rw [List.length_cons] at h
    obtain ⟨hput, hcovers⟩ := h k (Nat.le_refl k) (by omega)
    rw [replaceFrom, replaceFrom, hput, hcovers, ih fun j hj hlt => h j (by omega) (by omega)]

theorem putAt_cons (e : Edit) (es : List Edit) (k : Nat) :
    putAt (e :: es) k = (if e.start = k then Utf8.encode e.replacement else []) ++ putAt es k :=
  rfl

theorem putAt_eq_nil (h : ∀ e ∈ es, e.start ≠ k) : putAt es k = [] :=
  List.flatMap_eq_nil_iff.2 fun e he => if_neg (h e he)

theorem any_covers_eq_false (h : ∀ e ∈ es, e.covers k = false) : es.any (covers · k) = false :=
  List.any_eq_false.2 fun e he => Bool.eq_false_iff.1 (h e he)

/-- Where no edit starts or goes on nothing changes. -/
theorem replaceFrom_eq_self {xs : Bytes}
    (h : ∀ e ∈ es, e.start < e.stop ∧ e.stop ≤ k) : replaceFrom es k xs = xs := by
  induction xs generalizing k with
  | nil => rfl
  | cons x xs ih =>
    have hput : putAt es k = [] := putAt_eq_nil fun e he => by have := h e he; omega
    have hcovers : es.any (covers · k) = false := any_covers_eq_false fun e he =>
      covers_eq_false_iff.2 (.inr (h e he).2)
    rw [replaceFrom, hput, hcovers, ih fun e he => ⟨(h e he).1, by have := h e he; omega⟩]
    rfl

/-- The span of an edit, where no other edit starts, gives way to the replacement. -/
theorem replaceFrom_span {ys : Bytes} (hstart : e.start = k) (hstop : e.stop = k + ys.length)
    (hys : ys ≠ []) (h : ∀ j, k ≤ j → putAt es j = []) :
    replaceFrom (e :: es) k ys = Utf8.encode e.replacement := by
  have hcovers : ∀ j, k ≤ j → j < k + ys.length → (e :: es).any (covers · j) = true := by
    intro j hj hlt
    rw [List.any_cons, Bool.or_eq_true, covers_iff]
    exact .inl (by omega)
  -- every byte is left out, and the replacement stands before the first one
  have hrest : ∀ j zs, k < j → j + zs.length = k + ys.length →
      replaceFrom (e :: es) j zs = [] := by
    intro j zs
    induction zs generalizing j with
    | nil => intros; rfl
    | cons z zs ih =>
      intro hj hlen
      rw [List.length_cons] at hlen
      rw [replaceFrom, putAt_cons, if_neg (by omega), h j (by omega),
        hcovers j (by omega) (by omega), ih (j + 1) (by omega) (by omega)]
      rfl
  cases ys with
  | nil => exact absurd rfl hys
  | cons y ys =>
    rw [List.length_cons] at hcovers hrest
    rw [replaceFrom, putAt_cons, if_pos hstart, h k (Nat.le_refl k),
      hcovers k (Nat.le_refl k) (by omega), hrest (k + 1) ys (by omega) (by omega)]
    simp

/-! ### From the last to the first -/

/-- One more edit that stands after all others. -/
theorem replaceAll_applyTo {content : Bytes} (he : e.start < e.stop)
    (hstop : e.stop ≤ content.length) (hes : ∀ f ∈ es, f.start < f.stop ∧ f.stop ≤ e.start) :
    replaceAll es (e.applyTo content) = replaceAll (e :: es) content := by
  have hcontent : content = content.take e.start ++
      ((content.drop e.start).take (e.stop - e.start) ++ content.drop e.stop) := by
    have hdrop : content.drop e.stop = (content.drop e.start).drop (e.stop - e.start) := by
      rw [List.drop_drop]
      congr 1
      omega
    rw [hdrop, List.take_append_drop, List.take_append_drop]
  have hxs : (content.take e.start).length = e.start := by
    rw [List.length_take]
    omega
  have hys : ((content.drop e.start).take (e.stop - e.start)).length = e.stop - e.start := by
    rw [List.length_take, List.length_drop]
    omega
  conv_rhs => rw [hcontent]
  unfold applyTo
  generalize content.take e.start = xs at *
  generalize (content.drop e.start).take (e.stop - e.start) = ys at *
  generalize content.drop e.stop = zs at *
  have hafter : ∀ j, e.start ≤ j → putAt es j = [] := fun j hj =>
    putAt_eq_nil fun f hf => by have := hes f hf; omega
  -- before the new edit only the others count, and after it none of them
  have hbefore : replaceFrom (e :: es) 0 xs = replaceFrom es 0 xs := by
    refine replaceFrom_congr fun j _ hj => ⟨?_, ?_⟩
    · rw [putAt_cons, if_neg (by omega), List.nil_append]
    · have hnot : e.covers j = false := covers_eq_false_iff.2 (.inl (by omega))
      rw [List.any_cons, hnot, Bool.false_or]
  have hspan : replaceFrom (e :: es) e.start ys = Utf8.encode e.replacement :=
    replaceFrom_span rfl (by omega) (List.ne_nil_of_length_pos (by omega)) hafter
  have hend : replaceFrom (e :: es) (e.start + ys.length) zs = zs := by
    refine replaceFrom_eq_self fun f hf => ?_
    rcases List.mem_cons.1 hf with rfl | hf
    · exact ⟨he, by omega⟩
    · have := hes f hf
      exact ⟨this.1, by omega⟩
  calc replaceAll es (xs ++ Utf8.encode e.replacement ++ zs)
      = replaceFrom es 0 xs ++ (Utf8.encode e.replacement ++ zs) := by
        rw [replaceAll, List.append_assoc, replaceFrom_append, Nat.zero_add, hxs,
          replaceFrom_eq_self hes]
    _ = replaceAll (e :: es) (xs ++ (ys ++ zs)) := by
        rw [replaceAll, replaceFrom_append, replaceFrom_append, hbefore, Nat.zero_add, hxs, hspan,
          hend]

/-- Edits in order from the last to the first, none starting before the next one ends. -/
def Backward (es : List Edit) : Prop := es.Pairwise fun e f => f.stop ≤ e.start

theorem foldl_applyTo_eq_replaceAll {content : Bytes} (h : Backward es)
    (hes : ∀ e ∈ es, e.start < e.stop ∧ e.stop ≤ content.length) :
    es.foldl (fun c e => e.applyTo c) content = replaceAll es content := by
  induction es generalizing content with
  | nil => exact (replaceFrom_eq_self (by simp)).symm
  | cons e es ih =>
    obtain ⟨hbefore, hrest⟩ := List.pairwise_cons.1 h
    obtain ⟨hlt, hle⟩ := hes e List.mem_cons_self
    -- the bytes before an edit are still there after it
    have hlength : e.start ≤ (e.applyTo content).length := by
      unfold applyTo
      rw [List.length_append, List.length_append, List.length_take]
      omega
    rw [List.foldl_cons, ih hrest fun f hf =>
      ⟨(hes f (List.mem_cons_of_mem _ hf)).1, Nat.le_trans (hbefore f hf) hlength⟩]
    exact replaceAll_applyTo hlt hle fun f hf =>
      ⟨(hes f (List.mem_cons_of_mem _ hf)).1, hbefore f hf⟩

theorem Disjoint.symm {a b : Edit} (h : a.Disjoint b) : b.Disjoint a := Or.symm h

instance : Std.Symm Disjoint := ⟨fun _ _ => Disjoint.symm⟩

/-- Sorting edits that have no byte in common puts them in order from the last to the first. -/
theorem backward_fromLast (hes : ∀ e ∈ es, e.start < e.stop) (h : es.Pairwise Disjoint) :
    Backward (fromLast es) := by
  refine (pairwise_fromLast Disjoint.symm h).imp_of_mem fun {a b} ha hb hab => ?_
  obtain ⟨hle, hab⟩ := hab
  have hlt := hes a ((List.mergeSort_perm es _).mem_iff.1 ha)
  rcases hab with hab | hab
  · omega
  · exact hab

/-- The order of edits that have no byte in common does not matter. -/
theorem replaceAll_perm {content : Bytes} (hperm : es.Perm fs) (hes : ∀ e ∈ es, e.start < e.stop)
    (h : es.Pairwise Disjoint) : replaceAll es content = replaceAll fs content := by
  refine replaceFrom_congr fun j _ _ => ⟨?_, ?_⟩
  · refine flatMap_eq_of_perm hperm (h.imp_of_mem fun {a b} ha hb hab => ?_)
    -- two edits that start at the same byte would have it in common
    by_cases hj : a.start = j
    · right
      have := hes a ha
      have := hes b hb
      unfold Disjoint at hab
      exact if_neg (by omega)
    · exact .inl (if_neg hj)
  · rw [Bool.eq_iff_iff, List.any_eq_true, List.any_eq_true]
    simp only [hperm.mem_iff]

/-- **Applying edits that are apart replaces their spans at once.** -/
theorem applyAll_eq_replaceAll {content : Bytes}
    (hes : ∀ e ∈ es, e.start < e.stop ∧ e.stop ≤ content.length) (h : es.Pairwise Disjoint) :
    applyAll es content = replaceAll es content := by
  have hperm : (fromLast es).Perm es := List.mergeSort_perm _ _
  have hlt : ∀ e ∈ es, e.start < e.stop := fun e he => (hes e he).1
  unfold applyAll
  rw [foldl_applyTo_eq_replaceAll (backward_fromLast hlt h) fun e he =>
    hes e (hperm.mem_iff.1 he)]
  exact (replaceAll_perm hperm.symm hlt h).symm

/-! ### Characters -/

/-- An edit of some characters of a text: at least one byte is replaced, from one boundary between
characters to another. -/
structure Within (chars : List Char) (e : Edit) : Prop where
  lt : e.start < e.stop
  starts : Utf8.Boundary chars e.start
  stops : Utf8.Boundary chars e.stop

instance (chars : List Char) (e : Edit) : Decidable (e.Within chars) :=
  decidable_of_iff (e.start < e.stop ∧ Utf8.Boundary chars e.start ∧ Utf8.Boundary chars e.stop)
    ⟨fun h => ⟨h.1, h.2.1, h.2.2⟩, fun h => ⟨h.lt, h.starts, h.stops⟩⟩

/-- The text after an edit of some characters. -/
theorem Within.exists_applyTo {chars : List Char} (h : e.Within chars) :
    ∃ before text after, chars = before ++ text ++ after ∧
      e.start = (Utf8.encodeChars before).length ∧
      e.applyTo (Utf8.encodeChars chars) =
        Utf8.encodeChars (before ++ e.replacement.toList ++ after) := by
  obtain ⟨hlt, ⟨before, rest, rfl, hstart⟩, ⟨upTo, after, heq, hstop⟩⟩ := h
  obtain ⟨text, rfl⟩ := Utf8.prefix_of_encodeChars (congrArg Utf8.encodeChars heq)
    (by rw [hstart, hstop]; exact Nat.le_of_lt hlt)
  refine ⟨before, text, after, heq, hstart.symm, ?_⟩
  rw [Wraps.applyTo_eq (congrArg Utf8.encodeChars heq) hstart.symm hstop.symm,
    Utf8.encodeChars_append, Utf8.encodeChars_append]
  rfl

/-- Edits of characters leave a text. -/
theorem exists_encodeChars_of_within {chars : List Char} (h : Backward es)
    (hes : ∀ e ∈ es, e.Within chars) :
    ∃ cs, es.foldl (fun c e => e.applyTo c) (Utf8.encodeChars chars) = Utf8.encodeChars cs := by
  induction es generalizing chars with
  | nil => exact ⟨chars, rfl⟩
  | cons e es ih =>
    obtain ⟨hbefore, hrest⟩ := List.pairwise_cons.1 h
    obtain ⟨before, text, after, rfl, hstart, happly⟩ :=
      (hes e List.mem_cons_self).exists_applyTo
    rw [List.foldl_cons, happly]
    refine ih hrest fun f hf => ?_
    -- the boundaries of an earlier edit lie in the text before this one
    obtain ⟨hlt, hstarts, hstops⟩ := hes f (List.mem_cons_of_mem _ hf)
    have hle : f.stop ≤ (Utf8.encodeChars before).length := hstart ▸ hbefore f hf
    rw [List.append_assoc] at hstarts hstops ⊢
    exact ⟨hlt, (hstarts.of_append (Nat.le_trans (Nat.le_of_lt hlt) hle)).append _,
      (hstops.of_append hle).append _⟩

/-- Different edits with a byte in common. -/
def Clash (a b : Edit) : Prop := a ≠ b ∧ ∃ k, a.covers k = true ∧ b.covers k = true

end Edit

/-! ### Staging one edit after another -/

/-- Stage one more edit: the edits that have been accepted so far, with the bench afterwards. -/
def stageCall (path : Path) (sofar : List Edit × Bench) (e : Edit) : List Edit × Bench :=
  match outcome (Project.stage path e) sofar.2 with
  | (.ok _, b) => (sofar.1 ++ [e], b)
  | (.error _, b) => (sofar.1, b)

/-- Stage edits one after another, whatever becomes of each. -/
def stageCalls (path : Path) (b : Bench) (calls : List Edit) : List Edit × Bench :=
  calls.foldl (stageCall path) ([], b)

/-- A bench at which some edits of a source are staged, none of which overlap. -/
structure Staging (s : Source) (staged : List Edit) (b : Bench) : Prop where
  source : b.project.source? s.path = some { s with staged }
  apart : staged.Pairwise fun a b => a ≠ b ∧ b.overlaps a = false

theorem stage_error {r : Path} {e : Edit} {b b' : Bench} {err : Project.Error}
    (h : outcome (Project.stage r e) b = (.error err, b')) : err = .overlap r := by
  unfold Project.stage at h
  rw [outcome_get_bind] at h
  cases hs : b.project.source? r with
  | none =>
    rw [hs] at h
    cases h
  | some s =>
    rw [hs] at h
    dsimp only at h
    cases hstage : s.stage? e <;> (rw [hstage] at h; cases h)
    rfl

variable {s : Source} {b : Bench} {staged : List Edit} {chars : List Char}

theorem Staging.nodup (h : Staging s staged b) : staged.Nodup := h.apart.imp And.left

theorem Staging.disjoint (h : Staging s staged b) : staged.Pairwise Edit.Disjoint :=
  h.apart.imp fun hab => Edit.disjoint_of_overlaps hab.2

/-- What staging one more edit does: it is refused if it has a byte in common with a different one
that is staged, and then nothing has happened; otherwise it is staged, unless it is already. -/
theorem Staging.step (h : Staging s staged b) {e : Edit} (he : e.start < e.stop)
    (hstaged : ∀ x ∈ staged, x.start < x.stop) :
    ((¬∃ x ∈ staged, x.Clash e) ∧ ∃ b', outcome (Project.stage s.path e) b = (.ok (), b') ∧
      Staging s (putOnce staged e) b') ∨
    ((∃ x ∈ staged, x.Clash e) ∧
      outcome (Project.stage s.path e) b = (.error (.overlap s.path), b)) := by
  rcases stage_cases e h.source with ⟨haccept, hout⟩ | ⟨⟨hnot, x, hx, hoverlaps⟩, err, hout⟩
  · refine .inl ⟨?_, _, hout, ⟨source?_putSource_self _ _, accepted_putOnce h.apart haccept⟩⟩
    rintro ⟨x, hx, hne, hcommon⟩
    have hoverlaps := (Edit.overlaps_iff (hstaged x hx) he).2 hcommon
    by_cases hmem : e ∈ staged
    · -- two of the staged edits overlap only if they are the same
      have hdisjoint := h.disjoint.forall hx hmem hne
      simp only [Edit.overlaps, Bool.and_eq_true, decide_eq_true_eq] at hoverlaps
      unfold Edit.Disjoint at hdisjoint
      omega
    · have hcommon' := hcommon.imp fun _ => And.symm
      have hoverlaps' := (Edit.overlaps_iff he (hstaged x hx)).2 hcommon'
      rw [haccept hmem x hx] at hoverlaps'
      cases hoverlaps'
  · have hcommon := (Edit.overlaps_iff he (hstaged x hx)).1 hoverlaps
    refine .inr ⟨⟨x, hx, fun heq => hnot (heq ▸ hx), hcommon.imp fun _ => And.symm⟩, ?_⟩
    rw [hout, stage_error hout]

/-- After staging any edits of characters, those that were accepted are staged, each once. -/
theorem staging_stageCalls (hs : b.project.source? s.path = some s) (hnone : s.staged = [])
    {calls : List Edit} (hcalls : ∀ e ∈ calls, e.Within chars) :
    (∀ e ∈ (stageCalls s.path b calls).1, e ∈ calls) ∧
      Staging s (once (stageCalls s.path b calls).1) (stageCalls s.path b calls).2 := by
  induction calls using List.reverseRecOn with
  | nil =>
    refine ⟨nofun, ?_, .nil⟩
    rw [show once (stageCalls s.path b []).1 = s.staged from hnone.symm]
    exact hs
  | append_singleton calls e ih =>
    have hcalls' : ∀ x ∈ calls, x.Within chars := fun x hx => hcalls x (List.mem_append_left _ hx)
    obtain ⟨hmem, hstaging⟩ := ih hcalls'
    have hlast : stageCalls s.path b (calls ++ [e]) =
        stageCall s.path (stageCalls s.path b calls) e := List.foldl_concat _ _ _ _
    have hlt : ∀ x ∈ once (stageCalls s.path b calls).1, x.start < x.stop :=
      fun x hx => (hcalls' x (hmem x (mem_once.1 hx))).lt
    rw [hlast]
    rcases hstaging.step (hcalls e (by simp)).lt hlt with ⟨-, b', hout, hnext⟩ | ⟨-, hout⟩
    · rw [stageCall, hout]
      refine ⟨fun x hx => ?_, ?_⟩
      · rcases List.mem_append.1 hx with hx | hx
        · exact List.mem_append_left _ (hmem x hx)
        · exact List.mem_append_right _ hx
      · dsimp only
        rwa [once_append_singleton]
    · rw [stageCall, hout]
      exact ⟨fun x hx => List.mem_append_left _ (hmem x hx), hstaging⟩

/-- Applying the staged edits of a source, if there are any, leaves none, and the bytes are what the
edits make of them. -/
theorem apply_staged_content (parse : Parser) (s : Source) : (s.apply parse).path = s.path ∧
    (s.apply parse).staged = [] ∧
      (s.apply parse).content = Edit.applyAll s.staged s.content := by
  unfold Source.apply
  cases hstaged : s.staged with
  | nil => exact ⟨rfl, hstaged, (Edit.applyAll_nil _).symm⟩
  | cons e es => exact ⟨rfl, rfl, rfl⟩

/-- **Staging any edits and applying those that are accepted.**  Edits of characters of a text are
staged one after another.  The next one is refused exactly if it has a byte in common with a
different one that has been accepted, and then nothing has happened.  Applying them replaces their
spans all at once, in whatever order they are taken; it counts each of them once, leaves none
staged, and what comes out is a text again. -/
theorem stage_apply (hs : b.project.source? s.path = some s) (hnone : s.staged = [])
    (hcontent : s.content = Utf8.encodeChars chars) {calls : List Edit}
    (hcalls : ∀ e ∈ calls, e.Within chars) {accepted : List Edit} {b₁ : Bench}
    (hrun : stageCalls s.path b calls = (accepted, b₁)) :
    (∀ e : Edit, e.Within chars →
      ((∃ x ∈ accepted, x.Clash e) →
        outcome (Project.stage s.path e) b₁ = (.error (.overlap s.path), b₁)) ∧
      ((¬∃ x ∈ accepted, x.Clash e) → (outcome (Project.stage s.path e) b₁).1 = .ok ())) ∧
    ∃ n b₂ s', outcome (Project.apply s.path) b₁ = (.ok n, b₂) ∧
      b₂.project.source? s.path = some s' ∧ s'.staged = [] ∧
      (∃ cs, s'.content = Utf8.encodeChars cs) ∧
      ∀ es : List Edit, es.Nodup → (∀ e, e ∈ es ↔ e ∈ accepted) →
        n = es.length ∧ s'.content = Edit.replaceAll es s.content := by
  obtain ⟨hmem, hstaging⟩ := staging_stageCalls hs hnone hcalls
  rw [hrun] at hmem hstaging
  have hwithin : ∀ e ∈ once accepted, e.Within chars :=
    fun e he => hcalls e (hmem e (mem_once.1 he))
  have hlt : ∀ e ∈ once accepted, e.start < e.stop := fun e he => (hwithin e he).lt
  have hspans : ∀ e ∈ once accepted, e.start < e.stop ∧ e.stop ≤ s.content.length :=
    fun e he => ⟨hlt e he, hcontent ▸ (hwithin e he).stops.le_length⟩
  constructor
  · intro e he
    have hmem_once : (∃ x ∈ once accepted, x.Clash e) ↔ ∃ x ∈ accepted, x.Clash e := by
      simp only [mem_once]
    rcases hstaging.step he.lt hlt with ⟨hclash, b', hout, -⟩ | ⟨hclash, hout⟩
    · rw [hmem_once] at hclash
      exact ⟨fun h => absurd h hclash, fun _ => congrArg Prod.fst hout⟩
    · rw [hmem_once] at hclash
      exact ⟨fun _ => hout, fun h => absurd hclash h⟩
  · obtain ⟨hpath, hstaged, hbytes⟩ :=
      apply_staged_content b₁.project.parse { s with staged := once accepted }
    have hout := outcome_apply hstaging.source
    refine ⟨_, _, _, hout, ?_, hstaged, ?_, fun es hnodup hes => ?_⟩
    · have hput := source?_putSource_self b₁.project
        ({ s with staged := once accepted : Source }.apply b₁.project.parse)
      rwa [hpath] at hput
    · rw [hbytes, hcontent]
      exact Edit.exists_encodeChars_of_within (Edit.backward_fromLast hlt hstaging.disjoint)
        fun e he => hwithin e ((List.mergeSort_perm _ _).mem_iff.1 he)
    · have hperm : (once accepted).Perm es :=
        (List.perm_ext_iff_of_nodup (nodup_once _) hnodup).2 fun e => by rw [mem_once, hes]
      rw [hbytes, Edit.applyAll_eq_replaceAll hspans hstaging.disjoint,
        Edit.replaceAll_perm hperm hlt hstaging.disjoint]
      exact ⟨hperm.length_eq, rfl⟩

/-! ### Spans that touch -/

namespace Touching

/-- A text of four bytes, two of which are one character. -/
def text : String := "aéb"

/-- A file with the text. -/
def source : Source := .ofContent Module.parse Sole.path .typescript (Utf8.encode text)

/-- Two edits of which one ends where the other one starts, the first of them twice, and one that has
bytes in common with both. -/
def calls : List Edit := [⟨1, 3, "yy"⟩, ⟨0, 1, "x"⟩, ⟨0, 3, "z"⟩, ⟨1, 3, "yy"⟩]

/-- All but the third are accepted. -/
def accepted : List Edit := [⟨1, 3, "yy"⟩, ⟨0, 1, "x"⟩, ⟨1, 3, "yy"⟩]

theorem within : ∀ e ∈ calls, e.Within text.toList := by decide

theorem accepted_eq : (stageCalls Sole.path (Sole.bench text) calls).1 = accepted := by
  decide

end Touching

open Touching in
/-- The two edits that touch are both applied, and nothing is left of what they replace. -/
theorem stage_apply_touching :
    (Sole.bench text).project.source? source.path = some source ∧
    (∀ e ∈ calls, e.Within text.toList) ∧
    ∃ b₁, stageCalls source.path (Sole.bench text) calls = (accepted, b₁) ∧
      outcome (Project.stage source.path ⟨0, 3, "z"⟩) b₁ = (.error (.overlap source.path), b₁) ∧
      (outcome (Project.stage source.path ⟨3, 4, ""⟩) b₁).1 = .ok () ∧
      ∃ b₂ s', outcome (Project.apply source.path) b₁ = (.ok 2, b₂) ∧
        b₂.project.source? source.path = some s' ∧ s'.staged = [] ∧
        s'.content = Utf8.encode "xyyb" := by
  have hs : (Sole.bench text).project.source? source.path = some source :=
    source?_putSource_self _ _
  have hrun : stageCalls source.path (Sole.bench text) calls =
      (accepted, (stageCalls source.path (Sole.bench text) calls).2) := Prod.ext accepted_eq rfl
  obtain ⟨hnext, n, b₂, s', hout, hs', hstaged, -, hall⟩ := stage_apply hs rfl rfl within hrun
  obtain ⟨hn, hcontent⟩ := hall [⟨0, 1, "x"⟩, ⟨1, 3, "yy"⟩] (by decide) fun e => by
    simp only [accepted, List.mem_cons, List.not_mem_nil, or_false]
    tauto
  rw [hn] at hout
  refine ⟨hs, within, _, hrun, (hnext _ (by decide)).1 ?_,
    (hnext _ (by decide)).2 ?_, b₂, s', hout, hs', hstaged, hcontent.trans (by decide)⟩
  · exact ⟨⟨0, 1, "x"⟩, by decide, by decide, 0, by decide, by decide⟩
  · rintro ⟨x, hx, -, k, hxk, hek⟩
    have hk : 3 ≤ k := (Edit.covers_iff.1 hek).1
    have hlt : k < x.stop := (Edit.covers_iff.1 hxk).2
    have hstops : ∀ e ∈ accepted, e.stop ≤ 3 := by decide
    have := hstops x hx
    omega

end RouteLint
