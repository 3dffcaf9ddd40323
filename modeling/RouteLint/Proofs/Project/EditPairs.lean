import RouteLint.Proofs.Project.Edits

/-!
# Insertions where spans start

Staging refuses edits that have a byte in common, but an insertion replaces no byte: it may stand
where the span of another edit starts.  These two have the same start, so sorting leaves them as they
were staged, and for them the order counts.  If the span is replaced first, the insertion ends up in
front of the replacement.  If the insertion is made first, the other edit still replaces as many bytes
as its span is long, and these are no longer those of the span: the replacement goes over what has
been inserted, and as much of the span is left behind it.

At any start there is at most one insertion and at most one span.  So if the same edits are sorted in
two ways, nothing but such pairs can be in different orders.

## Main definitions

* `Edit.Opens` — an insertion where the span of another edit starts.
* `Edit.Harmless` — such an insertion may as well be made first.
* `Edit.Descends` — edits as sorting leaves them.
* `Edit.Reordered` — two orders that differ by exchanging such pairs.

## Main results

* `Edit.Opens.applyTo_span_first`, `Edit.Opens.applyTo_insertion_first` — what the two orders of a
  pair come to.
* `Edit.foldl_applyTo_append` — edits leave alone what comes after all of them.
* `Edit.reordered_of_perm` — **sorting leaves only the pairs in different orders.**
-/

namespace RouteLint

namespace Edit

variable {a b e f i x : Edit} {es fs : List Edit} {content content' : Bytes} {k : Nat}

/-! ### Insertions where spans start -/

/-- An insertion where the span of another edit starts. -/
def Opens (i x : Edit) : Prop := i.stop = i.start ∧ x.start = i.start ∧ x.start < x.stop

instance (i x : Edit) : Decidable (i.Opens x) := inferInstanceAs (Decidable (_ ∧ _ ∧ _))

/-- Two edits have the same span. -/
def SameSpan (a b : Edit) : Prop := a.start = b.start ∧ a.stop = b.stop

instance (a b : Edit) : Decidable (a.SameSpan b) := inferInstanceAs (Decidable (_ ∧ _))

/-- The bytes that an edit replaces. -/
def span (e : Edit) (content : Bytes) : Bytes := (content.take e.stop).drop e.start

/-- An insertion may as well be made before the span that starts there is replaced.  If it is made
first, as many bytes as the span has are replaced from there on, and what is left over comes after
the replacement; this must be the same as the inserted text and the replacement. -/
def Harmless (content : Bytes) (i x : Edit) : Prop :=
  Utf8.encode x.replacement ++
      (Utf8.encode i.replacement ++ x.span content).drop (x.span content).length =
    Utf8.encode i.replacement ++ Utf8.encode x.replacement

instance (content : Bytes) (i x : Edit) : Decidable (Harmless content i x) :=
  inferInstanceAs (Decidable (_ = _))

theorem Opens.ne (h : i.Opens x) : i ≠ x := by
  rintro rfl
  obtain ⟨hstop, -, hlt⟩ := h
  omega

theorem length_span (hstop : x.stop ≤ content.length) :
    (x.span content).length = x.stop - x.start := by
  rw [span, List.length_drop, List.length_take_of_le hstop]

/-- Bytes, cut at a span. -/
theorem eq_append_span (hle : x.start ≤ x.stop) :
    content = content.take x.start ++ (x.span content ++ content.drop x.stop) := by
  have hfront : content.take x.start = (content.take x.stop).take x.start := by
    rw [List.take_take, Nat.min_eq_left hle]
  rw [span, ← List.append_assoc, hfront, List.take_append_drop, List.take_append_drop]

/-- A span does not change with what comes after it. -/
theorem span_congr (h : content.take k = content'.take k) (hstop : x.stop ≤ k) :
    x.span content = x.span content' := by
  unfold span
  rw [← Nat.min_eq_left hstop, ← List.take_take, ← List.take_take, h]

/-! ### One edit and two of them -/

theorem applyTo_append (hle : e.start ≤ e.stop) (hstop : e.stop ≤ content.length) (after : Bytes) :
    e.applyTo (content ++ after) = e.applyTo content ++ after := by
  unfold applyTo
  rw [List.take_append_of_le_length (Nat.le_trans hle hstop), List.drop_append_of_le_length hstop,
    List.append_assoc, List.append_assoc, List.append_assoc]

/-- What stands before an edit stays. -/
theorem take_applyTo (h : e.start ≤ content.length) :
    (e.applyTo content).take e.start = content.take e.start := by
  rw [applyTo, List.append_assoc, List.take_left' (List.length_take_of_le h)]

/-- An edit of what stands between two texts. -/
theorem applyTo_between {before text after : Bytes} (hstart : e.start = before.length)
    (hstop : e.stop = before.length + text.length) :
    e.applyTo (before ++ (text ++ after)) = before ++ (Utf8.encode e.replacement ++ after) := by
  have hdrop : (before ++ (text ++ after)).drop e.stop = after := by
    rw [hstop, ← List.append_assoc, ← List.length_append, List.drop_left]
  rw [applyTo, hdrop, hstart, List.take_left, List.append_assoc]

/-- If a span is replaced first, what is inserted at its start comes before the replacement. -/
theorem Opens.applyTo_span_first (h : i.Opens x) (hstop : x.stop ≤ content.length) :
    i.applyTo (x.applyTo content) = content.take x.start ++
      (Utf8.encode i.replacement ++ Utf8.encode x.replacement ++ content.drop x.stop) := by
  obtain ⟨hempty, hstart, hlt⟩ := h
  have hbefore : (content.take x.start).length = x.start := List.length_take_of_le (by omega)
  have hx : x.applyTo content =
      content.take x.start ++ ([] ++ (Utf8.encode x.replacement ++ content.drop x.stop)) :=
    List.append_assoc _ _ _
  rw [hx, applyTo_between (by omega) (by rw [List.length_nil]; omega), List.append_assoc]

/-- If an insertion is made first, the replacement of the span that starts there goes over it. -/
theorem Opens.applyTo_insertion_first (h : i.Opens x) (hstop : x.stop ≤ content.length) :
    x.applyTo (i.applyTo content) = content.take x.start ++
      (Utf8.encode x.replacement ++
        (Utf8.encode i.replacement ++ x.span content).drop (x.span content).length ++
        content.drop x.stop) := by
  have hlength := length_span hstop
  obtain ⟨hempty, hstart, hlt⟩ := h
  have hbefore : (content.take x.start).length = x.start := List.length_take_of_le (by omega)
  have hi : i.applyTo content = content.take x.start ++
      (Utf8.encode i.replacement ++ (x.span content ++ content.drop x.stop)) :=
    calc i.applyTo content
        = i.applyTo (content.take x.start ++ ([] ++ (x.span content ++ content.drop x.stop))) :=
          congrArg i.applyTo (eq_append_span (Nat.le_of_lt hlt))
      _ = _ := applyTo_between (by omega) (by rw [List.length_nil]; omega)
  -- the replaced bytes are the first ones of the inserted text and the span
  generalize Utf8.encode i.replacement = inserted at hi ⊢
  have hcut : inserted ++ (x.span content ++ content.drop x.stop) =
      (inserted ++ x.span content).take (x.span content).length ++
        ((inserted ++ x.span content).drop (x.span content).length ++ content.drop x.stop) := by
    rw [← List.append_assoc, ← List.append_assoc, List.take_append_drop]
  have htake : ((inserted ++ x.span content).take (x.span content).length).length =
      x.stop - x.start := by
    rw [List.length_take, List.length_append]
    omega
  rw [hi, hcut, applyTo_between (by omega) (by omega), List.append_assoc]

/-- What the two orders of such a pair come to has the same length, so it is the same only if the
insertion is harmless. -/
theorem append_eq_append_iff_harmless {front front' after : Bytes} :
    front ++ (Utf8.encode x.replacement ++
        (Utf8.encode i.replacement ++ x.span content).drop (x.span content).length ++ after) =
      front' ++ (Utf8.encode i.replacement ++ Utf8.encode x.replacement ++ after) ↔
    front = front' ∧ Harmless content i x := by
  have hlength : (Utf8.encode x.replacement ++
        (Utf8.encode i.replacement ++ x.span content).drop (x.span content).length).length =
      (Utf8.encode i.replacement ++ Utf8.encode x.replacement).length := by
    rw [List.length_append, List.length_drop, List.length_append, List.length_append]
    omega
  constructor
  · intro heq
    obtain ⟨hfront, hpair⟩ := List.append_inj' heq (by
      rw [List.length_append, hlength, ← List.length_append])
    exact ⟨hfront, List.append_cancel_right hpair⟩
  · rintro ⟨rfl, hpair⟩
    rw [show _ = _ from hpair]

/-! ### Edits in the order in which they are applied -/

/-- The span of an edit lies in some bytes. -/
def SpanIn (content : Bytes) (e : Edit) : Prop := e.start ≤ e.stop ∧ e.stop ≤ content.length

instance (content : Bytes) (e : Edit) : Decidable (e.SpanIn content) :=
  inferInstanceAs (Decidable (_ ∧ _))

/-- An edit is applied before another one that is apart from it, as sorting leaves them: it does not
start before the other one does. -/
structure Descends (a b : Edit) : Prop where
  start_le : b.start ≤ a.start
  disjoint : a.Disjoint b
  differ : ¬a.SameSpan b

/-- What is applied later stands before what is applied first, or the first one is an insertion where
the later one starts. -/
theorem Descends.cases (h : a.Descends b) (ha : a.start ≤ a.stop) (hb : b.start ≤ b.stop) :
    b.stop ≤ a.start ∨ a.Opens b := by
  obtain ⟨hstart, hdisjoint, hdiffer⟩ := h
  unfold Disjoint at hdisjoint
  unfold SameSpan at hdiffer
  unfold Opens
  omega

/-- Of two edits with the same start one is an insertion where the span of the other one starts. -/
theorem Descends.opens (h : a.Descends b) (ha : a.start ≤ a.stop) (hb : b.start ≤ b.stop)
    (hstart : a.start ≤ b.start) : a.Opens b ∨ b.Opens a := by
  rcases h.cases ha hb with hstop | hopens
  · have hle := h.start_le
    have hdiffer := h.differ
    unfold SameSpan at hdiffer
    unfold Opens
    omega
  · exact .inl hopens

/-- What is applied after both edits of a pair stands before them. -/
theorem Opens.stop_le (h : i.Opens x) (hi : i.Descends b) (hx : x.Descends b)
    (hb : b.start ≤ b.stop) : b.stop ≤ i.start := by
  have hdisjoint := hx.disjoint
  unfold Disjoint at hdisjoint
  obtain ⟨hempty, hstart, hlt⟩ := h
  rcases hi.cases (Nat.le_of_eq hempty.symm) hb with hstop | ⟨-, hstart', hlt'⟩ <;> omega

/-- An edit that stands before a pair makes no pair with one of its edits. -/
theorem Opens.alone (h : i.Opens x) (hi : i.Descends e) (hstop : e.stop ≤ x.start) :
    ¬i.Opens e ∧ ¬e.Opens x := by
  have hdiffer := hi.differ
  unfold SameSpan at hdiffer
  unfold Opens at *
  omega

/-- The span of what is applied later still lies in the bytes. -/
theorem Descends.spanIn_applyTo (h : e.Descends f) (he : e.SpanIn content) (hf : f.SpanIn content) :
    f.SpanIn (e.applyTo content) := by
  obtain ⟨hle, hstop⟩ := he
  obtain ⟨hle', hstop'⟩ := hf
  refine ⟨hle', ?_⟩
  unfold applyTo
  rw [List.length_append, List.length_append, List.length_take, List.length_drop]
  rcases h.cases hle hle' with hbefore | ⟨hempty, -, -⟩ <;> omega

/-- Edits leave alone what comes after all of them. -/
theorem foldl_applyTo_append (h : es.Pairwise Descends) (hin : ∀ e ∈ es, e.SpanIn content)
    (after : Bytes) :
    es.foldl (fun c e => e.applyTo c) (content ++ after) =
      es.foldl (fun c e => e.applyTo c) content ++ after := by
  induction es generalizing content with
  | nil => rfl
  | cons e es ih =>
    obtain ⟨hbefore, hrest⟩ := List.pairwise_cons.1 h
    have he := hin e List.mem_cons_self
    rw [List.foldl_cons, List.foldl_cons, applyTo_append he.1 he.2]
    exact ih hrest fun f hf =>
      (hbefore f hf).spanIn_applyTo he (hin f (List.mem_cons_of_mem _ hf))

/-! ### Two orders -/

/-- Two orders of edits that differ by exchanging neighbours, an insertion and the edit of a span that
starts there. -/
inductive Reordered : List Edit → List Edit → Prop
  | nil : Reordered [] []
  | cons (e : Edit) {es fs : List Edit} (h : Reordered es fs) : Reordered (e :: es) (e :: fs)
  /-- The insertion comes first in the first order. -/
  | delay {i x : Edit} {es fs : List Edit} (hopens : i.Opens x) (h : Reordered es fs) :
    Reordered (i :: x :: es) (x :: i :: fs)
  /-- The insertion comes first in the second order. -/
  | advance {i x : Edit} {es fs : List Edit} (hopens : i.Opens x) (h : Reordered es fs) :
    Reordered (x :: i :: es) (i :: x :: fs)

theorem Reordered.perm (h : Reordered es fs) : es.Perm fs := by
  induction h with
  | nil => exact .nil
  | cons e _ ih => exact ih.cons e
  | delay _ _ ih => exact (List.Perm.swap _ _ _).trans ((ih.cons _).cons _)
  | advance _ _ ih => exact (List.Perm.swap _ _ _).trans ((ih.cons _).cons _)

/-- An edit that does not start before the first one comes next. -/
theorem eq_cons_of_start_le (h : (a :: es).Pairwise Descends)
    (hle : ∀ e ∈ a :: es, e.start ≤ e.stop) (hb : b ∈ es) (hstart : a.start ≤ b.start) :
    ∃ rest, es = b :: rest := by
  obtain ⟨hafter, hrest⟩ := List.pairwise_cons.1 h
  rcases es with _ | ⟨c, rest⟩
  · cases hb
  · rcases List.mem_cons.1 hb with rfl | hrestb
    · exact ⟨rest, rfl⟩
    · -- of three edits with one start no two can be insertions, and no two can replace bytes
      have hcb := (List.pairwise_cons.1 hrest).1 b hrestb
      have hac := hafter c List.mem_cons_self
      have hlea := hle a (by simp)
      have hleb := hle b (by simp [hrestb])
      have hlec := hle c (by simp)
      have hopens := (hafter b hb).opens hlea hleb hstart
      have hopens' := hac.opens hlea hlec (Nat.le_trans hstart hcb.start_le)
      have hopens'' := hcb.opens hlec hleb (Nat.le_trans hac.start_le hstart)
      unfold Opens at hopens hopens' hopens''
      omega

/-- **Sorting leaves only the pairs in different orders.** -/
theorem reordered_of_perm (hperm : es.Perm fs) (hes : es.Pairwise Descends)
    (hfs : fs.Pairwise Descends) (hle : ∀ e ∈ es, e.start ≤ e.stop) : Reordered es fs := by
  induction hn : es.length using Nat.strongRecOn generalizing es fs with
  | ind n ih =>
    rcases es with _ | ⟨e, es⟩
    · rw [List.nil_perm.1 hperm]
      exact .nil
    rcases fs with _ | ⟨f, fs⟩
    · exact absurd (List.perm_nil.1 hperm) (List.cons_ne_nil _ _)
    obtain ⟨hafter, hrest⟩ := List.pairwise_cons.1 hes
    obtain ⟨hafter', hrest'⟩ := List.pairwise_cons.1 hfs
    by_cases hef : e = f
    · subst hef
      refine .cons e (ih es.length ?_ hperm.cons_inv hrest hrest' ?_ rfl)
      · rw [← hn, List.length_cons]
        exact Nat.lt_succ_self _
      · exact fun g hg => hle g (List.mem_cons_of_mem _ hg)
    · have hf : f ∈ es :=
        (List.mem_cons.1 (hperm.mem_iff.2 List.mem_cons_self)).resolve_left (Ne.symm hef)
      have he : e ∈ fs := (List.mem_cons.1 (hperm.mem_iff.1 List.mem_cons_self)).resolve_left hef
      have hle' : ∀ g ∈ f :: fs, g.start ≤ g.stop := fun g hg => hle g (hperm.mem_iff.2 hg)
      -- both lists start with the two edits
      obtain ⟨es, rfl⟩ := eq_cons_of_start_le hes hle hf (hafter' e he).start_le
      obtain ⟨fs, rfl⟩ := eq_cons_of_start_le hfs hle' he (hafter f hf).start_le
      have hperm' : es.Perm fs := ((List.Perm.swap e f es).trans hperm).cons_inv.cons_inv
      have hreordered : Reordered es fs := by
        refine ih es.length ?_ hperm' (List.pairwise_cons.1 hrest).2 (List.pairwise_cons.1 hrest').2
          (fun g hg => hle g (by simp [hg])) rfl
        rw [← hn, List.length_cons, List.length_cons]
        omega
      rcases (hafter f hf).opens (hle e (by simp)) (hle f (by simp)) (hafter' e he).start_le with
        hopens | hopens
      · exact .delay hopens hreordered
      · exact .advance hopens hreordered

end Edit

end RouteLint
