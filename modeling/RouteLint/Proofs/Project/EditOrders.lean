import RouteLint.Proofs.Project.EditPairs

/-!
# The order in which edits are staged

Edits may be staged in any order, and sorting them undoes most of it.  What it leaves is the order of
an insertion and the edit of a span that starts there.  So two orders of the same edits come to the
same bytes exactly if each such pair is staged in the same order in both, or if it happens to make no
difference for its texts.  Bytes outside all spans survive in any order, moved by the edits in front
of them.

## Main definitions

* `Edit.OrdersAgree` — **two orders of edits between which nothing tells.**
* `Edit.moved` — where a byte is after edits.

## Main results

* `Edit.Reordered.foldl_applyTo_eq_iff` — when edits in two orders come to the same.
* `Edit.getElem?_foldl_applyTo` — bytes outside all spans survive.
* `Edit.ordersAgree_fromLast` — sorting does not change which orders agree.
* `Source.stageAll_eq_some_iff` — which edits are accepted.
* `stage_in_two_orders` — **staging edits in two orders and applying them.**
* `stage_in_two_orders_differs` — two orders that do not come to the same.
-/

namespace RouteLint

open Syntax

namespace Edit

variable {a b c e i x : Edit} {es fs : List Edit} {content content' : Bytes} {k : Nat}

/-! ### When two orders agree -/

/-- Two orders of the same edits, between which nothing tells: an insertion where a span starts comes
before the edit of this span in both orders or in neither, unless it may as well be made first. -/
def OrdersAgree (content : Bytes) (es fs : List Edit) : Prop :=
  ∀ i ∈ es, ∀ x ∈ es, i.Opens x →
    ([i, x].Sublist es ↔ [i, x].Sublist fs) ∨ Harmless content i x

instance (content : Bytes) (es fs : List Edit) : Decidable (OrdersAgree content es fs) :=
  inferInstanceAs (Decidable (∀ i ∈ es, ∀ x ∈ es, _))

theorem pair_sublist_cons : [a, b].Sublist (c :: es) ↔ [a, b].Sublist es ∨ (a = c ∧ b ∈ es) := by
  rw [List.cons_sublist_cons', List.singleton_sublist]

theorem not_pair_sublist_of_left (ha : a ∉ es) : ¬[a, b].Sublist es := fun h =>
  ha (h.subset (by simp))

theorem not_pair_sublist_of_right (hb : b ∉ es) : ¬[a, b].Sublist es := fun h =>
  hb (h.subset (by simp))

theorem ordersAgree_comm (hperm : es.Perm fs) :
    OrdersAgree content es fs ↔ OrdersAgree content fs es := by
  unfold OrdersAgree
  simp only [hperm.mem_iff, iff_comm]

/-- Whether orders agree depends on the spans only. -/
theorem ordersAgree_congr
    (h : ∀ i ∈ es, ∀ x ∈ es, i.Opens x → x.span content = x.span content') :
    OrdersAgree content es fs ↔ OrdersAgree content' es fs := by
  have hharmless : ∀ i ∈ es, ∀ x ∈ es, i.Opens x →
      (Harmless content i x ↔ Harmless content' i x) := fun i hi x hx hopens => by
    unfold Harmless
    rw [h i hi x hx hopens]
  unfold OrdersAgree
  exact forall₂_congr fun i hi => forall₂_congr fun x hx => forall_congr' fun hopens =>
    or_congr_right (hharmless i hi x hx hopens)

/-- The same first edit does not tell. -/
theorem ordersAgree_cons (he : e ∉ es) (hperm : es.Perm fs) :
    OrdersAgree content (e :: es) (e :: fs) ↔ OrdersAgree content es fs := by
  have he' : e ∉ fs := fun h => he (hperm.mem_iff.2 h)
  constructor
  · intro h i hi x hx hopens
    have hne : i ≠ e := fun heq => he (heq ▸ hi)
    have hpair := h i (List.mem_cons_of_mem _ hi) x (List.mem_cons_of_mem _ hx) hopens
    simpa only [pair_sublist_cons, hne, false_and, or_false] using hpair
  · intro h i hi x hx hopens
    rw [pair_sublist_cons, pair_sublist_cons, hperm.mem_iff]
    rcases List.mem_cons.1 hi with rfl | hi
    · exact .inl (by simp only [not_pair_sublist_of_left he, not_pair_sublist_of_left he'])
    · have hne : i ≠ e := fun heq => he (heq ▸ hi)
      rcases List.mem_cons.1 hx with rfl | hx
      · exact .inl (by
          simp only [not_pair_sublist_of_right he, not_pair_sublist_of_right he', hne, false_and])
      · simpa only [hne, false_and, or_false] using h i hi x hx hopens

/-- A pair in different orders tells, unless it is harmless. -/
theorem ordersAgree_pair (hnodup : (i :: x :: es).Nodup) (hperm : es.Perm fs) (hopens : i.Opens x)
    (halone : ∀ e ∈ es, ¬i.Opens e ∧ ¬e.Opens x) :
    OrdersAgree content (i :: x :: es) (x :: i :: fs) ↔
      OrdersAgree content es fs ∧ Harmless content i x := by
  have hne := hopens.ne
  have hempty := hopens.1
  have hlt := hopens.2.2
  rw [List.nodup_cons, List.mem_cons, not_or, List.nodup_cons] at hnodup
  obtain ⟨⟨-, hies⟩, hxes, -⟩ := hnodup
  have hifs : i ∉ fs := fun h => hies (hperm.mem_iff.2 h)
  constructor
  · intro h
    refine ⟨fun j hj y hy hopens' => ?_, ?_⟩
    · have hji : j ≠ i := fun heq => hies (heq ▸ hj)
      have hjx : j ≠ x := fun heq => hxes (heq ▸ hj)
      have hpair := h j (by simp [hj]) y (by simp [hy]) hopens'
      simpa only [pair_sublist_cons, hji, hjx, false_and, or_false] using hpair
    · refine (h i (by simp) x (by simp) hopens).resolve_left fun hpair => ?_
      have hfirst := hpair.1 (pair_sublist_cons.2 (.inr ⟨rfl, List.mem_cons_self⟩))
      rw [pair_sublist_cons, pair_sublist_cons, ← hperm.mem_iff] at hfirst
      rcases hfirst with (hfs | ⟨-, hmem⟩) | ⟨heq, -⟩
      · exact not_pair_sublist_of_left hifs hfs
      · exact hxes hmem
      · exact hne heq
  · rintro ⟨h, hharmless⟩ j hj y hy hopens'
    have hempty' := hopens'.1
    have hlt' := hopens'.2.2
    -- no other pair has an edit of this one in it
    rw [List.mem_cons, List.mem_cons] at hj hy
    rcases hj with rfl | rfl | hj
    · rcases hy with rfl | rfl | hy
      · omega
      · exact .inr hharmless
      · exact absurd hopens' (halone y hy).1
    · omega
    · rcases hy with rfl | rfl | hy
      · omega
      · exact absurd hopens' (halone j hj).2
      · have hji : j ≠ i := fun heq => hies (heq ▸ hj)
        have hjx : j ≠ x := fun heq => hxes (heq ▸ hj)
        simpa only [pair_sublist_cons, hji, hjx, false_and, or_false] using h j hj y hy hopens'

/-! ### What two orders come to -/

theorem nodup_of_descends (h : es.Pairwise Descends) : es.Nodup :=
  h.imp fun hab heq => hab.differ ⟨congrArg start heq, congrArg stop heq⟩

/-- What is applied after a pair lies in the bytes before it. -/
theorem Opens.spanIn_take (hopens : i.Opens x) (h : (i :: x :: es).Pairwise Descends)
    (hin : ∀ e ∈ i :: x :: es, e.SpanIn content) :
    ∀ e ∈ es, e.SpanIn (content.take x.start) := by
  intro e he
  obtain ⟨hi, h'⟩ := List.pairwise_cons.1 h
  have hle := (hin e (by simp [he])).1
  have hstop := hopens.stop_le (hi e (by simp [he])) ((List.pairwise_cons.1 h').1 e he) hle
  obtain ⟨hlex, hstopx⟩ := hin x (by simp)
  have hstart := hopens.2.1
  refine ⟨hle, ?_⟩
  rw [List.length_take]
  omega

/-- Applying a pair in both orders, when what comes after it has been compared. -/
theorem foldl_applyTo_pair (hopens : i.Opens x) (hes : (i :: x :: es).Pairwise Descends)
    (hfs : (x :: i :: fs).Pairwise Descends) (hin : ∀ e ∈ i :: x :: es, e.SpanIn content)
    (hperm : es.Perm fs)
    (hrest : es.foldl (fun c e => e.applyTo c) (content.take x.start) =
        fs.foldl (fun c e => e.applyTo c) (content.take x.start) ↔
      OrdersAgree (content.take x.start) es fs) :
    (i :: x :: es).foldl (fun c e => e.applyTo c) content =
        (x :: i :: fs).foldl (fun c e => e.applyTo c) content ↔
      OrdersAgree content (i :: x :: es) (x :: i :: fs) := by
  have hx := (hin x (by simp)).2
  have hines := hopens.spanIn_take hes hin
  have hinfs : ∀ e ∈ fs, e.SpanIn (content.take x.start) := fun e he =>
    hines e (hperm.mem_iff.2 he)
  have hbefore : ∀ e ∈ es, e.stop ≤ x.start := fun e he =>
    Nat.le_trans (hines e he).2 (List.length_take_le _ _)
  have hpair : OrdersAgree content (i :: x :: es) (x :: i :: fs) ↔
      OrdersAgree content es fs ∧ Harmless content i x :=
    ordersAgree_pair (nodup_of_descends hes) hperm hopens fun e he =>
      hopens.alone ((List.pairwise_cons.1 hes).1 e (by simp [he])) (hbefore e he)
  have hcongr : OrdersAgree content es fs ↔ OrdersAgree (content.take x.start) es fs :=
    ordersAgree_congr fun j _ y hy _ =>
      span_congr (by rw [List.take_take, Nat.min_self]) (hbefore y hy)
  simp only [List.foldl_cons]
  rw [hopens.applyTo_insertion_first hx, hopens.applyTo_span_first hx,
    foldl_applyTo_append hes.of_cons.of_cons hines, foldl_applyTo_append hfs.of_cons.of_cons hinfs,
    append_eq_append_iff_harmless, hrest, hpair, hcongr]

/-- **Edits in two orders come to the same exactly if the orders agree.** -/
theorem Reordered.foldl_applyTo_eq_iff (h : Reordered es fs) (hes : es.Pairwise Descends)
    (hfs : fs.Pairwise Descends) (hin : ∀ e ∈ es, e.SpanIn content) :
    es.foldl (fun c e => e.applyTo c) content = fs.foldl (fun c e => e.applyTo c) content ↔
      OrdersAgree content es fs := by
  induction h generalizing content with
  | nil => exact iff_of_true rfl nofun
  | @cons e es fs h ih =>
    obtain ⟨hafter, hrest⟩ := List.pairwise_cons.1 hes
    have he := hin e List.mem_cons_self
    have hin' : ∀ f ∈ es, f.SpanIn (e.applyTo content) := fun f hf =>
      (hafter f hf).spanIn_applyTo he (hin f (List.mem_cons_of_mem _ hf))
    rw [List.foldl_cons, List.foldl_cons, ih hrest (List.pairwise_cons.1 hfs).2 hin',
      ordersAgree_cons (List.nodup_cons.1 (nodup_of_descends hes)).1 h.perm]
    refine ordersAgree_congr fun i hi x hx hopens =>
      span_congr (take_applyTo (Nat.le_trans he.1 he.2)) ?_
    refine ((hafter x hx).cases he.1 (hin x (List.mem_cons_of_mem _ hx)).1).resolve_right ?_
    -- there is no second insertion at the same place
    rintro ⟨hempty, hstart, -⟩
    refine (hafter i hi).differ ?_
    have hempty' := hopens.1
    have hstart' := hopens.2.1
    unfold SameSpan
    omega
  | @delay i x es fs hopens h ih =>
    exact foldl_applyTo_pair hopens hes hfs hin h.perm
      (ih hes.of_cons.of_cons hfs.of_cons.of_cons (hopens.spanIn_take hes hin))
  | @advance i x es fs hopens h ih =>
    have hperm := (Reordered.advance hopens h).perm
    have hinfs : ∀ e ∈ i :: x :: fs, e.SpanIn content := fun e he => hin e (hperm.mem_iff.2 he)
    rw [eq_comm, ordersAgree_comm hperm]
    refine foldl_applyTo_pair hopens hfs hes hinfs h.perm.symm ?_
    rw [eq_comm, ← ordersAgree_comm h.perm]
    exact ih hes.of_cons.of_cons hfs.of_cons.of_cons fun e he =>
      hopens.spanIn_take hfs hinfs e (h.perm.mem_iff.1 he)

/-! ### Where bytes are afterwards -/

/-- The offsets in the span of an edit. -/
def offsets (e : Edit) : List Nat := List.range' e.start (e.stop - e.start)

/-- Where the byte at an offset is after edits: those that end before it have put in their texts and
taken out their spans. -/
def moved (es : List Edit) (k : Nat) : Nat :=
  k + ((es.filter fun e => e.stop ≤ k).flatMap fun e => Utf8.encode e.replacement).length -
    ((es.filter fun e => e.stop ≤ k).flatMap offsets).length

theorem moved_perm (h : es.Perm fs) (k : Nat) : moved es k = moved fs k := by
  have hfilter := h.filter fun e => e.stop ≤ k
  unfold moved
  rw [(hfilter.flatMap_right _).length_eq, (hfilter.flatMap_right _).length_eq]

/-- An edit that ends after a byte does not move it. -/
theorem moved_cons_of_lt (h : k < e.stop) : moved (e :: es) k = moved es k := by
  unfold moved
  rw [List.filter_cons_of_neg (by simpa using h)]

/-- An edit that ends before a byte moves it together with those that are applied later. -/
theorem moved_cons_of_le (hle : e.start ≤ e.stop) (hk : e.stop ≤ k) {j : Nat}
    (hj : j = k + (Utf8.encode e.replacement).length - (e.stop - e.start))
    (hes : ∀ f ∈ es, f.stop ≤ k ∧ f.stop ≤ j) : moved (e :: es) k = moved es j := by
  have hfilter : ∀ n, (∀ f ∈ es, f.stop ≤ n) → (es.filter fun f => f.stop ≤ n) = es := fun n h =>
    List.filter_eq_self.2 fun f hf => decide_eq_true (h f hf)
  unfold moved
  rw [List.filter_cons_of_pos (by simpa using hk), hfilter k fun f hf => (hes f hf).1,
    hfilter j fun f hf => (hes f hf).2, List.flatMap_cons, List.flatMap_cons, List.length_append,
    List.length_append, offsets, List.length_range']
  omega

/-- **A byte outside all spans survives**, where the edits before it have moved it. -/
theorem getElem?_foldl_applyTo (h : es.Pairwise Descends) (hin : ∀ e ∈ es, e.SpanIn content)
    (hout : ∀ e ∈ es, e.covers k = false) :
    (es.foldl (fun c e => e.applyTo c) content)[moved es k]? = content[k]? := by
  induction es generalizing content k with
  | nil => rfl
  | cons e es ih =>
    obtain ⟨hafter, hrest⟩ := List.pairwise_cons.1 h
    have he := hin e List.mem_cons_self
    have hin' : ∀ f ∈ es, f.SpanIn (e.applyTo content) := fun f hf =>
      (hafter f hf).spanIn_applyTo he (hin f (List.mem_cons_of_mem _ hf))
    have hout' : ∀ f ∈ es, f.covers k = false := fun f hf => hout f (List.mem_cons_of_mem _ hf)
    obtain ⟨hle, hstop⟩ := he
    rcases covers_eq_false_iff.1 (hout e List.mem_cons_self) with hk | hk
    · have hget : (e.applyTo content)[k]? = content[k]? := by
        rw [← List.getElem?_take_of_lt hk, take_applyTo (Nat.le_trans hle hstop),
          List.getElem?_take_of_lt hk]
      rw [List.foldl_cons, moved_cons_of_lt (by omega), ih hrest hin' hout', hget]
    · -- the edits that are applied later end before the new place of the byte
      obtain ⟨j, hj⟩ : ∃ j, j = k + (Utf8.encode e.replacement).length - (e.stop - e.start) :=
        ⟨_, rfl⟩
      have hends : ∀ f ∈ es, f.stop ≤ k ∧ f.stop ≤ j := by
        intro f hf
        have hlef := (hin f (List.mem_cons_of_mem _ hf)).1
        rcases (hafter f hf).cases hle hlef with hbefore | ⟨hempty, hstart, hlt⟩
        · omega
        · rcases covers_eq_false_iff.1 (hout' f hf) with hkf | hkf <;> omega
      have hget : (e.applyTo content)[j]? = content[k]? := by
        have hlength : (content.take e.start ++ Utf8.encode e.replacement).length =
            e.start + (Utf8.encode e.replacement).length := by
          rw [List.length_append, List.length_take_of_le (Nat.le_trans hle hstop)]
        have hplace : e.stop + (j - (e.start + (Utf8.encode e.replacement).length)) = k := by omega
        rw [applyTo, List.getElem?_append_right (by omega), hlength, List.getElem?_drop, hplace]
      have hout'' : ∀ f ∈ es, f.covers j = false := fun f hf =>
        covers_eq_false_iff.2 (.inr (hends f hf).2)
      rw [List.foldl_cons, moved_cons_of_le hle hk hj hends, ih hrest hin' hout'', hget]

/-! ### Sorting -/

/-- Edits that are sorted are applied in their order. -/
theorem applyAll_of_sorted (h : es.Pairwise fun a b => b.start ≤ a.start) :
    applyAll es content = es.foldl (fun c e => e.applyTo c) content := by
  unfold applyAll fromLast
  rw [List.mergeSort_of_pairwise (h.imp fun hab => decide_eq_true hab)]

/-- Sorting keeps the order of edits with the same start. -/
theorem filter_fromLast (es : List Edit) (k : Nat) :
    (fromLast es).filter (fun e => e.start = k) = es.filter fun e => e.start = k := by
  have hsublist : (es.filter fun e => e.start = k).Sublist (fromLast es) := by
    refine List.sublist_mergeSort (fun a b c hab hbc => ?_) (fun a b => ?_) ?_ List.filter_sublist
    · simp only [decide_eq_true_eq] at hab hbc ⊢
      omega
    · simp only [Bool.or_eq_true, decide_eq_true_eq]
      omega
    · refine List.pairwise_of_forall_mem_list fun a ha b hb => ?_
      rw [List.mem_filter, decide_eq_true_eq] at ha hb
      exact decide_eq_true (by omega)
  have hkept : ((es.filter fun e => e.start = k).filter fun e => e.start = k) =
      es.filter fun e => e.start = k := List.filter_filter.trans (by simp only [Bool.and_self])
  refine (List.Sublist.eq_of_length (hkept ▸ hsublist.filter _) ?_).symm
  exact ((List.mergeSort_perm es _).filter _).length_eq.symm

theorem pair_sublist_filter (hstart : a.start = k) (hstart' : b.start = k) :
    [a, b].Sublist (es.filter fun e => e.start = k) ↔ [a, b].Sublist es := by
  refine ⟨fun h => h.trans List.filter_sublist, fun h => ?_⟩
  have hkept := h.filter fun e => decide (e.start = k)
  rwa [List.filter_cons_of_pos (by simpa using hstart),
    List.filter_cons_of_pos (by simpa using hstart'), List.filter_nil] at hkept

/-- Sorting does not change which orders agree. -/
theorem ordersAgree_fromLast :
    OrdersAgree content (fromLast es) (fromLast fs) ↔ OrdersAgree content es fs := by
  have hmem : ∀ e, e ∈ fromLast es ↔ e ∈ es := fun e => (List.mergeSort_perm es _).mem_iff
  have hpair : ∀ {i x : Edit}, i.Opens x → ∀ gs : List Edit,
      ([i, x].Sublist (fromLast gs) ↔ [i, x].Sublist gs) := fun hopens gs => by
    rw [← pair_sublist_filter rfl hopens.2.1, filter_fromLast, pair_sublist_filter rfl hopens.2.1]
  unfold OrdersAgree
  refine forall_congr' fun i => imp_congr (hmem i) (forall_congr' fun x => imp_congr (hmem x)
    (forall_congr' fun hopens => ?_))
  rw [hpair hopens es, hpair hopens fs]

/-- Edits are apart from each other if no two of them have a byte in common or the same span. -/
def Separate (a b : Edit) : Prop := a.Disjoint b ∧ ¬a.SameSpan b

instance (a b : Edit) : Decidable (a.Separate b) :=
  inferInstanceAs (Decidable ((a.stop ≤ b.start ∨ b.stop ≤ a.start) ∧ ¬a.SameSpan b))

theorem Separate.symm (h : a.Separate b) : b.Separate a :=
  ⟨Disjoint.symm h.1, fun hsame => h.2 ⟨hsame.1.symm, hsame.2.symm⟩⟩

theorem Separate.overlaps_eq_false (h : a.Separate b) : b.overlaps a = false := by
  have hdisjoint := h.1
  unfold Disjoint at hdisjoint
  rw [overlaps, Bool.and_eq_false_iff, decide_eq_false_iff_not, decide_eq_false_iff_not]
  omega

theorem descends_fromLast (h : es.Pairwise Separate) : (fromLast es).Pairwise Descends :=
  (pairwise_fromLast Separate.symm h).imp fun hab => ⟨hab.1, hab.2.1, hab.2.2⟩

/-- **Applying edits in two orders comes to the same exactly if the orders agree.** -/
theorem applyAll_eq_iff (hperm : es.Perm fs) (h : es.Pairwise Separate)
    (hin : ∀ e ∈ es, e.SpanIn content) :
    applyAll es content = applyAll fs content ↔ OrdersAgree content es fs := by
  have hsorted : (fromLast es).Perm es := List.mergeSort_perm _ _
  have hsorted' : (fromLast fs).Perm fs := List.mergeSort_perm _ _
  have hes := descends_fromLast h
  have hfs := descends_fromLast ((hperm.pairwise_iff Separate.symm).1 h)
  have hin' : ∀ e ∈ fromLast es, e.SpanIn content := fun e he => hin e (hsorted.mem_iff.1 he)
  have hreordered := reordered_of_perm (hsorted.trans (hperm.trans hsorted'.symm)) hes hfs
    fun e he => (hin' e he).1
  rw [← ordersAgree_fromLast]
  exact hreordered.foldl_applyTo_eq_iff hes hfs hin'

/-- Applying edits keeps each byte outside their spans. -/
theorem getElem?_applyAll (h : es.Pairwise Separate) (hin : ∀ e ∈ es, e.SpanIn content)
    (hout : ∀ e ∈ es, e.covers k = false) : (applyAll es content)[moved es k]? = content[k]? := by
  have hsorted : (fromLast es).Perm es := List.mergeSort_perm _ _
  rw [← moved_perm hsorted]
  exact getElem?_foldl_applyTo (descends_fromLast h) (fun e he => hin e (hsorted.mem_iff.1 he))
    fun e he => hout e (hsorted.mem_iff.1 he)

end Edit

/-! ### Staging -/

variable {s t : Source} {es fs : List Edit} {k : Nat}

/-- Staging edits with different spans after some that are staged. -/
theorem Source.stageAfter_eq_some_iff {before : List Edit} (hbefore : before.Pairwise Edit.Separate)
    (hdiffer : (before ++ es).Pairwise fun a b => ¬a.SameSpan b) :
    es.foldlM Source.stage? { s with staged := before } = some t ↔
      (before ++ es).Pairwise Edit.Separate ∧ t = { s with staged := before ++ es } := by
  induction es generalizing before with
  | nil =>
    rw [List.append_nil, List.foldlM_nil, Option.pure_def, Option.some_inj, eq_comm]
    exact ⟨fun h => ⟨hbefore, h⟩, And.right⟩
  | cons e es ih =>
    have hdiffer' : ∀ x ∈ before, ¬x.SameSpan e := fun x hx =>
      (List.pairwise_append.1 hdiffer).2.2 x hx e List.mem_cons_self
    have hnot : before.contains e = false :=
      Bool.eq_false_iff.2 fun hmem => hdiffer' e (List.contains_iff_mem.1 hmem) ⟨rfl, rfl⟩
    rw [List.append_cons] at hdiffer ⊢
    rw [List.foldlM_cons, stage?, if_neg (Bool.eq_false_iff.1 hnot)]
    by_cases hany : before.any e.overlaps = true
    · -- an edit that overlaps one of those before it is refused
      rw [if_pos hany]
      obtain ⟨x, hx, hoverlaps⟩ := List.any_eq_true.1 hany
      refine iff_of_false nofun fun h => ?_
      have hseparate : x.Separate e :=
        (List.pairwise_append.1 (List.pairwise_append.1 h.1).1).2.2 x hx e List.mem_cons_self
      rw [hseparate.overlaps_eq_false] at hoverlaps
      cases hoverlaps
    · rw [if_neg hany]
      refine ih (List.pairwise_append.2 ⟨hbefore, List.pairwise_singleton _ _, ?_⟩) hdiffer
      intro x hx y hy
      rw [List.mem_singleton.1 hy]
      have hoverlaps := Bool.eq_false_iff.2 fun hx' => hany (List.any_eq_true.2 ⟨x, hx, hx'⟩)
      exact ⟨Edit.disjoint_of_overlaps hoverlaps, hdiffer' x hx⟩

/-- **Edits with different spans are all accepted exactly if no two of them have a byte in common.**
They are staged in their order then. -/
theorem Source.stageAll_eq_some_iff (hnone : s.staged = [])
    (hdiffer : es.Pairwise fun a b => ¬a.SameSpan b) :
    es.foldlM Source.stage? s = some t ↔
      es.Pairwise Edit.Separate ∧ t = { s with staged := es } := by
  have hself : s = { s with staged := [] } := by rw [← hnone]
  rw [hself]
  exact stageAfter_eq_some_iff .nil hdiffer

/-- **Staging edits in two orders and applying them.**  Let edits with different spans, insertions
included, be staged one after another, and let all of them be accepted.  Then they are accepted in any
other order as well.  Applying them comes to the same bytes exactly if the orders agree: an insertion
where the span of another edit starts is staged before this edit in both orders or in neither, unless
it may as well be made first.  In both orders each byte outside all spans survives, where the edits
before it have moved it. -/
theorem stage_in_two_orders (parse : Parser) (hnone : s.staged = []) (hperm : es.Perm fs)
    (hin : ∀ e ∈ es, e.SpanIn s.content) (hdiffer : es.Pairwise fun a b => ¬a.SameSpan b)
    {s₁ : Source} (hes : es.foldlM Source.stage? s = some s₁) :
    ∃ s₂, fs.foldlM Source.stage? s = some s₂ ∧
      ((s₁.apply parse).content = (s₂.apply parse).content ↔
        Edit.OrdersAgree s.content es fs) ∧
      ∀ k < s.content.length, (∀ e ∈ es, e.covers k = false) →
        (s₁.apply parse).content[Edit.moved es k]? = s.content[k]? ∧
        (s₂.apply parse).content[Edit.moved es k]? = s.content[k]? := by
  have hdiffer' : fs.Pairwise fun a b => ¬a.SameSpan b :=
    (hperm.pairwise_iff fun hab hsame => hab ⟨hsame.1.symm, hsame.2.symm⟩).1 hdiffer
  have hin' : ∀ e ∈ fs, e.SpanIn s.content := fun e he => hin e (hperm.mem_iff.2 he)
  obtain ⟨hseparate, rfl⟩ := (Source.stageAll_eq_some_iff hnone hdiffer).1 hes
  have hseparate' := (hperm.pairwise_iff Edit.Separate.symm).1 hseparate
  refine ⟨_, (Source.stageAll_eq_some_iff hnone hdiffer').2 ⟨hseparate', rfl⟩, ?_⟩
  rw [(apply_staged_content parse _).2.2, (apply_staged_content parse _).2.2]
  refine ⟨Edit.applyAll_eq_iff hperm hseparate hin, fun k _ hout => ⟨?_, ?_⟩⟩
  · exact Edit.getElem?_applyAll hseparate hin hout
  · rw [Edit.moved_perm hperm]
    exact Edit.getElem?_applyAll hseparate' hin' fun e he => hout e (hperm.mem_iff.2 he)

/-! ### An insertion where a span starts -/

namespace Opening

/-- A file with four letters. -/
def source : Source := .ofContent Module.parse Sole.path .typescript (Utf8.encode "abcd")

/-- An insertion. -/
def insertion : Edit := ⟨1, 1, "x"⟩

/-- The edit of a span that starts there. -/
def replacement : Edit := ⟨1, 3, "Y"⟩

/-- The pair between two edits that touch it: one inserts where the span ends, the other one takes
out the letter before it. -/
def sorted : List Edit := [⟨3, 3, "z"⟩, replacement, insertion, ⟨0, 1, ""⟩]

/-- The same edits in another order, in which the insertion still comes after the edit of the span. -/
def unsorted : List Edit := [⟨0, 1, ""⟩, replacement, ⟨3, 3, "z"⟩, insertion]

/-- The file with staged edits. -/
def staging (staged : List Edit) : Source := { source with staged }

theorem staged {es : List Edit} (h : es.Pairwise Edit.Separate) :
    es.foldlM Source.stage? source = some (staging es) :=
  (Source.stageAll_eq_some_iff rfl (h.imp And.right)).2 ⟨h, rfl⟩

theorem content_apply {es : List Edit} (h : es.Pairwise fun a b => b.start ≤ a.start) :
    ((staging es).apply Module.parse).content =
      es.foldl (fun c e => e.applyTo c) source.content :=
  (apply_staged_content _ _).2.2.trans (Edit.applyAll_of_sorted h)

end Opening

open Opening in
/-- Two orders that agree, for an insertion where a span starts: it ends up before the replacement,
and the letter after the span is still there. -/
theorem stage_in_two_orders_opening :
    insertion.Opens replacement ∧ unsorted.Perm sorted ∧
    (∀ e ∈ unsorted, e.SpanIn source.content) ∧ (unsorted.Pairwise fun a b => ¬a.SameSpan b) ∧
    unsorted.foldlM Source.stage? source = some (staging unsorted) ∧
    sorted.foldlM Source.stage? source = some (staging sorted) ∧
    ((staging unsorted).apply Module.parse).content = Utf8.encode "xYzd" ∧
    ((staging sorted).apply Module.parse).content = Utf8.encode "xYzd" ∧
    ((staging unsorted).apply Module.parse).content[3]? = source.content[3]? := by
  have hperm : unsorted.Perm sorted := by decide
  have hin : ∀ e ∈ unsorted, e.SpanIn source.content := by decide
  have hdiffer : unsorted.Pairwise fun a b => ¬a.SameSpan b := by decide
  have hes : unsorted.foldlM Source.stage? source = some (staging unsorted) := staged (by decide)
  have hfs : sorted.foldlM Source.stage? source = some (staging sorted) := staged (by decide)
  obtain ⟨s₂, hs₂, hiff, hout⟩ := stage_in_two_orders Module.parse rfl hperm hin hdiffer hes
  obtain rfl : staging sorted = s₂ := Option.some.inj (hfs.symm.trans hs₂)
  have hsorted : ((staging sorted).apply Module.parse).content = Utf8.encode "xYzd" :=
    (content_apply (by decide)).trans (by decide)
  have hlast := (hout 3 (by decide) (by decide)).1
  rw [show Edit.moved unsorted 3 = 3 by decide] at hlast
  exact ⟨by decide, hperm, hin, hdiffer, hes, hs₂, (hiff.2 (by decide)).trans hsorted, hsorted,
    hlast⟩

open Opening in
/-- Staged in two orders, an insertion and the edit of the span that starts there come to different
bytes: either the insertion stands before the replacement, or it is lost and a letter of the span is
left. -/
theorem stage_in_two_orders_differs :
    [insertion, replacement].Perm [replacement, insertion] ∧
    (∀ e ∈ [insertion, replacement], e.SpanIn source.content) ∧ ¬insertion.SameSpan replacement ∧
    [insertion, replacement].foldlM Source.stage? source =
      some (staging [insertion, replacement]) ∧
    [replacement, insertion].foldlM Source.stage? source =
      some (staging [replacement, insertion]) ∧
    ((staging [insertion, replacement]).apply Module.parse).content = Utf8.encode "aYcd" ∧
    ((staging [replacement, insertion]).apply Module.parse).content = Utf8.encode "axYd" :=
  ⟨by decide, by decide, by decide, staged (by decide), staged (by decide),
    (content_apply (by decide)).trans (by decide),
    (content_apply (by decide)).trans (by decide)⟩

end RouteLint
