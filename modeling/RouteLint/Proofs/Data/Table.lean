import RouteLint.Data.Table
import RouteLint.Proofs.Data.Once

/-!
# Tables under maps of their values

Changing the values of a table and leaving its keys alone commutes with everything that is done to
tables.  Besides, a table in which no key stands twice is read off by its keys: what is listed as a
value is what some key gives.  Entries that are written one after the other leave their keys in the
order in which they first came, each with the value that it was given last.

## Main definitions

* `Table.mapValues` — a table with every value changed.
* `Table.Distinct` — no key stands twice.
* `Table.last?` — the last value that a list of entries gives a key.
* `Table.Overlays` — one table written over another.
-/

namespace RouteLint.Table

variable {κ α β : Type}

/-! ### Changing values -/

/-- The table with every value changed. -/
def mapValues (f : α → β) (t : Table κ α) : Table κ β := t.map fun e => (e.1, f e.2)

@[simp] theorem mapValues_nil (f : α → β) : mapValues f ([] : Table κ α) = [] := rfl

@[simp] theorem mapValues_cons (f : α → β) (k : κ) (v : α) (t : Table κ α) :
    mapValues f ((k, v) :: t) = (k, f v) :: mapValues f t := rfl

@[simp] theorem mapValues_eq_nil {f : α → β} {t : Table κ α} : mapValues f t = [] ↔ t = [] :=
  List.map_eq_nil_iff

@[simp] theorem values_mapValues (f : α → β) (t : Table κ α) :
    (mapValues f t).values = t.values.map f := by
  simp [values, mapValues]

/-- A fold that writes into a table, one step for each element of a list. -/
theorem mapValues_foldl {ι ι' : Type} (f : α → β) (φ : ι → ι')
    (step : Table κ α → ι → Table κ α) (step' : Table κ β → ι' → Table κ β)
    (h : ∀ t i, mapValues f (step t i) = step' (mapValues f t) (φ i)) (is : List ι)
    (t : Table κ α) :
    mapValues f (is.foldl step t) = (is.map φ).foldl step' (mapValues f t) := by
  induction is generalizing t with
  | nil => rfl
  | cons i is ih => rw [List.foldl_cons, ih, h, List.map_cons, List.foldl_cons]

/-- No key stands twice. -/
def Distinct (t : Table κ α) : Prop := t.keys.Nodup

theorem distinct_nil : Distinct ([] : Table κ α) := List.nodup_nil

theorem mem_keys_of_mem {t : Table κ α} {x : κ} {v : α} (h : (x, v) ∈ t) : x ∈ t.keys :=
  List.mem_map.2 ⟨(x, v), h, rfl⟩

variable [DecidableEq κ]

@[simp] theorem get?_mapValues (f : α → β) (t : Table κ α) (x : κ) :
    (mapValues f t).get? x = (t.get? x).map f := by
  induction t with
  | nil => rfl
  | cons e t ih =>
    obtain ⟨k, v⟩ := e
    by_cases h : k = x
    · simp [get?_cons, h]
    · simp [get?_cons, h, ih]

@[simp] theorem contains_mapValues (f : α → β) (t : Table κ α) (x : κ) :
    (mapValues f t).contains x = t.contains x := by
  rw [contains, get?_mapValues, Option.isSome_map, contains]

theorem mapValues_set (f : α → β) (t : Table κ α) (x : κ) (v : α) :
    mapValues f (t.set x v) = (mapValues f t).set x (f v) := by
  induction t with
  | nil => rfl
  | cons e t ih =>
    obtain ⟨k, w⟩ := e
    by_cases h : k = x
    · simp [set, h]
    · simp [set, h, ih]

theorem mapValues_setDefault (f : α → β) (t : Table κ α) (x : κ) (v : α) :
    mapValues f (t.setDefault x v) = (mapValues f t).setDefault x (f v) := by
  unfold setDefault
  rw [contains_mapValues]
  split
  · rfl
  · rw [mapValues_set]

theorem mapValues_merge (f : α → β) (t u : Table κ α) :
    mapValues f (t.merge u) = (mapValues f t).merge (mapValues f u) := by
  unfold merge
  exact mapValues_foldl f (fun e : κ × α => (e.1, f e.2)) (fun t e => set t e.1 e.2)
    (fun t e => set t e.1 e.2) (fun t e => mapValues_set f t e.1 e.2) u t

theorem mapValues_append (f : α → β) (t : Table κ (List α)) (x : κ) (v : α) :
    mapValues (List.map f) (t.append x v) = (mapValues (List.map f) t).append x (f v) := by
  unfold append
  rw [mapValues_set, get?_mapValues]
  cases t.get? x <;> simp

@[simp] theorem list_mapValues (f : α → β) (t : Table κ (List α)) (x : κ) :
    (mapValues (List.map f) t).list x = (t.list x).map f := by
  unfold list
  rw [get?_mapValues]
  cases t.get? x <;> rfl

/-! ### Tables without repeated keys -/

theorem Distinct.set {t : Table κ α} (h : t.Distinct) (x : κ) (v : α) : (t.set x v).Distinct := by
  unfold Distinct at h ⊢
  rw [keys_set]
  split
  · exact h
  · next hx =>
    rw [List.nodup_append]
    refine ⟨h, by simp, ?_⟩
    intro a ha b hb hab
    rw [List.mem_singleton] at hb
    exact hx (hb ▸ hab ▸ ha)

theorem Distinct.setDefault {t : Table κ α} (h : t.Distinct) (x : κ) (v : α) :
    (t.setDefault x v).Distinct := by
  unfold Table.setDefault
  split
  · exact h
  · exact h.set x v

omit [DecidableEq κ] in
theorem Distinct.filter {t : Table κ α} (h : t.Distinct) (p : κ × α → Bool) :
    Distinct (List.filter p t) :=
  h.sublist (List.filter_sublist.map _)

/-- Writing what is there changes nothing. -/
theorem set_eq_self {t : Table κ α} {x : κ} {v : α} (h : t.get? x = some v) : t.set x v = t := by
  induction t with
  | nil => cases h
  | cons e t ih =>
    obtain ⟨k, w⟩ := e
    rw [get?_cons] at h
    by_cases hk : k = x
    · rw [if_pos hk] at h
      cases h
      rw [Table.set, if_pos hk]
    · rw [if_neg hk] at h
      rw [Table.set, if_neg hk, ih h]

/-- What is not there is written at the end. -/
theorem set_eq_append {t : Table κ α} {x : κ} (h : t.get? x = none) (v : α) :
    t.set x v = t ++ [(x, v)] := by
  induction t with
  | nil => rfl
  | cons e t ih =>
    obtain ⟨k, w⟩ := e
    rw [get?_cons] at h
    by_cases hk : k = x
    · rw [if_pos hk] at h
      cases h
    · rw [if_neg hk] at h
      rw [Table.set, if_neg hk, ih h, List.cons_append]

theorem mem_of_get? {t : Table κ α} {x : κ} {v : α} (h : t.get? x = some v) : (x, v) ∈ t := by
  induction t with
  | nil => simp at h
  | cons e t ih =>
    obtain ⟨k, w⟩ := e
    rw [get?_cons] at h
    split at h
    · next hk =>
      cases h
      simp [hk]
    · exact List.mem_cons_of_mem _ (ih h)

theorem Distinct.get?_of_mem {t : Table κ α} (ht : t.Distinct) {x : κ} {v : α}
    (h : (x, v) ∈ t) : t.get? x = some v := by
  induction t with
  | nil => simp at h
  | cons e t ih =>
    obtain ⟨k, w⟩ := e
    have hk : k ∉ Table.keys t ∧ (Table.keys t).Nodup := List.nodup_cons.1 ht
    rw [get?_cons]
    rcases List.mem_cons.1 h with h | h
    · cases h
      simp
    · have hkx : k ≠ x := fun hkx => hk.1 (hkx ▸ mem_keys_of_mem h)
      rw [if_neg hkx]
      exact ih hk.2 h

/-- In a table without repeated keys the values are what the keys give. -/
theorem Distinct.mem_values {t : Table κ α} (ht : t.Distinct) {v : α} :
    v ∈ t.values ↔ ∃ x, t.get? x = some v := by
  constructor
  · intro h
    obtain ⟨e, he, rfl⟩ := List.mem_map.1 h
    exact ⟨e.1, ht.get?_of_mem he⟩
  · rintro ⟨x, hx⟩
    exact List.mem_map.2 ⟨(x, v), mem_of_get? hx, rfl⟩

/-! ### Writing several entries -/

/-- The last value that a list of entries gives a key. -/
def last? (u : List (κ × α)) (x : κ) : Option α :=
  ((u.filter fun e => e.1 = x).getLast?).map Prod.snd

theorem last?_cons (e : κ × α) (u : List (κ × α)) (x : κ) :
    last? (e :: u) x = (last? u x).or (if e.1 = x then some e.2 else none) := by
  unfold last?
  by_cases hx : e.1 = x
  · rw [List.filter_cons_of_pos (by simpa using hx), List.getLast?_cons, if_pos hx]
    cases (u.filter fun e => e.1 = x).getLast? <;> rfl
  · rw [List.filter_cons_of_neg (by simpa using hx), if_neg hx, Option.or_none]

theorem mem_of_last? {u : List (κ × α)} {x : κ} {v : α} (h : last? u x = some v) :
    (x, v) ∈ u := by
  obtain ⟨e, he, rfl⟩ := Option.map_eq_some_iff.1 h
  obtain ⟨hmem, hx⟩ := List.mem_filter.1 (List.mem_of_getLast? he)
  exact of_decide_eq_true hx ▸ hmem

/-- The last value that a list of entries gives a key is that of an entry with the key, after which
the key does not come again. -/
theorem last?_of_split {u before after : List (κ × α)} {x : κ} {v : α}
    (hu : u = before ++ (x, v) :: after) (hafter : ∀ e ∈ after, e.1 ≠ x) : last? u x = some v := by
  have hnone : (after.filter fun e => e.1 = x) = [] :=
    List.filter_eq_nil_iff.2 fun e he => by simpa using hafter e he
  have hfilter : (u.filter fun e => e.1 = x) = (before.filter fun e => e.1 = x) ++ [(x, v)] := by
    rw [hu, List.filter_append, List.filter_cons_of_pos (by simp), hnone]
  rw [last?, hfilter, List.getLast?_append]
  rfl

theorem last?_eq_none {u : List (κ × α)} {x : κ} (h : ∀ e ∈ u, e.1 ≠ x) : last? u x = none := by
  rw [last?, List.filter_eq_nil_iff.2 fun e he => by simpa using h e he]
  rfl

/-- After writing entries one by one a key has the last value it was given. -/
theorem get?_merge (t u : Table κ α) (x : κ) :
    (t.merge u).get? x = (last? u x).or (t.get? x) := by
  induction u generalizing t with
  | nil => rfl
  | cons e u ih =>
    have hset : (t.set e.1 e.2).get? x =
        (if e.1 = x then some e.2 else none).or (t.get? x) := by
      by_cases hx : e.1 = x
      · rw [← hx, get?_set_self, if_pos rfl, Option.some_or]
      · rw [get?_set_of_ne _ _ hx, if_neg hx, Option.none_or]
    show ((t.set e.1 e.2).merge u).get? x = _
    rw [ih, hset, last?_cons, Option.or_assoc]

/-- Keys stand in the order in which they were first given. -/
theorem keys_merge (t u : Table κ α) :
    (t.merge u).keys = (u.map Prod.fst).foldl putOnce t.keys := by
  induction u generalizing t with
  | nil => rfl
  | cons e u ih =>
    have hset : (t.set e.1 e.2).keys = putOnce t.keys e.1 := by
      rw [keys_set, putOnce]
      simp only [List.contains_iff_mem]
    show ((t.set e.1 e.2).merge u).keys = _
    rw [ih, hset, List.map_cons, List.foldl_cons]

/-- A table without repeated keys is read off by its keys. -/
theorem Distinct.flatMap_eq {β : Type} {t : Table κ α} (h : t.Distinct)
    (f : κ × α → List β) :
    t.flatMap f = t.keys.flatMap fun x => ((t.get? x).map fun v => f (x, v)).getD [] := by
  unfold keys
  rw [List.flatMap_map]
  refine List.flatMap_congr fun e he => ?_
  obtain ⟨k, v⟩ := e
  rw [h.get?_of_mem he]
  rfl

theorem distinct_merge {t : Table κ α} (h : t.Distinct) (u : Table κ α) :
    (t.merge u).Distinct := by
  induction u generalizing t with
  | nil => exact h
  | cons e u ih => exact ih (h.set e.1 e.2)

/-- Tables without repeated keys are told apart by their keys and what they give. -/
theorem Distinct.ext {t u : Table κ α} (ht : t.Distinct) (hu : u.Distinct)
    (hkeys : t.keys = u.keys) (hget : ∀ x, t.get? x = u.get? x) : t = u := by
  have hself : ∀ s : Table κ α, (s.flatMap fun e => [e]) = s := by simp
  rw [← hself t, ← hself u, ht.flatMap_eq, hu.flatMap_eq, hkeys]
  exact List.flatMap_congr fun x _ => by rw [hget]

theorem get?_eq_none {t : Table κ α} {x : κ} (h : x ∉ t.keys) : t.get? x = none := by
  cases hx : t.get? x with
  | none => rfl
  | some v => exact absurd (mem_keys_of_mem (mem_of_get? hx)) h

theorem Distinct.last?_eq {t : Table κ α} (h : t.Distinct) (x : κ) : last? t x = t.get? x := by
  induction t with
  | nil => rfl
  | cons e t ih =>
    obtain ⟨k, v⟩ := e
    obtain ⟨hk, ht⟩ : k ∉ Table.keys t ∧ (Table.keys t).Nodup := List.nodup_cons.1 h
    rw [last?_cons, ih ht, get?_cons]
    by_cases hx : k = x
    · subst hx
      rw [get?_eq_none hk]
      simp
    · simp [hx]

/-- One table written over another: the keys of the lower one first, in their order, then what the
upper one adds; where both have a key the upper one gives its value, in the place of the lower. -/
structure Overlays (lower upper t : Table κ α) : Prop where
  keys : t.keys = lower.keys ++ upper.keys.filter fun k => !lower.keys.contains k
  get? : ∀ k, t.get? k = (upper.get? k).or (lower.get? k)
  distinct : t.Distinct

theorem Distinct.overlays_merge {lower upper : Table κ α} (hlower : lower.Distinct)
    (hupper : upper.Distinct) : Overlays lower upper (lower.merge upper) where
  keys := (keys_merge lower upper).trans (foldl_putOnce_eq hupper lower.keys)
  get? k := by rw [get?_merge, hupper.last?_eq]
  distinct := distinct_merge hlower upper

theorem Distinct.overlays_nil {upper : Table κ α} (hupper : upper.Distinct) :
    Overlays [] upper upper where
  keys := by simp [Table.keys]
  get? k := by rw [get?_nil, Option.or_none]
  distinct := hupper

/-- Adding to the lists under keys. -/
theorem list_append (t : Table κ (List α)) (k x : κ) (v : α) :
    (t.append k v).list x = t.list x ++ if k = x then [v] else [] := by
  unfold append list
  by_cases hk : k = x
  · rw [← hk, get?_set_self, if_pos rfl]
    rfl
  · rw [get?_set_of_ne _ _ hk, if_neg hk, List.append_nil]

/-! ### Which keys there are -/

theorem contains_cons {e : κ × α} {t : Table κ α} {x : κ} :
    contains (e :: t) x = true ↔ e.1 = x ∨ contains t x = true := by
  obtain ⟨k, v⟩ := e
  unfold contains
  rw [get?_cons]
  split
  · next hk => simp [hk]
  · next hk => simp [hk]

theorem contains_iff_mem_keys {t : Table κ α} {x : κ} : t.contains x = true ↔ x ∈ t.keys := by
  induction t with
  | nil => simp [contains, keys]
  | cons e t ih => rw [contains_cons, ih, keys, keys, List.map_cons, List.mem_cons, eq_comm]

theorem contains_set {t : Table κ α} {x y : κ} {v : α} :
    (t.set x v).contains y = true ↔ x = y ∨ t.contains y = true := by
  unfold contains
  by_cases hxy : x = y
  · rw [← hxy, get?_set_self]
    simp
  · rw [get?_set_of_ne _ _ hxy, or_iff_right hxy]

theorem contains_setDefault {t : Table κ α} {x y : κ} {v : α} :
    (t.setDefault x v).contains y = true ↔ x = y ∨ t.contains y = true := by
  unfold setDefault
  split
  · next hx =>
    refine ⟨.inr, fun h => ?_⟩
    rcases h with rfl | h
    · exact hx
    · exact h
  · exact contains_set

theorem get?_setDefault (t : Table κ α) (x y : κ) (v : α) :
    (t.setDefault x v).get? y = (t.get? y).or (if x = y then some v else none) := by
  unfold setDefault contains
  by_cases hxy : x = y
  · subst hxy
    cases hx : t.get? x with
    | some w => simp [hx]
    | none => simp
  · rw [if_neg hxy, Option.or_none]
    split
    · rfl
    · exact get?_set_of_ne t v hxy

/-- Entries that are given as defaults, one after the other, leave what was there as it was. -/
theorem get?_setDefaults (t u : Table κ α) (x : κ) :
    get? (u.foldl (fun t e => t.setDefault e.1 e.2) t) x = (t.get? x).or (u.get? x) := by
  induction u generalizing t with
  | nil => exact Option.or_none.symm
  | cons e u ih =>
    obtain ⟨k, v⟩ := e
    rw [List.foldl_cons, ih, get?_setDefault, Option.or_assoc, get?_cons]
    congr 1
    split <;> rfl

theorem mem_of_mem_set {t : Table κ α} {x : κ} {v : α} {e : κ × α} (h : e ∈ t.set x v) :
    e = (x, v) ∨ e ∈ t := by
  induction t with
  | nil => exact .inl (List.mem_singleton.1 h)
  | cons d t ih =>
    obtain ⟨k, w⟩ := d
    rw [Table.set] at h
    split at h
    · next hk =>
      rcases List.mem_cons.1 h with h | h
      · exact .inl (hk ▸ h)
      · exact .inr (List.mem_cons_of_mem _ h)
    · rcases List.mem_cons.1 h with h | h
      · exact .inr (h ▸ List.mem_cons_self)
      · exact (ih h).imp_right (List.mem_cons_of_mem _)

/-! ### Lists under keys -/

/-- Put values at the ends of the lists under their keys, one after the other. -/
def collect (key : α → κ) (t : Table κ (List α)) (l : List α) : Table κ (List α) :=
  l.foldl (fun t v => t.append (key v) v) t

/-- Values that are put under their keys stand there in order. -/
theorem list_collect (key : α → κ) (t : Table κ (List α)) (l : List α) (x : κ) :
    (t.collect key l).list x = t.list x ++ l.filter fun v => key v = x := by
  induction l generalizing t with
  | nil => exact (List.append_nil _).symm
  | cons v l ih =>
    show ((t.append (key v) v).collect key l).list x = _
    rw [ih, list_append, List.append_assoc]
    by_cases hx : key v = x
    · rw [if_pos hx, List.filter_cons_of_pos (by simpa using hx)]
      rfl
    · rw [if_neg hx, List.filter_cons_of_neg (by simpa using hx)]
      rfl

/-- A key has a list as soon as a value is put under it. -/
theorem contains_collect {key : α → κ} {t : Table κ (List α)} {l : List α} {x : κ} :
    (t.collect key l).contains x = true ↔ t.contains x = true ∨ ∃ v ∈ l, key v = x := by
  induction l generalizing t with
  | nil => simp [collect]
  | cons v l ih =>
    show ((t.append (key v) v).collect key l).contains x = true ↔ _
    rw [ih, append, contains_set, List.exists_mem_cons_iff, or_assoc, or_left_comm]

theorem get?_of_contains {t : Table κ (List α)} {x : κ} (h : t.contains x = true) :
    t.get? x = some (t.list x) := by
  obtain ⟨l, hl⟩ := Option.isSome_iff_exists.1 h
  rw [list, hl, Option.getD_some]

/-- Values that are put under their keys in an empty table. -/
theorem get?_collect_nil (key : α → κ) (l : List α) (x : κ) :
    Table.get? (collect key [] l) x =
      if (l.filter fun v => key v = x) = [] then none else some (l.filter fun v => key v = x) := by
  have hcontains : Table.contains (collect key [] l) x = true ↔
      (l.filter fun v => key v = x) ≠ [] := by
    rw [contains_collect]
    simp [contains]
  split
  · next hnil =>
    rw [← Option.not_isSome_iff_eq_none]
    exact fun h => hcontains.1 h hnil
  · next hne =>
    rw [get?_of_contains (hcontains.2 hne), list_collect]
    rfl

end RouteLint.Table
