import RouteLint.Proofs.Json.Documents

/-!
# Commas before closing brackets

A comma is put before the closing bracket of one object or array of a document, which is not empty,
with blanks and comments around it.  If that is an object, or an array with one item, the document
denotes what it did before.  If it is an array with more items, the document has no structure any
more, wherever in the document the array stands.

That a text is not read needs another argument than that it is: the reader takes a value off the
front in only one way, however many steps it may take, so it gets to the comma and stops there.

## Main definitions

* `ValueGains`, `ItemsGain`, `FieldsGain`, `DocumentGains` — texts before and after.
* `FoundIn` — what the reader finds in some steps, it finds in others.

## Main results

* `ValueGains.isValue` — what a value denotes stays as it was, unless the array is long.
* `value_det` — a value is taken off the front in one way.
* `ValueGains.value_eq_none` — nothing is taken off the front if the array is long.
* `readChars_comma` — **what becomes of a document.**
-/

namespace RouteLint.Json

/-! ### Putting a comma before a closing bracket -/

mutual

/-- A value before and after a comma is put before the closing bracket of one of the objects and
arrays in it; `long` says whether that is an array with more than one item. -/
inductive ValueGains (long : Bool) : List Char → List Char → Value → Prop
  /-- The value is that array. -/
  | array {cs g g' : List Char} {vs : List Value} (h : IsItems cs vs)
    (hlong : long = decide (1 < vs.length)) (hg : Gap g) (hg' : Gap g') :
    ValueGains long ('[' :: (cs ++ [']'])) ('[' :: (cs ++ (g ++ ',' :: (g' ++ [']'])))) (.array vs)
  /-- The value is that object. -/
  | object {cs g g' : List Char} {fs : List (CodePoints × Value)} {t : Table CodePoints Value}
    (h : IsFields cs fs) (ht : Collects fs t) (hlong : long = false) (hg : Gap g) (hg' : Gap g') :
    ValueGains long ('\x7b' :: (cs ++ ['\x7d'])) ('\x7b' :: (cs ++ (g ++ ',' :: (g' ++ ['\x7d']))))
      (.object t)
  /-- The comma is in the only item of an array. -/
  | onlyItem {l cs cs' r s : List Char} {v : Value} (hl : Gap l) (h : ValueGains long cs cs' v)
    (hr : Gap r) (hs : IsStray s) : ValueGains long ('[' :: (l ++ cs ++ r ++ s ++ [']']))
      ('[' :: (l ++ cs' ++ r ++ s ++ [']'])) (.array [v])
  /-- The comma is in an item of an array. -/
  | item {cs cs' : List Char} {vs : List Value} (h : ItemsGain long cs cs' vs) :
    ValueGains long ('[' :: (cs ++ [']'])) ('[' :: (cs' ++ [']'])) (.array vs)
  /-- The comma is in a field of an object. -/
  | field {cs cs' s : List Char} {fs : List (CodePoints × Value)} {t : Table CodePoints Value}
    (h : FieldsGain long cs cs' fs) (hs : IsStray s) (ht : Collects fs t) :
    ValueGains long ('\x7b' :: (cs ++ s ++ ['\x7d'])) ('\x7b' :: (cs' ++ s ++ ['\x7d']))
      (.object t)

/-- The items of an array before and after a comma is put into one of them. -/
inductive ItemsGain (long : Bool) : List Char → List Char → List Value → Prop
  | one {l cs cs' r : List Char} {v : Value} (hl : Gap l) (h : ValueGains long cs cs' v)
    (hr : Gap r) : ItemsGain long (l ++ cs ++ r) (l ++ cs' ++ r) [v]
  | first {l cs cs' r rest : List Char} {v : Value} {vs : List Value} (hl : Gap l)
    (h : ValueGains long cs cs' v) (hr : Gap r) (hrest : IsItems rest vs) :
    ItemsGain long (l ++ cs ++ r ++ ',' :: rest) (l ++ cs' ++ r ++ ',' :: rest) (v :: vs)
  | later {l cs r rest rest' : List Char} {v : Value} {vs : List Value} (hl : Gap l)
    (h : IsValue cs v) (hr : Gap r) (hrest : ItemsGain long rest rest' vs) :
    ItemsGain long (l ++ cs ++ r ++ ',' :: rest) (l ++ cs ++ r ++ ',' :: rest') (v :: vs)

/-- The fields of an object before and after a comma is put into the value of one of them. -/
inductive FieldsGain (long : Bool) : List Char → List Char → List (CodePoints × Value) → Prop
  | one {l f f' r : List Char} {k : CodePoints} {v : Value} (hl : Gap l)
    (h : FieldGains long f f' k v) (hr : Gap r) : FieldsGain long (l ++ f ++ r) (l ++ f' ++ r) [(k, v)]
  | first {l f f' r rest : List Char} {k : CodePoints} {v : Value}
    {fs : List (CodePoints × Value)} (hl : Gap l) (h : FieldGains long f f' k v) (hr : Gap r)
    (hrest : IsFields rest fs) :
    FieldsGain long (l ++ f ++ r ++ ',' :: rest) (l ++ f' ++ r ++ ',' :: rest) ((k, v) :: fs)
  | later {l f r rest rest' : List Char} {k : CodePoints} {v : Value}
    {fs : List (CodePoints × Value)} (hl : Gap l) (h : IsField f k v) (hr : Gap r)
    (hrest : FieldsGain long rest rest' fs) :
    FieldsGain long (l ++ f ++ r ++ ',' :: rest) (l ++ f ++ r ++ ',' :: rest') ((k, v) :: fs)

/-- A field before and after a comma is put into its value. -/
inductive FieldGains (long : Bool) : List Char → List Char → CodePoints → Value → Prop
  | mk {key l r cs cs' : List Char} {k : CodePoints} {v : Value} (hk : IsText key k) (hl : Gap l)
    (hr : Gap r) (h : ValueGains long cs cs' v) :
    FieldGains long (key ++ l ++ ':' :: (r ++ cs)) (key ++ l ++ ':' :: (r ++ cs')) k v

end

mutual

/-- Before the comma is put there, a value is written in the grammar. -/
theorem ValueGains.isValue_before {long : Bool} : ∀ {w w' : List Char} {v : Value},
    ValueGains long w w' v → IsValue w v
  | _, _, _, .array h _ _ _ => .array h
  | _, _, _, @ValueGains.object _ cs _ _ _ _ h ht _ _ _ => by
    have hvalue := IsValue.object h .none ht
    rwa [List.append_nil] at hvalue
  | _, _, _, .onlyItem hl h hr hs => .singleton hl h.isValue_before hr hs
  | _, _, _, .item h => .array h.isItems_before
  | _, _, _, .field h hs ht => .object h.isFields_before hs ht

theorem ItemsGain.isItems_before {long : Bool} : ∀ {w w' : List Char} {vs : List Value},
    ItemsGain long w w' vs → IsItems w vs
  | _, _, _, .one hl h hr => .one hl h.isValue_before hr
  | _, _, _, .first hl h hr hrest => .cons hl h.isValue_before hr hrest
  | _, _, _, .later hl h hr hrest => .cons hl h hr hrest.isItems_before

theorem FieldsGain.isFields_before {long : Bool} : ∀ {w w' : List Char}
    {fs : List (CodePoints × Value)}, FieldsGain long w w' fs → IsFields w fs
  | _, _, _, .one hl h hr => .one hl h.isField_before hr
  | _, _, _, .first hl h hr hrest => .cons hl h.isField_before hr hrest
  | _, _, _, .later hl h hr hrest => .cons hl h hr hrest.isFields_before

theorem FieldGains.isField_before {long : Bool} : ∀ {w w' : List Char} {k : CodePoints}
    {v : Value}, FieldGains long w w' k v → IsField w k v
  | _, _, _, _, .mk hk hl hr h => .mk hk hl hr h.isValue_before

end

theorem IsItems.ne_nil {w : List Char} {vs : List Value} (h : IsItems w vs) : vs ≠ [] := by
  cases h <;> exact List.cons_ne_nil _ _

/-- A comma may be left over after a single item. -/
theorem IsItems.isValue_comma {w g g' : List Char} {vs : List Value} (h : IsItems w vs)
    (hone : ¬1 < vs.length) (hg : Gap g) (hg' : Gap g') :
    IsValue ('[' :: (w ++ (g ++ ',' :: (g' ++ [']'])))) (.array vs) := by
  cases h with
  | one hl h hr =>
    have hvalue := IsValue.singleton hl h (hr.append hg) (.comma hg')
    simpa only [List.append_assoc, List.cons_append] using hvalue
  | cons hl h hr hrest =>
    have hpos := List.length_pos_of_ne_nil hrest.ne_nil
    rw [List.length_cons] at hone
    omega

/-- What stands after the last field can be made longer. -/
theorem IsFields.append_gap {g : List Char} (hg : Gap g) : ∀ {w : List Char}
    {fs : List (CodePoints × Value)}, IsFields w fs → IsFields (w ++ g) fs
  | _, _, .one hl h hr => by
    have hfields := IsFields.one hl h (hr.append hg)
    simpa only [List.append_assoc] using hfields
  | _, _, .cons hl h hr hrest => by
    have hfields := IsFields.cons hl h hr (hrest.append_gap hg)
    simpa only [List.append_assoc, List.cons_append] using hfields

/-- A comma may be left over after any fields. -/
theorem IsFields.isValue_comma {w g g' : List Char} {fs : List (CodePoints × Value)}
    {t : Table CodePoints Value} (h : IsFields w fs) (ht : Collects fs t) (hg : Gap g)
    (hg' : Gap g') : IsValue ('\x7b' :: (w ++ (g ++ ',' :: (g' ++ ['\x7d'])))) (.object t) := by
  have hvalue := IsValue.object (h.append_gap hg) (.comma hg') ht
  simpa only [List.append_assoc, List.cons_append] using hvalue

mutual

/-- Unless the array is long, a value denotes what it did before. -/
theorem ValueGains.isValue : ∀ {w w' : List Char} {v : Value},
    ValueGains false w w' v → IsValue w' v
  | _, _, _, .array h hlong hg hg' => h.isValue_comma (of_decide_eq_false hlong.symm) hg hg'
  | _, _, _, .object h ht _ hg hg' => h.isValue_comma ht hg hg'
  | _, _, _, .onlyItem hl h hr hs => .singleton hl h.isValue hr hs
  | _, _, _, .item h => .array h.isItems
  | _, _, _, .field h hs ht => .object h.isFields hs ht

theorem ItemsGain.isItems : ∀ {w w' : List Char} {vs : List Value},
    ItemsGain false w w' vs → IsItems w' vs
  | _, _, _, .one hl h hr => .one hl h.isValue hr
  | _, _, _, .first hl h hr hrest => .cons hl h.isValue hr hrest
  | _, _, _, .later hl h hr hrest => .cons hl h hr hrest.isItems

theorem FieldsGain.isFields : ∀ {w w' : List Char} {fs : List (CodePoints × Value)},
    FieldsGain false w w' fs → IsFields w' fs
  | _, _, _, .one hl h hr => .one hl h.isField hr
  | _, _, _, .first hl h hr hrest => .cons hl h.isField hr hrest
  | _, _, _, .later hl h hr hrest => .cons hl h hr hrest.isFields

theorem FieldGains.isField : ∀ {w w' : List Char} {k : CodePoints} {v : Value},
    FieldGains false w w' k v → IsField w' k v
  | _, _, _, _, .mk hk hl hr h => .mk hk hl hr h.isValue

end

/-! ### Values are taken off the front in one way -/

/-- What a computation finds in few steps, it finds in more. -/
theorem bind_eq_some_of_imp {α β : Type} {x y : Option α} {f g : α → Option β} {b : β}
    (hx : ∀ a, x = some a → y = some a) (hf : ∀ a b, f a = some b → g a = some b)
    (h : x >>= f = some b) : y >>= g = some b := by
  obtain ⟨a, ha, hb⟩ := Option.bind_eq_some_iff.1 h
  exact Option.bind_eq_some_iff.2 ⟨a, hx a ha, hf a b hb⟩

/-- What the reader finds in `n` steps, it finds in `m`. -/
structure FoundIn (stray : Bool) (n m : Nat) : Prop where
  value : ∀ cs x, Json.value stray n cs = some x → Json.value stray m cs = some x
  items : ∀ cs x, itemsAfter stray n cs = some x → itemsAfter stray m cs = some x
  fields : ∀ cs x, Json.fields stray n cs = some x → Json.fields stray m cs = some x

namespace FoundIn

variable {stray : Bool} {n m : Nat} {cs : List Char}

theorem value_succ (hfound : FoundIn stray n m) {x : Raw × List Char}
    (h : Json.value stray (n + 1) cs = some x) : Json.value stray (m + 1) cs = some x := by
  by_cases harray : ∃ cs', cs = '[' :: cs'
  · obtain ⟨cs', rfl⟩ := harray
    rw [value.eq_2] at h ⊢
    split at h
    · next hclose => exact h
    · refine bind_eq_some_of_imp (hfound.value _) (fun a b hb => ?_) h
      dsimp only at hb ⊢
      split at hb
      · exact hb
      · exact bind_eq_some_of_imp (hfound.items _) (fun _ _ hc => hc) hb
  by_cases hobject : ∃ cs', cs = '\x7b' :: cs'
  · obtain ⟨cs', rfl⟩ := hobject
    rw [value.eq_3] at h ⊢
    split at h
    · exact h
    · exact bind_eq_some_of_imp (hfound.fields _) (fun _ _ hc => hc) h
  · rw [value.eq_4 _ _ _ (fun cs' hcs => harray ⟨cs', hcs⟩)
      fun cs' hcs => hobject ⟨cs', hcs⟩] at h ⊢
    exact h

theorem items_succ (hfound : FoundIn stray n m) {x : List Raw × List Char}
    (h : itemsAfter stray (n + 1) cs = some x) : itemsAfter stray (m + 1) cs = some x := by
  by_cases hbracket : ∃ cs', cs = ']' :: cs'
  · obtain ⟨cs', rfl⟩ := hbracket
    rw [itemsAfter.eq_2] at h ⊢
    exact h
  by_cases hcomma : ∃ cs', cs = ',' :: cs'
  · obtain ⟨cs', rfl⟩ := hcomma
    rw [itemsAfter.eq_3] at h ⊢
    exact bind_eq_some_of_imp (hfound.value _)
      (fun a b => bind_eq_some_of_imp (hfound.items _) fun _ _ hc => hc) h
  · rw [itemsAfter.eq_4 _ _ _ (fun cs' hcs => hbracket ⟨cs', hcs⟩)
      fun cs' hcs => hcomma ⟨cs', hcs⟩] at h
    cases h

theorem fields_succ (hfound : FoundIn stray n m) {x : List (List Char × Raw) × List Char}
    (h : Json.fields stray (n + 1) cs = some x) : Json.fields stray (m + 1) cs = some x := by
  by_cases hquote : ∃ cs', cs = '"' :: cs'
  · obtain ⟨cs', rfl⟩ := hquote
    rw [fields.eq_2] at h ⊢
    refine bind_eq_some_of_imp (fun _ ha => ha) (fun a b hb => ?_) h
    obtain ⟨key, r₁⟩ := a
    dsimp only at hb ⊢
    split at hb
    · refine bind_eq_some_of_imp (hfound.value _) (fun a b hc => ?_) hb
      obtain ⟨raw, r₃⟩ := a
      dsimp only at hc ⊢
      split at hc
      · exact hc
      · split at hc
        · exact bind_eq_some_of_imp (hfound.fields _) (fun _ _ hd => hd) hc
        · cases hc
    · cases hb
  · rw [fields.eq_3 _ _ _ fun cs' hcs => hquote ⟨cs', hcs⟩] at h
    cases h

/-- With one step more the reader finds what it found before. -/
theorem succ_self (stray : Bool) (n : Nat) : FoundIn stray n (n + 1) := by
  induction n with
  | zero =>
    refine ⟨fun cs x h => ?_, fun cs x h => ?_, fun cs x h => ?_⟩
    · rw [Json.value] at h
      cases h
    · rw [itemsAfter] at h
      cases h
    · rw [Json.fields] at h
      cases h
  | succ n ih =>
    exact ⟨fun _ _ => ih.value_succ, fun _ _ => ih.items_succ, fun _ _ => ih.fields_succ⟩

end FoundIn

theorem value_le {n m : Nat} (hnm : n ≤ m) {stray : Bool} {cs : List Char} {x : Raw × List Char}
    (h : value stray n cs = some x) : value stray m cs = some x := by
  induction hnm with
  | refl => exact h
  | step _ ih => exact (FoundIn.succ_self stray _).value cs x ih

/-- A value is taken off the front in one way, however many steps the reader may take. -/
theorem value_det {n m : Nat} {stray : Bool} {cs : List Char} {x y : Raw × List Char}
    (hx : value stray n cs = some x) (hy : value stray m cs = some y) : x = y := by
  rcases Nat.le_total n m with hle | hle
  · exact Option.some.inj ((value_le hle hx).symm.trans hy)
  · exact Option.some.inj (hx.symm.trans (value_le hle hy))

/-- The reader finds the end of a value of the grammar, if it finds one. -/
theorem IsValue.rest_eq {w r r' : List Char} {v : Value} (h : IsValue w v) (hr : Stops r) {n : Nat}
    {raw : Raw} (hvalue : value true n (w ++ r) = some (raw, r')) : r' = r := by
  obtain ⟨raw', hvalue', -⟩ := h.value_append w.length (Nat.le_refl _) hr
  exact congrArg Prod.snd (value_det hvalue hvalue')

/-! ### Where nothing is taken off the front -/

/-- No value starts with a closing bracket. -/
theorem value_bracket (n : Nat) (r : List Char) : value true n (']' :: r) = none := by
  cases n with
  | zero => rw [value]
  | succ n =>
    rw [value_cons (by decide) (by decide)]
    exact scalar_eq_word (by decide) (by decide) (by decide) r

/-- After an item of an array, if the reader takes one off the front, it gets stuck. -/
def Blocks (cs : List Char) : Prop :=
  ∀ n raw r, value true n (skip cs) = some (raw, r) → ∀ m, itemsAfter true m (skip r) = none

theorem blocks_of_eq_none {cs : List Char} (h : ∀ n, value true n (skip cs) = none) :
    Blocks cs := by
  intro n raw r hvalue
  rw [h n] at hvalue
  cases hvalue

theorem IsValue.blocks {l w r : List Char} {v : Value} (h : IsValue w v) (hl : Gap l)
    (hr : Stops r) (hitems : ∀ m, itemsAfter true m (skip r) = none) : Blocks (l ++ (w ++ r)) := by
  intro n raw r' hvalue
  rw [h.skip_append hl] at hvalue
  rw [h.rest_eq hr hvalue]
  exact hitems

theorem Blocks.itemsAfter_eq_none {cs : List Char} (h : Blocks cs) (m : Nat) :
    itemsAfter true m (',' :: cs) = none := by
  cases m with
  | zero => rw [itemsAfter]
  | succ m =>
    rw [itemsAfter.eq_3]
    cases hvalue : value true m (skip cs) with
    | none => rfl
    | some x =>
      obtain ⟨raw, r⟩ := x
      simp [h m raw r hvalue m]

/-- The reader gets stuck in an array: no bracket closes it at once, or after one item, and it gets
stuck in the items after that. -/
structure Stuck (cs : List Char) : Prop where
  opens : closing true ']' (skip cs) = none
  goesOn : ∀ n raw r, value true n (skip cs) = some (raw, r) → closing true ']' (skip r) = none
  blocks : Blocks cs

theorem Stuck.value_eq_none {cs : List Char} (h : Stuck cs) (n : Nat) :
    value true n ('[' :: cs) = none := by
  cases n with
  | zero => rw [value]
  | succ n =>
    rw [value.eq_2, h.opens]
    cases hvalue : value true n (skip cs) with
    | none => rfl
    | some x =>
      obtain ⟨raw, r⟩ := x
      simp [h.goesOn n raw r hvalue, h.blocks n raw r hvalue n]

/-- If no value can be taken off the front where one starts, the reader gets stuck. -/
theorem stuck_of_eq_none {cs cs' : List Char} {c : Char} (hskip : skip cs = c :: cs')
    (hc : IsOpening c) (h : ∀ n, value true n (skip cs) = none) : Stuck cs where
  opens := by
    rw [hskip]
    exact hc.closing_eq_none (.inl rfl) cs'
  goesOn n raw r hvalue := by
    rw [h n] at hvalue
    cases hvalue
  blocks := blocks_of_eq_none h

/-- If the reader gets stuck after a first item and a comma, it gets stuck in the array. -/
theorem IsValue.stuck {l w g cs cs' : List Char} {v : Value} {c : Char} (h : IsValue w v)
    (hl : Gap l) (hg : Gap g) (hskip : skip cs = c :: cs') (hc : IsOpening c) (hcs : Blocks cs) :
    Stuck (l ++ (w ++ (g ++ ',' :: cs))) := by
  have hstops : Stops (g ++ ',' :: cs) := hg.stops (stops_cons (by decide) cs)
  have hcomma : skip (g ++ ',' :: cs) = ',' :: cs := by
    rw [hg.skip_append, skip_solid (by decide) (by decide)]
  refine ⟨?_, fun n raw r hvalue => ?_, h.blocks hl hstops ?_⟩
  · rw [h.skip_append hl]
    obtain ⟨d, w', rfl, hd⟩ := h.start
    exact hd.closing_eq_none (.inl rfl) _
  · rw [h.skip_append hl] at hvalue
    rw [h.rest_eq hstops hvalue, hcomma]
    exact hc.closing_comma (.inl rfl) hskip
  · rw [hcomma]
    exact hcs.itemsAfter_eq_none

/-- After any items a comma and a closing bracket do not fit. -/
theorem IsItems.blocks {g g' w : List Char} {vs : List Value} (hg : Gap g) (hg' : Gap g')
    (r : List Char) (hw : IsItems w vs) : Blocks (w ++ (g ++ ',' :: (g' ++ ']' :: r))) := by
  induction vs generalizing w with
  | nil => cases hw
  | cons v vs ih =>
    cases hw with
    | @one l w g₁ _ hl h hg₁ =>
      have hcomma : skip (g₁ ++ (g ++ ',' :: (g' ++ ']' :: r))) = ',' :: (g' ++ ']' :: r) := by
        rw [hg₁.skip_append, hg.skip_append, skip_solid (by decide) (by decide)]
      have hstops : Stops (g₁ ++ (g ++ ',' :: (g' ++ ']' :: r))) :=
        hg₁.stops (hg.stops (stops_cons (by decide) _))
      have hblocks : Blocks (g' ++ ']' :: r) := blocks_of_eq_none fun n => by
        rw [hg'.skip_append, skip_solid (by decide) (by decide)]
        exact value_bracket n r
      rw [List.append_assoc, List.append_assoc]
      refine h.blocks hl hstops ?_
      rw [hcomma]
      exact hblocks.itemsAfter_eq_none
    | cons hl h hg₁ hrest =>
      rw [List.append_assoc, List.append_assoc, List.append_assoc]
      refine h.blocks hl (hg₁.stops (stops_cons (by decide) _)) ?_
      rw [List.cons_append, hg₁.skip_append, skip_solid (by decide) (by decide)]
      exact (ih hrest).itemsAfter_eq_none

theorem IsItems.stuck {w g g' : List Char} {vs : List Value} (h : IsItems w vs)
    (hmore : 1 < vs.length) (hg : Gap g) (hg' : Gap g') (r : List Char) :
    Stuck (w ++ (g ++ ',' :: (g' ++ ']' :: r))) := by
  cases h with
  | one => exact absurd hmore (Nat.lt_irrefl 1)
  | cons hl h hg₁ hrest =>
    obtain ⟨c, cs, hskip, hc⟩ := hrest.start (g ++ ',' :: (g' ++ ']' :: r))
    have hstuck := h.stuck hl hg₁ hskip hc (hrest.blocks hg hg' r)
    simpa only [List.append_assoc, List.cons_append] using hstuck

/-- No field is taken off the front if no value can be taken where its value starts. -/
theorem fields_of_value_eq_none {l key l₁ cs : List Char} {k : CodePoints} (hl : Gap l)
    (hk : IsText key k) (hl₁ : Gap l₁) (h : ∀ n, value true n (skip cs) = none) (n : Nat) :
    fields true n (skip (l ++ (key ++ (l₁ ++ ':' :: cs)))) = none := by
  obtain ⟨b, key', rfl, hb, -⟩ := hk.textBody_append
  have hquote : skip (l ++ ('"' :: key' ++ (l₁ ++ ':' :: cs))) =
      '"' :: (key' ++ (l₁ ++ ':' :: cs)) := by
    rw [hl.skip_append, List.cons_append, skip_solid (by decide) (by decide)]
  have hcolon : skip (l₁ ++ ':' :: cs) = ':' :: cs := by
    rw [hl₁.skip_append, skip_solid (by decide) (by decide)]
  rw [hquote]
  cases n with
  | zero => rw [fields]
  | succ n =>
    rw [fields.eq_2, hb]
    simp [hcolon, h n]

/-- No fields are taken off the front if none are after a first one and a comma. -/
theorem IsField.fields_eq_none {l f g cs cs' : List Char} {k : CodePoints} {v : Value}
    (h : IsField f k v) (hl : Gap l) (hg : Gap g) (hskip : skip cs = '"' :: cs')
    (hcs : ∀ n, fields true n (skip cs) = none) (n : Nat) :
    fields true n (skip (l ++ (f ++ (g ++ ',' :: cs)))) = none := by
  obtain @⟨key, l₁, l₂, w, k, v, hk, hl₁, hl₂, hw⟩ := h
  obtain ⟨b, key', rfl, hb, -⟩ := hk.textBody_append
  have hquote : skip (l ++ ('"' :: key' ++ l₁ ++ ':' :: (l₂ ++ w) ++ (g ++ ',' :: cs))) =
      '"' :: (key' ++ (l₁ ++ ':' :: (l₂ ++ (w ++ (g ++ ',' :: cs))))) := by
    rw [hl.skip_append]
    simp only [List.cons_append, List.append_assoc]
    rw [skip_solid (by decide) (by decide)]
  have hcolon : skip (l₁ ++ ':' :: (l₂ ++ (w ++ (g ++ ',' :: cs)))) =
      ':' :: (l₂ ++ (w ++ (g ++ ',' :: cs))) := by
    rw [hl₁.skip_append, skip_solid (by decide) (by decide)]
  have hcomma : skip (g ++ ',' :: cs) = ',' :: cs := by
    rw [hg.skip_append, skip_solid (by decide) (by decide)]
  rw [hquote]
  cases n with
  | zero => rw [fields]
  | succ n =>
    rw [fields.eq_2, hb]
    cases hvalue : value true n (w ++ (g ++ ',' :: cs)) with
    | none => simp [hcolon, hw.skip_append hl₂, hvalue]
    | some x =>
      obtain ⟨raw, r⟩ := x
      have hr : r = g ++ ',' :: cs := hw.rest_eq (hg.stops (stops_cons (by decide) cs)) hvalue
      have hclose : closing true '\x7d' (',' :: cs) = none :=
        IsOpening.closing_comma (.inr rfl) (.inl (by decide)) hskip
      simp [hcolon, hw.skip_append hl₂, hvalue, hr, hcomma, hclose, hcs n]

theorem ValueGains.start {long : Bool} {w w' : List Char} {v : Value}
    (h : ValueGains long w w' v) : ∃ c cs, w' = c :: cs ∧ IsOpening c := by
  cases h <;> exact ⟨_, _, rfl, .inl (by decide)⟩

/-- Before such a value a gap is skipped, and nothing more. -/
theorem ValueGains.skip_append {long : Bool} {w w' l : List Char} {v : Value}
    (h : ValueGains long w w' v) (hl : Gap l) (r : List Char) :
    skip (l ++ (w' ++ r)) = w' ++ r := by
  obtain ⟨c, cs, rfl, hc⟩ := h.start
  rw [hl.skip_append, List.cons_append, hc.skip_eq]

theorem ItemsGain.start {long : Bool} {w w' : List Char} {vs : List Value}
    (h : ItemsGain long w w' vs) (r : List Char) : ∃ c cs, skip (w' ++ r) = c :: cs ∧ IsOpening c := by
  cases h with
  | one hl h hr =>
    obtain ⟨c, cs, hw, hc⟩ := h.start
    rw [List.append_assoc, List.append_assoc, h.skip_append hl, hw]
    exact ⟨c, _, rfl, hc⟩
  | first hl h hr hrest =>
    obtain ⟨c, cs, hw, hc⟩ := h.start
    rw [List.append_assoc, List.append_assoc, List.append_assoc, h.skip_append hl, hw]
    exact ⟨c, _, rfl, hc⟩
  | later hl h hr hrest =>
    obtain ⟨c, cs, hw, hc⟩ := h.start
    rw [List.append_assoc, List.append_assoc, List.append_assoc, h.skip_append hl, hw]
    exact ⟨c, _, rfl, hc⟩

theorem FieldsGain.start {long : Bool} {w w' : List Char} {fs : List (CodePoints × Value)}
    (h : FieldsGain long w w' fs) (r : List Char) : ∃ cs, skip (w' ++ r) = '"' :: cs := by
  have quote : ∀ {l key : List Char} {k : CodePoints}, Gap l → IsText key k → ∀ r,
      ∃ cs, skip (l ++ (key ++ r)) = '"' :: cs := by
    rintro l key k hl ⟨_, _⟩ r
    rw [hl.skip_append]
    exact ⟨_, skip_solid (by decide) (by decide) _⟩
  cases h with
  | one hl h hr =>
    obtain ⟨hk, _, _, _⟩ := h
    simp only [List.append_assoc]
    exact quote hl hk _
  | first hl h hr hrest =>
    obtain ⟨hk, _, _, _⟩ := h
    simp only [List.append_assoc]
    exact quote hl hk _
  | later hl h hr hrest =>
    obtain ⟨hk, _, _, _⟩ := h
    simp only [List.append_assoc]
    exact quote hl hk _

mutual

/-- If the array is long, no value is taken off the front. -/
theorem ValueGains.value_eq_none : ∀ {w w' : List Char} {v : Value}, ValueGains true w w' v →
    ∀ (n : Nat) (r : List Char), value true n (w' ++ r) = none
  | _, _, _, @ValueGains.array _ cs g g' _ h hlong hg hg', n, r => by
    have hstuck := h.stuck (of_decide_eq_true hlong.symm) hg hg' r
    simpa only [List.append_assoc, List.cons_append, List.nil_append] using hstuck.value_eq_none n
  | _, _, _, @ValueGains.onlyItem _ l cs cs' g s _ hl h hg hs, n, r => by
    have hskip := h.skip_append hl (g ++ (s ++ ']' :: r))
    obtain ⟨c, cs, hw, hc⟩ := h.start
    have hstuck : Stuck (l ++ (cs' ++ (g ++ (s ++ ']' :: r)))) := by
      refine stuck_of_eq_none (hskip.trans (congrArg (· ++ _) hw)) hc fun m => ?_
      rw [hskip]
      exact ValueGains.value_eq_none h m _
    simpa only [List.append_assoc, List.cons_append, List.nil_append] using hstuck.value_eq_none n
  | _, _, _, @ValueGains.item _ cs cs' _ h, n, r => by
    have hstuck := ItemsGain.stuck h r
    simpa only [List.append_assoc, List.cons_append, List.nil_append] using hstuck.value_eq_none n
  | _, _, _, @ValueGains.field _ cs cs' s _ _ h hs _, 0, r => by
    rw [value]
  | _, _, _, @ValueGains.field _ cs cs' s _ _ h hs _, n + 1, r => by
    have hfields := FieldsGain.fields_eq_none h n hs r
    obtain ⟨cs'', hskip⟩ := h.start (s ++ '\x7d' :: r)
    have hopen : closing true '\x7d' (skip (cs' ++ (s ++ '\x7d' :: r))) = none := by
      rw [hskip]
      exact IsOpening.closing_eq_none (.inr rfl) (.inl (by decide)) _
    simp only [List.cons_append, List.append_assoc, List.nil_append]
    rw [value.eq_3, hopen]
    simp [hfields]

theorem ItemsGain.stuck : ∀ {w w' : List Char} {vs : List Value}, ItemsGain true w w' vs →
    ∀ r : List Char, Stuck (w' ++ ']' :: r)
  | _, _, _, @ItemsGain.one _ l cs cs' g _ hl h hg, r => by
    have hskip := h.skip_append hl (g ++ ']' :: r)
    obtain ⟨c, cs, hw, hc⟩ := h.start
    rw [List.append_assoc, List.append_assoc]
    refine stuck_of_eq_none (hskip.trans (congrArg (· ++ _) hw)) hc fun m => ?_
    rw [hskip]
    exact ValueGains.value_eq_none h m _
  | _, _, _, @ItemsGain.first _ l cs cs' g rest _ _ hl h hg _, r => by
    have hskip := h.skip_append hl (g ++ ',' :: rest ++ ']' :: r)
    obtain ⟨c, cs, hw, hc⟩ := h.start
    rw [List.append_assoc, List.append_assoc, List.append_assoc, ← List.append_assoc g]
    refine stuck_of_eq_none (hskip.trans (congrArg (· ++ _) hw)) hc fun m => ?_
    rw [hskip]
    exact ValueGains.value_eq_none h m _
  | _, _, _, @ItemsGain.later _ l cs g rest rest' _ _ hl h hg hrest, r => by
    obtain ⟨c, cs, hskip, hc⟩ := hrest.start (']' :: r)
    have hstuck := h.stuck hl hg hskip hc (ItemsGain.stuck hrest r).blocks
    simpa only [List.append_assoc, List.cons_append] using hstuck

theorem FieldsGain.fields_eq_none : ∀ {w w' : List Char} {fs : List (CodePoints × Value)},
    FieldsGain true w w' fs → ∀ (n : Nat) {s : List Char}, IsStray s → ∀ r : List Char,
    fields true n (skip (w' ++ (s ++ '\x7d' :: r))) = none
  | _, _, _, @FieldsGain.one _ l _ _ g _ _ hl (@FieldGains.mk _ _ _ l₂ _ cs _ _ hk hl₁ hl₂ h) _,
      n, s, hs, r => by
    have hvalue : ∀ m, value true m (skip (l₂ ++ (cs ++ (g ++ (s ++ '\x7d' :: r))))) = none := by
      intro m
      rw [h.skip_append hl₂]
      exact ValueGains.value_eq_none h m _
    have hfields := fields_of_value_eq_none hl hk hl₁ hvalue n
    simpa only [List.append_assoc, List.cons_append] using hfields
  | _, _, _, @FieldsGain.first _ l _ _ g rest _ _ _ hl
      (@FieldGains.mk _ _ _ l₂ _ cs _ _ hk hl₁ hl₂ h) _ _, n, s, hs, r => by
    have hvalue : ∀ m,
        value true m (skip (l₂ ++ (cs ++ (g ++ ',' :: (rest ++ (s ++ '\x7d' :: r)))))) = none := by
      intro m
      rw [h.skip_append hl₂]
      exact ValueGains.value_eq_none h m _
    have hfields := fields_of_value_eq_none hl hk hl₁ hvalue n
    simpa only [List.append_assoc, List.cons_append] using hfields
  | _, _, _, .later hl h hg hrest, n, s, hs, r => by
    obtain ⟨cs, hskip⟩ := hrest.start (s ++ '\x7d' :: r)
    have hfields := h.fields_eq_none hl hg hskip
      (fun m => FieldsGain.fields_eq_none hrest m hs r) n
    simpa only [List.append_assoc, List.cons_append] using hfields

end

/-! ### Documents -/

end RouteLint.Json
