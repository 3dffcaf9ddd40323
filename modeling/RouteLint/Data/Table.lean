/-!
# Tables in order of first insertion

A table is a list of keys with their values.  Writing to a key that is already present replaces
its value where it stands; writing to a new key puts it at the end.  So a table remembers the
order in which its keys first appeared, which is the order reports are printed in.

## Main definitions

* `Table.get?`, `Table.contains`, `Table.keys` — reading.
* `Table.set`, `Table.setDefault`, `Table.merge` — writing.
* `Table.append` — adding to the list kept under a key.
-/

namespace RouteLint

/-- A table from `κ` to `α`, in order of first insertion. -/
abbrev Table (κ α : Type) := List (κ × α)

namespace Table

variable {κ α : Type} [DecidableEq κ]

/-- The value under a key. -/
def get? : Table κ α → κ → Option α
  | [], _ => none
  | (k, v) :: t, x => if k = x then some v else get? t x

/-- Whether a key has a value. -/
def contains (t : Table κ α) (x : κ) : Bool := (get? t x).isSome

/-- The keys in order. -/
def keys (t : Table κ α) : List κ := t.map (·.1)

/-- The values in the order of their keys. -/
def values (t : Table κ α) : List α := t.map (·.2)

/-- Give a key a value: in place if the key is present, at the end otherwise. -/
def set : Table κ α → κ → α → Table κ α
  | [], x, v => [(x, v)]
  | (k, w) :: t, x, v => if k = x then (k, v) :: t else (k, w) :: set t x v

/-- Give a key a value unless it has one. -/
def setDefault (t : Table κ α) (x : κ) (v : α) : Table κ α :=
  if contains t x then t else set t x v

/-- Write all entries of `u` over `t`, one after the other. -/
def merge (t u : Table κ α) : Table κ α :=
  u.foldl (fun t e => set t e.1 e.2) t

/-- Put one more value at the end of the list under a key. -/
def append (t : Table κ (List α)) (x : κ) (v : α) : Table κ (List α) :=
  set t x ((get? t x).getD [] ++ [v])

/-- The list under a key, empty when there is none. -/
def list (t : Table κ (List α)) (x : κ) : List α := (get? t x).getD []

/-! ### What writing does to reading -/

@[simp] theorem get?_nil (x : κ) : get? ([] : Table κ α) x = none := rfl

theorem get?_cons (k x : κ) (v : α) (t : Table κ α) :
    get? ((k, v) :: t) x = if k = x then some v else get? t x := rfl

@[simp] theorem get?_set_self (t : Table κ α) (x : κ) (v : α) : get? (set t x v) x = some v := by
  induction t with
  | nil => simp [set, get?]
  | cons e t ih =>
    obtain ⟨k, w⟩ := e
    by_cases h : k = x <;> simp [set, get?, h, ih]

theorem get?_set_of_ne (t : Table κ α) {x y : κ} (v : α) (h : x ≠ y) :
    get? (set t x v) y = get? t y := by
  induction t with
  | nil => simp [set, get?, h]
  | cons e t ih =>
    obtain ⟨k, w⟩ := e
    by_cases hk : k = x
    · subst hk; simp [set, get?, h]
    · simp [set, get?, hk, ih]

/-- Writing keeps the keys that were there, in their order. -/
theorem keys_set (t : Table κ α) (x : κ) (v : α) :
    keys (set t x v) = if x ∈ keys t then keys t else keys t ++ [x] := by
  induction t with
  | nil => simp [set, keys]
  | cons e t ih =>
    obtain ⟨k, w⟩ := e
    by_cases hk : k = x
    · subst hk; simp [set, keys]
    · have hx : ¬ x = k := fun h => hk h.symm
      simp only [keys] at ih
      by_cases hm : x ∈ t.map (·.1) <;> simp_all [set, keys]

end Table

end RouteLint
