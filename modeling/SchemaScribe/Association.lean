/-!
# Associations

A finite map as a list of pairs in the order in which its keys came.  `put` keeps the place of a key
that is already there and replaces its value; a new key goes to the end.  Laws: a lookup after `put`
sees the new value under its key (`get?_put_self`) and the old one under any other
(`get?_put_of_ne`), and `put` keeps keys distinct (`nodup_keys_put`).
-/

namespace SchemaScribe

/-- **An association**: pairs of a key and a value in order. -/
abbrev Association (α β : Type) := List (α × β)

namespace Association

variable {α β : Type} [DecidableEq α]

/-- The keys in order. -/
def keys (pairs : Association α β) : List α := pairs.map Prod.fst

/-- The value of the first pair with the given key. -/
def get? (key : α) : Association α β → Option β
  | [] => none
  | (k, v) :: rest => if k = key then some v else get? key rest

/-- A key has a value. -/
def has (key : α) (pairs : Association α β) : Bool := (get? key pairs).isSome

/-- The association with `value` under `key`. -/
def put (key : α) (value : β) : Association α β → Association α β
  | [] => [(key, value)]
  | (k, v) :: rest => if k = key then (key, value) :: rest else (k, v) :: put key value rest

/-- The association that a list of pairs builds up, the later value of a key replacing the
earlier. -/
def ofPairs (pairs : List (α × β)) : Association α β :=
  pairs.foldl (fun made pair => put pair.1 pair.2 made) []

/-! ### Laws -/

@[simp] theorem get?_nil (key : α) : get? key ([] : Association α β) = none := rfl

theorem get?_put_self (key : α) (value : β) (pairs : Association α β) :
    get? key (put key value pairs) = some value := by
  induction pairs with
  | nil => simp [put, get?]
  | cons pair rest ih =>
    by_cases h : pair.1 = key
    · simp [put, get?, h]
    · simp [put, get?, h, ih]

theorem get?_put_of_ne {key other : α} (h : other ≠ key) (value : β) (pairs : Association α β) :
    get? other (put key value pairs) = get? other pairs := by
  induction pairs with
  | nil => simp [put, get?, h.symm]
  | cons pair rest ih =>
    by_cases hk : pair.1 = key
    · simp [put, get?, hk, h.symm]
    · by_cases ho : pair.1 = other
      · simp [put, get?, hk, if_pos ho]
      · simp [put, get?, hk, ho, ih]

theorem mem_keys_iff {key : α} {pairs : Association α β} : key ∈ keys pairs ↔ has key pairs := by
  induction pairs with
  | nil => simp [keys, has]
  | cons pair rest ih =>
    by_cases h : pair.1 = key
    · simp [keys, has, get?, h]
    · simp only [has, keys] at ih
      simp [keys, has, get?, h, Ne.symm h, ih]

/-- A key that is there keeps its place, and a new one goes to the end. -/
theorem keys_put (key : α) (value : β) (pairs : Association α β) :
    keys (put key value pairs) = if has key pairs then keys pairs else keys pairs ++ [key] := by
  induction pairs with
  | nil => simp [put, keys, has]
  | cons pair rest ih =>
    by_cases h : pair.1 = key
    · simp [put, keys, has, get?, h]
    · simp only [keys, has] at ih
      by_cases hr : (get? key rest).isSome <;> simp_all [put, keys, has, get?]

theorem nodup_keys_put {key : α} {value : β} {pairs : Association α β}
    (h : (keys pairs).Nodup) : (keys (put key value pairs)).Nodup := by
  rw [keys_put]
  split
  · exact h
  · next hk =>
    rw [List.nodup_append]
    refine ⟨h, by simp, ?_⟩
    intro a ha b hb hab
    simp only [List.mem_singleton] at hb
    exact hk (mem_keys_iff.1 (hb ▸ hab ▸ ha))

end Association

end SchemaScribe
