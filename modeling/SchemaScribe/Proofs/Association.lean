import Mathlib.Data.List.Forall2
import Mathlib.Data.List.Induction
import SchemaScribe.Association
import SchemaScribe.Proofs.Outcome

/-!
# What a list of pairs builds up

`ofPairs` keeps the last value of each key at the place of the first.  Its keys are distinct
(`nodup_keys_ofPairs`), pairs whose keys are distinct already are left as they are
(`ofPairs_eq_self`), and it has a value for a key exactly when some pair has.  What is done to the
values one by one can be done before or after (`ofPairs_map`, `forall₂_ofPairs`).

Where the values are lists, nothing of them is lost exactly when no list but an empty one is
replaced (`keepsAll_iff`, `length_flatMap_ofPairs_eq_iff`).
-/

namespace SchemaScribe.Association

variable {α β γ : Type} [DecidableEq α]

/-! ### Putting a value -/

/-- A value that is there already changes nothing. -/
theorem put_eq_self {key : α} {value : β} {pairs : Association α β}
    (h : get? key pairs = some value) : put key value pairs = pairs := by
  induction pairs with
  | nil => cases h
  | cons pair rest ih =>
    rw [get?] at h
    rw [put]
    split_ifs at h with hkey
    · rw [if_pos hkey, ← hkey, ← Option.some.inj h]
    · rw [if_neg hkey, ih h]

theorem put_of_notMem {key : α} {pairs : Association α β} (h : key ∉ keys pairs) (value : β) :
    put key value pairs = pairs ++ [(key, value)] := by
  induction pairs with
  | nil => rfl
  | cons pair rest ih =>
    have hne : pair.1 ≠ key := fun heq => h (heq ▸ List.mem_cons_self)
    have hrest : key ∉ keys rest := fun hmem => h (List.mem_cons_of_mem _ hmem)
    rw [put, if_neg hne, ih hrest, List.cons_append]

/-- A pair of the new association is the one put in or an old one. -/
theorem eq_or_mem_of_mem_put {key : α} {value : β} {pairs : Association α β} {pair : α × β}
    (h : pair ∈ put key value pairs) : pair = (key, value) ∨ pair ∈ pairs := by
  induction pairs with
  | nil => exact Or.inl (List.mem_singleton.1 h)
  | cons first rest ih =>
    rw [put] at h
    split_ifs at h with hkey
    · exact (List.mem_cons.1 h).imp_right (List.mem_cons_of_mem _)
    · rcases List.mem_cons.1 h with rfl | h
      · exact Or.inr List.mem_cons_self
      · exact (ih h).imp_right (List.mem_cons_of_mem _)

theorem mem_of_get?_eq_some {key : α} {value : β} {pairs : Association α β}
    (h : get? key pairs = some value) : (key, value) ∈ pairs := by
  induction pairs with
  | nil => cases h
  | cons pair rest ih =>
    rw [get?] at h
    split_ifs at h with hkey
    · rw [← hkey, ← Option.some.inj h]
      exact List.mem_cons_self
    · exact List.mem_cons_of_mem _ (ih h)

/-- Where keys are distinct, the pair that is there is the one that is found. -/
theorem get?_eq_some_iff {key : α} {value : β} {pairs : Association α β}
    (hkeys : (keys pairs).Nodup) : get? key pairs = some value ↔ (key, value) ∈ pairs := by
  refine ⟨mem_of_get?_eq_some, fun h => ?_⟩
  induction pairs with
  | nil => cases h
  | cons pair rest ih =>
    obtain ⟨hfirst, hrest⟩ := List.nodup_cons.1 hkeys
    rw [get?]
    rcases List.mem_cons.1 h with rfl | h
    · rw [if_pos rfl]
    · have hkey : key ∈ keys rest := List.mem_map_of_mem (f := Prod.fst) h
      rw [if_neg fun heq : pair.1 = key => hfirst (heq ▸ hkey)]
      exact ih hrest h

/-- The order of pairs with distinct keys does not matter. -/
theorem get?_of_perm {pairs pairs' : Association α β} (hkeys : (keys pairs).Nodup)
    (h : pairs.Perm pairs') (key : α) : get? key pairs' = get? key pairs := by
  have hkeys' : (keys pairs').Nodup := (h.map Prod.fst).nodup_iff.1 hkeys
  refine Option.ext fun value => ?_
  rw [get?_eq_some_iff hkeys, get?_eq_some_iff hkeys', h.mem_iff]

/-- Related associations have related values under each key. -/
theorem get?_of_forall₂ {R : α × β → α × γ → Prop} (hkeys : ∀ a b, R a b → a.1 = b.1)
    {pairs : Association α β} {pairs' : Association α γ} (h : List.Forall₂ R pairs pairs')
    (key : α) : (get? key pairs = none ∧ get? key pairs' = none) ∨
      ∃ value value', get? key pairs = some value ∧ get? key pairs' = some value' ∧
        R (key, value) (key, value') := by
  induction h with
  | nil => exact Or.inl ⟨rfl, rfl⟩
  | @cons first first' rest rest' hfirst hrest ih =>
    obtain ⟨k, v⟩ := first
    obtain ⟨k', v'⟩ := first'
    obtain rfl : k = k' := hkeys _ _ hfirst
    rw [get?, get?]
    split_ifs with hkey
    · subst hkey
      exact Or.inr ⟨v, v', rfl, rfl, hfirst⟩
    · exact ih

/-- Related associations stay related when related values are put under one key. -/
theorem forall₂_put {R : α × β → α × γ → Prop} (hkeys : ∀ a b, R a b → a.1 = b.1) {a : α × β}
    {b : α × γ} (hab : R a b) {pairs : Association α β} {pairs' : Association α γ}
    (h : List.Forall₂ R pairs pairs') :
    List.Forall₂ R (put a.1 a.2 pairs) (put b.1 b.2 pairs') := by
  obtain ⟨key, value⟩ := a
  obtain ⟨key', value'⟩ := b
  obtain rfl : key = key' := hkeys _ _ hab
  induction h with
  | nil => exact .cons hab .nil
  | @cons first first' rest rest' hfirst hrest ih =>
    obtain ⟨k, v⟩ := first
    obtain ⟨k', v'⟩ := first'
    obtain rfl : k = k' := hkeys _ _ hfirst
    rw [put, put]
    split_ifs
    · exact .cons hab hrest
    · exact .cons hfirst ih

/-! ### Building up -/

theorem ofPairs_append_singleton (pairs : List (α × β)) (pair : α × β) :
    ofPairs (pairs ++ [pair]) = put pair.1 pair.2 (ofPairs pairs) := by
  rw [ofPairs, List.foldl_append]
  rfl

/-- **The keys of what is built up are distinct.** -/
theorem nodup_keys_ofPairs (pairs : List (α × β)) : (keys (ofPairs pairs)).Nodup := by
  induction pairs using List.reverseRecOn with
  | nil => exact List.nodup_nil
  | append_singleton pairs pair ih =>
    rw [ofPairs_append_singleton]
    exact nodup_keys_put ih

/-- **Pairs with distinct keys build up themselves.** -/
theorem ofPairs_eq_self {pairs : List (α × β)} (h : (keys pairs).Nodup) :
    ofPairs pairs = pairs := by
  induction pairs using List.reverseRecOn with
  | nil => rfl
  | append_singleton pairs pair ih =>
    rw [keys, List.map_append, List.nodup_append] at h
    obtain ⟨hpairs, -, hdisjoint⟩ := h
    have hnew : pair.1 ∉ keys pairs := fun hmem => hdisjoint _ hmem _ List.mem_cons_self rfl
    rw [ofPairs_append_singleton, ih hpairs, put_of_notMem hnew]

theorem ofPairs_ofPairs (pairs : List (α × β)) : ofPairs (ofPairs pairs) = ofPairs pairs :=
  ofPairs_eq_self (nodup_keys_ofPairs pairs)

theorem mem_keys_ofPairs_iff {key : α} {pairs : List (α × β)} :
    key ∈ keys (ofPairs pairs) ↔ key ∈ keys pairs := by
  induction pairs using List.reverseRecOn with
  | nil => exact Iff.rfl
  | append_singleton pairs pair ih =>
    have happend : keys (pairs ++ [pair]) = keys pairs ++ [pair.1] := List.map_append
    rw [ofPairs_append_singleton, keys_put, happend, List.mem_append, ← ih]
    split_ifs with hhas
    · have hmem := mem_keys_iff.2 hhas
      rw [List.mem_singleton]
      exact ⟨Or.inl, fun h => h.elim id fun heq => heq ▸ hmem⟩
    · rw [List.mem_append]

theorem has_ofPairs (key : α) (pairs : List (α × β)) : has key (ofPairs pairs) = has key pairs := by
  rw [Bool.eq_iff_iff, ← mem_keys_iff, ← mem_keys_iff, mem_keys_ofPairs_iff]

theorem mem_of_mem_ofPairs {pairs : List (α × β)} {pair : α × β} (h : pair ∈ ofPairs pairs) :
    pair ∈ pairs := by
  induction pairs using List.reverseRecOn with
  | nil => cases h
  | append_singleton pairs last ih =>
    rw [ofPairs_append_singleton] at h
    rw [List.mem_append, List.mem_singleton]
    exact (eq_or_mem_of_mem_put h).symm.imp_left ih

/-- **Under each key stands the last of its values.** -/
theorem get?_ofPairs (key : α) (pairs : List (α × β)) :
    get? key (ofPairs pairs) = (pairs.filter (·.1 = key)).getLast?.map Prod.snd := by
  induction pairs using List.reverseRecOn with
  | nil => rfl
  | append_singleton pairs pair ih =>
    rw [ofPairs_append_singleton, List.filter_append]
    by_cases hkey : pair.1 = key
    · subst hkey
      have hlast : [pair].filter (·.1 = pair.1) = [pair] := by simp
      rw [get?_put_self, hlast, List.getLast?_concat, Option.map_some]
    · have hnone : [pair].filter (·.1 = key) = [] := by simp [hkey]
      rw [get?_put_of_ne (Ne.symm hkey), ih, hnone, List.append_nil]

/-- What is built up from related pairs is related. -/
theorem forall₂_ofPairs {R : α × β → α × γ → Prop} (hkeys : ∀ a b, R a b → a.1 = b.1)
    {pairs : List (α × β)} {pairs' : List (α × γ)} (h : List.Forall₂ R pairs pairs') :
    List.Forall₂ R (ofPairs pairs) (ofPairs pairs') := by
  have hstep : ∀ made made', List.Forall₂ R made made' → ∀ a b, R a b →
      List.Forall₂ R (put a.1 a.2 made) (put b.1 b.2 made') :=
    fun _ _ hmade _ _ hab => forall₂_put hkeys hab hmade
  exact List.rel_foldl hstep .nil h

/-- What is built up from pairs is worked off to what is built up from their results. -/
theorem mapM_ofPairs {ε : Type} {f : α × β → Except ε (α × γ)}
    (hkeys : ∀ a b, f a = .ok b → a.1 = b.1) {pairs : List (α × β)} {results : List (α × γ)}
    (h : pairs.mapM f = .ok results) : (ofPairs pairs).mapM f = .ok (ofPairs results) :=
  mapM_eq_ok_iff.2 (forall₂_ofPairs hkeys (mapM_eq_ok_iff.1 h))

/-- What is done to each value can be done before the pairs are built up or after. -/
theorem ofPairs_map (f : β → γ) (pairs : List (α × β)) :
    ofPairs (pairs.map fun pair => (pair.1, f pair.2)) =
      (ofPairs pairs).map fun pair => (pair.1, f pair.2) := by
  let R : α × β → α × γ → Prop := fun a b => (a.1, f a.2) = b
  have hkeys : ∀ a b, R a b → a.1 = b.1 := fun _ _ hab => congrArg Prod.fst hab
  have hpairs : List.Forall₂ R pairs (pairs.map fun pair => (pair.1, f pair.2)) := by
    rw [List.forall₂_map_right_iff, List.forall₂_same]
    exact fun _ _ => rfl
  have hbuilt := forall₂_ofPairs hkeys hpairs
  rw [eq_comm, ← List.forall₂_eq_eq_eq, List.forall₂_map_left_iff]
  exact hbuilt

/-! ### Lists under keys -/

/-- **All that pairs list under a key**, in order. -/
def listed (key : α) (pairs : List (α × List β)) : List β :=
  (pairs.filter (·.1 = key)).flatMap Prod.snd

/-- **No list is replaced** by a later one under its key, unless it is empty. -/
def LosesNothing (pairs : List (α × List β)) : Prop :=
  pairs.Pairwise fun earlier later => earlier.1 = later.1 → earlier.2 = []

/-- What is built up lists under each key all that the pairs do. -/
def KeepsAll (pairs : List (α × List β)) : Prop :=
  ∀ key, (get? key (ofPairs pairs)).getD [] = listed key pairs

variable {pairs : List (α × List β)}

theorem listed_append_singleton (key : α) (pairs : List (α × List β)) (pair : α × List β) :
    listed key (pairs ++ [pair]) = listed key pairs ++ if pair.1 = key then pair.2 else [] := by
  rw [listed, List.filter_append, List.flatMap_append, listed]
  by_cases h : pair.1 = key <;> simp [h]

theorem losesNothing_append_singleton_iff {pair : α × List β} :
    LosesNothing (pairs ++ [pair]) ↔ LosesNothing pairs ∧ listed pair.1 pairs = [] := by
  rw [LosesNothing, LosesNothing, List.pairwise_append, listed, List.flatMap_eq_nil_iff]
  simp

/-- A key under which nothing is listed has at most an empty list. -/
theorem getD_ofPairs_of_listed_eq_nil {key : α} (h : listed key pairs = []) :
    (get? key (ofPairs pairs)).getD [] = [] := by
  cases hget : get? key (ofPairs pairs) with
  | none => rfl
  | some list =>
    have hmem : (key, list) ∈ pairs := mem_of_mem_ofPairs (mem_of_get?_eq_some hget)
    exact List.flatMap_eq_nil_iff.1 h (key, list) (List.mem_filter.2 ⟨hmem, by simp⟩)

/-- **All is kept exactly when no list is replaced**, unless it is empty. -/
theorem keepsAll_iff : KeepsAll pairs ↔ LosesNothing pairs := by
  induction pairs using List.reverseRecOn with
  | nil => exact iff_of_true (fun _ => rfl) List.Pairwise.nil
  | append_singleton pairs pair ih =>
    rw [losesNothing_append_singleton_iff, ← ih]
    constructor
    · intro h
      -- what was listed under the last key is replaced, so there was nothing
      have hnil : listed pair.1 pairs = [] := by
        have hself := h pair.1
        rw [ofPairs_append_singleton, get?_put_self, listed_append_singleton, if_pos rfl,
          Option.getD_some] at hself
        exact List.self_eq_append_left.1 hself
      refine ⟨fun key => ?_, hnil⟩
      by_cases hkey : pair.1 = key
      · subst hkey
        rw [hnil, getD_ofPairs_of_listed_eq_nil hnil]
      · have hother := h key
        rwa [ofPairs_append_singleton, get?_put_of_ne (Ne.symm hkey), listed_append_singleton,
          if_neg hkey, List.append_nil] at hother
    · rintro ⟨h, hnil⟩ key
      rw [ofPairs_append_singleton, listed_append_singleton]
      -- under the last key stands what came last, and under the others what stood there
      split_ifs with hkey
      · subst hkey
        rw [get?_put_self, hnil, List.nil_append, Option.getD_some]
      · rw [get?_put_of_ne (Ne.symm hkey), List.append_nil, h key]

/-- The list that is put in comes in place of the one that was there. -/
theorem length_flatMap_put (key : α) (list : List β) (pairs : Association α (List β)) :
    ((put key list pairs).flatMap Prod.snd).length + ((get? key pairs).getD []).length =
      (pairs.flatMap Prod.snd).length + list.length := by
  induction pairs with
  | nil => simp [put]
  | cons pair rest ih =>
    rw [put, get?]
    split_ifs with hkey
    · simp only [List.flatMap_cons, List.length_append, Option.getD_some]
      omega
    · simp only [List.flatMap_cons, List.length_append]
      omega

/-- What is built up lists no more than the pairs do. -/
theorem length_flatMap_ofPairs_le (pairs : List (α × List β)) :
    ((ofPairs pairs).flatMap Prod.snd).length ≤ (pairs.flatMap Prod.snd).length := by
  induction pairs using List.reverseRecOn with
  | nil => exact Nat.le_refl _
  | append_singleton pairs pair ih =>
    have hput := length_flatMap_put pair.1 pair.2 (ofPairs pairs)
    rw [ofPairs_append_singleton, List.flatMap_append, List.length_append, List.flatMap_singleton]
    omega

/-- **As much is listed in what is built up as in the pairs exactly when no list is replaced**,
unless it is empty. -/
theorem length_flatMap_ofPairs_eq_iff :
    ((ofPairs pairs).flatMap Prod.snd).length = (pairs.flatMap Prod.snd).length ↔
      LosesNothing pairs := by
  induction pairs using List.reverseRecOn with
  | nil => exact iff_of_true rfl List.Pairwise.nil
  | append_singleton pairs pair ih =>
    have hput := length_flatMap_put pair.1 pair.2 (ofPairs pairs)
    have hle := length_flatMap_ofPairs_le pairs
    rw [losesNothing_append_singleton_iff, ← ih, ofPairs_append_singleton, List.flatMap_append,
      List.length_append, List.flatMap_singleton]
    constructor
    · intro h
      -- the list that was replaced is empty, and nothing was lost before
      have hold : (get? pair.1 (ofPairs pairs)).getD [] = [] :=
        List.eq_nil_of_length_eq_zero (by omega)
      have hlength : ((ofPairs pairs).flatMap Prod.snd).length =
          (pairs.flatMap Prod.snd).length := by omega
      exact ⟨hlength, (keepsAll_iff.2 (ih.1 hlength) pair.1).symm.trans hold⟩
    · rintro ⟨hlength, hnil⟩
      rw [getD_ofPairs_of_listed_eq_nil hnil, List.length_nil] at hput
      omega

end SchemaScribe.Association
