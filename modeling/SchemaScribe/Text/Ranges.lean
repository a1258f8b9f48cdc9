/-!
# Ranges of code points

A property of characters as a list of inclusive ranges in increasing order.  The search stops at the
first range that lies past the code point, which in an ordered list is no loss
(`inRanges_eq_any`).
-/

namespace SchemaScribe.Text

/-- A code point lies in one of the ranges, which are in increasing order. -/
def inRanges (code : Nat) : List (Nat × Nat) → Bool
  | [] => false
  | (first, last) :: rest =>
    if code < first then false else code ≤ last || inRanges code rest

/-- Ranges are in increasing order when each begins after all before it. -/
def areIncreasing : List (Nat × Nat) → Bool
  | (first, last) :: (next, more) :: rest =>
    decide (first ≤ last ∧ last < next) && areIncreasing ((next, more) :: rest)
  | _ => true

/-- Every range of an increasing list begins at or after the beginning of the first one. -/
theorem le_of_mem_of_areIncreasing {first last : Nat} {rest : List (Nat × Nat)}
    (h : areIncreasing ((first, last) :: rest)) {range : Nat × Nat}
    (hr : range ∈ (first, last) :: rest) : first ≤ range.1 := by
  induction rest generalizing first last with
  | nil =>
    simp only [List.mem_singleton] at hr
    simp [hr]
  | cons next rest ih =>
    simp only [areIncreasing, Bool.and_eq_true, decide_eq_true_eq] at h
    rcases List.mem_cons.1 hr with rfl | hr
    · simp
    · have := ih h.2 hr
      omega

/-- **The early stop is no loss.** -/
theorem inRanges_eq_any {ranges : List (Nat × Nat)} (h : areIncreasing ranges) (code : Nat) :
    inRanges code ranges = ranges.any fun range => range.1 ≤ code && code ≤ range.2 := by
  induction ranges with
  | nil => rfl
  | cons range rest ih =>
    obtain ⟨first, last⟩ := range
    have hrest : areIncreasing rest := by
      cases rest with
      | nil => rfl
      | cons next rest =>
        simp only [areIncreasing, Bool.and_eq_true] at h
        exact h.2
    by_cases hc : code < first
    · have hnone : ∀ r ∈ (first, last) :: rest, ¬ r.1 ≤ code := by
        intro r hr
        have := le_of_mem_of_areIncreasing h hr
        omega
      have : ((first, last) :: rest).any (fun r => r.1 ≤ code && code ≤ r.2) = false := by
        simp only [List.any_eq_false, Bool.and_eq_true, decide_eq_true_eq, not_and]
        exact fun r hr hle => absurd hle (hnone r hr)
      rw [this]
      simp [inRanges, hc]
    · have hle : first ≤ code := by omega
      simp [inRanges, hc, ih hrest, hle]

end SchemaScribe.Text
