import Mathlib.Algebra.Ring.Int.Defs
import Mathlib.Data.List.Basic
import Mathlib.Tactic.NormNum
import SchemaScribe.Number.Shortest

/-!
# Decimals of doubles read back

The decimal that a magnitude is written with reads as the magnitude (`ofDecimal_shortest`): one that
was selected was tried, and the magnitude in full is exact.  What a decimal reads as does not depend
on how many of its zeros are written (`ofDecimal_shift`), since rounding a quotient depends on the
quotient alone (`nearestRank_mul_right`).
-/

namespace SchemaScribe.Binary64

/-! ### Rounding quotients -/

/-- Rounding depends on the quotient alone. -/
theorem roundDiv_mul_right {c : Nat} (hc : 0 < c) (n d : Nat) :
    roundDiv (n * c) (d * c) = roundDiv n d := by
  have hbelow : 2 * (n % d * c) < d * c ↔ 2 * (n % d) < d := by
    rw [← mul_assoc]
    exact Nat.mul_lt_mul_right hc
  have habove : d * c < 2 * (n % d * c) ↔ d < 2 * (n % d) := by
    rw [← mul_assoc]
    exact Nat.mul_lt_mul_right hc
  unfold roundDiv
  simp only [Nat.mul_div_mul_right _ _ hc, Nat.mul_mod_mul_right, hbelow, habove]

/-- Integers are not rounded. -/
theorem roundDiv_one (n : Nat) : roundDiv n 1 = n := by
  simp [roundDiv, Nat.mod_one]

theorem nearestRank_mul_right {c : Nat} (hc : 0 < c) (n d : Nat) :
    nearestRank (n * c) (d * c) = nearestRank n d := by
  unfold nearestRank
  simp only [Nat.mul_div_mul_right _ _ hc, Nat.mul_right_comm d c, roundDiv_mul_right hc]

/-- A significand of 53 binary digits is found again, and so is its unit. -/
theorem nearestRank_of_significand {s : Nat} (hlow : 2 ^ 52 ≤ s) (hhigh : s < 2 ^ 53) (k : Nat) :
    nearestRank (s * 2 ^ k) 1 = k * 2 ^ 52 + s := by
  have hlog : (s * 2 ^ k).log2 = 52 + k := by
    rw [Nat.log2_eq_iff (Nat.mul_pos (by omega) (Nat.two_pow_pos k)).ne']
    constructor
    · rw [pow_add]
      exact Nat.mul_le_mul_right _ hlow
    · calc s * 2 ^ k < 2 ^ 53 * 2 ^ k := Nat.mul_lt_mul_of_pos_right hhigh (Nat.two_pow_pos k)
        _ = 2 ^ (52 + k + 1) := by rw [← pow_add]; congr 1; omega
  simp only [nearestRank, Nat.pow_eq, Nat.div_one, hlog, Nat.add_sub_cancel_left,
    roundDiv_mul_right (Nat.two_pow_pos k), roundDiv_one]

/-- A number of fewer than 53 binary digits is not rounded. -/
theorem nearestRank_of_lt {n : Nat} (h : n < 2 ^ 52) : nearestRank n 1 = n := by
  have hlog : n.log2 - 52 = 0 := by
    rcases Nat.eq_zero_or_pos n with rfl | hpos
    · rfl
    · have hlt := (Nat.log2_lt hpos.ne').2 h
      omega
  simp only [nearestRank, Nat.pow_eq, Nat.div_one, hlog, pow_zero, mul_one, roundDiv_one, zero_mul,
    zero_add]

/-- **The magnitude of a rank is nearest to itself.** -/
theorem nearestRank_units (rank : Nat) : nearestRank (units rank) 1 = rank := by
  have hdiv := Nat.div_add_mod rank (2 ^ 52)
  simp only [units, unit, significand, Nat.pow_eq]
  by_cases hrank : rank < 2 ^ 52
  · rw [if_pos hrank, Nat.div_eq_of_lt hrank, pow_zero, mul_one, nearestRank_of_lt hrank]
  · have hmod := Nat.mod_lt rank (Nat.two_pow_pos 52)
    have hblock : 0 < rank / 2 ^ 52 := Nat.div_pos (not_lt.1 hrank) (Nat.two_pow_pos 52)
    rw [if_neg hrank, nearestRank_of_significand (by omega) (by omega)]
    omega

theorem ofUnits_eq {n d : Nat} {rank : Fin magnitudes} (h : nearestRank n d = rank)
    (negative : Bool) : ofUnits negative n d = .finite negative rank := by
  unfold ofUnits
  simp only [h, rank.isLt, dif_pos]

/-! ### Reading decimals -/

theorem ofQuotient_mul_right {c : Nat} (hc : 0 < c) (negative : Bool) (n d : Nat) :
    ofQuotient negative (n * c) (d * c) = ofQuotient negative n d := by
  have hrank : nearestRank (n * c * one) (d * c) = nearestRank (n * one) d := by
    rw [Nat.mul_right_comm]
    exact nearestRank_mul_right hc _ _
  unfold ofQuotient ofUnits
  simp only [hrank]

theorem decimalLength_mul_ten {n : Nat} (hn : 0 < n) :
    decimalLength (n * 10) = decimalLength n + 1 := by
  unfold decimalLength
  rw [Nat.toDigits_of_base_le (by omega) (by omega), Nat.mul_div_cancel n (by omega),
    List.length_append, List.length_singleton]

theorem ofDecimal_mul_ten (negative : Bool) (n : Nat) (e : Int) :
    ofDecimal negative (n * 10) (e - 1) = ofDecimal negative n e := by
  rcases Nat.eq_zero_or_pos n with rfl | hn
  · unfold ofDecimal
    simp
  have hplaces : (decimalLength (n * 10) : Int) + (e - 1) = decimalLength n + e := by
    rw [decimalLength_mul_ten hn]
    push_cast
    omega
  have hzero : n * 10 = 0 ↔ n = 0 := by omega
  unfold ofDecimal
  simp only [hplaces, hzero]
  split_ifs
  · rfl
  · rfl
  -- the exponent goes down by one: from zero, from above it, or from below
  rcases e with (_ | e) | e
  · have hexponent : Int.ofNat 0 - 1 = Int.negSucc 0 := rfl
    have hquotient := ofQuotient_mul_right (by omega : 0 < 10) negative n 1
    simp only [hexponent, Nat.pow_eq, pow_zero, zero_add, pow_one, mul_one]
    rwa [one_mul] at hquotient
  · have hexponent : Int.ofNat (e + 1) - 1 = Int.ofNat e := by simp
    simp only [hexponent, Nat.pow_eq, pow_succ', mul_assoc]
  · have hexponent : Int.negSucc e - 1 = Int.negSucc (e + 1) := rfl
    simp only [hexponent, Nat.pow_eq, pow_succ 10 (e + 1)]
    exact ofQuotient_mul_right (by omega : 0 < 10) negative n _

/-- **A decimal may be written with any number of zeros at its end.** -/
theorem ofDecimal_shift (negative : Bool) (n : Nat) (e : Int) (zeros : Nat) :
    ofDecimal negative (n * 10 ^ zeros) (e - zeros) = ofDecimal negative n e := by
  induction zeros with
  | zero => rw [pow_zero, mul_one, Nat.cast_zero, sub_zero]
  | succ zeros ih =>
    rw [pow_succ, ← mul_assoc, Nat.cast_succ, ← sub_sub, ofDecimal_mul_ten, ih]

/-- The sign has no part in how a magnitude is read. -/
theorem ofDecimal_eq_finite {n : Nat} {e : Int} {rank : Fin magnitudes}
    (h : ofDecimal false n e = .finite false rank) (negative : Bool) :
    ofDecimal negative n e = .finite negative rank := by
  have hunits : ∀ n d, ofUnits false n d = .finite false rank →
      ofUnits negative n d = .finite negative rank := by
    intro n d hn
    unfold ofUnits at hn ⊢
    split_ifs at hn ⊢ with hlt
    rw [(Binary64.finite.inj hn).2]
  unfold ofDecimal at h ⊢
  dsimp only at h ⊢
  split_ifs at h ⊢
  · rw [zero, (Binary64.finite.inj h).2]
  · split at h
    · exact hunits _ _ h
    · exact hunits _ _ h

/-! ### Decimals of magnitudes -/

theorem lt_decimalLength {n k : Nat} (h : 10 ^ k ≤ n) : k < decimalLength n := by
  rcases Nat.eq_zero_or_pos k with rfl | hk
  · exact List.length_pos_of_ne_nil Nat.toDigits_ne_nil
  · by_contra hle
    have hlt := (Nat.length_toDigits_le_iff (by omega : 1 < 10) hk).1 (not_lt.1 hle)
    exact absurd hlt (not_lt.2 h)

theorem decimalLength_le {n k : Nat} (hk : 0 < k) (h : n < 10 ^ k) : decimalLength n ≤ k :=
  (Nat.length_toDigits_le_iff (by omega : 1 < 10) hk).2 h

/-- Powers are compared block by block. -/
theorem pow_le_pow_of_blocks {x y a b c d : Nat} (hblock : x ^ a ≤ y ^ b) (hrest : x ^ c ≤ y ^ d)
    (count : Nat) : x ^ (a * count + c) ≤ y ^ (b * count + d) := by
  rw [pow_add, pow_mul, pow_add, pow_mul]
  exact Nat.mul_le_mul (Nat.pow_le_pow_left hblock count) hrest

theorem units_lt {rank places : Nat} (h : rank < magnitudes) (hplaces : 1074 ≤ places) :
    units rank < 2 ^ (places + 1024) := by
  have hsignificand : significand rank < 2 ^ 53 := by
    have hmod := Nat.mod_lt rank (Nat.two_pow_pos 52)
    simp only [significand, Nat.pow_eq]
    split <;> omega
  have hunit : unit rank ≤ 2045 := by
    have hblock : rank / 2 ^ 52 < 2047 := (Nat.div_lt_iff_lt_mul (Nat.two_pow_pos 52)).2 h
    simp only [unit, Nat.pow_eq]
    omega
  calc units rank < 2 ^ 53 * 2 ^ unit rank :=
        Nat.mul_lt_mul_of_pos_right hsignificand (Nat.two_pow_pos _)
    _ = 2 ^ (53 + unit rank) := (pow_add 2 53 _).symm
    _ ≤ 2 ^ (places + 1024) := Nat.pow_le_pow_right (by omega) (by omega)

theorem two_pow_mul_five_pow (k : Nat) : 2 ^ k * 5 ^ k = 10 ^ k := (Nat.mul_pow 2 5 k).symm

/-- Written out in full, a magnitude has digits at places that are read. -/
theorem decimalLength_exact {units places : Nat} (hplaces : 1074 ≤ places) (hpos : 0 < units)
    (hunits : units < 2 ^ (places + 1024)) :
    750 < decimalLength (units * 5 ^ places) ∧
      decimalLength (units * 5 ^ places) ≤ places + 309 := by
  constructor
  · -- there are enough factors of five for that many digits
    have hfives := pow_le_pow_of_blocks (by norm_num : 10 ^ 51 ≤ 5 ^ 73)
      (by norm_num : 10 ^ 36 ≤ 5 ^ 52) 14
    have hle : ∀ k, k ≤ places → 5 ^ k ≤ 5 ^ places :=
      fun k hk => Nat.pow_le_pow_right (by omega) hk
    have hpower := hfives.trans (hle _ hplaces)
    have hlength := lt_decimalLength (hpower.trans (Nat.le_mul_of_pos_left _ hpos))
    omega
  · -- the twos that pair with the fives make tens, and the others are bounded
    have htwos := pow_le_pow_of_blocks (by norm_num : 2 ^ 93 ≤ 10 ^ 28)
      (by norm_num : 2 ^ 1 ≤ 10 ^ 1) 11
    have hlt : units * 5 ^ places < 10 ^ (28 * 11 + 1 + places) := by
      calc units * 5 ^ places < 2 ^ (places + (93 * 11 + 1)) * 5 ^ places :=
            Nat.mul_lt_mul_of_pos_right hunits (Nat.pow_pos (by omega))
        _ = 2 ^ (93 * 11 + 1) * 10 ^ places := by
            rw [pow_add, mul_right_comm, two_pow_mul_five_pow, mul_comm]
        _ ≤ 10 ^ (28 * 11 + 1) * 10 ^ places := Nat.mul_le_mul_right _ htwos
        _ = 10 ^ (28 * 11 + 1 + places) := (pow_add 10 _ _).symm
    have hlength := decimalLength_le (by omega) hlt
    omega

/-- One counts as many units as the places of the smallest magnitude ask for. -/
theorem one_eq {places : Nat} (h : places = 1074) : one = 2 ^ places := by
  unfold one
  rw [← h, Nat.pow_eq]

theorem exact_eq {places : Nat} (h : places = 1074) (rank : Nat) :
    Decimal.exact rank = ⟨units rank * 5 ^ places, -(places : Int)⟩ := by
  have hexponent : -(places : Int) = -1074 := by omega
  rw [hexponent, Decimal.exact, ← h, Nat.pow_eq]

/-- The quotient that the magnitude in full stands for is the magnitude. -/
theorem nearestRank_exact {places : Nat} (h : places = 1074) (rank : Nat) :
    nearestRank (units rank * 5 ^ places * one) (10 ^ places) = rank := by
  have hten : units rank * 5 ^ places * one = units rank * 10 ^ places := by
    rw [one_eq h, mul_assoc, mul_comm (5 ^ places), two_pow_mul_five_pow]
  have hpower : 0 < 10 ^ places := Nat.pow_pos (by omega)
  have hscaled := nearestRank_mul_right hpower (units rank) 1
  rw [one_mul] at hscaled
  rw [hten, hscaled, nearestRank_units]

/-- **The magnitude in full reads back.** -/
theorem readsAs_exact (rank : Fin magnitudes) : (Decimal.exact rank).readsAs rank = true := by
  obtain ⟨places, hplaces⟩ : ∃ places : Nat, places = 1074 := ⟨_, rfl⟩
  have hrank := nearestRank_units rank
  have hunits := units_lt rank.isLt hplaces.ge
  unfold Decimal.readsAs Decimal.toBinary
  rw [beq_iff_eq, exact_eq hplaces]
  rcases Nat.eq_zero_or_pos (units rank) with hzero | hpos
  · rw [hzero, nearestRank_of_lt (Nat.two_pow_pos 52)] at hrank
    have hfirst : rank = zeroRank := Fin.ext hrank.symm
    unfold ofDecimal
    rw [hzero, zero_mul, if_pos (Or.inl rfl), zero, hfirst]
  · -- the exact decimal has neither too few nor too many digits to be rounded
    obtain ⟨hleast, hgreatest⟩ := decimalLength_exact hplaces.ge hpos hunits
    have hexponent : -(places : Int) = Int.negSucc (places - 1) := by omega
    have hdigits : units rank * 5 ^ places ≠ 0 := (Nat.mul_pos hpos (Nat.pow_pos (by omega))).ne'
    have hpower : Nat.pow 10 (places - 1 + 1) = 10 ^ places := by
      rw [Nat.pow_eq, Nat.sub_add_cancel (by omega)]
    unfold ofDecimal
    dsimp only
    rw [if_neg (by omega), if_neg (by omega), hexponent]
    dsimp only
    rw [hpower, ofQuotient, ofUnits_eq (nearestRank_exact hplaces rank)]

theorem readsAs_shortest (rank : Fin magnitudes) : (shortest rank).readsAs rank = true := by
  unfold shortest
  dsimp only
  cases hfound : (List.range' 1 17).findSome? fun count =>
      (below (expansion rank) count).select? rank with
  | none => exact readsAs_exact rank
  | some d =>
    obtain ⟨count, -, hselect⟩ := List.exists_of_findSome?_eq_some hfound
    exact Decimal.readsAs_of_select? hselect

/-- **What a magnitude is written with reads as the magnitude**, with either sign. -/
theorem ofDecimal_shortest (negative : Bool) (rank : Fin magnitudes) :
    ofDecimal negative (shortest rank).digits (shortest rank).exponent = .finite negative rank := by
  have hreads := readsAs_shortest rank
  unfold Decimal.readsAs Decimal.toBinary at hreads
  exact ofDecimal_eq_finite (beq_iff_eq.1 hreads) negative

end SchemaScribe.Binary64
