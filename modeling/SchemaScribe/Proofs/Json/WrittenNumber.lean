import Mathlib.Data.List.Induction
import Mathlib.Data.List.TakeWhile
import Mathlib.Tactic.Ring
import SchemaScribe.Number.Layout
import SchemaScribe.Proofs.Json.Continuation
import SchemaScribe.Proofs.Number.ReadBack
import SchemaScribe.Proofs.Outcome

/-!
# Written numbers are read back

An integer is read back from its digits, if they are not too many (`readNumber_int`), and a double
from its text, whichever layout it has (`readNumber_binary64`): all layouts of some digits write the
same decimal, apart from zeros at its end (`readUnsigned_layOut`).
-/

namespace SchemaScribe.Json

open Binary64 (stripZeros exponentText layOut ofDecimal ofDecimal_shift)

/-! ### The numbers that digits write -/

/-- The number that decimal digits write. -/
def digitsValue (digits : List CodePoint) : Nat :=
  Text.ofDigits 10 (digits.filterMap Text.asciiDigit?)

theorem exists_asciiDigit? {c : CodePoint} (h : c.isDigit = true) :
    ∃ value, Text.asciiDigit? c = some value := by
  have hdigit : '0' ≤ c ∧ c ≤ '9' := by
    simpa [CodePoint.isDigit, CodePoint.le_def] using h
  exact ⟨_, if_pos hdigit⟩

theorem length_filterMap_asciiDigit? {digits : List CodePoint}
    (h : ∀ c ∈ digits, c.isDigit = true) :
    (digits.filterMap Text.asciiDigit?).length = digits.length := by
  induction digits with
  | nil => rfl
  | cons c digits ih =>
    rw [List.forall_mem_cons] at h
    obtain ⟨value, hvalue⟩ := exists_asciiDigit? h.1
    rw [List.filterMap_cons_some hvalue, List.length_cons, List.length_cons, ih h.2]

theorem ofDigits_append (base : Nat) (values more : List Nat) :
    Text.ofDigits base (values ++ more) =
      Text.ofDigits base values * base ^ more.length + Text.ofDigits base more := by
  induction more using List.reverseRecOn with
  | nil => simp [Text.ofDigits]
  | append_singleton more value ih =>
    simp only [Text.ofDigits, ← List.append_assoc, List.foldl_append, List.foldl_cons,
      List.foldl_nil, List.length_append, List.length_singleton] at ih ⊢
    rw [ih, pow_succ]
    ring

theorem digitsValue_append {digits more : List CodePoint} (h : ∀ c ∈ more, c.isDigit = true) :
    digitsValue (digits ++ more) = digitsValue digits * 10 ^ more.length + digitsValue more := by
  unfold digitsValue
  rw [List.filterMap_append, ofDigits_append, length_filterMap_asciiDigit? h]

theorem digitsValue_zeros (count : Nat) : digitsValue (List.replicate count (.char '0')) = 0 := by
  induction count with
  | zero => rfl
  | succ count ih =>
    rw [List.replicate_succ', digitsValue_append (List.forall_mem_singleton.2 rfl), ih]
    rfl

theorem digitsValue_digitChar {n : Nat} (h : n < 10) :
    (CodePoint.char n.digitChar).isDigit = true ∧ digitsValue [.char n.digitChar] = n := by
  have hall : ∀ m : Fin 10, (CodePoint.char m.val.digitChar).isDigit = true ∧
      digitsValue [.char m.val.digitChar] = m := by
    decide
  exact hall ⟨n, h⟩

/-- **The digits of a number write it.** -/
theorem digitsValue_decimalDigits (n : Nat) : digitsValue (Text.decimalDigits n) = n := by
  induction n using Nat.strong_induction_on with
  | _ n ih =>
    by_cases hn : n < 10
    · rw [Text.decimalDigits, Nat.toDigits_of_lt_base hn, List.map_singleton,
        (digitsValue_digitChar hn).2]
    · obtain ⟨hdigit, hvalue⟩ := digitsValue_digitChar (Nat.mod_lt n (by omega : 0 < 10))
      rw [Text.decimalDigits, Nat.toDigits_of_base_le (by omega) (by omega), List.map_append,
        List.map_singleton, ← Text.decimalDigits,
        digitsValue_append (List.forall_mem_singleton.2 hdigit), ih (n / 10) (by omega), hvalue,
        List.length_singleton, pow_one]
      omega

/-- Zeros at the front of digits do not count. -/
theorem digitsValue_zeros_append (count : Nat) {digits : List CodePoint}
    (h : ∀ c ∈ digits, c.isDigit = true) :
    digitsValue (List.replicate count (.char '0') ++ digits) = digitsValue digits := by
  rw [digitsValue_append h, digitsValue_zeros, zero_mul, zero_add]

theorem isDigit_of_mem_zeros {count : Nat} :
    ∀ c ∈ List.replicate count (CodePoint.char '0'), c.isDigit = true := by
  intro c hc
  rw [List.eq_of_mem_replicate hc]
  rfl

/-- Zeros at the end of digits are powers of ten. -/
theorem digitsValue_append_zeros (digits : List CodePoint) (count : Nat) :
    digitsValue (digits ++ List.replicate count (.char '0')) = digitsValue digits * 10 ^ count := by
  rw [digitsValue_append isDigit_of_mem_zeros, digitsValue_zeros, List.length_replicate, add_zero]

/-! ### Numbers without a sign -/

/-- Digits alone are an integer, if there are not too many of them. -/
theorem readUnsigned_whole {digits : List CodePoint} (hd : IsWhole digits)
    (hlimit : digits.length ≤ Numeral.digitLimit) (negative : Bool) (start : List CodePoint) :
    readUnsigned negative start digits =
      .ok (.int (if negative then -(digitsValue digits : Int) else digitsValue digits), []) := by
  have hsplit : splitWhole? digits = some (digits, []) := by
    simpa using splitWhole?_append hd stopsDigits_nil
  rw [readUnsigned, hsplit]
  show (readWhole negative digits >>= fun n => pure (n, [])) = _
  rw [readWhole, if_neg (not_lt.2 hlimit)]
  rfl

/-- An exponent has a letter, a sign and digits. -/
theorem exists_exponentText (e : Int) :
    ∃ digits, (∀ c ∈ digits, c.isDigit = true) ∧ digits ≠ [] ∧ digitsValue digits = e.natAbs ∧
      exponentText e = .char 'e' :: (if e < 0 then .char '-' else .char '+') :: digits := by
  have hwhole := isWhole_decimalDigits e.natAbs
  have hvalue := digitsValue_decimalDigits e.natAbs
  unfold exponentText
  dsimp only
  by_cases hlength : (Text.decimalDigits e.natAbs).length < 2
  · refine ⟨.char '0' :: Text.decimalDigits e.natAbs, ?_, List.cons_ne_nil _ _, ?_, ?_⟩
    · exact List.forall_mem_cons.2 ⟨rfl, hwhole.digit⟩
    · exact (digitsValue_zeros_append 1 hwhole.digit).trans hvalue
    · rw [if_pos hlength]
  · exact ⟨_, hwhole.digit, hwhole.ne_nil, hvalue, by rw [if_neg hlength]⟩

/-- The exponent of a decimal is read back. -/
theorem splitExponent?_exponentText (e : Int) : splitExponent? (exponentText e) = some (e, []) := by
  obtain ⟨digits, hdigit, hne, hvalue, htext⟩ := exists_exponentText e
  have htake : digits.takeWhile CodePoint.isDigit = digits := List.takeWhile_eq_self_iff.2 hdigit
  have hdrop : digits.dropWhile CodePoint.isDigit = [] := List.dropWhile_eq_nil_iff.2 hdigit
  have hread : Text.ofDigits 10 (digits.filterMap Text.asciiDigit?) = e.natAbs := hvalue
  have hsign : Numeral.splitSign ((if e < 0 then .char '-' else .char '+') :: digits) =
      (decide (e < 0), digits) := by
    by_cases h : e < 0
    · simp [Numeral.splitSign, h]
    · simp [Numeral.splitSign, h]
  rw [htext, splitExponent?, if_pos (Or.inl rfl)]
  simp only [hsign, htake, hdrop, hread]
  rw [if_neg (by simpa using hne)]
  congr 2
  by_cases h : e < 0
  · rw [if_pos (decide_eq_true h)]
    omega
  · rw [if_neg (by simpa using h)]
    omega

theorem stopsDigits_exponentText (e : Int) : StopsDigits (exponentText e) := by
  rintro c ⟨⟩
  rfl

variable (negative : Bool) (start : List CodePoint) {digits places : List CodePoint}

theorem readUnsigned_fraction (hd : IsWhole digits) (hp : ∀ c ∈ places, c.isDigit = true)
    (hne : places ≠ []) :
    readUnsigned negative start (digits ++ .char '.' :: places) =
      .ok (.float (ofDecimal negative (digitsValue (digits ++ places)) (-places.length)), []) := by
  have hfraction : splitFraction? (.char '.' :: places) = some (places, []) := by
    simpa using splitFraction?_append hp hne stopsDigits_nil
  rw [readUnsigned, splitWhole?_append hd (by simp [StopsDigits])]
  simp only [hfraction]
  rw [← zero_sub]
  rfl

theorem readUnsigned_exponent (hd : IsWhole digits) (e : Int) :
    readUnsigned negative start (digits ++ exponentText e) =
      .ok (.float (ofDecimal negative (digitsValue digits) e), []) := by
  have hfraction : splitFraction? (exponentText e) = none :=
    splitFraction?_of_head (by simp [exponentText])
  rw [readUnsigned, splitWhole?_append hd (stopsDigits_exponentText e)]
  simp only [hfraction, Option.map_none, Option.getD_none, splitExponent?_exponentText]
  simp [digitsValue]

theorem readUnsigned_fraction_exponent (hd : IsWhole digits)
    (hp : ∀ c ∈ places, c.isDigit = true) (hne : places ≠ []) (e : Int) :
    readUnsigned negative start (digits ++ .char '.' :: (places ++ exponentText e)) =
      .ok (.float (ofDecimal negative (digitsValue (digits ++ places)) (e - places.length)),
        []) := by
  rw [readUnsigned, splitWhole?_append hd (by simp [StopsDigits])]
  simp only [splitFraction?_append hp hne (stopsDigits_exponentText e), Option.map_some,
    Option.getD_some, splitExponent?_exponentText]
  rfl

/-! ### Layouts -/

/-- A zero before the point, and behind it zeros and the digits. -/
theorem readUnsigned_behind (hd : IsWhole digits) (count : Nat) :
    readUnsigned negative start
        (.char '0' :: .char '.' :: (List.replicate count (.char '0') ++ digits)) =
      .ok (.float (ofDecimal negative (digitsValue digits) (-(count + digits.length))), []) := by
  have hplaces : ∀ c ∈ List.replicate count (.char '0') ++ digits, c.isDigit = true :=
    List.forall_mem_append.2 ⟨isDigit_of_mem_zeros, hd.digit⟩
  have hvalue : digitsValue ([.char '0'] ++ (List.replicate count (.char '0') ++ digits)) =
      digitsValue digits := by
    rw [← List.append_assoc, ← List.replicate_one, List.replicate_append_replicate,
      digitsValue_zeros_append _ hd.digit]
  have hread := readUnsigned_fraction negative start isWhole_zero hplaces (by simp [hd.ne_nil])
  rw [hvalue, List.length_append, List.length_replicate, Nat.cast_add] at hread
  exact hread

/-- What stands before the point: the first digits, and zeros where there are too few. -/
def beforePoint (digits : List CodePoint) (count : Nat) : List CodePoint :=
  digits.take count ++ List.replicate (count - digits.length) (.char '0')

/-- What stands behind the point, if `count` digits stand before it. -/
def behindPoint (digits : List CodePoint) (count : Nat) : List CodePoint :=
  if (digits.drop count).isEmpty then [.char '0'] else digits.drop count

theorem isWhole_beforePoint (hd : IsWhole digits) {e : Nat} (hzero : digits = [.char '0'] → e = 0) :
    IsWhole (beforePoint digits (e + 1)) where
  digit := List.forall_mem_append.2
    ⟨fun c hc => hd.digit c (List.mem_of_mem_take hc), isDigit_of_mem_zeros⟩
  ne_nil := by simp [beforePoint, hd.ne_nil]
  zero hhead := by
    cases digits with
    | nil => exact absurd rfl hd.ne_nil
    | cons c digits =>
      have hall := hd.zero hhead
      rw [hall, hzero hall]
      rfl

theorem isDigit_of_mem_behindPoint (hd : IsWhole digits) (count : Nat) :
    ∀ c ∈ behindPoint digits count, c.isDigit = true := by
  unfold behindPoint
  split
  · exact isWhole_zero.digit
  · exact fun c hc => hd.digit c (List.mem_of_mem_drop hc)

theorem behindPoint_ne_nil (digits : List CodePoint) (count : Nat) :
    behindPoint digits count ≠ [] := by
  unfold behindPoint
  split
  · exact List.cons_ne_nil _ _
  · next hne => simpa using hne

/-- Around the point there are the digits and, where they end before it, zeros. -/
theorem exists_zeros_around (digits : List CodePoint) (count : Nat) :
    ∃ zeros, beforePoint digits count ++ behindPoint digits count =
        digits ++ List.replicate zeros (.char '0') ∧
      digits.length + zeros = count + (behindPoint digits count).length := by
  unfold beforePoint behindPoint
  by_cases hlength : digits.length ≤ count
  · rw [List.drop_eq_nil_of_le hlength, List.take_of_length_le hlength]
    refine ⟨count - digits.length + 1, ?_, ?_⟩
    · rw [List.append_assoc, List.replicate_succ']
      rfl
    · show _ = count + 1
      omega
  · have hne : digits.drop count ≠ [] := by simpa using hlength
    rw [if_neg (by simpa using hne), Nat.sub_eq_zero_of_le (by omega)]
    refine ⟨0, by simp, ?_⟩
    rw [List.length_drop]
    omega

/-- Digits before and behind the point. -/
theorem readUnsigned_around (hd : IsWhole digits) {e : Nat} (hzero : digits = [.char '0'] → e = 0) :
    readUnsigned negative start
        (beforePoint digits (e + 1) ++ .char '.' :: behindPoint digits (e + 1)) =
      .ok (.float (ofDecimal negative (digitsValue digits) (e + 1 - digits.length)), []) := by
  obtain ⟨zeros, hdigits, hlength⟩ := exists_zeros_around digits (e + 1)
  have hexponent : -((behindPoint digits (e + 1)).length : Int) =
      e + 1 - digits.length - zeros := by omega
  have hread := readUnsigned_fraction negative start (isWhole_beforePoint hd hzero)
    (isDigit_of_mem_behindPoint hd (e + 1)) (behindPoint_ne_nil _ _)
  rw [hdigits, digitsValue_append_zeros, hexponent, ofDecimal_shift] at hread
  exact hread

/-- **All layouts of some digits write one decimal.** -/
theorem readUnsigned_layOut (hd : IsWhole digits) {e : Int} (hzero : digits = [.char '0'] → e = 0) :
    readUnsigned negative start (layOut digits e) =
      .ok (.float (ofDecimal negative (digitsValue digits) (e + 1 - digits.length)), []) := by
  unfold layOut
  dsimp only
  split
  · split
    · -- all digits stand behind the point
      have hexponent : e + 1 - digits.length = -(((-e - 1).toNat : Nat) + digits.length : Int) := by
        omega
      rw [hexponent]
      exact readUnsigned_behind negative start hd (-e - 1).toNat
    · -- the point stands among or behind the digits
      have hexponent : e = e.toNat := by omega
      have hread := @readUnsigned_around negative start digits hd e.toNat
        fun h => by rw [hzero h]; rfl
      rw [← hexponent] at hread
      exact hread
  · split
    · exact absurd rfl hd.ne_nil
    · rw [List.length_singleton, Nat.cast_one, add_sub_cancel_right]
      exact readUnsigned_exponent negative start hd e
    · next d more hmore =>
      -- one digit stands before the point, the others behind it
      have hd' := List.forall_mem_cons.1 hd.digit
      have hfirst : IsWhole [d] := ⟨by simpa using hd'.1, by simp, by simp⟩
      have hne : more ≠ [] := by simpa using hmore
      have hexponent : e + 1 - ((d :: more).length : Int) = e - more.length := by
        rw [List.length_cons]
        omega
      rw [hexponent]
      exact readUnsigned_fraction_exponent negative start hfirst hd'.2 hne e

/-! ### Decimals -/

theorem stripZeros_ne_nil (digits : List CodePoint) : stripZeros digits ≠ [] := by
  rw [stripZeros]
  split
  · exact List.cons_ne_nil _ _
  · assumption

/-- Of digits that do not begin with a zero only zeros at the end are left out. -/
theorem exists_append_zeros {digits : List CodePoint} (hne : digits ≠ [])
    (h : digits.head? ≠ some (.char '0')) :
    ∃ count, stripZeros digits ++ List.replicate count (.char '0') = digits := by
  have hsplit : (digits.reverse.dropWhile (· == .char '0')).reverse ++
      (digits.reverse.takeWhile (· == .char '0')).reverse = digits := by
    rw [← List.reverse_append, List.takeWhile_append_dropWhile, List.reverse_reverse]
  have hzeros : ∀ c ∈ (digits.reverse.takeWhile (· == .char '0')).reverse, c = '0' := by
    intro c hc
    rw [List.mem_reverse] at hc
    simpa using List.mem_takeWhile_imp hc
  refine ⟨(digits.reverse.takeWhile (· == .char '0')).reverse.length, ?_⟩
  rw [← List.eq_replicate_of_mem hzeros, stripZeros]
  split
  · next hnil =>
    -- nothing is left only of zeros
    rw [hnil, List.nil_append] at hsplit
    rw [hsplit] at hzeros
    cases digits with
    | nil => exact absurd rfl hne
    | cons c digits => exact absurd (congrArg some (hzeros c List.mem_cons_self)) h
  · exact hsplit

/-- Without the zeros at their end, digits that do not begin with a zero still do not. -/
theorem head_stripZeros {digits : List CodePoint} (hne : digits ≠ [])
    (h : digits.head? ≠ some (.char '0')) :
    (stripZeros digits).head? = digits.head? ∧
      ∀ c ∈ stripZeros digits, c ∈ digits := by
  obtain ⟨count, hdigits⟩ := exists_append_zeros hne h
  have hkept := stripZeros_ne_nil digits
  generalize stripZeros digits = kept at hdigits hkept ⊢
  subst hdigits
  constructor
  · cases kept with
    | nil => exact absurd rfl hkept
    | cons c kept => rfl
  · exact fun c hc => List.mem_append_left _ hc

theorem isWhole_stripZeros (n : Nat) : IsWhole (stripZeros (Text.decimalDigits n)) := by
  rcases Nat.eq_zero_or_pos n with rfl | hn
  · exact isWhole_zero
  · obtain ⟨hhead, hmem⟩ := head_stripZeros decimalDigits_ne_nil (head_decimalDigits_ne_zero hn)
    refine ⟨fun c hc => (isWhole_decimalDigits n).digit c (hmem c hc), stripZeros_ne_nil _, ?_⟩
    intro hzero
    exact absurd (hhead.symm.trans hzero) (head_decimalDigits_ne_zero hn)

/-- Digits that are a zero without its followers are those of zero. -/
theorem eq_zero_of_stripZeros {n : Nat} (h : stripZeros (Text.decimalDigits n) = [.char '0']) :
    n = 0 := by
  by_contra hne
  have hhead := head_decimalDigits_ne_zero (Nat.pos_of_ne_zero hne)
  rw [← (head_stripZeros decimalDigits_ne_nil hhead).1, h] at hhead
  exact hhead rfl

/-- **A decimal is read back.** -/
theorem readUnsigned_decimal (d : Binary64.Decimal) :
    readUnsigned negative start d.text =
      .ok (.float (ofDecimal negative d.digits d.exponent), []) := by
  rw [Binary64.Decimal.text]
  refine (readUnsigned_layOut negative start (isWhole_stripZeros d.digits)
    fun hzero => if_pos (eq_zero_of_stripZeros hzero)).trans ?_
  rcases Nat.eq_zero_or_pos d.digits with hzero | hpos
  · have hdigits : digitsValue (stripZeros (Text.decimalDigits 0)) = 0 := by decide
    unfold ofDecimal
    rw [hzero, hdigits, if_pos (Or.inl rfl), if_pos (Or.inl rfl)]
  · -- the zeros at the end are left out of the digits and put into the exponent
    obtain ⟨count, hcount⟩ :=
      exists_append_zeros decimalDigits_ne_nil (head_decimalDigits_ne_zero hpos)
    have hvalue := digitsValue_decimalDigits d.digits
    have hlength := congrArg List.length hcount
    rw [← hcount, digitsValue_append_zeros] at hvalue
    rw [List.length_append, List.length_replicate] at hlength
    rw [if_neg hpos.ne', ← ofDecimal_shift negative _ _ count, hvalue]
    congr 5
    omega

/-! ### Numbers -/

theorem afterUnsigned?_of_readUnsigned {cs rest : List CodePoint} {value : Json}
    (h : readUnsigned negative start cs = .ok (value, rest)) : afterUnsigned? cs = some rest := by
  rw [readUnsigned] at h
  rw [afterUnsigned?]
  cases hwhole : splitWhole? cs with
  | none =>
    rw [hwhole] at h
    cases h
  | some whole =>
    rw [hwhole] at h
    dsimp only at h
    split at h
    · obtain ⟨n, -, h⟩ := bind_eq_ok_iff.1 h
      exact congrArg some (Prod.mk.inj (Except.ok.inj h)).2
    · exact congrArg some (Prod.mk.inj (Except.ok.inj h)).2

/-- What is read as a number is a numeral. -/
theorem isNumeral_of_readNumber {cs : List CodePoint} {value : Json}
    (h : readNumber cs = .ok (value, [])) : isNumeral cs = true := by
  rw [readNumber.eq_def] at h
  split at h
  · exact isNumeral_minus (afterUnsigned?_of_readUnsigned _ _ h)
  · exact isNumeral_of_afterUnsigned? (afterUnsigned?_of_readUnsigned _ _ h)

theorem readNumber_signed {cs : List CodePoint} {value : Json}
    (h : ∀ start, readUnsigned negative start cs = .ok (value, [])) :
    readNumber ((if negative then [.char '-'] else []) ++ cs) = .ok (value, []) := by
  cases negative with
  | true => exact h _
  | false =>
    cases cs with
    | nil => exact h []
    | cons c cs =>
      have hdigit := isDigit_of_afterUnsigned? (afterUnsigned?_of_readUnsigned _ _ (h []))
      refine (readNumber_of_ne ?_ cs).trans (h _)
      rintro rfl
      cases hdigit

/-- **An integer is read back**, if it does not have too many digits. -/
theorem readNumber_int {n : Int} (h : Binary64.decimalLength n.natAbs ≤ Numeral.digitLimit) :
    readNumber (Text.toList (toString n)) = .ok (.int n, []) := by
  have hwhole := isWhole_decimalDigits n.natAbs
  have hread : ∀ negative : Bool, (n < 0 ↔ negative = true) →
      readNumber ((if negative then [.char '-'] else []) ++ Text.decimalDigits n.natAbs) =
        .ok (.int n, []) := by
    intro negative hnegative
    have hvalue : (if negative then -(n.natAbs : Int) else n.natAbs) = n := by
      split
      · next hminus =>
        have hn := hnegative.2 hminus
        omega
      · next hplus =>
        have hn := mt hnegative.1 hplus
        omega
    -- the sign is read first, and then the digits of the absolute value
    apply readNumber_signed
    intro start
    have hlength : (Text.decimalDigits n.natAbs).length ≤ Numeral.digitLimit := by
      rwa [Text.decimalDigits, List.length_map]
    rw [readUnsigned_whole hwhole hlength, digitsValue_decimalDigits, hvalue]
  rw [Text.toList_toString_int]
  split
  · next hn =>
    have habs : n.toNat = n.natAbs := by omega
    rw [habs]
    exact hread false (by simpa using hn)
  · next hn =>
    have habs : (-n).toNat = n.natAbs := by omega
    rw [habs]
    exact hread true (by simpa using hn)

/-- **A double is read back.** -/
theorem readNumber_binary64 {value : Binary64} (h : value.isFinite = true)
    (words : Binary64.Words) :
    readNumber (value.text words).toList = .ok (.float value, []) := by
  cases value with
  | finite negative rank =>
    rw [Binary64.text, Text.toList_ofList]
    apply readNumber_signed
    intro start
    rw [readUnsigned_decimal, Binary64.ofDecimal_shortest]
  | infinite negative => exact absurd h Bool.false_ne_true
  | nan => exact absurd h Bool.false_ne_true

/-- **A double that is neither infinite nor `nan` is written as a numeral.** -/
theorem isNumeral_binary64 {value : Binary64} (h : value.isFinite = true)
    (words : Binary64.Words) : isNumeral (value.text words).toList = true :=
  isNumeral_of_readNumber (readNumber_binary64 h words)

/-- A numeral begins as a number does. -/
theorem startsNumber_of_isNumeral {cs : List CodePoint} (h : isNumeral cs = true) :
    StartsNumber cs := by
  rw [isNumeral.eq_def] at h
  split at h
  · next cs =>
    cases cs with
    | nil => cases h
    | cons c cs =>
      have hdigit := isDigit_of_afterUnsigned? (beq_iff_eq.1 h)
      exact ⟨c, cs, hdigit, Or.inr rfl⟩
  · cases cs with
    | nil => cases h
    | cons c cs =>
      have hdigit := isDigit_of_afterUnsigned? (beq_iff_eq.1 h)
      exact ⟨c, cs, hdigit, Or.inl rfl⟩

end SchemaScribe.Json
