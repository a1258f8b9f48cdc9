import SchemaScribe.Text.Case

/-!
# Where upper case leads

The upper case of a character begins with a character that is no small letter of ASCII
(`exists_upperChar`) and that is its own upper case (`exists_upperChar_eq`), and it lies in ASCII
for ten characters besides those of ASCII (`ascii_upperChar_iff`).  Runs of the case table move
whole stretches of characters, so all of this is told from where a stretch ends up.
-/

namespace SchemaScribe.Text

/-- The run that is found is one of the table, and it holds the character. -/
theorem mem_and_holds_of_findRun? {code : Nat} {runs : List CaseRun} {run : CaseRun}
    (h : findRun? code runs = some run) : run ∈ runs ∧ run.holds code = true := by
  induction runs with
  | nil => cases h
  | cons first rest ih =>
    rw [findRun?] at h
    split at h
    · cases h
    split at h
    · next hholds =>
      obtain rfl := Option.some.inj h
      exact ⟨List.mem_cons_self, hholds⟩
    · obtain ⟨hmem, hholds⟩ := ih h
      exact ⟨List.mem_cons_of_mem first hmem, hholds⟩

/-- The characters outside of ASCII whose upper case lies in ASCII. -/
def asciiCapitals : List CodePoint := Text.toList "ıſßﬀﬁﬂﬃﬄﬅﬆ"

/-- The table of runs: each moves characters to characters and none to small letters, two lead into
ASCII from outside, with one character each, and what is moved to within ASCII is a capital. -/
theorem upperRuns_checked :
    (upperRuns.all fun run => decide (0 ≤ run.first + run.shift) &&
      (decide (run.last + run.shift < 0xD800) || (decide (0xDFFF < run.first + run.shift) &&
        decide (run.last + run.shift < 0x110000)))) = true ∧
    (upperRuns.all fun run =>
      run.last + run.shift < 97 || 122 < run.first + run.shift) = true ∧
    (upperRuns.all fun run => decide (run.last < 128) ||
      decide (128 ≤ run.first + run.shift) || (decide (run.first = run.last) &&
        asciiCapitals.contains (CodePoint.ofNat run.first))) = true ∧
    (upperRuns.all fun run => decide (128 ≤ run.first + run.shift) ||
      decide (65 ≤ run.first + run.shift) && decide (run.last + run.shift ≤ 90)) = true := by
  decide +kernel

/-- The table of expansions: none begins with a small letter, those within ASCII are of
`asciiCapitals`, and what they have of ASCII are capitals. -/
theorem upperExpansions_checked :
    (upperExpansions.all fun entry => (Text.toList entry.2).head?.any fun d => !d.isLower) = true ∧
    (upperExpansions.all fun entry => (Text.toList entry.2).any (128 ≤ ·.toNat) ||
      asciiCapitals.contains (CodePoint.ofNat entry.1)) = true ∧
    (upperExpansions.all fun entry =>
      (Text.toList entry.2).all fun e => decide (128 ≤ e.toNat) || e.isUpper) = true := by
  decide +kernel

/-- A run of the table moves its characters to characters. -/
theorem exists_run_of_moveBy {c d : CodePoint} (h : moveBy upperRuns c = some d) :
    ∃ run ∈ upperRuns, 0 ≤ run.first + run.shift ∧ run.holds c.toNat = true ∧
      (d.toNat : Int) = c.toNat + run.shift := by
  obtain ⟨run, hrun, rfl⟩ := Option.map_eq_some_iff.1 h
  obtain ⟨hmem, hholds⟩ := mem_and_holds_of_findRun? hrun
  -- no run ends up below zero or among the codes that stand for no character
  have hall := upperRuns_checked.1
  have hrange := List.all_eq_true.1 hall run hmem
  simp only [Bool.and_eq_true, Bool.or_eq_true, decide_eq_true_eq] at hrange
  refine ⟨run, hmem, hrange.1, hholds, ?_⟩
  simp only [CaseRun.holds, Bool.and_eq_true, decide_eq_true_eq] at hholds
  have himage : (run.image c.toNat : Int) = c.toNat + run.shift := by
    rw [CaseRun.image]
    omega
  rw [CodePoint.toNat_ofNat (by omega), himage]

theorem toNat_of_moveBy {c d : CodePoint} (h : moveBy upperRuns c = some d) :
    ∃ run ∈ upperRuns, run.first ≤ c.toNat ∧ c.toNat ≤ run.last ∧
      (d.toNat : Int) = c.toNat + run.shift := by
  obtain ⟨run, hmem, -, hholds, hcode⟩ := exists_run_of_moveBy h
  simp only [CaseRun.holds, Bool.and_eq_true, decide_eq_true_eq] at hholds
  exact ⟨run, hmem, hholds.1.1, hholds.1.2, hcode⟩

/-- No run ends up at the small letters. -/
theorem isLower_of_moveBy {c d : CodePoint} (h : moveBy upperRuns c = some d) :
    d.isLower = false := by
  obtain ⟨run, hmem, hfirst, hlast, hcode⟩ := toNat_of_moveBy h
  have hall := upperRuns_checked.2.1
  have hrange := List.all_eq_true.1 hall run hmem
  simp only [Bool.or_eq_true, decide_eq_true_eq] at hrange
  rw [Bool.eq_false_iff]
  intro hlower
  rw [CodePoint.isLower_iff] at hlower
  omega

/-- **The upper case of a character** begins with a character that is no small letter of ASCII. -/
theorem exists_upperChar (c : CodePoint) :
    ∃ d more, upperChar c = d :: more ∧ d.isLower = false := by
  rw [upperChar]
  cases hmove : moveBy upperRuns c with
  | some d => exact ⟨d, [], rfl, isLower_of_moveBy hmove⟩
  | none =>
    cases hfound : upperExpansions.find? (·.1 == c.toNat) with
    | some entry =>
      have hall := upperExpansions_checked.1
      have hhead := List.all_eq_true.1 hall entry (List.mem_of_find?_eq_some hfound)
      cases htext : (Text.toList entry.2) with
      | nil => rw [htext] at hhead; cases hhead
      | cons d more =>
        rw [htext] at hhead
        exact ⟨d, more, htext, by simpa using hhead⟩
    | none =>
      refine ⟨c, [], rfl, ?_⟩
      -- a small letter has another upper case, which is no small letter
      have hcapital : ∀ n : Fin 128, (CodePoint.ofNat n).toUpper.isLower = false := by decide
      rw [Bool.eq_false_iff]
      intro hlower
      have hrange := CodePoint.isLower_iff.1 hlower
      have hupper := upperChar_ascii ⟨c.toNat, by omega⟩
      rw [CodePoint.ofNat_toNat, upperChar, hmove, hfound] at hupper
      have hfalse := hcapital ⟨c.toNat, by omega⟩
      rw [CodePoint.ofNat_toNat, ← (List.cons.inj hupper).1, hlower] at hfalse
      cases hfalse

/-! ### ASCII -/

theorem upperChar_of_ascii {c : CodePoint} (hc : c.toNat < 128) : upperChar c = [c.toUpper] := by
  have h := upperChar_ascii ⟨c.toNat, hc⟩
  rwa [CodePoint.ofNat_toNat] at h

/-- Two runs lead into ASCII from outside, and each of them holds one character. -/
theorem ascii_or_mem_of_moveBy {c d : CodePoint} (h : moveBy upperRuns c = some d)
    (hd : d.toNat < 128) : c.toNat < 128 ∨ c ∈ asciiCapitals := by
  obtain ⟨run, hmem, hfirst, hlast, hcode⟩ := toNat_of_moveBy h
  have hall := upperRuns_checked.2.2.1
  have hrange := List.all_eq_true.1 hall run hmem
  simp only [Bool.or_eq_true, Bool.and_eq_true, decide_eq_true_eq, List.contains_iff_mem] at hrange
  rcases hrange with (hinside | houtside) | ⟨hsingle, hcapital⟩
  · exact Or.inl (by omega)
  · omega
  · have hcode : run.first = c.toNat := by omega
    rw [hcode, CodePoint.ofNat_toNat] at hcapital
    exact Or.inr hcapital

/-- **The upper case of a character lies in ASCII** just for the characters of ASCII and ten
others. -/
theorem ascii_upperChar_iff {c : CodePoint} :
    (∀ d ∈ upperChar c, d.toNat < 128) ↔ c.toNat < 128 ∨ c ∈ asciiCapitals := by
  constructor
  · intro h
    rw [upperChar] at h
    cases hmove : moveBy upperRuns c with
    | some d =>
      -- a character in a run is moved to another one
      rw [hmove] at h
      exact ascii_or_mem_of_moveBy hmove (h d (List.mem_singleton_self d))
    | none =>
      rw [hmove] at h
      cases hfound : upperExpansions.find? (·.1 == c.toNat) with
      | some entry =>
        rw [hfound] at h
        have hall := upperExpansions_checked.2.1
        have hentry := List.all_eq_true.1 hall entry (List.mem_of_find?_eq_some hfound)
        have hcode : entry.1 = c.toNat := by simpa using List.find?_some hfound
        -- the table has been checked for entries that lie in ASCII
        rw [hcode, CodePoint.ofNat_toNat, Bool.or_eq_true, List.any_eq_true,
          List.contains_iff_mem] at hentry
        rcases hentry with ⟨d, hd, hlarge⟩ | hcapital
        · have hsmall := h d hd
          simp only [decide_eq_true_eq] at hlarge
          omega
        · exact Or.inr hcapital
      | none =>
        rw [hfound] at h
        exact Or.inl (h c (List.mem_singleton_self c))
  · rintro (hc | hc)
    · have hall : ∀ n : Fin 128, (CodePoint.ofNat n).toUpper.toNat < 128 := by decide
      have hupper := hall ⟨c.toNat, hc⟩
      rw [CodePoint.ofNat_toNat] at hupper
      rwa [upperChar_of_ascii hc, List.forall_mem_singleton]
    · have hall : (asciiCapitals.all fun c => (upperChar c).all (·.toNat < 128)) = true := by
        decide +kernel
      simpa using List.all_eq_true.1 hall c hc

/-! ### What upper case leads to -/

/-- Codes as the bits of a number, by which long lists of them are told apart at once. -/
def bits (codes : List Nat) : Nat := codes.foldr (fun code bits => 1 <<< code ||| bits) 0

theorem testBit_bits_iff {codes : List Nat} {code : Nat} :
    (bits codes).testBit code = true ↔ code ∈ codes := by
  induction codes with
  | nil => simp [bits]
  | cons first rest ih =>
    have hcons : bits (first :: rest) = 1 <<< first ||| bits rest := rfl
    rw [hcons, Nat.testBit_or, Bool.or_eq_true, ih, Nat.one_shiftLeft, Nat.testBit_two_pow,
      decide_eq_true_eq, List.mem_cons, eq_comm]

theorem notMem_of_bits_land_eq_zero {codes others : List Nat} (h : bits codes &&& bits others = 0)
    {code : Nat} (hcode : code ∈ codes) : code ∉ others := by
  intro hother
  have hbit : (bits codes &&& bits others).testBit code = true := by
    rw [Nat.testBit_and, testBit_bits_iff.2 hcode, testBit_bits_iff.2 hother, Bool.and_self]
  rw [h, Nat.zero_testBit] at hbit
  cases hbit

/-- As many codes as a run has, in its steps from `first` on. -/
def CaseRun.codesFrom (run : CaseRun) (first : Nat) : List Nat :=
  (List.range ((run.last - run.first) / run.stride + 1)).map fun n => first + run.stride * n

theorem CaseRun.mem_codesFrom {run : CaseRun} {code first image : Nat}
    (hcode : run.holds code = true) (himage : (image : Int) - first = code - run.first) :
    image ∈ run.codesFrom first := by
  simp only [CaseRun.holds, Bool.and_eq_true, decide_eq_true_eq, beq_iff_eq] at hcode
  obtain ⟨⟨hfirst, hlast⟩, hstep⟩ := hcode
  have hsteps : run.stride * ((code - run.first) / run.stride) = code - run.first :=
    Nat.mul_div_cancel' (Nat.dvd_of_mod_eq_zero hstep)
  have hbound : (code - run.first) / run.stride ≤ (run.last - run.first) / run.stride :=
    Nat.div_le_div_right (by omega)
  refine List.mem_map.2 ⟨(code - run.first) / run.stride, List.mem_range.2 (by omega), ?_⟩
  rw [hsteps]
  omega

/-- The codes of the characters with an upper case of their own. -/
def smallCodes : List Nat :=
  (upperRuns.flatMap fun run => run.codesFrom run.first) ++ upperExpansions.map (·.1)

/-- The codes that the upper case of those characters begins with. -/
def capitalCodes : List Nat :=
  (upperRuns.flatMap fun run => run.codesFrom (run.image run.first)) ++
    upperExpansions.flatMap fun entry => ((Text.toList entry.2).take 1).map CodePoint.toNat

theorem bits_capitalCodes_land_smallCodes : bits capitalCodes &&& bits smallCodes = 0 := by
  decide +kernel

theorem upperChar_eq_singleton {c : CodePoint} (h : c.toNat ∉ smallCodes) : upperChar c = [c] := by
  rw [smallCodes, List.mem_append, not_or] at h
  have hstays : moveBy upperRuns c = none := by
    rw [Option.eq_none_iff_forall_ne_some]
    intro d hd
    obtain ⟨run, hmem, -, hholds, -⟩ := exists_run_of_moveBy hd
    exact h.1 (List.mem_flatMap.2 ⟨run, hmem, CaseRun.mem_codesFrom hholds rfl⟩)
  have hsingle : upperExpansions.find? (·.1 == c.toNat) = none := by
    rw [List.find?_eq_none]
    intro entry hentry heq
    exact h.2 (List.mem_map.2 ⟨entry, hentry, beq_iff_eq.1 heq⟩)
  rw [upperChar, hstays, hsingle]

/-- **Upper case is its own upper case** in the first of its characters. -/
theorem exists_upperChar_eq (c : CodePoint) :
    ∃ d more, upperChar c = d :: more ∧ upperChar d = [d] := by
  obtain ⟨d, more, hupper, -⟩ := exists_upperChar c
  refine ⟨d, more, hupper, ?_⟩
  rw [upperChar] at hupper
  cases hmove : moveBy upperRuns c with
  | some e =>
    rw [hmove] at hupper
    obtain ⟨rfl, -⟩ := List.cons.inj hupper
    -- what a run leads to is no beginning of a run and no entry of the table
    obtain ⟨run, hmem, hstart, hholds, hcode⟩ := exists_run_of_moveBy hmove
    have himage : e.toNat ∈ run.codesFrom (run.image run.first) :=
      CaseRun.mem_codesFrom hholds (by rw [CaseRun.image]; omega)
    exact upperChar_eq_singleton (notMem_of_bits_land_eq_zero bits_capitalCodes_land_smallCodes
      (List.mem_append_left _ (List.mem_flatMap.2 ⟨run, hmem, himage⟩)))
  | none =>
    rw [hmove] at hupper
    cases hfound : upperExpansions.find? (·.1 == c.toNat) with
    | some entry =>
      rw [hfound] at hupper
      dsimp only at hupper
      have himage : d.toNat ∈ ((Text.toList entry.2).take 1).map CodePoint.toNat := by
        rw [hupper]
        simp
      exact upperChar_eq_singleton (notMem_of_bits_land_eq_zero bits_capitalCodes_land_smallCodes
        (List.mem_append_right _
          (List.mem_flatMap.2 ⟨entry, List.mem_of_find?_eq_some hfound, himage⟩)))
    | none =>
      rw [hfound] at hupper
      obtain ⟨rfl, -⟩ := List.cons.inj hupper
      rw [upperChar, hmove, hfound]

/-- **Upper case leads to no mark**: what it has of ASCII besides the capitals was there before. -/
theorem eq_or_isUpper_of_mem_upperChar {c d : CodePoint} (h : d ∈ upperChar c)
    (hd : d.toNat < 128) :
    d = c ∨ d.isUpper = true := by
  rw [upperChar] at h
  cases hmove : moveBy upperRuns c with
  | some e =>
    rw [hmove] at h
    obtain rfl := List.mem_singleton.1 h
    obtain ⟨run, hmem, hfirst, hlast, hcode⟩ := toNat_of_moveBy hmove
    -- a run leads to capitals of ASCII, or past it
    have hall := upperRuns_checked.2.2.2
    have hrange := List.all_eq_true.1 hall run hmem
    simp only [Bool.or_eq_true, Bool.and_eq_true, decide_eq_true_eq] at hrange
    rw [CodePoint.isUpper_iff]
    omega
  | none =>
    rw [hmove] at h
    cases hfound : upperExpansions.find? (·.1 == c.toNat) with
    | some entry =>
      rw [hfound] at h
      have hall := upperExpansions_checked.2.2
      have hentry := List.all_eq_true.1 hall entry (List.mem_of_find?_eq_some hfound)
      have hletter := List.all_eq_true.1 hentry d h
      rw [Bool.or_eq_true, decide_eq_true_eq] at hletter
      exact Or.inr (hletter.resolve_left (by omega))
    | none =>
      rw [hfound] at h
      exact Or.inl (List.mem_singleton.1 h)

end SchemaScribe.Text
