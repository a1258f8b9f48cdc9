/-!
# Code points and texts

A text is a list of code points, and a code point is a character or one half of a surrogate pair
that stands alone.  Files hold characters only; a half comes into a text by an escape, in a snapshot
or in a configuration.  It can be held, compared and copied like a character, and shows itself only
where a text has to become bytes (`Text.Utf8.encode`).

A literal of characters is read as a text where one is expected.
-/

namespace SchemaScribe

/-! ### Code points -/

/-- **A code point**: a character, or half of a surrogate pair on its own. -/
inductive CodePoint where
  | char (c : Char)
  /-- The half with the code `0xD800 + index`. -/
  | half (index : Fin 0x800)
  deriving DecidableEq, Repr, Inhabited

instance : Coe Char CodePoint := ⟨.char⟩

namespace CodePoint

/-- The number of a code point. -/
def toNat : CodePoint → Nat
  | .char c => c.toNat
  | .half index => 0xD800 + index

/-- The code point of a number. -/
def ofNat (code : Nat) : CodePoint :=
  if h : 0xD800 ≤ code ∧ code < 0xE000 then .half ⟨code - 0xD800, by omega⟩
  else .char (Char.ofNat code)

/-- The character of a code point that is one. -/
def char? : CodePoint → Option Char
  | .char c => some c
  | .half _ => none

instance : LE CodePoint := ⟨fun a b => a.toNat ≤ b.toNat⟩

instance (a b : CodePoint) : Decidable (a ≤ b) := inferInstanceAs (Decidable (a.toNat ≤ b.toNat))

/-- The ASCII digits. -/
def isDigit (c : CodePoint) : Bool := '0' ≤ c && c ≤ '9'

/-- The capital letters of ASCII. -/
def isUpper (c : CodePoint) : Bool := 'A' ≤ c && c ≤ 'Z'

/-- The small letters of ASCII. -/
def isLower (c : CodePoint) : Bool := 'a' ≤ c && c ≤ 'z'

/-- The letters of ASCII. -/
def isAlpha (c : CodePoint) : Bool := c.isUpper || c.isLower

/-- A code point with the small letters of ASCII as capital ones. -/
def toUpper : CodePoint → CodePoint
  | .char c => .char c.toUpper
  | .half index => .half index

/-- A code point with the capital letters of ASCII as small ones. -/
def toLower : CodePoint → CodePoint
  | .char c => .char c.toLower
  | .half index => .half index

/-! ### Numbers of code points -/

@[simp] theorem toNat_char (c : Char) : (char c).toNat = c.toNat := rfl

@[simp] theorem toNat_half (index : Fin 0x800) : (half index).toNat = 0xD800 + index := rfl

theorem le_def {a b : CodePoint} : a ≤ b ↔ a.toNat ≤ b.toNat := Iff.rfl

theorem isDigit_iff {c : CodePoint} : c.isDigit ↔ 48 ≤ c.toNat ∧ c.toNat ≤ 57 := by
  simp [isDigit, le_def]

@[simp] theorem isDigit_char (c : Char) : (char c).isDigit = c.isDigit := by
  rw [Bool.eq_iff_iff, isDigit_iff, toNat_char]
  simp [Char.isDigit, UInt32.le_iff_toNat_le]

theorem isUpper_iff {c : CodePoint} : c.isUpper ↔ 65 ≤ c.toNat ∧ c.toNat ≤ 90 := by
  simp [isUpper, le_def]

theorem isLower_iff {c : CodePoint} : c.isLower ↔ 97 ≤ c.toNat ∧ c.toNat ≤ 122 := by
  simp [isLower, le_def]

/-- The numbers of characters leave out those of halves. -/
theorem not_half_toNat (c : Char) : ¬ (0xD800 ≤ c.toNat ∧ c.toNat < 0xE000) := by
  have hvalid : c.toNat < 0xD800 ∨ 0xDFFF < c.toNat ∧ c.toNat < 0x110000 := c.valid
  omega

/-- **A code point is the one of its number.** -/
theorem ofNat_toNat (c : CodePoint) : ofNat c.toNat = c := by
  cases c with
  | char c => rw [toNat_char, ofNat, dif_neg (not_half_toNat c), Char.ofNat_toNat]
  | half index =>
    have hindex := index.isLt
    rw [toNat_half, ofNat, dif_pos (by omega)]
    exact congrArg half (Fin.ext (Nat.add_sub_cancel_left 0xD800 index.val))

/-- A number of a code point is the one of its code point. -/
theorem toNat_ofNat {code : Nat} (h : code < 0x110000) : (ofNat code).toNat = code := by
  rw [ofNat]
  split
  · next hhalf => exact Nat.add_sub_cancel' hhalf.1
  · have hvalid : code.isValidChar := by
      rw [Nat.isValidChar]
      omega
    rw [toNat_char, Char.ofNat, dif_pos hvalid]
    rfl

end CodePoint

/-! ### Texts -/

/-- **A text.** -/
structure Text where
  ofList ::
  toList : List CodePoint
  deriving DecidableEq, Repr, Inhabited

namespace Text

/-- The text of a string of characters. -/
def ofString (s : String) : Text := ⟨s.toList.map .char⟩

instance : Coe String Text := ⟨ofString⟩

instance : Append Text := ⟨fun a b => ⟨a.toList ++ b.toList⟩⟩

/-- How many code points a text has. -/
def length (text : Text) : Nat := text.toList.length

/-- Texts one after the other. -/
def join (texts : List Text) : Text := ⟨texts.flatMap toList⟩

/-- Texts with a separator between each and the next. -/
def intercalate (separator : Text) : List Text → Text
  | [] => ""
  | [text] => text
  | text :: rest => text ++ separator ++ intercalate separator rest

/-- Whether code points come before others, or are the same.  The numbers of the first two that
differ decide. -/
def areInOrder : List CodePoint → List CodePoint → Bool
  | [], _ => true
  | _ :: _, [] => false
  | c :: cs, d :: ds => c.toNat < d.toNat || (c == d && areInOrder cs ds)

/-- Texts are in the order of the numbers of their code points. -/
instance : LE Text := ⟨fun a b => areInOrder a.toList b.toList = true⟩

instance (a b : Text) : Decidable (a ≤ b) :=
  inferInstanceAs (Decidable (areInOrder a.toList b.toList = true))

/-- The characters of a text without halves. -/
def chars? (text : Text) : Option (List Char) := text.toList.mapM CodePoint.char?

/-! ### Lists of code points -/

@[simp] theorem toList_ofList (cs : List CodePoint) : (ofList cs).toList = cs := rfl

@[simp] theorem ofList_toList (text : Text) : ofList text.toList = text := rfl

@[simp] theorem toList_append (a b : Text) : (a ++ b).toList = a.toList ++ b.toList := rfl

theorem ofList_append (a b : List CodePoint) : ofList (a ++ b) = ofList a ++ ofList b := rfl

theorem toList_injective {a b : Text} (h : a.toList = b.toList) : a = b := by
  cases a
  cases b
  exact congrArg ofList h

@[simp] theorem toList_inj {a b : Text} : a.toList = b.toList ↔ a = b :=
  ⟨toList_injective, congrArg toList⟩

@[simp] theorem toList_ofString (s : String) : (ofString s).toList = s.toList.map .char := rfl

@[simp] theorem ofString_inj {s t : String} : ofString s = ofString t ↔ s = t := by
  constructor
  · intro h
    have hmap := congrArg toList h
    rw [toList_ofString, toList_ofString] at hmap
    exact String.toList_inj.1 (List.map_inj_right (fun _ _ h => CodePoint.char.inj h) |>.1 hmap)
  · exact congrArg ofString

@[grind inj] theorem ofString_injective : Function.Injective ofString := fun _ _ => ofString_inj.1

theorem ofString_append (s t : String) : ofString (s ++ t) = ofString s ++ ofString t := by
  apply toList_injective
  rw [toList_append, toList_ofString, toList_ofString, toList_ofString, String.toList_append,
    List.map_append]

theorem toList_eq_nil_iff {text : Text} : text.toList = [] ↔ text = "" :=
  ⟨fun h => toList_injective h, congrArg toList⟩

@[simp] theorem append_empty (text : Text) : text ++ ("" : Text) = text :=
  toList_injective (List.append_nil _)

@[simp] theorem empty_append (text : Text) : ("" : Text) ++ text = text := rfl

theorem append_assoc (a b c : Text) : a ++ b ++ c = a ++ (b ++ c) :=
  toList_injective (List.append_assoc ..)

theorem append_left_inj {a b : Text} (c : Text) : a ++ c = b ++ c ↔ a = b := by
  rw [← toList_inj, toList_append, toList_append, List.append_left_inj, toList_inj]

theorem append_eq_empty_iff {a b : Text} : a ++ b = "" ↔ a = "" ∧ b = "" := by
  rw [← toList_eq_nil_iff, toList_append, List.append_eq_nil_iff, toList_eq_nil_iff,
    toList_eq_nil_iff]

theorem length_append (a b : Text) : (a ++ b).length = a.length + b.length := List.length_append

/-! ### Lists of texts -/

@[simp] theorem join_nil : join [] = "" := rfl

@[simp] theorem join_cons (text : Text) (rest : List Text) :
    join (text :: rest) = text ++ join rest := rfl

@[simp] theorem intercalate_nil (separator : Text) : intercalate separator [] = "" := rfl

@[simp] theorem intercalate_singleton (separator text : Text) :
    intercalate separator [text] = text := rfl

theorem intercalate_cons_cons (separator a b : Text) (rest : List Text) :
    intercalate separator (a :: b :: rest) = a ++ separator ++ intercalate separator (b :: rest) :=
  rfl

theorem toList_intercalate (separator : Text) (texts : List Text) :
    (intercalate separator texts).toList =
      List.intercalate separator.toList (texts.map toList) := by
  induction texts with
  | nil => rfl
  | cons a rest ih =>
    cases rest with
    | nil => simp [List.intercalate]
    | cons b rest =>
      rw [intercalate_cons_cons, toList_append, toList_append, ih]
      simp [List.intercalate]

end Text

end SchemaScribe
