import SchemaScribe.Text.Digit

/-!
# Text files

A text file is UTF-8, and each of the three ways to end a line counts as one line feed
(`unifyLineEnds`).  Bytes that are not UTF-8 are refused with the place and the reason of the first
fault (`decode`), and so is a text that has no bytes since half of a surrogate pair stands in it
(`encode`).
-/

namespace SchemaScribe.Text.Utf8

/-! ### Faults -/

/-- Why bytes are not UTF-8. -/
inductive Reason where
  | start
  | continuation
  | truncated
  deriving DecidableEq, Repr

/-- The wording of a reason. -/
def Reason.message : Reason → Text
  | .start => "invalid start byte"
  | .continuation => "invalid continuation byte"
  | .truncated => "unexpected end of data"

/-- **The first fault of a run of bytes**: where it starts, the bytes from there that belong to it,
and the reason. -/
structure Fault where
  offset : Nat
  bytes : List UInt8
  reason : Reason
  deriving DecidableEq, Repr

/-- The wording of a fault names a single byte by its value and several by their range. -/
def Fault.message (fault : Fault) : Text :=
  let place :=
    match fault.bytes with
    | [byte] => "byte 0x" ++ Text.ofList (hexDigits 2 byte.toNat) ++ " in position "
    | _ => "bytes in position "
  let last :=
    match fault.bytes with
    | [_] => ""
    | bytes => s!"-{fault.offset + bytes.length - 1}"
  "'utf-8' codec can't decode " ++ place ++ toString fault.offset ++ last ++ ": " ++
    fault.reason.message

/-! ### The scan for the first fault -/

/-- The bytes that continue a character. -/
def isContinuation (byte : UInt8) : Bool := 0x80 ≤ byte && byte < 0xC0

/-- The bytes that may come second after the first byte `lead`: overlong forms, surrogates and
codes past the last plane are cut off here. -/
def isSecond (lead byte : UInt8) : Bool :=
  isContinuation byte &&
    (if lead = 0xE0 then 0xA0 ≤ byte
    else if lead = 0xED then byte < 0xA0
    else if lead = 0xF0 then 0x90 ≤ byte
    else if lead = 0xF4 then byte < 0x90
    else true)

/-- How many bytes a character has whose first byte is `lead`. -/
def lengthOf? (lead : UInt8) : Option Nat :=
  if lead < 0x80 then some 1
  else if lead < 0xC2 then none
  else if lead < 0xE0 then some 2
  else if lead < 0xF0 then some 3
  else if lead < 0xF5 then some 4
  else none

/-- The fault of the character at the head of `bytes`, if it has one: a byte in the second to last
place that cannot stand there, or an end that comes too soon. -/
def faultAtHead? (offset : Nat) : List UInt8 → Option Fault
  | [] => none
  | lead :: rest =>
    match lengthOf? lead with
    | none => some ⟨offset, [lead], .start⟩
    | some length =>
      let tail := rest.take (length - 1)
      let sound := (tail.take 1).takeWhile (isSecond lead) ++
        (if tail.head?.any (isSecond lead) then (tail.drop 1).takeWhile isContinuation else [])
      if sound.length < tail.length then some ⟨offset, lead :: sound, .continuation⟩
      else if tail.length + 1 < length then some ⟨offset, lead :: tail, .truncated⟩
      else none

/-- The first fault from `offset` on.  Sound characters are passed over one by one; `fuel` counts
the characters and is enough when it exceeds the number of bytes. -/
def firstFault (offset : Nat) : Nat → List UInt8 → Fault
  | 0, bytes => ⟨offset, bytes, .truncated⟩
  | fuel + 1, bytes =>
    match faultAtHead? offset bytes with
    | some fault => fault
    | none =>
      let length := (bytes.head?.bind lengthOf?).getD 1
      firstFault (offset + length) fuel (bytes.drop length)

/-- **Bytes read as UTF-8**, or the first fault. -/
def decode (bytes : ByteArray) : Except Fault String :=
  match String.fromUTF8? bytes with
  | some text => .ok text
  | none => .error (firstFault 0 (bytes.size + 1) bytes.data.toList)

/-! ### Encoding -/

/-- **Why a text has no bytes**: the first half in it, where that stands, and how many halves stand
there in a row. -/
structure EncodeFault where
  half : Fin 0x800
  offset : Nat
  count : Nat
  deriving DecidableEq, Repr

/-- The escape of a half. -/
def halfEscape (half : Fin 0x800) : Text :=
  "\\u" ++ Text.ofList (hexDigits 4 (CodePoint.half half).toNat)

/-- The wording of a fault names a single half by its code and several by their range. -/
def EncodeFault.message (fault : EncodeFault) : Text :=
  let place :=
    if fault.count = 1 then
      "character '" ++ halfEscape fault.half ++ s!"' in position {fault.offset}"
    else s!"characters in position {fault.offset}-{fault.offset + fault.count - 1}"
  "'utf-8' codec can't encode " ++ place ++ ": surrogates not allowed"

/-- The characters of code points of which `offset` stand before. -/
def encodeFrom (offset : Nat) : List CodePoint → Except EncodeFault (List Char)
  | [] => .ok []
  | .char c :: rest => (encodeFrom (offset + 1) rest).map (c :: ·)
  | .half index :: rest =>
    .error ⟨index, offset, (rest.takeWhile fun c => c.char?.isNone).length + 1⟩

/-- **The bytes of a text**, or the first half in it. -/
def encode (text : Text) : Except EncodeFault ByteArray :=
  (encodeFrom 0 text.toList).map fun cs => (String.ofList cs).toUTF8

/-- A text with its halves as escapes. -/
def escapeHalves (text : Text) : Text :=
  Text.ofList (text.toList.flatMap fun
    | .char c => [.char c]
    | .half index => (halfEscape index).toList)

/-! ### Line ends -/

/-- A carriage return, alone or before a line feed, becomes a line feed. -/
def unifyLineEnds : List Char → List Char
  | [] => []
  | '\r' :: '\n' :: rest => '\n' :: unifyLineEnds rest
  | c :: rest => (if c = '\r' then '\n' else c) :: unifyLineEnds rest

/-- The text of a file's bytes. -/
def fileText (bytes : ByteArray) : Except Fault String :=
  (decode bytes).map fun text => String.ofList (unifyLineEnds text.toList)

/-- A text without carriage returns keeps its line ends. -/
theorem unifyLineEnds_of_not_mem {cs : List Char} (h : '\r' ∉ cs) : unifyLineEnds cs = cs := by
  fun_induction unifyLineEnds cs <;> grind

end SchemaScribe.Text.Utf8
