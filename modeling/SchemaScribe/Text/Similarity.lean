import SchemaScribe.Text.CodePoint

/-!
# Similar words

How alike two words are, for suggestions after a misspelling.  The measure is the share of
characters in common blocks: the longest common block first, then the longest ones to its left and
to its right.  Words count as close from three fifths on.
-/

namespace SchemaScribe.Text

/-! ### Blocks -/

/-- A common block: where it starts in either word, and its length. -/
structure Block where
  left : Nat
  right : Nat
  size : Nat
  deriving DecidableEq, Repr

/-- The length of the common beginning of two words. -/
def commonLength : List CodePoint → List CodePoint → Nat
  | a :: as, b :: bs => if a = b then commonLength as bs + 1 else 0
  | _, _ => 0

/-- The longest common block of two words.  Of several, the one that starts first in the left word
wins, then the one that starts first in the right word. -/
def longestBlock (left right : List CodePoint) : Block :=
  (List.range left.length).foldl (fun best i =>
    (List.range right.length).foldl (fun best j =>
      let size := commonLength (left.drop i) (right.drop j)
      if best.size < size then ⟨i, j, size⟩ else best) best) ⟨0, 0, 0⟩

/-- How many characters the common blocks of two words hold together.  `fuel` bounds the number of
splits, for which the length of the left word is enough. -/
def commonSize : Nat → List CodePoint → List CodePoint → Nat
  | 0, _, _ => 0
  | fuel + 1, left, right =>
    let block := longestBlock left right
    if block.size = 0 then 0
    else
      commonSize fuel (left.take block.left) (right.take block.right) + block.size +
        commonSize fuel (left.drop (block.left + block.size))
          (right.drop (block.right + block.size))

/-! ### Closeness -/

/-- A word of a vocabulary with how many of its characters it shares, out of how many in both. -/
structure Likeness where
  word : Text
  shared : Nat
  total : Nat
  deriving DecidableEq, Repr

/-- The likeness of a vocabulary word to the word asked for. -/
def likeness (asked word : Text) : Likeness :=
  ⟨word, 2 * commonSize (word.length + 1) word.toList asked.toList, word.length + asked.length⟩

/-- Words are close from three fifths on. -/
def Likeness.isClose (l : Likeness) : Bool := 3 * l.total ≤ 5 * l.shared

/-- Of two words the closer comes first, and of two equally close ones the later in the alphabet. -/
def Likeness.before (a b : Likeness) : Bool :=
  let x := a.shared * b.total
  let y := b.shared * a.total
  y < x || (x == y && b.word ≤ a.word)

/-- **The words of a vocabulary that are close to `asked`**, at most three, the closest first. -/
def closeWords (asked : Text) (vocabulary : List Text) : List Text :=
  ((((vocabulary.map (likeness asked)).filter (·.isClose)).mergeSort Likeness.before).take 3).map
    (·.word)

end SchemaScribe.Text
