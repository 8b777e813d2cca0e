/-!
# Similar words

Two words are similar in so far as they hold the same blocks of characters in the same order. The
longest common block counts first, and then the blocks of what lies in front of it and of what lies
behind it. An unknown word is answered with the known ones that it resembles.

## Main definitions

* `Block`, `longestBlock` — a block that two words hold, and the longest one.
* `shared` — how many characters two words share in blocks.
* `similarTo` — the words that resemble one most.
-/

namespace Sgr.Text

/-- The start that two lists of characters have in common. -/
def commonStart : List Char → List Char → List Char
  | a :: as, b :: bs => if a = b then a :: commonStart as bs else []
  | _, _ => []

theorem commonStart_isPrefix_left (as bs : List Char) : commonStart as bs <+: as := by
  induction as generalizing bs with
  | nil => simp [commonStart]
  | cons a as ih =>
    cases bs with
    | nil => simp [commonStart]
    | cons b bs =>
      by_cases h : a = b
      · simpa [commonStart, h] using ih bs
      · simp [commonStart, h]

theorem commonStart_comm (as bs : List Char) : commonStart as bs = commonStart bs as := by
  induction as generalizing bs with
  | nil => cases bs <;> rfl
  | cons a as ih =>
    cases bs with
    | nil => rfl
    | cons b bs =>
      by_cases h : a = b
      · simp [commonStart, h, ih bs]
      · simp [commonStart, h, Ne.symm h]

/-- A block that two words hold: where it starts in the one and in the other, and its length. -/
structure Block where
  left : Nat := 0
  right : Nat := 0
  length : Nat := 0
  deriving DecidableEq, Repr, Inhabited

/-- The blocks of two words, in the order of where they start. -/
def blocks (as bs : List Char) : List Block :=
  (List.range as.length).flatMap fun i =>
    (List.range bs.length).map fun j => ⟨i, j, (commonStart (as.drop i) (bs.drop j)).length⟩

/-- The longest block of two words, the first of those of one length. -/
def longestBlock (as bs : List Char) : Block :=
  (blocks as bs).foldl (fun best x => if best.length < x.length then x else best) {}

/-- How many characters two words share in blocks. -/
def shared (as bs : List Char) : Nat :=
  match longestBlock as bs with
  | ⟨i, j, n⟩ =>
    if _ : 0 < n ∧ i < as.length then
      shared (as.take i) (bs.take j) + n + shared (as.drop (i + n)) (bs.drop (j + n))
    else 0
termination_by as.length
decreasing_by all_goals simp only [List.length_take, List.length_drop]; omega

/-- The characters that two words share, counted in both, and the characters of both. -/
def similarity (word other : String) : Nat × Nat :=
  (2 * shared other.toList word.toList, other.length + word.length)

/-- Whether two words share at least three fifths of their characters. -/
def isSimilar (word other : String) : Bool :=
  let (common, total) := similarity word other
  3 * total ≤ 5 * common

/-- Whether a word resembles another one at least as much as a second word does; of two that do so
alike, the one that is last in order. -/
def atLeastAsSimilar (word a b : String) : Bool :=
  let (commonA, totalA) := similarity word a
  let (commonB, totalB) := similarity word b
  commonB * totalA < commonA * totalB || (commonB * totalA = commonA * totalB && b ≤ a)

/-- The words that resemble one most, at most three, in alphabetical order. -/
def similarTo (word : String) (known : List String) : List String :=
  (((known.filter (isSimilar word)).mergeSort (atLeastAsSimilar word)).take 3).mergeSort
    fun a b => a ≤ b

end Sgr.Text
