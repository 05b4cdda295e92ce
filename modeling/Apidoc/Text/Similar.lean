/-!
# Similar words

Two words are as similar as the share of their letters that match: the longest common stretch
counts, and what matches before it and after it in the same way.

* `matched`        the number of matching letters;
* `closeMatches`   the words similar to a given one, three at most.
-/

namespace Apidoc.Text

def commonPrefix : List Char → List Char → Nat
  | a :: as, b :: bs => if a = b then commonPrefix as bs + 1 else 0
  | _, _ => 0

structure Stretch where
  left : Nat
  right : Nat
  size : Nat

/-- The longest common stretch, the first of several. -/
def longestStretch (a b : List Char) : Stretch :=
  (List.range a.length).foldl (fun best i =>
    (List.range b.length).foldl (fun best j =>
      let n := commonPrefix (a.drop i) (b.drop j)
      if best.size < n then ⟨i, j, n⟩ else best) best) ⟨0, 0, 0⟩

def matchedFrom : Nat → List Char → List Char → Nat
  | 0, _, _ => 0
  | n + 1, a, b =>
    let s := longestStretch a b
    if s.size = 0 then 0
    else matchedFrom n (a.take s.left) (b.take s.right) + s.size +
      matchedFrom n (a.drop (s.left + s.size)) (b.drop (s.right + s.size))

def matched (a b : List Char) : Nat := matchedFrom (a.length + 1) a b

structure Likeness where
  word : String
  matching : Nat
  total : Nat

namespace Likeness

/-- Three matching letters are enough for ten letters in both words together. -/
def isClose (l : Likeness) : Bool := 3 * l.total ≤ 10 * l.matching

/-- The more similar word first, of equally similar ones the later in the alphabet. -/
def isBefore (k l : Likeness) : Bool :=
  l.matching * k.total < k.matching * l.total ||
    (l.matching * k.total == k.matching * l.total && decide (l.word ≤ k.word))

end Likeness

def closeMatches (word : String) (candidates : List String) : List String :=
  let all := candidates.map fun c : String =>
    (⟨c, matched c.toList word.toList, c.length + word.length⟩ : Likeness)
  (((all.filter Likeness.isClose).mergeSort Likeness.isBefore).take 3).map (·.word)

end Apidoc.Text
