/-!
# Similar sequences

Two sequences, such as two texts, are compared by their matching blocks: the longest block of items
that both have in common, then the longest blocks to its left and to its right, and so on. The
similarity is the share of the items that lie in matching blocks. An item that makes up more than
one percent of a long sequence does not start a block.

## Main definitions

* `Mustache.Similar.matched` — the number of items of the first sequence in matching blocks.
* `Mustache.Similar.closest?` — the candidate that is most similar to a sequence, if one is close.

## Implementation notes

Similarities are compared as fractions, so that no rounding is involved. Of two candidates that
are equally similar the later one wins.
-/

namespace Mustache.Similar

variable {α : Type} [BEq α]

/-- From which length on the items of a sequence are examined for being frequent. -/
def longLength : Nat := 200

/-- Whether an item is too frequent in a sequence to start a matching block there. -/
def isFrequent (items : List α) (c : α) : Bool :=
  items.length ≥ longLength && items.count c > items.length / 100 + 1

/-- A matching block: where it starts in either sequence, and its length. -/
structure Block where
  left : Nat
  right : Nat
  size : Nat
  deriving DecidableEq, Repr, Inhabited

/-- The length of the block that ends at each position of `right`, after one more item `c` of the
left sequence; `previous` are the lengths after the items before it. Frequent items belong to no
block. -/
def extendRow (frequent : α → Bool) (c : α) : (previous : List Nat) → (right : List α) →
    (carry : Nat) → List Nat
  | p :: ps, r :: rs, carry =>
    (if r == c && !frequent c then carry + 1 else 0) :: extendRow frequent c ps rs p
  | _, _, _ => []

/-- The better of a block and the blocks that end at the given positions: a longer one wins. -/
def improve (best : Block) (i : Nat) : (j : Nat) → List Nat → Block
  | _, [] => best
  | j, k :: ks =>
    improve (if k > best.size then ⟨i + 1 - k, j + 1 - k, k⟩ else best) i (j + 1) ks

/-- The first of the longest blocks, found row by row. -/
def longestFrom (frequent : α → Bool) (right : List α) :
    (best : Block) → (i : Nat) → (row : List Nat) → List α → Block
  | best, _, _, [] => best
  | best, i, row, c :: cs =>
    let row' := extendRow frequent c row right 0
    longestFrom frequent right (improve best i 0 row') (i + 1) row' cs

/-- The number of items that two sequences have in common at their starts. -/
def commonStart : List α → List α → Nat
  | c :: cs, d :: ds => if c == d then commonStart cs ds + 1 else 0
  | _, _ => 0

/-- The block with the equal items on both sides of it, frequent or not. -/
def widen (left right : List α) (b : Block) : Block :=
  let back := commonStart (left.take b.left).reverse (right.take b.right).reverse
  let ahead := commonStart (left.drop (b.left + b.size)) (right.drop (b.right + b.size))
  ⟨b.left - back, b.right - back, back + b.size + ahead⟩

/-- The longest matching block of two sequences. -/
def longestBlock (frequent : α → Bool) (left right : List α) : Block :=
  widen left right
    (longestFrom frequent right ⟨0, 0, 0⟩ 0 (List.replicate right.length 0) left)

/-- The number of items in the matching blocks of two sequences. -/
def matchedFrom (frequent : α → Bool) : (fuel : Nat) → List α → List α → Nat
  | 0, _, _ => 0
  | fuel + 1, left, right =>
    let b := longestBlock frequent left right
    if b.size = 0 then 0
    else
      b.size + matchedFrom frequent fuel (left.take b.left) (right.take b.right) +
        matchedFrom frequent fuel (left.drop (b.left + b.size)) (right.drop (b.right + b.size))

/-- The number of items of `left` in blocks that match `right`. -/
def matched (left right : List α) : Nat :=
  matchedFrom (isFrequent right) (left.length + 1) left right

/-- The similarity of two sequences as a fraction; that of two empty ones is one. -/
def similarity (left right : List α) : Nat × Nat :=
  let total := left.length + right.length
  if total = 0 then (1, 1) else (2 * matched left right, total)

/-- The least similarity that counts as close. -/
def closeness : Nat × Nat := (3, 5)

/-- Whether the first fraction is at least the second. -/
def atLeast (x y : Nat × Nat) : Bool := y.1 * x.2 ≤ x.1 * y.2

/-- The better of two candidates with their similarities. -/
def better {β : Type} (x y : (Nat × Nat) × β) : (Nat × Nat) × β :=
  if atLeast y.1 x.1 then y else x

/-- The candidate most similar to the items, if its similarity reaches the threshold. The
candidates come with the sequences that stand for them. -/
def closest? {β : Type} (items : List α) (candidates : List (List α × β)) : Option β :=
  let scored := candidates.map fun c => (similarity c.1 items, c.2)
  match scored.filter fun s => atLeast s.1 closeness with
  | [] => none
  | s :: rest => some (rest.foldl better s).2

end Mustache.Similar
