/-! Similarity of two texts by matching blocks: the longest common block first, then the same on
either side of it; twice the matched characters over the total length. -/
namespace Lc3Lint.Text

def commonChars (b : Array Char) : List Char :=
  if 200 ≤ b.size then
    (b.toList.eraseDups).filter fun c => b.count c > b.size / 100 + 1
  else []

/-- Block lengths for one position `i` of the first text: entry `j` is the length of the common block
ending at `a[i]` and `b[j]`; `prev` is the row of `i - 1`. -/
def blockRow (a b : Array Char) (common : List Char) (blo bhi i : Nat) (prev : Array Nat)
    (best : Nat × Nat × Nat) : Array Nat × (Nat × Nat × Nat) :=
  (List.range' blo (bhi - blo)).foldl
    (fun (row, best) j =>
      match a[i]?, b[j]? with
      | some x, some y =>
        if x = y ∧ y ∉ common then
          let k := (if j = 0 then 0 else prev[j - 1]?.getD 0) + 1
          (row.setIfInBounds j k, if best.2.2 < k then (i + 1 - k, j + 1 - k, k) else best)
        else (row, best)
      | _, _ => (row, best))
    (Array.replicate b.size 0, best)

def agreeing (xs ys : List Char) : Nat :=
  ((xs.zip ys).takeWhile fun p => p.1 = p.2).length

/-- The longest common block `(i, j, k)` of `a[alo, ahi)` and `b[blo, bhi)`: `a[i, i + k)` equals
`b[j, j + k)`. A block of the table is then grown backwards and forwards over equal characters. -/
def longestBlock (a b : Array Char) (common : List Char) (alo ahi blo bhi : Nat) :
    Nat × Nat × Nat :=
  let found := ((List.range' alo (ahi - alo)).foldl
    (fun (prev, best) i => blockRow a b common blo bhi i prev best)
    (Array.replicate b.size 0, (alo, blo, 0))).2
  match found with
  | (i, j, k) =>
    let back := agreeing (a.extract alo i).toList.reverse (b.extract blo j).toList.reverse
    let i := i - back
    let j := j - back
    let k := k + back
    (i, j, k + agreeing (a.extract (i + k) ahi).toList (b.extract (j + k) bhi).toList)

def matchedCount (a b : Array Char) (common : List Char) (alo ahi blo bhi : Nat) : Nat :=
  match longestBlock a b common alo ahi blo bhi with
  | (i, j, k) =>
    if _ : 0 < k ∧ alo ≤ i ∧ i + k ≤ ahi then
      k + (if alo < i ∧ blo < j then matchedCount a b common alo i blo j else 0) +
        (if i + k < ahi ∧ j + k < bhi then matchedCount a b common (i + k) ahi (j + k) bhi else 0)
    else 0
termination_by ahi - alo
decreasing_by all_goals omega

def similarity (a b : String) : Nat × Nat :=
  let a := a.toList.toArray
  let b := b.toList.toArray
  if a.size + b.size = 0 then (1, 1)
  else (2 * matchedCount a b (commonChars b) 0 a.size 0 b.size, a.size + b.size)

def charsLe : List Char → List Char → Bool
  | [], _ => true
  | _ :: _, [] => false
  | a :: as, b :: bs => if a.toNat = b.toNat then charsLe as bs else a.toNat < b.toNat

def fractionLt (p q : Nat × Nat) : Bool := p.1 * q.2 < q.1 * p.2

/-- The candidates at least 60 percent similar to `word`, best first, at most `n` of them. Of
two equally similar candidates the later in code point order ranks first. -/
def closeMatches (word : String) (candidates : List String) (n : Nat) : List String :=
  let scored := (candidates.map fun x => (similarity x word, x)).filter
    fun s => 3 * s.1.2 ≤ 5 * s.1.1
  let ranked := scored.mergeSort fun p q =>
    fractionLt q.1 p.1 || (!fractionLt p.1 q.1 && charsLe q.2.toList p.2.toList)
  (ranked.take n).map Prod.snd

end Lc3Lint.Text
