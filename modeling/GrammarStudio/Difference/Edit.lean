/-!
# The fewest changes from one sequence to another

Two sequences are compared by searching for a way through their grid from both ends at once.  Where the two searches
meet the grid is cut, and each part is compared by itself.

* `middle` — where the two searches meet;
* `Changes` — which items of each sequence are not in the other;
* `Changes.settle` — runs of changes moved to where they are easiest to read;
* `changes`, `hunks` — the changes, and the places where they are.
-/

namespace GrammarStudio.Difference

/-- Which items are changed. -/
structure Changes where
  left : Array Bool
  right : Array Bool

/-- A part of the grid: items of both sequences, from a place on and up to another. -/
structure Area where
  left : Nat
  leftEnd : Nat
  right : Nat
  rightEnd : Nat

/-- How far the items before two places are equal, going on. -/
def slideOn (a b : Array Nat) (leftEnd rightEnd : Nat) : (fuel : Nat) → Nat → Nat → Nat × Nat
  | 0, x, y => (x, y)
  | fuel + 1, x, y =>
    if x < leftEnd && y < rightEnd && a[x]? == b[y]? then slideOn a b leftEnd rightEnd fuel (x + 1) (y + 1) else (x, y)

/-- The same, going back. -/
def slideBack (a b : Array Nat) (left right : Nat) : (fuel : Nat) → Nat → Nat → Nat × Nat
  | 0, x, y => (x, y)
  | fuel + 1, x, y =>
    if left < x && right < y && a[x - 1]? == b[y - 1]? then slideBack a b left right fuel (x - 1) (y - 1) else (x, y)

/-- The point where a search from the beginning and one from the end meet.  Diagonals are counted from `rightEnd + 1`
before the first one; `far` holds how far each search has come on each of them. -/
def middle (a b : Array Nat) (area : Area) : Nat × Nat := Id.run do
  let base : Int := area.rightEnd + 2
  let size := a.size + b.size + 6
  let at_ (far : Array Int) (d : Int) : Int := far.getD (d + base).toNat 0
  let put (far : Array Int) (d v : Int) : Array Int := far.setIfInBounds (d + base).toNat v
  let least : Int := (area.left : Int) - area.rightEnd
  let most : Int := (area.leftEnd : Int) - area.right
  let first : Int := (area.left : Int) - area.right
  let last : Int := (area.leftEnd : Int) - area.rightEnd
  let odd := (first - last) % 2 ≠ 0
  let beyond : Int := a.size + b.size + 10
  let mut fd := put (Array.replicate size 0) first area.left
  let mut bd := put (Array.replicate size 0) last area.leftEnd
  let mut fmin := first
  let mut fmax := first
  let mut bmin := last
  let mut bmax := last
  for _ in [0:a.size + b.size + 2] do
    if fmin > least then
      fmin := fmin - 1
      fd := put fd (fmin - 1) (-1)
    else fmin := fmin + 1
    if fmax < most then
      fmax := fmax + 1
      fd := put fd (fmax + 1) (-1)
    else fmax := fmax - 1
    for k in [0:((fmax - fmin) / 2 + 1).toNat] do
      let d := fmax - 2 * k
      let low := at_ fd (d - 1)
      let high := at_ fd (d + 1)
      let x := if low < high then high else low + 1
      let (x, y) := slideOn a b area.leftEnd area.rightEnd (a.size + b.size) x.toNat (x - d).toNat
      fd := put fd d x
      if odd && bmin ≤ d && d ≤ bmax && at_ bd d ≤ x then return (x, y)
    if bmin > least then
      bmin := bmin - 1
      bd := put bd (bmin - 1) beyond
    else bmin := bmin + 1
    if bmax < most then
      bmax := bmax + 1
      bd := put bd (bmax + 1) beyond
    else bmax := bmax - 1
    for k in [0:((bmax - bmin) / 2 + 1).toNat] do
      let d := bmax - 2 * k
      let low := at_ bd (d - 1)
      let high := at_ bd (d + 1)
      let x := if low < high then low else high - 1
      let (x, y) := slideBack a b area.left area.right (a.size + b.size) x.toNat (x - d).toNat
      bd := put bd d x
      if !odd && fmin ≤ d && d ≤ fmax && (x : Int) ≤ at_ fd d then return (x, y)
  return (area.leftEnd, area.right)

/-- Marks items as changed, from a place up to another. -/
def mark (flags : Array Bool) (first end_ : Nat) : Array Bool :=
  (List.range (end_ - first)).foldl (fun f n => f.setIfInBounds (first + n) true) flags

/-- Compares a part of the grid.  The fuel bounds how often it is cut. -/
def compareArea (a b : Array Nat) : (fuel : Nat) → Area → Changes → Changes
  | 0, area, c => { left := mark c.left area.left area.leftEnd, right := mark c.right area.right area.rightEnd }
  | fuel + 1, area, c =>
    let n := a.size + b.size
    let (x, y) := slideOn a b area.leftEnd area.rightEnd n area.left area.right
    let (xEnd, yEnd) := slideBack a b x y n area.leftEnd area.rightEnd
    if x = xEnd then { c with right := mark c.right y yEnd }
    else if y = yEnd then { c with left := mark c.left x xEnd }
    else
      let (xMid, yMid) := middle a b ⟨x, xEnd, y, yEnd⟩
      compareArea a b fuel ⟨xMid, xEnd, yMid, yEnd⟩ (compareArea a b fuel ⟨x, xMid, y, yMid⟩ c)

/-- Moves runs of changes in one sequence as far to the end as they go, unless they face changes in the other one. -/
def settleOne (items : Array Nat) (flags others : Array Bool) : Array Bool := Id.run do
  let total := items.size
  let steps := total + others.size + 2
  let isOther (j : Nat) : Bool := others.getD j false
  let mut c := flags
  let mut i := 0
  let mut j := 0
  for _ in [0:steps] do
    for _ in [0:steps] do
      if i < total && !c.getD i false then
        for _ in [0:steps] do
          if isOther j then j := j + 1 else break
        j := j + 1
        i := i + 1
      else break
    if i ≥ total then break
    let mut start := i
    for _ in [0:steps] do
      if c.getD i false then i := i + 1 else break
    for _ in [0:steps] do
      if isOther j then j := j + 1 else break
    let mut facing := total
    for _ in [0:steps] do
      let length := i - start
      for _ in [0:steps] do
        if start > 0 && items[start - 1]? == items[i - 1]? then
          start := start - 1
          i := i - 1
          c := (c.setIfInBounds start true).setIfInBounds i false
          for _ in [0:steps] do
            if start > 0 && c.getD (start - 1) false then start := start - 1 else break
          j := j - 1
          for _ in [0:steps] do
            if isOther j then j := j - 1 else break
        else break
      facing := if j > 0 && isOther (j - 1) then i else total
      for _ in [0:steps] do
        if i < total && items[start]? == items[i]? then
          c := (c.setIfInBounds start false).setIfInBounds i true
          start := start + 1
          i := i + 1
          for _ in [0:steps] do
            if c.getD i false then i := i + 1 else break
          j := j + 1
          for _ in [0:steps] do
            if isOther j then
              facing := i
              j := j + 1
            else break
        else break
      if length = i - start then break
    for _ in [0:steps] do
      if facing < i then
        start := start - 1
        i := i - 1
        c := (c.setIfInBounds start true).setIfInBounds i false
        j := j - 1
        for _ in [0:steps] do
          if isOther j then j := j - 1 else break
      else break
  return c

def Changes.settle (a b : Array Nat) (c : Changes) : Changes :=
  let left := settleOne a c.left c.right
  { left, right := settleOne b c.right left }

/-- The changes from one sequence to another.  Items that the other one has not at all are set aside first. -/
def changes (a b : Array Nat) : Changes :=
  let kept (items others : Array Nat) : Array Nat := (Array.range items.size).filter fun n => others.contains (items.getD n 0)
  let ka := kept a b
  let kb := kept b a
  let xs := ka.map fun n => a.getD n 0
  let ys := kb.map fun n => b.getD n 0
  let inner := compareArea xs ys (xs.size + ys.size + 2) ⟨0, xs.size, 0, ys.size⟩
    ⟨Array.replicate xs.size false, Array.replicate ys.size false⟩
  let spread (size : Nat) (places : Array Nat) (flags : Array Bool) : Array Bool :=
    (List.range places.size).foldl (fun f n => f.setIfInBounds (places.getD n 0) (flags.getD n false)) (Array.replicate size true)
  Changes.settle a b ⟨spread a.size ka inner.left, spread b.size kb inner.right⟩

/-- Items that are replaced by others: where they begin, and how many they are. -/
structure Hunk where
  left : Nat
  leftCount : Nat
  right : Nat
  rightCount : Nat
  deriving DecidableEq, Repr

/-- How many items are changed from a place on. -/
def runLength (flags : Array Bool) : (fuel : Nat) → Nat → Nat
  | 0, _ => 0
  | fuel + 1, n => if flags.getD n false then runLength flags fuel (n + 1) + 1 else 0

/-- The places of all changes. -/
def Changes.hunksOn (c : Changes) : (fuel : Nat) → Nat → Nat → List Hunk
  | 0, _, _ => []
  | fuel + 1, x, y =>
    if x ≥ c.left.size && y ≥ c.right.size then []
    else
      let m := runLength c.left c.left.size x
      let n := runLength c.right c.right.size y
      if m = 0 && n = 0 then hunksOn c fuel (x + 1) (y + 1)
      else ⟨x, m, y, n⟩ :: hunksOn c fuel (x + m) (y + n)

def Changes.hunks (c : Changes) : List Hunk := c.hunksOn (c.left.size + c.right.size + 1) 0 0

end GrammarStudio.Difference
