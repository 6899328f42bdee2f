import GrammarStudio.Instances

/-!
# Checksums and digests

A digest fills the text up to whole blocks, its length in bits at the end; each block changes a few words.  Most have
words of 32 bits and blocks of 64 octets, the others words of 64 bits.

* `crc` — a cyclic redundancy check with 32 bits, in which the length takes part;
* `rotatingSum`, `plainSum` — two older sums with 16 bits;
* `md5`, `sha1`, `sha256`, `sha224` — the digests over words of 32 bits;
* `sha512`, `sha384` — the digests over words of 64 bits;
* `blake` — another one, without padding but for zeros.
-/

namespace GrammarStudio.Digest

/-! ### Checksums -/

/-- One more bit of a remainder. -/
def crcBit (r : UInt32) : UInt32 := if r &&& 0x80000000 = 0 then r <<< 1 else (r <<< 1) ^^^ 0x04C11DB7

/-- One more octet of a remainder. -/
def crcOctet (r : UInt32) (b : UInt8) : UInt32 :=
  (List.range 8).foldl (fun r _ => crcBit r) (r ^^^ (b.toUInt32 <<< 24))

/-- The octets of a length, the lowest first, as many as it needs. -/
def lengthOctets : (fuel : Nat) → Nat → List UInt8
  | 0, _ => []
  | fuel + 1, n => if n = 0 then [] else UInt8.ofNat (n % 256) :: lengthOctets fuel (n / 256)

def crc (data : ByteArray) : Nat :=
  let r := data.foldl crcOctet 0
  (~~~((lengthOctets 16 data.size).foldl crcOctet r)).toNat

/-- The sum that turns by one bit before each octet. -/
def rotatingSum (data : ByteArray) : Nat :=
  data.foldl (fun (sum : Nat) b => (sum / 2 + sum % 2 * 32768 + b.toNat) % 65536) 0

/-- The sum of all octets, folded to 16 bits. -/
def plainSum (data : ByteArray) : Nat :=
  let sum := data.foldl (fun (sum : Nat) b => sum + b.toNat) 0 % 2 ^ 32
  let r := sum % 65536 + sum / 65536
  r % 65536 + r / 65536

/-! ### Words of 32 bits -/

/-- A text filled up with one bit, zeros, and its length in so many octets. -/
def padded (block lengthSize : Nat) (lowestFirst : Bool) (data : ByteArray) : ByteArray :=
  let zeros := (block - (data.size + 1 + lengthSize) % block) % block
  let lengthOctet (n : Nat) : UInt8 := UInt8.ofNat (data.size * 8 / 256 ^ n % 256)
  let length := (List.range lengthSize).map lengthOctet
  let length := if lowestFirst then length else length.reverse
  (data.push 0x80) ++ ⟨Array.replicate zeros 0⟩ ++ ⟨length.toArray⟩

def octetAt (data : ByteArray) (n : Nat) : Nat := if h : n < data.size then data[n].toNat else 0

/-- The words of a block, which begins at a place. -/
def wordsAt (lowestFirst : Bool) (data : ByteArray) (at_ : Nat) : Array UInt32 :=
  (Array.range 16).map fun n =>
    let o (k : Nat) : Nat := octetAt data (at_ + 4 * n + k)
    UInt32.ofNat (if lowestFirst then o 0 + 256 * (o 1 + 256 * (o 2 + 256 * o 3)) else o 3 + 256 * (o 2 + 256 * (o 1 + 256 * o 0)))

def turnLeft (x : UInt32) (n : Nat) : UInt32 := (x <<< UInt32.ofNat n) ||| (x >>> UInt32.ofNat (32 - n))

def turnRight (x : UInt32) (n : Nat) : UInt32 := turnLeft x (32 - n)

/-- The octets of words. -/
def wordOctets (lowestFirst : Bool) (words : List UInt32) : List UInt8 :=
  words.flatMap fun w =>
    let os := (List.range 4).map fun k => UInt8.ofNat (w.toNat / 256 ^ k % 256)
    if lowestFirst then os else os.reverse

/-- A state changed by one block after the other. -/
def overBlocks {σ : Type} (block : Nat) (data : ByteArray) (start : σ) (step : σ → Nat → σ) : σ :=
  (List.range (data.size / block)).foldl (fun s n => step s (n * block)) start

/-! ### Digests -/

def md5Turns : List Nat := [7, 12, 17, 22, 5, 9, 14, 20, 4, 11, 16, 23, 6, 10, 15, 21]

/-- Whole parts of sines, as words. -/
def md5Words : Array UInt32 := (Array.range 64).map fun n =>
  let x := Float.abs (Float.sin (Float.ofNat (n + 1))) * 4294967296
  x.floor.toUInt32

abbrev Quad := UInt32 × UInt32 × UInt32 × UInt32

def md5Block (data : ByteArray) (s : Quad) (at_ : Nat) : Quad :=
  let m := wordsAt true data at_
  let (a, b, c, d) := (List.range 64).foldl (fun ((a, b, c, d) : Quad) n =>
    let (f, g) : UInt32 × Nat :=
      if n < 16 then ((b &&& c) ||| (~~~b &&& d), n)
      else if n < 32 then ((d &&& b) ||| (~~~d &&& c), (5 * n + 1) % 16)
      else if n < 48 then (b ^^^ c ^^^ d, (3 * n + 5) % 16)
      else (c ^^^ (b ||| ~~~d), (7 * n) % 16)
    let turned := turnLeft (a + f + md5Words.getD n 0 + m.getD g 0) (md5Turns.getD (n / 16 * 4 + n % 4) 0)
    (d, b + turned, b, c)) s
  (s.1 + a, s.2.1 + b, s.2.2.1 + c, s.2.2.2 + d)

def md5 (data : ByteArray) : List UInt8 :=
  let data := padded 64 8 true data
  let (a, b, c, d) := overBlocks 64 data (0x67452301, 0xefcdab89, 0x98badcfe, 0x10325476) (md5Block data)
  wordOctets true [a, b, c, d]

/-- Words of a block, each new one from four before it. -/
def sha1Words (first : Array UInt32) : Array UInt32 :=
  (List.range 64).foldl (fun (w : Array UInt32) k =>
    let n := k + 16
    w.push (turnLeft (w.getD (n - 3) 0 ^^^ w.getD (n - 8) 0 ^^^ w.getD (n - 14) 0 ^^^ w.getD (n - 16) 0) 1)) first

structure Five where
  a : UInt32
  b : UInt32
  c : UInt32
  d : UInt32
  e : UInt32

def sha1Block (data : ByteArray) (s : Five) (at_ : Nat) : Five :=
  let w := sha1Words (wordsAt false data at_)
  let r := (List.range 80).foldl (fun (s : Five) n =>
    let (f, k) : UInt32 × UInt32 :=
      if n < 20 then ((s.b &&& s.c) ||| (~~~s.b &&& s.d), 0x5a827999)
      else if n < 40 then (s.b ^^^ s.c ^^^ s.d, 0x6ed9eba1)
      else if n < 60 then ((s.b &&& s.c) ||| (s.b &&& s.d) ||| (s.c &&& s.d), 0x8f1bbcdc)
      else (s.b ^^^ s.c ^^^ s.d, 0xca62c1d6)
    ⟨turnLeft s.a 5 + f + s.e + k + w.getD n 0, s.a, turnLeft s.b 30, s.c, s.d⟩) s
  ⟨s.a + r.a, s.b + r.b, s.c + r.c, s.d + r.d, s.e + r.e⟩

def sha1 (data : ByteArray) : List UInt8 :=
  let data := padded 64 8 false data
  let s := overBlocks 64 data ⟨0x67452301, 0xefcdab89, 0x98badcfe, 0x10325476, 0xc3d2e1f0⟩ (sha1Block data)
  wordOctets false [s.a, s.b, s.c, s.d, s.e]

/-! ### Words from roots of primes -/

/-- The first prime numbers. -/
def primes : List Nat :=
  (List.range 410).filter fun n => n ≥ 2 && (List.range 21).all fun d => d < 2 || d ≥ n || n % d ≠ 0

/-- The largest number whose power is not above another one, between two bounds. -/
def rootBetween (power target : Nat) : (fuel : Nat) → (low high : Nat) → Nat
  | 0, low, _ => low
  | fuel + 1, low, high =>
    if high ≤ low + 1 then low
    else
      let mid := (low + high) / 2
      if mid ^ power ≤ target then rootBetween power target fuel mid high else rootBetween power target fuel low mid

/-- So many bits behind the point of a root of a number. -/
def rootBits (power bits n : Nat) : Nat := rootBetween power (n * 2 ^ (power * bits)) 200 0 (2 ^ (bits + 10)) % 2 ^ bits

def sha256Words : Array UInt32 := ((primes.take 64).map fun p => UInt32.ofNat (rootBits 3 32 p)).toArray

def sha256Start : Array UInt32 := ((primes.take 8).map fun p => UInt32.ofNat (rootBits 2 32 p)).toArray

/-- The lower halves of 64 bits behind the points of the next roots. -/
def sha224Start : Array UInt32 := (((primes.drop 8).take 8).map fun p => UInt32.ofNat (rootBits 2 64 p % 2 ^ 32)).toArray

def sha256Schedule (first : Array UInt32) : Array UInt32 :=
  (List.range 48).foldl (fun (w : Array UInt32) k =>
    let n := k + 16
    let x := w.getD (n - 15) 0
    let y := w.getD (n - 2) 0
    let s0 := turnRight x 7 ^^^ turnRight x 18 ^^^ (x >>> 3)
    let s1 := turnRight y 17 ^^^ turnRight y 19 ^^^ (y >>> 10)
    w.push (w.getD (n - 16) 0 + s0 + w.getD (n - 7) 0 + s1)) first

def sha256Block (data : ByteArray) (s : Array UInt32) (at_ : Nat) : Array UInt32 :=
  let w := sha256Schedule (wordsAt false data at_)
  let r := (List.range 64).foldl (fun (v : Array UInt32) n =>
    let a := v.getD 0 0
    let e := v.getD 4 0
    let s1 := turnRight e 6 ^^^ turnRight e 11 ^^^ turnRight e 25
    let ch := (e &&& v.getD 5 0) ^^^ (~~~e &&& v.getD 6 0)
    let t1 := v.getD 7 0 + s1 + ch + sha256Words.getD n 0 + w.getD n 0
    let s0 := turnRight a 2 ^^^ turnRight a 13 ^^^ turnRight a 22
    let maj := (a &&& v.getD 1 0) ^^^ (a &&& v.getD 2 0) ^^^ (v.getD 1 0 &&& v.getD 2 0)
    #[t1 + s0 + maj, a, v.getD 1 0, v.getD 2 0, v.getD 3 0 + t1, e, v.getD 5 0, v.getD 6 0]) s
  (Array.range 8).map fun n => s.getD n 0 + r.getD n 0

def sha256From (start : Array UInt32) (data : ByteArray) : List UInt8 :=
  let data := padded 64 8 false data
  wordOctets false (overBlocks 64 data start (sha256Block data)).toList

def sha256 (data : ByteArray) : List UInt8 := sha256From sha256Start data

def sha224 (data : ByteArray) : List UInt8 := (sha256From sha224Start data).take 28

/-! ### Words of 64 bits -/

def turnRight64 (x : UInt64) (n : Nat) : UInt64 := (x >>> UInt64.ofNat n) ||| (x <<< UInt64.ofNat (64 - n))

/-- The sixteen words of a block. -/
def broadWordsAt (lowestFirst : Bool) (data : ByteArray) (at_ : Nat) : Array UInt64 :=
  (Array.range 16).map fun n =>
    let os := (List.range 8).map fun k => octetAt data (at_ + 8 * n + k)
    UInt64.ofNat ((if lowestFirst then os.reverse else os).foldl (fun v o => v * 256 + o) 0)

def broadOctets (lowestFirst : Bool) (words : List UInt64) : List UInt8 :=
  words.flatMap fun w =>
    let os := (List.range 8).map fun k => UInt8.ofNat (w.toNat / 256 ^ k % 256)
    if lowestFirst then os else os.reverse

def sha512Words : Array UInt64 := ((primes.take 80).map fun p => UInt64.ofNat (rootBits 3 64 p)).toArray

def sha512Start : Array UInt64 := ((primes.take 8).map fun p => UInt64.ofNat (rootBits 2 64 p)).toArray

def sha384Start : Array UInt64 := (((primes.drop 8).take 8).map fun p => UInt64.ofNat (rootBits 2 64 p)).toArray

def sha512Schedule (first : Array UInt64) : Array UInt64 :=
  (List.range 64).foldl (fun (w : Array UInt64) k =>
    let n := k + 16
    let x := w.getD (n - 15) 0
    let y := w.getD (n - 2) 0
    let s0 := turnRight64 x 1 ^^^ turnRight64 x 8 ^^^ (x >>> 7)
    let s1 := turnRight64 y 19 ^^^ turnRight64 y 61 ^^^ (y >>> 6)
    w.push (w.getD (n - 16) 0 + s0 + w.getD (n - 7) 0 + s1)) first

def sha512Block (data : ByteArray) (s : Array UInt64) (at_ : Nat) : Array UInt64 :=
  let w := sha512Schedule (broadWordsAt false data at_)
  let r := (List.range 80).foldl (fun (v : Array UInt64) n =>
    let a := v.getD 0 0
    let e := v.getD 4 0
    let s1 := turnRight64 e 14 ^^^ turnRight64 e 18 ^^^ turnRight64 e 41
    let ch := (e &&& v.getD 5 0) ^^^ (~~~e &&& v.getD 6 0)
    let t1 := v.getD 7 0 + s1 + ch + sha512Words.getD n 0 + w.getD n 0
    let s0 := turnRight64 a 28 ^^^ turnRight64 a 34 ^^^ turnRight64 a 39
    let maj := (a &&& v.getD 1 0) ^^^ (a &&& v.getD 2 0) ^^^ (v.getD 1 0 &&& v.getD 2 0)
    #[t1 + s0 + maj, a, v.getD 1 0, v.getD 2 0, v.getD 3 0 + t1, e, v.getD 5 0, v.getD 6 0]) s
  (Array.range 8).map fun n => s.getD n 0 + r.getD n 0

def sha512From (start : Array UInt64) (data : ByteArray) : List UInt8 :=
  let data := padded 128 16 false data
  broadOctets false (overBlocks 128 data start (sha512Block data)).toList

def sha512 (data : ByteArray) : List UInt8 := sha512From sha512Start data

def sha384 (data : ByteArray) : List UInt8 := (sha512From sha384Start data).take 48

/-! ### A digest without padding -/

/-- In which order each round takes the words of a block. -/
def blakeOrders : Array (List Nat) :=
  #[[0, 1, 2, 3, 4, 5, 6, 7, 8, 9, 10, 11, 12, 13, 14, 15], [14, 10, 4, 8, 9, 15, 13, 6, 1, 12, 0, 2, 11, 7, 5, 3],
    [11, 8, 12, 0, 5, 2, 15, 13, 10, 14, 3, 6, 7, 1, 9, 4], [7, 9, 3, 1, 13, 12, 11, 14, 2, 6, 5, 10, 4, 0, 15, 8],
    [9, 0, 5, 7, 2, 4, 10, 15, 14, 1, 11, 12, 6, 8, 3, 13], [2, 12, 6, 10, 0, 11, 8, 3, 4, 13, 7, 5, 15, 14, 1, 9],
    [12, 5, 1, 15, 14, 13, 4, 10, 0, 7, 6, 3, 9, 2, 8, 11], [13, 11, 7, 14, 12, 1, 3, 9, 5, 0, 15, 4, 8, 6, 2, 10],
    [6, 15, 14, 9, 11, 3, 0, 8, 12, 2, 13, 7, 1, 4, 10, 5], [10, 2, 8, 4, 7, 6, 1, 5, 15, 11, 9, 14, 3, 12, 13, 0]]

/-- The places that are mixed, in columns and then in diagonals. -/
def blakePlaces : List (Nat × Nat × Nat × Nat) :=
  [(0, 4, 8, 12), (1, 5, 9, 13), (2, 6, 10, 14), (3, 7, 11, 15), (0, 5, 10, 15), (1, 6, 11, 12), (2, 7, 8, 13), (3, 4, 9, 14)]

def blakeMix (v : Array UInt64) (p : Nat × Nat × Nat × Nat) (x y : UInt64) : Array UInt64 :=
  let (i, j, k, l) := p
  let a := v.getD i 0 + v.getD j 0 + x
  let d := turnRight64 (v.getD l 0 ^^^ a) 32
  let c := v.getD k 0 + d
  let b := turnRight64 (v.getD j 0 ^^^ c) 24
  let a := a + b + y
  let d := turnRight64 (d ^^^ a) 16
  let c := c + d
  let b := turnRight64 (b ^^^ c) 63
  (((v.set! i a).set! j b).set! k c).set! l d

def blakeBlock (data : ByteArray) (h : Array UInt64) (at_ counted : Nat) (isLast : Bool) : Array UInt64 :=
  let m := broadWordsAt true data at_
  let v := h ++ sha512Start
  let v := v.set! 12 (v.getD 12 0 ^^^ UInt64.ofNat counted)
  let v := if isLast then v.set! 14 (~~~(v.getD 14 0)) else v
  let v := (List.range 12).foldl (fun v round =>
    let order := blakeOrders.getD (round % 10) []
    ((List.range 8).zip blakePlaces).foldl (fun v (n, p) =>
      blakeMix v p (m.getD (order.getD (2 * n) 0) 0) (m.getD (order.getD (2 * n + 1) 0) 0)) v) v
  (Array.range 8).map fun n => h.getD n 0 ^^^ v.getD n 0 ^^^ v.getD (n + 8) 0

def blake (data : ByteArray) : List UInt8 :=
  let blocks := max 1 ((data.size + 127) / 128)
  let start := sha512Start.set! 0 (sha512Start.getD 0 0 ^^^ 0x01010040)
  let h := (List.range blocks).foldl (fun h n =>
    let isLast := n + 1 = blocks
    blakeBlock data h (n * 128) (if isLast then data.size else (n + 1) * 128) isLast) start
  broadOctets true h.toList

end GrammarStudio.Digest
