import LoftGraph.Scalar
import LoftGraph.Fault

/-!
# Seeded random streams

A permuted congruential generator with 128 bits of state, seeded through a hash that spreads the
words of the seed over a pool of four.

* A `Seed` is a list of 32-bit words, those of a whole number for instance (`Seed.ofInt`).
* `SeedPool.ofSeed` absorbs a seed of any length, word by word.
* `RandomStream.next` steps the state and folds its two halves into 64 bits, rotated by the top
  six bits.
* `RandomStream.unit` is a number in `[0, 1)` of 53 random bits.
-/

namespace LoftGraph

/-- Arithmetic on 32-bit words. -/
def word32 (n : Nat) : Nat := n % Nat.pow 2 32

/-- The words that seed a stream, or why they cannot be had; looked at only when a stream is
needed. -/
abbrev Seed := Except Fault (List Nat)

/-- A pool of 32-bit words with the multiplier of its hash. -/
structure SeedPool where
  words : Array Nat
  multiplier : Nat

namespace Seed

/-- The 32-bit words of a number, the lowest first; at least one. -/
def numberWords (n : Nat) : List Nat := go (n.log2 / 32) n
where
  /-- So many words beside the lowest. -/
  go : Nat → Nat → List Nat
    | 0, n => [word32 n]
    | k + 1, n => word32 n :: go k (n / Nat.pow 2 32)

/-- The seed of a whole number, which must not be negative. -/
def ofInt : Int → Seed
  | .ofNat n => .ok (numberWords n)
  | .negSucc _ => .error .negativeSeed

end Seed

namespace SeedPool

def size : Nat := 4

/-- Hashes a word; the running multiplier moves on. -/
def hash (multiplier step value : Nat) : Nat × Nat :=
  let mixed := value ^^^ multiplier
  let multiplier := word32 (multiplier * step)
  let mixed := word32 (mixed * multiplier)
  (mixed ^^^ (mixed >>> 16), multiplier)

/-- Multiplier step while a seed is absorbed. -/
def absorbStep : Nat := 0x931e8875

/-- Mixes a hashed word into another. -/
def mix (x y : Nat) : Nat :=
  -- the multiple of `2 ^ 32` keeps the difference of words from stopping at zero
  let difference := word32 (0xca01f9dd * x + Nat.pow 2 32 * 0x4973f715 - 0x4973f715 * y)
  difference ^^^ (difference >>> 16)

/-- Replaces a word of the pool by the hash of a value. -/
def absorb (pool : SeedPool) (value : Nat) : SeedPool :=
  let (hashed, multiplier) := hash pool.multiplier absorbStep value
  ⟨pool.words.push hashed, multiplier⟩

/-- Mixes the hash of a value into the word at an index. -/
def stir (pool : SeedPool) (value index : Nat) : SeedPool :=
  let (hashed, multiplier) := hash pool.multiplier absorbStep value
  ⟨pool.words.modify index (fun w => mix w hashed), multiplier⟩

/-- The pool of the words of a seed; where there are fewer than it holds, zeros stand for
them. -/
def ofSeed (words : List Nat) : SeedPool :=
  let filled := (List.range size).foldl (fun pool i => pool.absorb (words.getD i 0))
    ⟨#[], 0x43b0d7e5⟩
  let pairs := (List.range size).flatMap (fun source =>
    ((List.range size).filter (· ≠ source)).map (fun target => (source, target)))
  let stirred := pairs.foldl (fun pool pair => pool.stir (pool.words.getD pair.1 0) pair.2) filled
  let more := (words.drop size).flatMap (fun w => (List.range size).map (fun target => (w, target)))
  more.foldl (fun pool pair => pool.stir pair.1 pair.2) stirred

/-- So many 32-bit words drawn from the pool. -/
def draw (pool : SeedPool) (count : Nat) : List Nat :=
  go count 0 0x8b51f9dd
where
  /-- So many words from an index on. -/
  go : Nat → Nat → Nat → List Nat
    | 0, _, _ => []
    | n + 1, i, multiplier =>
      let (hashed, multiplier) := hash multiplier 0x58f38ded (pool.words.getD (i % size) 0)
      hashed :: go n (i + 1) multiplier

end SeedPool

/-- A random stream: state and increment of 128 bits. -/
structure RandomStream where
  state : Nat
  increment : Nat
  deriving Repr

namespace RandomStream

/-- Arithmetic on 128-bit words. -/
def word128 (n : Nat) : Nat := n % Nat.pow 2 128

def multiplier : Nat := 0x2360ed051fc65da44385df649fccf645

def step (s : RandomStream) : RandomStream :=
  { s with state := word128 (s.state * multiplier + s.increment) }

/-- The stream of the words of a seed. -/
def ofSeed (words : List Nat) : RandomStream :=
  let w := (SeedPool.ofSeed words).draw 8
  let pair := fun i => w.getD (2 * i) 0 + Nat.pow 2 32 * w.getD (2 * i + 1) 0
  let start := pair 0 * Nat.pow 2 64 + pair 1
  let sequence := pair 2 * Nat.pow 2 64 + pair 3
  let fresh : RandomStream := ⟨0, word128 (2 * sequence + 1)⟩
  let primed := fresh.step
  ({ primed with state := word128 (primed.state + start) } : RandomStream).step

/-- A 64-bit word turned to the right. -/
def rotateRight (n amount : Nat) : Nat :=
  -- a turn by nothing must not shift by the whole width
  (n >>> amount ||| n <<< ((64 - amount) % 64)) % Nat.pow 2 64

/-- The next 64 bits, and the stream after them. -/
def next (s : RandomStream) : Nat × RandomStream :=
  let s := s.step
  let folded := (s.state / Nat.pow 2 64) ^^^ (s.state % Nat.pow 2 64)
  (rotateRight folded (s.state / Nat.pow 2 122), s)

/-- The next number in `[0, 1)`, and the stream after it. -/
def unit {α : Type} [Scalar α] (s : RandomStream) : α × RandomStream :=
  let (bits, s) := s.next
  (Scalar.ofNat (bits / Nat.pow 2 11) / Scalar.ofNat (Nat.pow 2 53), s)

end RandomStream

end LoftGraph
