/-!
# Hashes of keys

A fast 64-bit hash that spreads keys over partitions. A number is added to the state and
multiplied in; a text is first condensed to one word, sixteen bytes at a time, and closed by a
byte that no text contains. `partitionOf` takes the hash modulo the number of partitions.
-/

namespace LinkedQueries

namespace KeyHash

/-- The multiplier of the state. -/
def multiplier : UInt64 := 0xf1357aea2e62a9c5

/-- The two words with which condensing a text begins, and the one that is mixed in between. -/
def seed₀ : UInt64 := 0x243f6a8885a308d3

@[inherit_doc seed₀] def seed₁ : UInt64 := 0x13198a2e03707344

@[inherit_doc seed₀] def between : UInt64 := 0xa4093822299f31d0

/-- The lower and the upper half of the product of two words, combined. -/
def mix (x y : UInt64) : UInt64 :=
  let product := x.toNat * y.toNat
  UInt64.ofNat product ^^^ UInt64.ofNat (product >>> 64)

/-- The word that some bytes make up, the lowest first. -/
def word (bytes : List UInt8) : UInt64 :=
  bytes.foldr (fun b w => b.toUInt64 + 256 * w) 0

/-- Condenses all full blocks of sixteen bytes but the last bytes of a text. -/
def blocks (s₀ s₁ : UInt64) (bytes : List UInt8) : UInt64 × UInt64 :=
  if _h : 16 < bytes.length then
    let t := mix (s₀ ^^^ word (bytes.take 8)) (between ^^^ word ((bytes.drop 8).take 8))
    blocks s₁ t (bytes.drop 16)
  else (s₀, s₁)
termination_by bytes.length
decreasing_by simp only [List.length_drop]; omega

/-- The two words that the bytes of a text leave before the final mix. -/
def condensed (bytes : List UInt8) : UInt64 × UInt64 :=
  let n := bytes.length
  let ends (k : Nat) (s₀ s₁ : UInt64) : UInt64 × UInt64 :=
    (s₀ ^^^ word (bytes.take k), s₁ ^^^ word (bytes.drop (n - k)))
  match bytes with
  | [] => (seed₀, seed₁)
  | first :: _ =>
    if n < 4 then
      let last := (bytes.getLastD 0).toUInt64
      let middle := (bytes.getD (n / 2) 0).toUInt64
      (seed₀ ^^^ first.toUInt64, seed₁ ^^^ (256 * last + middle))
    else if n < 8 then ends 4 seed₀ seed₁
    else if n ≤ 16 then ends 8 seed₀ seed₁
    else
      let (s₀, s₁) := blocks seed₀ seed₁ bytes
      (s₀ ^^^ word ((bytes.drop (n - 16)).take 8), s₁ ^^^ word (bytes.drop (n - 8)))

/-- The word of a text. -/
def textWord (bytes : List UInt8) : UInt64 :=
  let (s₀, s₁) := condensed bytes
  mix s₀ s₁ ^^^ UInt64.ofNat bytes.length

/-- The hash of some words. -/
def ofWords (words : List UInt64) : UInt64 :=
  let h := words.foldl (fun h w => (h + w) * multiplier) 0
  (h <<< 26) ||| (h >>> 38)

end KeyHash

/-- Keys that can be spread over partitions: the words that are hashed. -/
class PartitionKey (κ : Type) where
  words : κ → List UInt64

instance : PartitionKey String := ⟨fun s => [KeyHash.textWord s.toUTF8.toList, 0xff]⟩

instance : PartitionKey Nat := ⟨fun n => [UInt64.ofNat n]⟩

instance : PartitionKey Int := ⟨fun n => [UInt64.ofInt n]⟩

/-- The partition of a key among so many; no partitions count as one. -/
def partitionOf {κ : Type} [PartitionKey κ] (key : κ) (count : Nat) : Nat :=
  (KeyHash.ofWords (PartitionKey.words key)).toNat % max count 1

theorem partitionOf_lt {κ : Type} [PartitionKey κ] (key : κ) (count : Nat) :
    partitionOf key count < max count 1 :=
  Nat.mod_lt _ (by omega)

end LinkedQueries
