/-!
The 64-bit XXH3 checksum with seed zero and the standard secret. Short inputs are mixed from their
ends, inputs up to 240 bytes in pairs of words, and longer ones run through eight lanes that are
stirred once every block of sixteen stripes.
-/
namespace SourceFacts.Digest.Xxh3

/-- The standard secret, 192 bytes. -/
def secret : ByteArray := ⟨#[
  0xb8, 0xfe, 0x6c, 0x39, 0x23, 0xa4, 0x4b, 0xbe, 0x7c, 0x01, 0x81, 0x2c, 0xf7, 0x21, 0xad, 0x1c,
  0xde, 0xd4, 0x6d, 0xe9, 0x83, 0x90, 0x97, 0xdb, 0x72, 0x40, 0xa4, 0xa4, 0xb7, 0xb3, 0x67, 0x1f,
  0xcb, 0x79, 0xe6, 0x4e, 0xcc, 0xc0, 0xe5, 0x78, 0x82, 0x5a, 0xd0, 0x7d, 0xcc, 0xff, 0x72, 0x21,
  0xb8, 0x08, 0x46, 0x74, 0xf7, 0x43, 0x24, 0x8e, 0xe0, 0x35, 0x90, 0xe6, 0x81, 0x3a, 0x26, 0x4c,
  0x3c, 0x28, 0x52, 0xbb, 0x91, 0xc3, 0x00, 0xcb, 0x88, 0xd0, 0x65, 0x8b, 0x1b, 0x53, 0x2e, 0xa3,
  0x71, 0x64, 0x48, 0x97, 0xa2, 0x0d, 0xf9, 0x4e, 0x38, 0x19, 0xef, 0x46, 0xa9, 0xde, 0xac, 0xd8,
  0xa8, 0xfa, 0x76, 0x3f, 0xe3, 0x9c, 0x34, 0x3f, 0xf9, 0xdc, 0xbb, 0xc7, 0xc7, 0x0b, 0x4f, 0x1d,
  0x8a, 0x51, 0xe0, 0x4b, 0xcd, 0xb4, 0x59, 0x31, 0xc8, 0x9f, 0x7e, 0xc9, 0xd9, 0x78, 0x73, 0x64,
  0xea, 0xc5, 0xac, 0x83, 0x34, 0xd3, 0xeb, 0xc3, 0xc5, 0x81, 0xa0, 0xff, 0xfa, 0x13, 0x63, 0xeb,
  0x17, 0x0d, 0xdd, 0x51, 0xb7, 0xf0, 0xda, 0x49, 0xd3, 0x16, 0x55, 0x26, 0x29, 0xd4, 0x68, 0x9e,
  0x2b, 0x16, 0xbe, 0x58, 0x7d, 0x47, 0xa1, 0xfc, 0x8f, 0xf8, 0xb8, 0xd1, 0x7a, 0xd0, 0x31, 0xce,
  0x45, 0xcb, 0x3a, 0x8f, 0x95, 0x16, 0x04, 0x28, 0xaf, 0xd7, 0xfb, 0xca, 0xbb, 0x4b, 0x40, 0x7e]⟩

def primeA : UInt64 := 0x9E3779B185EBCA87
def primeB : UInt64 := 0xC2B2AE3D27D4EB4F
def primeC : UInt64 := 0x165667B19E3779F9
def primeD : UInt64 := 0x85EBCA77C2B2AE63
def primeE : UInt64 := 0x27D4EB2F165667C5
def shortPrimeA : UInt64 := 0x9E3779B1
def shortPrimeB : UInt64 := 0x85EBCA77
def shortPrimeC : UInt64 := 0xC2B2AE3D
def mixPrimeA : UInt64 := 0x165667919E3779F9
def mixPrimeB : UInt64 := 0x9FB21C651E98DF25

/-- The lower 32 bits. -/
def lowHalf : UInt64 := 0xffffffff

/-- The byte at an offset, zero past the end. -/
def byteAt (data : ByteArray) (offset : Nat) : UInt64 :=
  (data.data[offset]?.getD 0).toUInt64

/-- The little-endian word of `width` bytes at an offset. -/
def word (data : ByteArray) (offset : Nat) : Nat → UInt64
  | 0 => 0
  | width + 1 => (word data (offset + 1) width <<< 8) ||| byteAt data offset

/-- Four bytes, little end first. -/
def word32 (data : ByteArray) (offset : Nat) : UInt64 := word data offset 4

/-- Eight bytes, little end first. -/
def word64 (data : ByteArray) (offset : Nat) : UInt64 := word data offset 8

/-- Turns a word left by some bits. -/
def rotateLeft (value : UInt64) (count : UInt64) : UInt64 :=
  (value <<< count) ||| (value >>> (64 - count))

/-- The bytes of a word in opposite order. -/
def swapBytes (value : UInt64) : UInt64 :=
  (List.range 8).foldl (fun acc i => (acc <<< 8) ||| ((value >>> (8 * i).toUInt64) &&& 0xff)) 0

/-- The two halves of a 128-bit product, folded together. -/
def foldProduct (a b : UInt64) : UInt64 :=
  let product := a.toNat * b.toNat
  product.toUInt64 ^^^ (product >>> 64).toUInt64

def shiftXor (value : UInt64) (count : UInt64) : UInt64 := value ^^^ (value >>> count)

/-- The final stirring of inputs under four bytes. -/
def stirShort (value : UInt64) : UInt64 :=
  shiftXor (shiftXor (shiftXor value 33 * primeB) 29 * primeC) 32

/-- The final stirring of all inputs over eight bytes. -/
def stir (value : UInt64) : UInt64 :=
  shiftXor (shiftXor value 37 * mixPrimeA) 32

/-- The stirring of inputs of four to eight bytes. -/
def stirWord (value length : UInt64) : UInt64 :=
  let turned := value ^^^ rotateLeft value 49 ^^^ rotateLeft value 24
  let scaled := turned * mixPrimeB
  let mixed := (scaled ^^^ ((scaled >>> 35) + length)) * mixPrimeB
  shiftXor mixed 28

/-- Mixes sixteen bytes of data with sixteen bytes of the secret. -/
def mixPair (data : ByteArray) (offset key : Nat) : UInt64 :=
  foldProduct (word64 data offset ^^^ word64 secret key)
    (word64 data (offset + 8) ^^^ word64 secret (key + 8))

def upTo3 (data : ByteArray) (length : Nat) : UInt64 :=
  if length = 0 then stirShort (word64 secret 56 ^^^ word64 secret 64)
  else
    let combined := (byteAt data 0 <<< 16) ||| (byteAt data (length / 2) <<< 24)
      ||| byteAt data (length - 1) ||| (length.toUInt64 <<< 8)
    stirShort (combined ^^^ (word32 secret 0 ^^^ word32 secret 4))

def upTo8 (data : ByteArray) (length : Nat) : UInt64 :=
  let joined := word32 data (length - 4) + (word32 data 0 <<< 32)
  stirWord (joined ^^^ (word64 secret 8 ^^^ word64 secret 16)) length.toUInt64

def upTo16 (data : ByteArray) (length : Nat) : UInt64 :=
  let low := word64 data 0 ^^^ (word64 secret 24 ^^^ word64 secret 32)
  let high := word64 data (length - 8) ^^^ (word64 secret 40 ^^^ word64 secret 48)
  stir (length.toUInt64 + swapBytes low + high + foldProduct low high)

/-- Pairs are taken from both ends towards the middle. -/
def upTo128 (data : ByteArray) (length : Nat) : UInt64 :=
  let rounds := (length - 1) / 32 + 1
  stir <| (List.range rounds).foldl
    (fun acc i => acc + mixPair data (16 * i) (32 * i)
      + mixPair data (length - 16 * (i + 1)) (32 * i + 16))
    (length.toUInt64 * primeA)

def upTo240 (data : ByteArray) (length : Nat) : UInt64 :=
  let first := (List.range 8).foldl (fun acc i => acc + mixPair data (16 * i) (16 * i))
    (length.toUInt64 * primeA)
  let second := (List.range (length / 16 - 8)).foldl
    (fun acc i => acc + mixPair data (16 * (i + 8)) (16 * i + 3)) (stir first)
  stir (second + mixPair data (length - 16) 119)

/-- The lanes before the first stripe. -/
def lanes : List UInt64 :=
  [shortPrimeC, primeA, primeB, primeC, primeD, shortPrimeB, primeE, shortPrimeA]

/-- Adds two neighbouring words of a stripe to their lanes: each lane takes the other's word and
its own keyed product. -/
def addPair (data : ByteArray) (offset key : Nat) (even odd : UInt64) : UInt64 × UInt64 :=
  let evenWord := word64 data offset
  let oddWord := word64 data (offset + 8)
  let evenKeyed := evenWord ^^^ word64 secret key
  let oddKeyed := oddWord ^^^ word64 secret (key + 8)
  (even + oddWord + (evenKeyed &&& lowHalf) * (evenKeyed >>> 32),
    odd + evenWord + (oddKeyed &&& lowHalf) * (oddKeyed >>> 32))

/-- Adds a stripe of 64 bytes to the lanes. -/
def addStripe (data : ByteArray) : Nat → Nat → List UInt64 → List UInt64
  | offset, key, even :: odd :: rest =>
    let (even, odd) := addPair data offset key even odd
    even :: odd :: addStripe data (offset + 16) (key + 16) rest
  | _, _, rest => rest

/-- Adds consecutive stripes; the secret moves on by eight bytes with each. -/
def addStripes (data : ByteArray) (offset count : Nat) (acc : List UInt64) : List UInt64 :=
  (List.range count).foldl (fun acc i => addStripe data (offset + 64 * i) (8 * i) acc) acc

/-- Stirs the lanes at the end of a block. -/
def stirLanes : Nat → List UInt64 → List UInt64
  | key, lane :: rest =>
    (shiftXor lane 47 ^^^ word64 secret key) * shortPrimeA :: stirLanes (key + 8) rest
  | _, [] => []

/-- Folds the lanes, two at a time, onto a start value. -/
def mergeLanes : Nat → List UInt64 → UInt64 → UInt64
  | key, even :: odd :: rest, acc =>
    mergeLanes (key + 16) rest
      (acc + foldProduct (even ^^^ word64 secret key) (odd ^^^ word64 secret (key + 8)))
  | _, _, acc => acc

def long (data : ByteArray) (length : Nat) : UInt64 :=
  let blocks := (length - 1) / 1024
  let full := (List.range blocks).foldl
    (fun acc i => stirLanes 128 (addStripes data (1024 * i) 16 acc)) lanes
  let rest := addStripes data (1024 * blocks) ((length - 1 - 1024 * blocks) / 64) full
  let last := addStripe data (length - 64) 121 rest
  stir (mergeLanes 11 last (length.toUInt64 * primeA))

/-- The checksum of some bytes. -/
def hash (data : ByteArray) : UInt64 :=
  let length := data.size
  if length ≤ 3 then upTo3 data length
  else if length ≤ 8 then upTo8 data length
  else if length ≤ 16 then upTo16 data length
  else if length ≤ 128 then upTo128 data length
  else if length ≤ 240 then upTo240 data length
  else long data length

end SourceFacts.Digest.Xxh3
