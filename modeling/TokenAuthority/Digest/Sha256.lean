/-
# SHA-256

| part | rule |
| --- | --- |
| padding | `80`, zeros up to 56 modulo 64 bytes, the length in bits as eight bytes |
| schedule | the sixteen words of a block, and 48 more from earlier ones |
| round | one word of the schedule and one constant go into the eight words of the state |
| digest | the eight words after the last block |

Words are big-endian. A digest has 32 bytes by its type.
-/

namespace TokenAuthority
namespace Digest
namespace Sha256

/-- The first 32 bits of the fractional parts of the cube roots of the first 64 primes. -/
def roundConstants : Vector UInt32 64 := #v[
  0x428A2F98, 0x71374491, 0xB5C0FBCF, 0xE9B5DBA5, 0x3956C25B, 0x59F111F1, 0x923F82A4, 0xAB1C5ED5,
  0xD807AA98, 0x12835B01, 0x243185BE, 0x550C7DC3, 0x72BE5D74, 0x80DEB1FE, 0x9BDC06A7, 0xC19BF174,
  0xE49B69C1, 0xEFBE4786, 0x0FC19DC6, 0x240CA1CC, 0x2DE92C6F, 0x4A7484AA, 0x5CB0A9DC, 0x76F988DA,
  0x983E5152, 0xA831C66D, 0xB00327C8, 0xBF597FC7, 0xC6E00BF3, 0xD5A79147, 0x06CA6351, 0x14292967,
  0x27B70A85, 0x2E1B2138, 0x4D2C6DFC, 0x53380D13, 0x650A7354, 0x766A0ABB, 0x81C2C92E, 0x92722C85,
  0xA2BFE8A1, 0xA81A664B, 0xC24B8B70, 0xC76C51A3, 0xD192E819, 0xD6990624, 0xF40E3585, 0x106AA070,
  0x19A4C116, 0x1E376C08, 0x2748774C, 0x34B0BCB5, 0x391C0CB3, 0x4ED8AA4A, 0x5B9CCA4F, 0x682E6FF3,
  0x748F82EE, 0x78A5636F, 0x84C87814, 0x8CC70208, 0x90BEFFFA, 0xA4506CEB, 0xBEF9A3F7, 0xC67178F2]

/-- The first 32 bits of the fractional parts of the square roots of the first 8 primes. -/
def initialState : Vector UInt32 8 := #v[
  0x6A09E667, 0xBB67AE85, 0x3C6EF372, 0xA54FF53A, 0x510E527F, 0x9B05688C, 0x1F83D9AB, 0x5BE0CD19]

/-- Rotates a word to the right. -/
def rotate (x n : UInt32) : UInt32 :=
  (x >>> n) ||| (x <<< (32 - n))

/-- The big-endian bytes of a word of 64 bits. -/
def lengthBytes (n : UInt64) : List UInt8 :=
  ([56, 48, 40, 32, 24, 16, 8, 0] : List UInt64).map fun shift => (n >>> shift).toUInt8

/-- The message with its padding. -/
def pad (message : List UInt8) : List UInt8 :=
  let size := message.length
  message ++ 0x80 :: List.replicate ((119 - size % 64) % 64) 0 ++
    lengthBytes (size * 8).toUInt64

/-- The words of some bytes, four bytes each. -/
def words : List UInt8 → List UInt32
  | a :: b :: c :: d :: rest =>
    (a.toUInt32 <<< 24 ||| b.toUInt32 <<< 16 ||| c.toUInt32 <<< 8 ||| d.toUInt32) :: words rest
  | _ => []

/-- The word that follows sixteen words of the schedule, of which the first is the oldest. -/
def nextWord (window : Vector UInt32 16) : UInt32 :=
  let a := window[1]
  let b := window[14]
  window[0] + (rotate a 7 ^^^ rotate a 18 ^^^ (a >>> 3)) + window[9] +
    (rotate b 17 ^^^ rotate b 19 ^^^ (b >>> 10))

/-- Moves the window by one word. -/
def slide (window : Vector UInt32 16) : Vector UInt32 16 :=
  Vector.ofFn fun i => if h : i.val < 15 then window[i.val + 1] else nextWord window

/-- One round. -/
def round (state : Vector UInt32 8) (word constant : UInt32) : Vector UInt32 8 :=
  let a := state[0]
  let e := state[4]
  let first := state[7] + (rotate e 6 ^^^ rotate e 11 ^^^ rotate e 25) +
    ((e &&& state[5]) ^^^ (~~~e &&& state[6])) + constant + word
  let second := (rotate a 2 ^^^ rotate a 13 ^^^ rotate a 22) +
    ((a &&& state[1]) ^^^ (a &&& state[2]) ^^^ (state[1] &&& state[2]))
  #v[first + second, a, state[1], state[2], state[3] + first, e, state[5], state[6]]

/-- The rounds of one block, whose sixteen words are the first window. -/
def compress (state : Vector UInt32 8) (block : Vector UInt32 16) : Vector UInt32 8 :=
  let final := roundConstants.toList.foldl
    (fun (s, window) constant => (round s window[0] constant, slide window)) (state, block)
  Vector.zipWith (· + ·) state final.1

/-- Takes in blocks of sixteen words, one after another. -/
def absorb (state : Vector UInt32 8) : Nat → List UInt32 → Vector UInt32 8
  | 0, _ => state
  | blocks + 1, message =>
    absorb (compress state (Vector.ofFn fun i => message.getD i.val 0)) blocks (message.drop 16)

/-- The big-endian bytes of a state. -/
def stateBytes (state : Vector UInt32 8) : Vector UInt8 32 :=
  Vector.ofFn fun i =>
    (state.get ⟨i.val / 4, by omega⟩ >>> (24 - 8 * (i.val % 4)).toUInt32).toUInt8

end Sha256

/-- The SHA-256 digest of a message. -/
def sha256 (message : List UInt8) : Vector UInt8 32 :=
  let words := Sha256.words (Sha256.pad message)
  Sha256.stateBytes (Sha256.absorb Sha256.initialState (words.length / 16) words)

end Digest
end TokenAuthority
