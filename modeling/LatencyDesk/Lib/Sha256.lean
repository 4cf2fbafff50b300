import LatencyDesk.Lib.Word

/-!
# SHA-256

The hash function of FIPS 180-4, written to be evaluated.  The models take the
hash as a parameter and their theorems hold for every function.  This is the
function that the `sha2` crate computes, and the concrete runs use it.

A block is sixteen words.  `schedule` extends them to sixty-four, newest word
first, so each new word reads the list at fixed offsets.
-/

namespace LatencyDesk.Lib.Sha256

/-- The eight chaining words. -/
structure Chain where
  a : UInt32
  b : UInt32
  c : UInt32
  d : UInt32
  e : UInt32
  f : UInt32
  g : UInt32
  h : UInt32
deriving DecidableEq

/-- The initial chaining words. -/
def initial : Chain :=
  { a := 0x6a09e667, b := 0xbb67ae85, c := 0x3c6ef372, d := 0xa54ff53a
    e := 0x510e527f, f := 0x9b05688c, g := 0x1f83d9ab, h := 0x5be0cd19 }

/-- The round constants. -/
def roundConstants : List UInt32 :=
  [0x428a2f98, 0x71374491, 0xb5c0fbcf, 0xe9b5dba5, 0x3956c25b, 0x59f111f1, 0x923f82a4, 0xab1c5ed5,
   0xd807aa98, 0x12835b01, 0x243185be, 0x550c7dc3, 0x72be5d74, 0x80deb1fe, 0x9bdc06a7, 0xc19bf174,
   0xe49b69c1, 0xefbe4786, 0x0fc19dc6, 0x240ca1cc, 0x2de92c6f, 0x4a7484aa, 0x5cb0a9dc, 0x76f988da,
   0x983e5152, 0xa831c66d, 0xb00327c8, 0xbf597fc7, 0xc6e00bf3, 0xd5a79147, 0x06ca6351, 0x14292967,
   0x27b70a85, 0x2e1b2138, 0x4d2c6dfc, 0x53380d13, 0x650a7354, 0x766a0abb, 0x81c2c92e, 0x92722c85,
   0xa2bfe8a1, 0xa81a664b, 0xc24b8b70, 0xc76c51a3, 0xd192e819, 0xd6990624, 0xf40e3585, 0x106aa070,
   0x19a4c116, 0x1e376c08, 0x2748774c, 0x34b0bcb5, 0x391c0cb3, 0x4ed8aa4a, 0x5b9cca4f, 0x682e6ff3,
   0x748f82ee, 0x78a5636f, 0x84c87814, 0x8cc70208, 0x90befffa, 0xa4506ceb, 0xbef9a3f7, 0xc67178f2]

def rotr (x n : UInt32) : UInt32 := (x >>> n) ||| (x <<< (32 - n))

/-- The message schedule, newest word first. -/
def schedule : Nat → List UInt32 → List UInt32
  | 0, words => words
  | n + 1, words =>
    let w2 := words.getD 1 0
    let w15 := words.getD 14 0
    let s0 := rotr w15 7 ^^^ rotr w15 18 ^^^ (w15 >>> 3)
    let s1 := rotr w2 17 ^^^ rotr w2 19 ^^^ (w2 >>> 10)
    schedule n ((s1 + words.getD 6 0 + s0 + words.getD 15 0) :: words)

/-- One round, with the round constant and the schedule word. -/
def round (v : Chain) (kw : UInt32 × UInt32) : Chain :=
  let s1 := rotr v.e 6 ^^^ rotr v.e 11 ^^^ rotr v.e 25
  let choice := (v.e &&& v.f) ^^^ (~~~v.e &&& v.g)
  let t1 := v.h + s1 + choice + kw.1 + kw.2
  let s0 := rotr v.a 2 ^^^ rotr v.a 13 ^^^ rotr v.a 22
  let majority := (v.a &&& v.b) ^^^ (v.a &&& v.c) ^^^ (v.b &&& v.c)
  { a := t1 + (s0 + majority), b := v.a, c := v.b, d := v.c
    e := v.d + t1, f := v.e, g := v.f, h := v.g }

/-- The sixteen words of a block. -/
def blockWords : Nat → List UInt8 → List UInt32
  | 0, _ => []
  | n + 1, bytes => UInt32.ofNat (beNat (bytes.take 4)) :: blockWords n (bytes.drop 4)

def compress (chain : Chain) (block : List UInt8) : Chain :=
  let words := (schedule 48 (blockWords 16 block).reverse).reverse
  let v := (roundConstants.zip words).foldl round chain
  { a := chain.a + v.a, b := chain.b + v.b, c := chain.c + v.c, d := chain.d + v.d
    e := chain.e + v.e, f := chain.f + v.f, g := chain.g + v.g, h := chain.h + v.h }

/-- The message with its padding: a one bit, zeros, and the length in bits. -/
def pad (message : List UInt8) : List UInt8 :=
  message ++ 0x80 :: List.replicate ((119 - message.length % 64) % 64) 0 ++
    beBytes 8 (8 * message.length)

/-- Absorb the given number of blocks. -/
def absorb : Nat → Chain → List UInt8 → Chain
  | 0, chain, _ => chain
  | n + 1, chain, bytes => absorb n (compress chain (bytes.take 64)) (bytes.drop 64)

/-- The digest of a chain. -/
def Chain.digest (v : Chain) : Bytes 32 :=
  ⟨beBytes 4 v.a.toNat ++ beBytes 4 v.b.toNat ++ beBytes 4 v.c.toNat ++ beBytes 4 v.d.toNat ++
    beBytes 4 v.e.toNat ++ beBytes 4 v.f.toNat ++ beBytes 4 v.g.toNat ++ beBytes 4 v.h.toNat,
    by simp⟩

/-- SHA-256 of a byte string. -/
def hash (message : List UInt8) : Bytes 32 :=
  (absorb ((pad message).length / 64) initial (pad message)).digest

end LatencyDesk.Lib.Sha256
