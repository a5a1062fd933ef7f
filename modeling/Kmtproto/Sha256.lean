import Kmtproto.Json.Text

/-! `crypto/sha256.Sum256`, which fingerprints the content of a SEND. -/
namespace Kmtproto.Sha256
open Json

/-- The first 32 fractional bits of the cube roots of the first 64 primes. -/
def roundConstants : List UInt32 :=
  [0x428a2f98,0x71374491,0xb5c0fbcf,0xe9b5dba5,0x3956c25b,0x59f111f1,0x923f82a4,0xab1c5ed5,
   0xd807aa98,0x12835b01,0x243185be,0x550c7dc3,0x72be5d74,0x80deb1fe,0x9bdc06a7,0xc19bf174,
   0xe49b69c1,0xefbe4786,0x0fc19dc6,0x240ca1cc,0x2de92c6f,0x4a7484aa,0x5cb0a9dc,0x76f988da,
   0x983e5152,0xa831c66d,0xb00327c8,0xbf597fc7,0xc6e00bf3,0xd5a79147,0x06ca6351,0x14292967,
   0x27b70a85,0x2e1b2138,0x4d2c6dfc,0x53380d13,0x650a7354,0x766a0abb,0x81c2c92e,0x92722c85,
   0xa2bfe8a1,0xa81a664b,0xc24b8b70,0xc76c51a3,0xd192e819,0xd6990624,0xf40e3585,0x106aa070,
   0x19a4c116,0x1e376c08,0x2748774c,0x34b0bcb5,0x391c0cb3,0x4ed8aa4a,0x5b9cca4f,0x682e6ff3,
   0x748f82ee,0x78a5636f,0x84c87814,0x8cc70208,0x90befffa,0xa4506ceb,0xbef9a3f7,0xc67178f2]

structure Hash where
  a : UInt32
  b : UInt32
  c : UInt32
  d : UInt32
  e : UInt32
  f : UInt32
  g : UInt32
  h : UInt32

def initial : Hash :=
  ⟨0x6a09e667,0xbb67ae85,0x3c6ef372,0xa54ff53a,0x510e527f,0x9b05688c,0x1f83d9ab,0x5be0cd19⟩

def rotateRight (x : UInt32) (n : UInt32) : UInt32 := (x >>> n) ||| (x <<< (32-n))

/-- The block length is a multiple of 64 bytes: a one bit, zeros, and the bit length. -/
def pad (message : Bytes) : Bytes :=
  let bits := UInt64.ofNat (8 * message.length)
  message ++ [0x80] ++ List.replicate ((119 - message.length % 64) % 64) 0 ++
    (List.range 8).map (fun i => (bits >>> (56 - 8 * UInt64.ofNat i)).toUInt8)

def words : Bytes → List UInt32
  | a::b::c::d::rest =>
    (a.toUInt32 <<< 24 ||| b.toUInt32 <<< 16 ||| c.toUInt32 <<< 8 ||| d.toUInt32) :: words rest
  | _ => []

/-- The message schedule extended by `n` words, latest word first. -/
def extend : Nat → List UInt32 → List UInt32
  | 0, schedule => schedule
  | n+1, schedule =>
    let w2 := schedule.getD 1 0
    let w15 := schedule.getD 14 0
    let s0 := rotateRight w15 7 ^^^ rotateRight w15 18 ^^^ (w15 >>> 3)
    let s1 := rotateRight w2 17 ^^^ rotateRight w2 19 ^^^ (w2 >>> 10)
    extend n ((s1 + schedule.getD 6 0 + s0 + schedule.getD 15 0)::schedule)

def round (v : Hash) (input : UInt32 × UInt32) : Hash :=
  let s1 := rotateRight v.e 6 ^^^ rotateRight v.e 11 ^^^ rotateRight v.e 25
  let choice := (v.e &&& v.f) ^^^ ((v.e ^^^ 0xffffffff) &&& v.g)
  let t1 := v.h + s1 + choice + input.1 + input.2
  let s0 := rotateRight v.a 2 ^^^ rotateRight v.a 13 ^^^ rotateRight v.a 22
  let majority := (v.a &&& v.b) ^^^ (v.a &&& v.c) ^^^ (v.b &&& v.c)
  ⟨t1 + (s0 + majority),v.a,v.b,v.c,v.d + t1,v.e,v.f,v.g⟩

def compress (hash : Hash) (block : Bytes) : Hash :=
  let schedule := (extend 48 (words block).reverse).reverse
  let v := (roundConstants.zip schedule).foldl round hash
  ⟨hash.a + v.a,hash.b + v.b,hash.c + v.c,hash.d + v.d,hash.e + v.e,hash.f + v.f,hash.g + v.g,hash.h + v.h⟩

def blocks : Nat → Bytes → List Bytes
  | 0, _ => []
  | n+1, text => text.take 64 :: blocks n (text.drop 64)

def bytesOf (word : UInt32) : Bytes :=
  [(word >>> 24).toUInt8,(word >>> 16).toUInt8,(word >>> 8).toUInt8,word.toUInt8]

def sum256 (message : Bytes) : Bytes :=
  let padded := pad message
  let hash := (blocks (padded.length / 64) padded).foldl compress initial
  [hash.a,hash.b,hash.c,hash.d,hash.e,hash.f,hash.g,hash.h].flatMap bytesOf

example : (sum256 (lit "abc")).take 4 = [0xba,0x78,0x16,0xbf] := by decide +kernel

end Kmtproto.Sha256
