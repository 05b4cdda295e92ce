/-!
# SHA-256

The message is padded to whole blocks of sixteen words, and each block drives sixty-four rounds on
eight chaining words.  The schedule is never stored: a window of the last sixteen words slides
along, its head is the word of the round, and the word that enters at the end is the usual four-term
sum.

* `sha256`     the digest of a list of bytes;
* `hexDigest`  the digest of a text's UTF-8 bytes, as sixty-four lower-case hexadecimal digits.
-/

namespace Apidoc.Digest

structure Chain where
  a : UInt32
  b : UInt32
  c : UInt32
  d : UInt32
  e : UInt32
  f : UInt32
  g : UInt32
  h : UInt32

def rotate (x n : UInt32) : UInt32 := (x >>> n) ||| (x <<< (32 - n))

/-- first thirty-two bits of the fractional parts of the cube roots of the first 64 primes -/
def roundConstants : List UInt32 :=
  [0x428a2f98, 0x71374491, 0xb5c0fbcf, 0xe9b5dba5, 0x3956c25b, 0x59f111f1, 0x923f82a4, 0xab1c5ed5,
   0xd807aa98, 0x12835b01, 0x243185be, 0x550c7dc3, 0x72be5d74, 0x80deb1fe, 0x9bdc06a7, 0xc19bf174,
   0xe49b69c1, 0xefbe4786, 0x0fc19dc6, 0x240ca1cc, 0x2de92c6f, 0x4a7484aa, 0x5cb0a9dc, 0x76f988da,
   0x983e5152, 0xa831c66d, 0xb00327c8, 0xbf597fc7, 0xc6e00bf3, 0xd5a79147, 0x06ca6351, 0x14292967,
   0x27b70a85, 0x2e1b2138, 0x4d2c6dfc, 0x53380d13, 0x650a7354, 0x766a0abb, 0x81c2c92e, 0x92722c85,
   0xa2bfe8a1, 0xa81a664b, 0xc24b8b70, 0xc76c51a3, 0xd192e819, 0xd6990624, 0xf40e3585, 0x106aa070,
   0x19a4c116, 0x1e376c08, 0x2748774c, 0x34b0bcb5, 0x391c0cb3, 0x4ed8aa4a, 0x5b9cca4f, 0x682e6ff3,
   0x748f82ee, 0x78a5636f, 0x84c87814, 0x8cc70208, 0x90befffa, 0xa4506ceb, 0xbef9a3f7, 0xc67178f2]

/-- first thirty-two bits of the fractional parts of the square roots of the first 8 primes -/
def initial : Chain :=
  ⟨0x6a09e667, 0xbb67ae85, 0x3c6ef372, 0xa54ff53a, 0x510e527f, 0x9b05688c, 0x1f83d9ab, 0x5be0cd19⟩

/-- one round; `x` is the round constant plus the word of the round -/
def Chain.round (s : Chain) (x : UInt32) : Chain :=
  let s1 := rotate s.e 6 ^^^ rotate s.e 11 ^^^ rotate s.e 25
  let choice := (s.e &&& s.f) ^^^ ((~~~ s.e) &&& s.g)
  let t1 := s.h + s1 + choice + x
  let s0 := rotate s.a 2 ^^^ rotate s.a 13 ^^^ rotate s.a 22
  let majority := (s.a &&& s.b) ^^^ (s.a &&& s.c) ^^^ (s.b &&& s.c)
  ⟨t1 + (s0 + majority), s.a, s.b, s.c, s.d + t1, s.e, s.f, s.g⟩

def Chain.add (s t : Chain) : Chain :=
  ⟨s.a + t.a, s.b + t.b, s.c + t.c, s.d + t.d, s.e + t.e, s.f + t.f, s.g + t.g, s.h + t.h⟩

def Chain.words (s : Chain) : List UInt32 := [s.a, s.b, s.c, s.d, s.e, s.f, s.g, s.h]

def nextWord (w : List UInt32) : UInt32 :=
  let x := w.getD 1 0
  let y := w.getD 14 0
  w.headD 0 + (rotate x 7 ^^^ rotate x 18 ^^^ (x >>> 3)) + w.getD 9 0 +
    (rotate y 17 ^^^ rotate y 19 ^^^ (y >>> 10))

def Chain.absorb (s : Chain) (block : List UInt32) : Chain :=
  let step (p : Chain × List UInt32) (k : UInt32) :=
    (p.1.round (k + p.2.headD 0), p.2.tail ++ [nextWord p.2])
  s.add (roundConstants.foldl step (s, block)).1

def bigEndian : Nat → Nat → List UInt8
  | 0, _ => []
  | n + 1, v => bigEndian n (v / 256) ++ [(v % 256).toUInt8]

/-- a one bit, zeros, and the length in bits: a whole number of 64-byte blocks -/
def pad (message : List UInt8) : List UInt8 :=
  let zeros := (119 - message.length % 64) % 64
  message ++ [0x80] ++ List.replicate zeros 0 ++ bigEndian 8 (8 * message.length)

def wordsOf : List UInt8 → List UInt32
  | a :: b :: c :: d :: rest =>
    ((a.toUInt32 <<< 24) ||| (b.toUInt32 <<< 16) ||| (c.toUInt32 <<< 8) ||| d.toUInt32) ::
      wordsOf rest
  | _ => []

def absorbAll : Nat → Chain → List UInt32 → Chain
  | 0, s, _ => s
  | n + 1, s, ws => absorbAll n (s.absorb (ws.take 16)) (ws.drop 16)

def sha256 (message : List UInt8) : List UInt32 :=
  let ws := wordsOf (pad message)
  (absorbAll (ws.length / 16) initial ws).words

def hexDigitChar (n : Nat) : Char :=
  "0123456789abcdef".toList.getD n '0'

def hexDigits : Nat → Nat → List Char
  | 0, _ => []
  | k + 1, n => hexDigits k (n / 16) ++ [hexDigitChar (n % 16)]

def hexDigest (text : String) : String :=
  String.ofList ((sha256 text.toUTF8.toList).flatMap fun w => hexDigits 8 w.toNat)

end Apidoc.Digest
