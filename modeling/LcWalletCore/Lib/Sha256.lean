import LcWalletCore.Lib.Bytes

/-!
# SHA-256

An executable SHA-256 (FIPS 180-4) over lists of words, small enough for the kernel to run on a
concrete message. Nothing general rests on it: the results about hashing programs take the hash
as a parameter, and this file supplies the value at which their assumptions are checked.
-/

namespace Lib.Sha256

/-- Words are natural numbers below this. -/
def modulus : ℕ := 4294967296

def rotr (x n : ℕ) : ℕ := ((x >>> n) ||| (x <<< (32 - n))) % modulus

/-- The round constants. -/
def roundConstants : List ℕ := [
  0x428a2f98, 0x71374491, 0xb5c0fbcf, 0xe9b5dba5, 0x3956c25b, 0x59f111f1, 0x923f82a4, 0xab1c5ed5,
  0xd807aa98, 0x12835b01, 0x243185be, 0x550c7dc3, 0x72be5d74, 0x80deb1fe, 0x9bdc06a7, 0xc19bf174,
  0xe49b69c1, 0xefbe4786, 0x0fc19dc6, 0x240ca1cc, 0x2de92c6f, 0x4a7484aa, 0x5cb0a9dc, 0x76f988da,
  0x983e5152, 0xa831c66d, 0xb00327c8, 0xbf597fc7, 0xc6e00bf3, 0xd5a79147, 0x06ca6351, 0x14292967,
  0x27b70a85, 0x2e1b2138, 0x4d2c6dfc, 0x53380d13, 0x650a7354, 0x766a0abb, 0x81c2c92e, 0x92722c85,
  0xa2bfe8a1, 0xa81a664b, 0xc24b8b70, 0xc76c51a3, 0xd192e819, 0xd6990624, 0xf40e3585, 0x106aa070,
  0x19a4c116, 0x1e376c08, 0x2748774c, 0x34b0bcb5, 0x391c0cb3, 0x4ed8aa4a, 0x5b9cca4f, 0x682e6ff3,
  0x748f82ee, 0x78a5636f, 0x84c87814, 0x8cc70208, 0x90befffa, 0xa4506ceb, 0xbef9a3f7, 0xc67178f2]

/-- The eight working variables. -/
structure State where
  (a b c d e f g h : ℕ)
deriving DecidableEq, Repr

def initial : State where
  a := 0x6a09e667
  b := 0xbb67ae85
  c := 0x3c6ef372
  d := 0xa54ff53a
  e := 0x510e527f
  f := 0x9b05688c
  g := 0x1f83d9ab
  h := 0x5be0cd19

/-- One round, on a round constant and a schedule word. -/
def round (s : State) (kw : ℕ × ℕ) : State :=
  let s1 := rotr s.e 6 ^^^ rotr s.e 11 ^^^ rotr s.e 25
  let ch := (s.e &&& s.f) ^^^ ((modulus - 1 - s.e) &&& s.g)
  let t1 := s.h + s1 + ch + kw.1 + kw.2
  let s0 := rotr s.a 2 ^^^ rotr s.a 13 ^^^ rotr s.a 22
  let maj := (s.a &&& s.b) ^^^ (s.a &&& s.c) ^^^ (s.b &&& s.c)
  { a := (t1 + s0 + maj) % modulus, b := s.a, c := s.b, d := s.c
    e := (s.d + t1) % modulus, f := s.e, g := s.f, h := s.g }

/-- `n` more words of the message schedule, which is kept latest word first. -/
def extend : ℕ → List ℕ → List ℕ
  | 0, w => w
  | n + 1, w =>
    let w15 := w.getD 14 0
    let w2 := w.getD 1 0
    let s0 := rotr w15 7 ^^^ rotr w15 18 ^^^ (w15 >>> 3)
    let s1 := rotr w2 17 ^^^ rotr w2 19 ^^^ (w2 >>> 10)
    extend n (((w.getD 15 0 + s0 + w.getD 6 0 + s1) % modulus) :: w)

/-- The big-endian words of a block. -/
def words : Bytes → List ℕ
  | a :: b :: c :: d :: rest => beValue [a, b, c, d] :: words rest
  | _ => []

def compress (s : State) (block : Bytes) : State :=
  let w := (extend 48 (words block).reverse).reverse
  let t := (roundConstants.zip w).foldl round s
  { a := (s.a + t.a) % modulus, b := (s.b + t.b) % modulus
    c := (s.c + t.c) % modulus, d := (s.d + t.d) % modulus
    e := (s.e + t.e) % modulus, f := (s.f + t.f) % modulus
    g := (s.g + t.g) % modulus, h := (s.h + t.h) % modulus }

/-- A one bit, zeros, and the length in bits, up to a whole number of blocks. -/
def pad (message : Bytes) : Bytes :=
  message ++ [0x80] ++ List.replicate ((119 - message.length % 64) % 64) 0
    ++ beBytes 8 (8 * message.length)

/-- The first `n` blocks of 64 bytes. -/
def blocks : ℕ → Bytes → List Bytes
  | 0, _ => []
  | n + 1, m => m.take 64 :: blocks n (m.drop 64)

/-- The bytes of a state, word by word. -/
def State.toBytes (s : State) : Bytes32 :=
  ⟨(beBytes 4 s.a ++ beBytes 4 s.b ++ beBytes 4 s.c ++ beBytes 4 s.d ++ beBytes 4 s.e
    ++ beBytes 4 s.f ++ beBytes 4 s.g ++ beBytes 4 s.h).toArray, by simp⟩

/-- The hash of a message. -/
def hash (message : Bytes) : Bytes32 :=
  ((blocks ((pad message).length / 64) (pad message)).foldl compress initial).toBytes

example : hexEncode (hash [0x61, 0x62, 0x63]).toList
    = "ba7816bf8f01cfea414140de5dae2223b00361a396177a9cb410ff61f20015ad" := by
  decide +kernel

end Lib.Sha256
