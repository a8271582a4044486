import Mathlib.Data.Vector.Basic
import TokenStudio.CodeLib.Codec

/-!
# SHA-256 and SHA-512

The two hash functions of FIPS 180-4 that the cryptographic crates use.  They
share one definition, which takes the word size and the tables as parameters.

Nothing is proved about the digests.  The functions are what a concrete
instance of the primitives runs.
-/

namespace TokenStudio

/-- The parameters that tell SHA-256 and SHA-512 apart. -/
structure Sha2 where
  /-- Bytes in a word. -/
  wordBytes : Nat
  /-- Rotations of `Σ0` and of `Σ1`. -/
  upperSigma0 : Nat × Nat × Nat
  upperSigma1 : Nat × Nat × Nat
  /-- Two rotations and a shift, of `σ0` and of `σ1`. -/
  lowerSigma0 : Nat × Nat × Nat
  lowerSigma1 : Nat × Nat × Nat
  roundConstants : List Nat

namespace Sha2

/-- The eight working variables. -/
structure Working where
  a : Nat
  b : Nat
  c : Nat
  d : Nat
  e : Nat
  f : Nat
  g : Nat
  h : Nat

variable (p : Sha2)

def wordBits : Nat := 8 * p.wordBytes

def rotr (x n : Nat) : Nat := x >>> n ||| (x <<< (p.wordBits - n)) % 2 ^ p.wordBits

def rotations (r : Nat × Nat × Nat) (x : Nat) : Nat :=
  p.rotr x r.1 ^^^ p.rotr x r.2.1 ^^^ p.rotr x r.2.2

def rotationsAndShift (r : Nat × Nat × Nat) (x : Nat) : Nat :=
  p.rotr x r.1 ^^^ p.rotr x r.2.1 ^^^ x >>> r.2.2

/-- One round. -/
def round (s : Working) (k w : Nat) : Working :=
  let ch := (s.e &&& s.f) ^^^ (((2 ^ p.wordBits - 1) ^^^ s.e) &&& s.g)
  let maj := (s.a &&& s.b) ^^^ (s.a &&& s.c) ^^^ (s.b &&& s.c)
  let t1 := s.h + p.rotations p.upperSigma1 s.e + ch + k + w
  let t2 := p.rotations p.upperSigma0 s.a + maj
  { a := (t1 + t2) % 2 ^ p.wordBits, b := s.a, c := s.b, d := s.c
    e := (s.d + t1) % 2 ^ p.wordBits, f := s.e, g := s.f, h := s.g }

/-- The message schedule, newest word first, extended by `n` words. -/
def schedule : Nat → List Nat → List Nat
  | 0, ws => ws.reverse
  | n + 1, ws =>
    schedule n ((p.rotationsAndShift p.lowerSigma1 (ws.getD 1 0) + ws.getD 6 0 +
      p.rotationsAndShift p.lowerSigma0 (ws.getD 14 0) + ws.getD 15 0) % 2 ^ p.wordBits :: ws)

def rounds : List (Nat × Nat) → Working → Working
  | [], s => s
  | (k, w) :: rest, s => rounds rest (p.round s k w)

/-- The compression function on one block of sixteen words. -/
def compress (s : Working) (block : List Nat) : Working :=
  let words := p.schedule (p.roundConstants.length - 16) block.reverse
  let t := p.rounds (p.roundConstants.zip words) s
  let add x y := (x + y) % 2 ^ p.wordBits
  { a := add s.a t.a, b := add s.b t.b, c := add s.c t.c, d := add s.d t.d
    e := add s.e t.e, f := add s.f t.f, g := add s.g t.g, h := add s.h t.h }

/-- The big-endian bytes of a number. -/
def beBytes (n x : Nat) : Bytes := (leBytes n x).reverse

/-- The message with its padding: a one bit, zeros, and the length in bits. -/
def pad (message : Bytes) : Bytes :=
  let block := 16 * p.wordBytes
  let used := message.length + 1 + 2 * p.wordBytes
  message ++ 0x80 :: List.replicate ((block - used % block) % block) 0 ++
    beBytes (2 * p.wordBytes) (8 * message.length)

/-- The big-endian words of a byte string. -/
def words : Nat → Bytes → List Nat
  | 0, _ => []
  | n + 1, bytes =>
    ofLeBytes (bytes.take p.wordBytes).reverse :: words n (bytes.drop p.wordBytes)

/-- The blocks of sixteen words. -/
def blocks : Nat → List Nat → List (List Nat)
  | 0, _ => []
  | n + 1, ws => ws.take 16 :: blocks n (ws.drop 16)

def finish (s : Working) : Bytes :=
  let be := beBytes p.wordBytes
  be s.a ++ be s.b ++ be s.c ++ be s.d ++ be s.e ++ be s.f ++ be s.g ++ be s.h

/-- The digest of a message from an initial state. -/
def hash (initial : Working) (message : Bytes) : Bytes :=
  let padded := p.pad message
  let count := padded.length / p.wordBytes
  p.finish ((blocks (count / 16) (p.words count padded)).foldl p.compress initial)

theorem hash_length (initial : Working) (message : Bytes) :
    (p.hash initial message).length = 8 * p.wordBytes := by
  simp only [hash, finish, beBytes, List.length_append, List.length_reverse, leBytes_length]
  omega

end Sha2

/-! ## The two functions -/

def sha256Parameters : Sha2 where
  wordBytes := 4
  upperSigma0 := (2, 13, 22)
  upperSigma1 := (6, 11, 25)
  lowerSigma0 := (7, 18, 3)
  lowerSigma1 := (17, 19, 10)
  roundConstants :=
    [0x428a2f98, 0x71374491, 0xb5c0fbcf, 0xe9b5dba5, 0x3956c25b, 0x59f111f1, 0x923f82a4, 0xab1c5ed5,
     0xd807aa98, 0x12835b01, 0x243185be, 0x550c7dc3, 0x72be5d74, 0x80deb1fe, 0x9bdc06a7, 0xc19bf174,
     0xe49b69c1, 0xefbe4786, 0x0fc19dc6, 0x240ca1cc, 0x2de92c6f, 0x4a7484aa, 0x5cb0a9dc, 0x76f988da,
     0x983e5152, 0xa831c66d, 0xb00327c8, 0xbf597fc7, 0xc6e00bf3, 0xd5a79147, 0x06ca6351, 0x14292967,
     0x27b70a85, 0x2e1b2138, 0x4d2c6dfc, 0x53380d13, 0x650a7354, 0x766a0abb, 0x81c2c92e, 0x92722c85,
     0xa2bfe8a1, 0xa81a664b, 0xc24b8b70, 0xc76c51a3, 0xd192e819, 0xd6990624, 0xf40e3585, 0x106aa070,
     0x19a4c116, 0x1e376c08, 0x2748774c, 0x34b0bcb5, 0x391c0cb3, 0x4ed8aa4a, 0x5b9cca4f, 0x682e6ff3,
     0x748f82ee, 0x78a5636f, 0x84c87814, 0x8cc70208, 0x90befffa, 0xa4506ceb, 0xbef9a3f7, 0xc67178f2]

def sha512Parameters : Sha2 where
  wordBytes := 8
  upperSigma0 := (28, 34, 39)
  upperSigma1 := (14, 18, 41)
  lowerSigma0 := (1, 8, 7)
  lowerSigma1 := (19, 61, 6)
  roundConstants :=
    [0x428a2f98d728ae22, 0x7137449123ef65cd, 0xb5c0fbcfec4d3b2f, 0xe9b5dba58189dbbc,
     0x3956c25bf348b538, 0x59f111f1b605d019, 0x923f82a4af194f9b, 0xab1c5ed5da6d8118,
     0xd807aa98a3030242, 0x12835b0145706fbe, 0x243185be4ee4b28c, 0x550c7dc3d5ffb4e2,
     0x72be5d74f27b896f, 0x80deb1fe3b1696b1, 0x9bdc06a725c71235, 0xc19bf174cf692694,
     0xe49b69c19ef14ad2, 0xefbe4786384f25e3, 0x0fc19dc68b8cd5b5, 0x240ca1cc77ac9c65,
     0x2de92c6f592b0275, 0x4a7484aa6ea6e483, 0x5cb0a9dcbd41fbd4, 0x76f988da831153b5,
     0x983e5152ee66dfab, 0xa831c66d2db43210, 0xb00327c898fb213f, 0xbf597fc7beef0ee4,
     0xc6e00bf33da88fc2, 0xd5a79147930aa725, 0x06ca6351e003826f, 0x142929670a0e6e70,
     0x27b70a8546d22ffc, 0x2e1b21385c26c926, 0x4d2c6dfc5ac42aed, 0x53380d139d95b3df,
     0x650a73548baf63de, 0x766a0abb3c77b2a8, 0x81c2c92e47edaee6, 0x92722c851482353b,
     0xa2bfe8a14cf10364, 0xa81a664bbc423001, 0xc24b8b70d0f89791, 0xc76c51a30654be30,
     0xd192e819d6ef5218, 0xd69906245565a910, 0xf40e35855771202a, 0x106aa07032bbd1b8,
     0x19a4c116b8d2d0c8, 0x1e376c085141ab53, 0x2748774cdf8eeb99, 0x34b0bcb5e19b48a8,
     0x391c0cb3c5c95a63, 0x4ed8aa4ae3418acb, 0x5b9cca4f7763e373, 0x682e6ff3d6b2b8a3,
     0x748f82ee5defb2fc, 0x78a5636f43172f60, 0x84c87814a1f0ab72, 0x8cc702081a6439ec,
     0x90befffa23631e28, 0xa4506cebde82bde9, 0xbef9a3f7b2c67915, 0xc67178f2e372532b,
     0xca273eceea26619c, 0xd186b8c721c0c207, 0xeada7dd6cde0eb1e, 0xf57d4f7fee6ed178,
     0x06f067aa72176fba, 0x0a637dc5a2c898a6, 0x113f9804bef90dae, 0x1b710b35131c471b,
     0x28db77f523047d84, 0x32caab7b40c72493, 0x3c9ebe0a15c9bebc, 0x431d67c49c100d4c,
     0x4cc5d4becb3e42b6, 0x597f299cfc657e2a, 0x5fcb6fab3ad6faec, 0x6c44198c4a475817]

/-- SHA-256. -/
def sha256 (message : Bytes) : List.Vector UInt8 32 :=
  ⟨sha256Parameters.hash
    ⟨0x6a09e667, 0xbb67ae85, 0x3c6ef372, 0xa54ff53a,
      0x510e527f, 0x9b05688c, 0x1f83d9ab, 0x5be0cd19⟩ message,
    sha256Parameters.hash_length _ _⟩

/-- SHA-512. -/
def sha512 (message : Bytes) : List.Vector UInt8 64 :=
  ⟨sha512Parameters.hash
    ⟨0x6a09e667f3bcc908, 0xbb67ae8584caa73b, 0x3c6ef372fe94f82b, 0xa54ff53a5f1d36f1,
      0x510e527fade682d1, 0x9b05688c2b3e6c1f, 0x1f83d9abfb41bd6b, 0x5be0cd19137e2179⟩ message,
    sha512Parameters.hash_length _ _⟩

/-- The digest of `abc`, from the standard. -/
example : (sha256 [0x61, 0x62, 0x63]).toList =
    [0xba, 0x78, 0x16, 0xbf, 0x8f, 0x01, 0xcf, 0xea, 0x41, 0x41, 0x40, 0xde, 0x5d, 0xae, 0x22,
      0x23, 0xb0, 0x03, 0x61, 0xa3, 0x96, 0x17, 0x7a, 0x9c, 0xb4, 0x10, 0xff, 0x61, 0xf2, 0x00,
      0x15, 0xad] := by
  decide +kernel

end TokenStudio
