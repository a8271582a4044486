import TokenStudio.CodeLib.Sha2

/-!
# Ed25519 as `ed25519-dalek` computes it

`EdGroup` is what the signature scheme needs of the curve: points, a base
point, the two group operations that verification uses, the two conversions
between points and 32 bytes, and the 64-byte hash.  No law is a field.

`EdGroup.verify` is the non-strict `Verifier::verify`.  The scalar of the
signature has to be reduced, and then the encoding of `s * B - k * A` is
compared with the first half of the signature, byte by byte.  Nothing excludes
a public key of small order.

`Edwards25519` is the curve itself, over the natural numbers modulo
`2 ^ 255 - 19` and in extended coordinates.  `Edwards25519.group` puts it
together with SHA-512.
-/

namespace TokenStudio

/-- The prime order of the base point, `2 ^ 252 + 27742...`. -/
def groupOrder : Nat := 2 ^ 252 + 27742317777372353535851937790883648493

/-- The curve and the hash function, as the signature scheme uses them. -/
structure EdGroup where
  Point : Type
  /-- The base point `B`. -/
  base : Point
  sub : Point → Point → Point
  /-- Multiplication by a scalar in `0 .. groupOrder`. -/
  smul : Nat → Point → Point
  /-- `EdwardsPoint::compress`. -/
  compress : Point → List.Vector UInt8 32
  /-- `CompressedEdwardsY::decompress`. -/
  decompress : List.Vector UInt8 32 → Option Point
  /-- SHA-512. -/
  hash : Bytes → List.Vector UInt8 64

namespace EdGroup

variable (E : EdGroup)

/-- `VerifyingKey`: the bytes it was read from, and the point. -/
structure VerifyingKey where
  compressed : List.Vector UInt8 32
  point : E.Point

/-- `VerifyingKey::from_bytes`. -/
def fromBytes (bytes : List.Vector UInt8 32) : Option E.VerifyingKey :=
  (E.decompress bytes).map fun point => ⟨bytes, point⟩

/-- `Scalar::from_hash`. -/
def hashToScalar (message : Bytes) : Nat := ofLeBytes (E.hash message).toList % groupOrder

/-- The scalar `k` that binds a signature to its key and its message. -/
def challengeScalar (r key : List.Vector UInt8 32) (message : Bytes) : Nat :=
  E.hashToScalar (r.toList ++ key.toList ++ message)

/-- The first half of a signature, the encoding of a point. -/
def signatureR (signature : List.Vector UInt8 64) : List.Vector UInt8 32 :=
  ⟨signature.toList.take 32, by simp⟩

/-- The second half of a signature, a little-endian scalar. -/
def signatureS (signature : List.Vector UInt8 64) : Nat :=
  ofLeBytes (signature.toList.drop 32)

/-- The signature with the two given halves. -/
def signatureOf (r : List.Vector UInt8 32) (s : Nat) : List.Vector UInt8 64 :=
  ⟨r.toList ++ leBytes 32 s, by simp⟩

/-- `Verifier::verify`. -/
def verify (key : E.VerifyingKey) (message : Bytes) (signature : List.Vector UInt8 64) : Bool :=
  let k := E.challengeScalar (signatureR signature) key.compressed message
  decide (signatureS signature < groupOrder) &&
    decide (E.compress (E.sub (E.smul (signatureS signature) E.base) (E.smul k key.point)) =
      signatureR signature)

/-- The secret scalar of a seed: the lower half of its hash, with three bits
cleared at the bottom, one cleared and one set at the top. -/
def secretScalar (seed : List.Vector UInt8 32) : Nat :=
  let lower := ofLeBytes ((E.hash seed.toList).toList.take 32)
  (lower % 2 ^ 254 / 8 * 8 + 2 ^ 254)

/-- `signing_key.verifying_key().to_bytes()`. -/
def publicKey (seed : List.Vector UInt8 32) : List.Vector UInt8 32 :=
  E.compress (E.smul (E.secretScalar seed % groupOrder) E.base)

/-- `Signer::sign`. -/
def sign (seed : List.Vector UInt8 32) (message : Bytes) : List.Vector UInt8 64 :=
  let r := E.hashToScalar ((E.hash seed.toList).toList.drop 32 ++ message)
  let encodedR := E.compress (E.smul r E.base)
  let k := E.challengeScalar encodedR (E.publicKey seed) message
  signatureOf encodedR ((r + k * E.secretScalar seed) % groupOrder)

@[simp] theorem signatureR_signatureOf (r : List.Vector UInt8 32) (s : Nat) :
    signatureR (signatureOf r s) = r := by
  refine List.Vector.eq _ _ ?_
  show (r.toList ++ leBytes 32 s).take 32 = r.toList
  exact List.take_left' r.toList_length

theorem signatureS_signatureOf (r : List.Vector UInt8 32) {s : Nat} (hs : s < groupOrder) :
    signatureS (signatureOf r s) = s := by
  have hlt : s < 256 ^ 32 := by
    unfold groupOrder at hs
    omega
  show ofLeBytes ((r.toList ++ leBytes 32 s).drop 32) = s
  rw [List.drop_left' r.toList_length, ofLeBytes_leBytes, Nat.mod_eq_of_lt hlt]

/-- When the verification equation holds. -/
theorem verify_eq_true {key : E.VerifyingKey} {message : Bytes}
    {signature : List.Vector UInt8 64} :
    E.verify key message signature = true ↔
      signatureS signature < groupOrder ∧
        E.compress (E.sub (E.smul (signatureS signature) E.base)
          (E.smul (E.challengeScalar (signatureR signature) key.compressed message)
            key.point)) = signatureR signature := by
  simp [verify]

end EdGroup

/-! ## The curve -/

namespace Edwards25519

/-- The field prime. -/
def p : Nat := 2 ^ 255 - 19

/-- The curve constant `-121665 / 121666`. -/
def d : Nat := 37095705934669439343138083508754565189542113879843219016388785533085940283555

/-- A square root of `-1`. -/
def sqrtM1 : Nat := 19681161376707505956807079304988542015446066515923890162744021073123829784752

def mul (a b : Nat) : Nat := a * b % p

def add (a b : Nat) : Nat := (a + b) % p

def sub (a b : Nat) : Nat := (a + p - b) % p

/-- Powers by repeated squaring, over at most `bits` bits of the exponent. -/
def pow : (bits : Nat) → (a e : Nat) → Nat
  | 0, _, _ => 1
  | bits + 1, a, e =>
    let square := pow bits (mul a a) (e / 2)
    if e % 2 = 1 then mul a square else square

def inv (a : Nat) : Nat := pow 255 a (p - 2)

/-- A point in extended coordinates. -/
structure Point where
  x : Nat
  y : Nat
  z : Nat
  t : Nat
  deriving DecidableEq

namespace Point

def zero : Point := ⟨0, 1, 1, 0⟩

/-- The complete addition law. -/
def add (P Q : Point) : Point :=
  let a := mul (sub P.y P.x) (sub Q.y Q.x)
  let b := mul (Edwards25519.add P.y P.x) (Edwards25519.add Q.y Q.x)
  let c := mul (mul (2 * d) P.t) Q.t
  let e := mul (2 * P.z) Q.z
  let x := sub b a
  let z := sub e c
  let t := Edwards25519.add e c
  let y := Edwards25519.add b a
  ⟨mul x z, mul t y, mul z t, mul x y⟩

def neg (P : Point) : Point := ⟨Edwards25519.sub 0 P.x, P.y, P.z, Edwards25519.sub 0 P.t⟩

/-- Double and add, from the top bit down. -/
def smulBits : List Bool → Point → Point → Point
  | [], _, acc => acc
  | bit :: rest, P, acc =>
    let double := add acc acc
    smulBits rest P (if bit then add double P else double)

def smul (n : Nat) (P : Point) : Point :=
  smulBits ((List.range 256).map fun i => n.testBit i).reverse P zero

/-- The base point. -/
def base : Point :=
  let x := 15112221349535400772501151409588531511454012693041857206046113283949847762202
  let y := 46316835694926478169428394003475163141307993866256225615783033603165251855960
  ⟨x, y, 1, Edwards25519.mul x y⟩

/-- `EdwardsPoint::compress`: the `y` coordinate, with the parity of `x` in the
top bit. -/
def compress (P : Point) : List.Vector UInt8 32 :=
  let zInv := inv P.z
  ⟨leBytes 32 (Edwards25519.mul P.y zInv + 2 ^ 255 * (Edwards25519.mul P.x zInv % 2)), by simp⟩

end Point

/-- `FieldElement::sqrt_ratio_i`: an even root of `u / v`, if there is one. -/
def sqrtRatio (u v : Nat) : Option Nat :=
  let v3 := mul (mul v v) v
  let v7 := mul (mul v3 v3) v
  let r := mul (mul u v3) (pow 255 (mul u v7) ((p - 5) / 8))
  let check := mul v (mul r r)
  let even r := if r % 2 = 1 then sub 0 r else r
  if check = u then some (even r)
  else if check = sub 0 u then some (even (mul r sqrtM1))
  else none

/-- `CompressedEdwardsY::decompress`.  The `y` coordinate is reduced, not
checked, and neither a sign bit on `x = 0` nor a small order is refused. -/
def decompress (bytes : List.Vector UInt8 32) : Option Point :=
  let n := ofLeBytes bytes.toList
  let y := n % 2 ^ 255 % p
  let yy := mul y y
  (sqrtRatio (sub yy 1) (add (mul d yy) 1)).map fun root =>
    let x := if n / 2 ^ 255 = 1 then sub 0 root else root
    ⟨x, y, 1, mul x y⟩

/-- The curve with SHA-512. -/
def group : EdGroup where
  Point := Point
  base := Point.base
  sub P Q := Point.add P (Point.neg Q)
  smul := Point.smul
  compress := Point.compress
  decompress := decompress
  hash := sha512

end Edwards25519

end TokenStudio
