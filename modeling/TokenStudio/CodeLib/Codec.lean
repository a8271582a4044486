import Mathlib.Data.Vector.Basic
import Mathlib.Data.BitVec
import Mathlib.Tactic.Common

/-!
# Byte layouts that can be read back

A byte layout is a `Codec`: an encoder together with a decoder that reads one
value off the front of a longer byte string and returns the rest.  The law
`decode_encode` is the round trip in front of arbitrary trailing bytes, so it
also says that no encoding is a proper prefix of another one.  `Codec.peel` is
that fact as it is used: two byte strings that start with encodings and are
equal start with the same value, and the rests are equal.

The primitive codecs are the fixed-width little-endian integers, byte arrays
and word arrays, a one-byte option tag, and a string behind its four-byte
length.  `pair` and `iso` build the layout of a record from them.

Bytes are `List UInt8`, and a byte array `[u8; n]` is a `List.Vector UInt8 n`.
-/

namespace TokenStudio

/-- A byte string. -/
abbrev Bytes := List UInt8

/-- `u128`. -/
abbrev U128 := BitVec 128

/-! ## Little-endian integers -/

/-- The low `n` bytes of `x`, least significant byte first. -/
def leBytes : Nat → Nat → Bytes
  | 0, _ => []
  | n + 1, x => UInt8.ofNat x :: leBytes n (x / 256)

/-- The number that little-endian bytes spell. -/
def ofLeBytes : Bytes → Nat
  | [] => 0
  | b :: bs => b.toNat + 256 * ofLeBytes bs

@[simp] theorem leBytes_length (n x : Nat) : (leBytes n x).length = n := by
  induction n generalizing x with
  | zero => rfl
  | succ n ih => simp [leBytes, ih]

theorem ofLeBytes_leBytes (n x : Nat) : ofLeBytes (leBytes n x) = x % 256 ^ n := by
  induction n generalizing x with
  | zero => simp [leBytes, ofLeBytes, Nat.mod_one]
  | succ n ih =>
    have hbyte : (UInt8.ofNat x).toNat = x % 256 := by simp
    rw [leBytes, ofLeBytes, ih, hbyte, Nat.pow_succ, Nat.mul_comm (256 ^ n) 256,
      Nat.mod_mul]

theorem ofLeBytes_lt (bytes : Bytes) : ofLeBytes bytes < 256 ^ bytes.length := by
  induction bytes with
  | nil => simp [ofLeBytes]
  | cons b bs ih =>
    have hb : b.toNat < 256 := b.toNat_lt
    simp only [ofLeBytes, List.length_cons, Nat.pow_succ]
    omega

/-- Every byte string is the little-endian form of the number it spells. -/
theorem leBytes_ofLeBytes (bytes : Bytes) :
    leBytes bytes.length (ofLeBytes bytes) = bytes := by
  induction bytes with
  | nil => rfl
  | cons b bs ih =>
    have hb : b.toNat < 256 := b.toNat_lt
    have hhead : UInt8.ofNat (b.toNat + 256 * ofLeBytes bs) = b := by
      apply UInt8.toNat_inj.mp
      simp only [UInt8.toNat_ofNat']
      omega
    have htail : (b.toNat + 256 * ofLeBytes bs) / 256 = ofLeBytes bs := by omega
    simp only [List.length_cons, ofLeBytes, leBytes, hhead, htail, ih]

/-! ## Codecs -/

/-- An encoder and a decoder that reads a value off the front of a byte string. -/
structure Codec (α : Type) where
  encode : α → Bytes
  decode : Bytes → Option (α × Bytes)
  decode_encode : ∀ a rest, decode (encode a ++ rest) = some (a, rest)

namespace Codec

variable {α β : Type}

/-- Equal byte strings that start with encodings start with the same value. -/
theorem peel (c : Codec α) {a b : α} {rest rest' : Bytes}
    (h : c.encode a ++ rest = c.encode b ++ rest') : a = b ∧ rest = rest' := by
  have hdec : some (a, rest) = some (b, rest') := by
    rw [← c.decode_encode, ← c.decode_encode, h]
  simpa using hdec

/-- The last field of a layout has nothing after it. -/
theorem peel_last (c : Codec α) {a b : α} (h : c.encode a = c.encode b) : a = b :=
  (c.peel (congrArg (· ++ []) h)).1

/-- Decode a whole byte string, with no bytes left over. -/
def decodeAll (c : Codec α) (bytes : Bytes) : Option α :=
  match c.decode bytes with
  | some (a, []) => some a
  | _ => none

@[simp] theorem decodeAll_encode (c : Codec α) (a : α) :
    c.decodeAll (c.encode a) = some a := by
  have h := c.decode_encode a []
  rw [List.append_nil] at h
  simp [decodeAll, h]

/-- The layout of a fixed-width value, given its bytes and how to read them. -/
def fixed (n : Nat) (encode : α → Bytes) (read : Bytes → α)
    (hlength : ∀ a, (encode a).length = n) (hread : ∀ a, read (encode a) = a) :
    Codec α where
  encode := encode
  decode bytes := if n ≤ bytes.length then some (read (bytes.take n), bytes.drop n) else none
  decode_encode := by
    intro a rest
    have hle : n ≤ (encode a ++ rest).length := by
      rw [List.length_append, hlength]
      exact Nat.le_add_right _ _
    rw [if_pos hle, List.take_left' (hlength a), List.drop_left' (hlength a), hread]

/-- `u16::to_le_bytes`. -/
def u16 : Codec UInt16 :=
  fixed 2 (fun x => leBytes 2 x.toNat) (fun bs => UInt16.ofNat (ofLeBytes bs))
    (fun _ => leBytes_length _ _) fun x => by
      have hx : x.toNat < 256 ^ 2 := x.toNat_lt
      rw [ofLeBytes_leBytes, Nat.mod_eq_of_lt hx, UInt16.ofNat_toNat]

/-- `u32::to_le_bytes`. -/
def u32 : Codec UInt32 :=
  fixed 4 (fun x => leBytes 4 x.toNat) (fun bs => UInt32.ofNat (ofLeBytes bs))
    (fun _ => leBytes_length _ _) fun x => by
      have hx : x.toNat < 256 ^ 4 := x.toNat_lt
      rw [ofLeBytes_leBytes, Nat.mod_eq_of_lt hx, UInt32.ofNat_toNat]

/-- `u64::to_le_bytes`. -/
def u64 : Codec UInt64 :=
  fixed 8 (fun x => leBytes 8 x.toNat) (fun bs => UInt64.ofNat (ofLeBytes bs))
    (fun _ => leBytes_length _ _) fun x => by
      have hx : x.toNat < 256 ^ 8 := x.toNat_lt
      rw [ofLeBytes_leBytes, Nat.mod_eq_of_lt hx, UInt64.ofNat_toNat]

/-- `u128::to_le_bytes`. -/
def u128 : Codec U128 :=
  fixed 16 (fun x => leBytes 16 x.toNat) (fun bs => BitVec.ofNat 128 (ofLeBytes bs))
    (fun _ => leBytes_length _ _) fun x => by
      have hx : x.toNat < 256 ^ 16 := x.isLt
      rw [ofLeBytes_leBytes, Nat.mod_eq_of_lt hx, BitVec.ofNat_toNat, BitVec.setWidth_eq]

/-- A byte array `[u8; n]`, written as it is. -/
def byteArray (n : Nat) : Codec (List.Vector UInt8 n) where
  encode v := v.toList
  decode bytes :=
    if h : n ≤ bytes.length then
      some (⟨bytes.take n, by simp [h]⟩, bytes.drop n)
    else none
  decode_encode := by
    intro v rest
    have hlen : v.toList.length = n := v.toList_length
    have hle : n ≤ (v.toList ++ rest).length := by simp
    rw [dif_pos hle]
    refine congrArg some (Prod.ext ?_ (List.drop_left' hlen))
    exact List.Vector.eq _ _ (List.take_left' hlen)

/-- Read `n` values off the front of a byte string. -/
def decodeMany (c : Codec α) : (n : Nat) → Bytes → Option (List.Vector α n × Bytes)
  | 0, bytes => some (List.Vector.nil, bytes)
  | n + 1, bytes => do
    let (a, rest) ← c.decode bytes
    let (as, rest) ← decodeMany c n rest
    pure (a ::ᵥ as, rest)

theorem decodeMany_flatMap (c : Codec α) {n : Nat} (v : List.Vector α n) (rest : Bytes) :
    c.decodeMany n (v.toList.flatMap c.encode ++ rest) = some (v, rest) := by
  induction v with
  | nil => simp [decodeMany]
  | cons ih => simp [decodeMany, c.decode_encode, ih]

/-- An array `[α; n]`, its elements one after the other. -/
def array (c : Codec α) (n : Nat) : Codec (List.Vector α n) where
  encode v := v.toList.flatMap c.encode
  decode := c.decodeMany n
  decode_encode := c.decodeMany_flatMap

/-- One layout after the other. -/
def pair (c : Codec α) (c' : Codec β) : Codec (α × β) where
  encode p := c.encode p.1 ++ c'.encode p.2
  decode bytes := do
    let (a, rest) ← c.decode bytes
    let (b, rest) ← c'.decode rest
    pure ((a, b), rest)
  decode_encode := by
    rintro ⟨a, b⟩ rest
    simp [c.decode_encode, c'.decode_encode]

/-- The layout of a record, through the tuple of its fields. -/
def iso (c : Codec α) (fields : β → α) (build : α → β)
    (h : ∀ b, build (fields b) = b) : Codec β where
  encode b := c.encode (fields b)
  decode bytes := (c.decode bytes).map fun p => (build p.1, p.2)
  decode_encode := by
    intro b rest
    simp [c.decode_encode, h]

/-- A tag byte, then the value when there is one. -/
def option (c : Codec α) : Codec (Option α) where
  encode
    | some a => 1 :: c.encode a
    | none => [0]
  decode
    | 0 :: rest => some (none, rest)
    | 1 :: rest => (c.decode rest).map fun p => (some p.1, p.2)
    | _ => none
  decode_encode := by
    intro a rest
    cases a with
    | none => simp
    | some a => simp [c.decode_encode]

end Codec

end TokenStudio
