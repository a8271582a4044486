import TokenStudio.CodeLib.Outcome
import TokenStudio.CodeLib.Codec

/-!
# Strings as Rust sees them

A Rust `str` is a UTF-8 byte string, its length is a byte count, and `&s[lo..hi]`
panics unless both ends are character boundaries.  This file gives Lean's
`String` that view: `asBytes` is `str::as_bytes`, and `slice` is the indexing
operator on the bytes of a `str`, with `none` for the panic.

The second half is the hexadecimal text of a byte string.  `hexEncode` writes
two lower-case digits for each byte.  There are two readers, because the
modelled code uses two:

* `u8FromStrRadix16` is `u8::from_str_radix(_, 16)` of the standard library.
  It accepts either letter case and one leading `+`;
* `hexDecode` is `hex::decode`.  It accepts either letter case and no sign.

Both read back what `hexEncode` writes.
-/

namespace TokenStudio

/-! ## Bytes of a string -/

/-- `str::as_bytes`. -/
def asBytes (s : String) : Bytes := s.toByteArray.data.toList

theorem asBytes_injective : Function.Injective asBytes := by
  intro s t h
  apply String.toByteArray_inj.mp
  exact ByteArray.ext (Array.toList_inj.mp h)

theorem asBytes_append (s t : String) : asBytes (s ++ t) = asBytes s ++ asBytes t := by
  simp [asBytes]

/-- The string whose bytes are the given ASCII bytes, `char::from` by
`char::from`. -/
def ofAscii (bytes : Bytes) : String :=
  String.ofList (bytes.map fun b => Char.ofNat b.toNat)

private theorem utf8EncodeChar_ofNat {b : UInt8} (h : b.toNat < 128) :
    String.utf8EncodeChar (Char.ofNat b.toNat) = [b] := by
  have hval : (Char.ofNat b.toNat).val.toNat = b.toNat := by
    have hvalid : b.toNat.isValidChar := Or.inl (by omega)
    unfold Char.ofNat
    rw [dif_pos hvalid]
    rfl
  have hsize : (Char.ofNat b.toNat).utf8Size = 1 := by
    rw [Char.utf8Size_eq_one_iff, UInt32.le_iff_toNat_le, hval]
    exact Nat.le_of_lt_succ h
  rw [String.utf8EncodeChar_eq_singleton hsize]
  congr 1
  apply UInt8.toNat_inj.mp
  rw [UInt32.toNat_toUInt8, hval]
  omega

/-- ASCII text is its own byte string. -/
theorem asBytes_ofAscii {bytes : Bytes} (h : ∀ b ∈ bytes, b.toNat < 128) :
    asBytes (ofAscii bytes) = bytes := by
  have hflat : (bytes.map fun b => Char.ofNat b.toNat).flatMap String.utf8EncodeChar = bytes := by
    induction bytes with
    | nil => rfl
    | cons b bs ih =>
      have hb := utf8EncodeChar_ofNat (h b (by simp))
      have hbs := ih fun x hx => h x (by simp [hx])
      simp [hb, hbs]
  rw [asBytes, ofAscii, String.toByteArray_ofList, List.utf8Encode, hflat]
  simp

/-! ## Slicing -/

/-- `str::is_char_boundary`: the two ends, and every offset whose byte does not
continue a character. -/
def isCharBoundary (value : Bytes) (index : Nat) : Bool :=
  if index = 0 then true
  else match value[index]? with
    | some b => !(0x80 ≤ b.toNat && b.toNat < 0xC0)
    | none => index = value.length

/-- `&value[lo..hi]`, with `none` for the panic. -/
def slice (value : Bytes) (lo hi : Nat) : Option Bytes :=
  if lo ≤ hi ∧ hi ≤ value.length ∧ isCharBoundary value lo ∧ isCharBoundary value hi then
    some ((value.drop lo).take (hi - lo))
  else none

/-- `str::strip_prefix` for an ASCII prefix. -/
def stripPrefix? (pre value : Bytes) : Option Bytes :=
  if pre.isPrefixOf value then some (value.drop pre.length) else none

/-- Every offset inside ASCII text is a character boundary. -/
theorem isCharBoundary_of_ascii {value : Bytes} (h : ∀ b ∈ value, b.toNat < 128)
    {index : Nat} (hi : index ≤ value.length) : isCharBoundary value index = true := by
  unfold isCharBoundary
  split
  · rfl
  · cases hget : value[index]? with
    | none =>
      have := List.getElem?_eq_none_iff.mp hget
      simp only [decide_eq_true_eq]
      omega
    | some b =>
      have hb := h b (List.mem_of_getElem? hget)
      simp only [Bool.not_eq_true', Bool.and_eq_false_iff, decide_eq_false_iff_not]
      exact Or.inl (by omega)

/-- ASCII text can be sliced anywhere. -/
theorem slice_of_ascii {value : Bytes} (h : ∀ b ∈ value, b.toNat < 128)
    {lo hi : Nat} (hle : lo ≤ hi) (hhi : hi ≤ value.length) :
    slice value lo hi = some ((value.drop lo).take (hi - lo)) := by
  rw [slice, if_pos]
  exact ⟨hle, hhi, isCharBoundary_of_ascii h (hle.trans hhi), isCharBoundary_of_ascii h hhi⟩

/-! ## Hexadecimal text -/

/-- The lower-case digit of a value below sixteen. -/
def hexNibble (value : UInt8) : UInt8 :=
  if value ≤ 9 then 0x30 + value else 0x61 + value - 10

/-- The two digits of a byte. -/
def hexByte (b : UInt8) : Bytes := [hexNibble (b >>> 4), hexNibble (b &&& 0x0f)]

/-- Two lower-case digits for each byte. -/
def hexEncode (bytes : Bytes) : Bytes := bytes.flatMap hexByte

/-- `char::to_digit(16)`. -/
def hexDigit? (b : UInt8) : Option Nat :=
  if 0x30 ≤ b ∧ b ≤ 0x39 then some (b.toNat - 0x30)
  else if 0x61 ≤ b ∧ b ≤ 0x66 then some (b.toNat - 0x61 + 10)
  else if 0x41 ≤ b ∧ b ≤ 0x46 then some (b.toNat - 0x41 + 10)
  else none

/-- The digits of a `u8`, most significant first, with the overflow check. -/
def u8FromDigits : Nat → Bytes → Option UInt8
  | acc, [] => some (UInt8.ofNat acc)
  | acc, b :: bs => do
    let digit ← hexDigit? b
    if acc * 16 + digit < 256 then u8FromDigits (acc * 16 + digit) bs else none

/-- `u8::from_str_radix(_, 16)`.  A lone sign is not a number, one leading `+`
is dropped, and `-` is no digit of an unsigned type. -/
def u8FromStrRadix16 (src : Bytes) : Option UInt8 :=
  match src with
  | [] => none
  | [0x2b] => none
  | [0x2d] => none
  | 0x2b :: digits => u8FromDigits 0 digits
  | digits => u8FromDigits 0 digits

/-- `hex::decode`. -/
def hexDecode : Bytes → Option Bytes
  | [] => some []
  | [_] => none
  | hi :: lo :: rest => do
    let hi ← hexDigit? hi
    let lo ← hexDigit? lo
    let bytes ← hexDecode rest
    pure (UInt8.ofNat (hi * 16 + lo) :: bytes)

/-- A fact about bytes can be checked byte by byte. -/
theorem forall_byte {P : UInt8 → Prop} (h : ∀ n < 256, P (UInt8.ofNat n)) (b : UInt8) : P b := by
  have hb := h b.toNat b.toNat_lt
  simpa using hb

/-- What the readers below use about the two digits of a byte: they are ASCII,
and both readers give the byte back. -/
theorem hexByte_facts (b : UInt8) :
    (∀ x ∈ hexByte b, x.toNat < 128) ∧
      (hexDigit? (hexNibble (b >>> 4))).bind (fun hi =>
        (hexDigit? (hexNibble (b &&& 0x0f))).map fun lo => UInt8.ofNat (hi * 16 + lo)) = some b ∧
      u8FromStrRadix16 (hexByte b) = some b := by
  -- As a Boolean, so that the check looks at the two digits and not at all bytes.
  have hbyte : (hexByte b).all (·.toNat < 128) = true ∧
      (hexDigit? (hexNibble (b >>> 4))).bind (fun hi =>
        (hexDigit? (hexNibble (b &&& 0x0f))).map fun lo => UInt8.ofNat (hi * 16 + lo)) = some b ∧
      u8FromStrRadix16 (hexByte b) = some b := by
    revert b
    apply forall_byte
    decide +kernel
  refine ⟨?_, hbyte.2⟩
  intro x hx
  simpa using List.all_eq_true.mp hbyte.1 x hx

theorem hexEncode_ascii (bytes : Bytes) : ∀ x ∈ hexEncode bytes, x.toNat < 128 := by
  intro x hx
  obtain ⟨b, _, hb⟩ := List.mem_flatMap.mp hx
  exact (hexByte_facts b).1 x hb

@[simp] theorem hexEncode_length (bytes : Bytes) :
    (hexEncode bytes).length = 2 * bytes.length := by
  induction bytes with
  | nil => rfl
  | cons b bs ih =>
    rw [hexEncode, List.flatMap_cons, List.length_append, ← hexEncode, ih, List.length_cons]
    simp [hexByte]
    omega

/-- `hex::decode` reads back the digits of a byte string. -/
theorem hexDecode_hexEncode (bytes : Bytes) : hexDecode (hexEncode bytes) = some bytes := by
  induction bytes with
  | nil => rfl
  | cons b bs ih =>
    have hb := (hexByte_facts b).2.1
    obtain ⟨hi, hhi, hrest⟩ := Option.bind_eq_some_iff.mp hb
    obtain ⟨lo, hlo, hbyte⟩ := Option.map_eq_some_iff.mp hrest
    rw [hexEncode] at ih ⊢
    simp only [List.flatMap_cons, hexByte, List.cons_append, List.nil_append, hexDecode, hhi,
      hlo, ih, hbyte, Option.bind_eq_bind, Option.bind_some, Option.pure_def]

theorem hexEncode_injective : Function.Injective hexEncode := by
  intro xs ys h
  have hdec : some xs = some ys := by
    rw [← hexDecode_hexEncode, ← hexDecode_hexEncode, h]
  exact Option.some.inj hdec

end TokenStudio
