import TokenStudio.CodeLib.Text

/-!
# Standard Base64

The text form of a byte string with the standard alphabet and canonical
padding, as the engine `STANDARD` of the crate `base64` reads and writes it.

Three bytes are four symbols of six bits.  The last group can hold one or two
bytes.  Its symbols then end in zero bits, and `=` fills the group up.  The
decoder accepts nothing else: no other symbol, no missing or extra padding, and
no bits that are left over.

`base64Decode_base64Encode` is the round trip, and `base64Encode_length` is the
length of the text.
-/

namespace TokenStudio

/-! ## Symbols -/

/-- The symbol of a six-bit value. -/
def base64Symbol (value : Nat) : UInt8 :=
  if value < 26 then UInt8.ofNat (0x41 + value)
  else if value < 52 then UInt8.ofNat (0x61 + (value - 26))
  else if value < 62 then UInt8.ofNat (0x30 + (value - 52))
  else if value = 62 then 0x2b
  else 0x2f

/-- The six-bit value of a symbol. -/
def base64Value? (symbol : UInt8) : Option Nat :=
  if 0x41 ≤ symbol ∧ symbol ≤ 0x5a then some (symbol.toNat - 0x41)
  else if 0x61 ≤ symbol ∧ symbol ≤ 0x7a then some (symbol.toNat - 0x61 + 26)
  else if 0x30 ≤ symbol ∧ symbol ≤ 0x39 then some (symbol.toNat - 0x30 + 52)
  else if symbol = 0x2b then some 62
  else if symbol = 0x2f then some 63
  else none

/-- The padding symbol `=`. -/
def base64Pad : UInt8 := 0x3d

/-- A symbol has its value, is not the padding and is ASCII. -/
theorem base64Symbol_facts (value : Nat) (h : value < 64) :
    base64Value? (base64Symbol value) = some value ∧ base64Symbol value ≠ base64Pad ∧
      (base64Symbol value).toNat < 128 := by
  revert value
  decide +kernel

/-! ## Groups -/

/-- The symbols of a byte string. -/
def base64Symbols : Bytes → Bytes
  | [] => []
  | [a] => [base64Symbol (a.toNat / 4), base64Symbol (a.toNat % 4 * 16), base64Pad, base64Pad]
  | [a, b] =>
    [base64Symbol (a.toNat / 4), base64Symbol (a.toNat % 4 * 16 + b.toNat / 16),
      base64Symbol (b.toNat % 16 * 4), base64Pad]
  | a :: b :: c :: rest =>
    base64Symbol (a.toNat / 4) :: base64Symbol (a.toNat % 4 * 16 + b.toNat / 16) ::
      base64Symbol (b.toNat % 16 * 4 + c.toNat / 64) :: base64Symbol (c.toNat % 64) ::
      base64Symbols rest

/-- The three bytes of four symbols. -/
def base64Group (p q r s : UInt8) : Option Bytes := do
  let p ← base64Value? p
  let q ← base64Value? q
  let r ← base64Value? r
  let s ← base64Value? s
  pure [UInt8.ofNat (p * 4 + q / 16), UInt8.ofNat (q % 16 * 16 + r / 4),
    UInt8.ofNat (r % 4 * 64 + s)]

/-- The bytes of the last four symbols, of which two can be padding.  The bits
that no byte uses must be zero. -/
def base64LastGroup (p q r s : UInt8) : Option Bytes :=
  if s = base64Pad then
    if r = base64Pad then do
      let p ← base64Value? p
      let q ← base64Value? q
      if q % 16 = 0 then pure [UInt8.ofNat (p * 4 + q / 16)] else none
    else do
      let p ← base64Value? p
      let q ← base64Value? q
      let r ← base64Value? r
      if r % 4 = 0 then
        pure [UInt8.ofNat (p * 4 + q / 16), UInt8.ofNat (q % 16 * 16 + r / 4)]
      else none
  else base64Group p q r s

/-- The bytes of a list of symbols. -/
def base64Bytes : Bytes → Option Bytes
  | [] => some []
  | p :: q :: r :: s :: rest =>
    if rest = [] then base64LastGroup p q r s
    else do
      let group ← base64Group p q r s
      let bytes ← base64Bytes rest
      pure (group ++ bytes)
  | _ => none

/-! ## Reading back what was written -/

/-- The three bytes of a full group come back. -/
theorem base64Group_symbols (a b c : UInt8) :
    base64Group (base64Symbol (a.toNat / 4)) (base64Symbol (a.toNat % 4 * 16 + b.toNat / 16))
      (base64Symbol (b.toNat % 16 * 4 + c.toNat / 64)) (base64Symbol (c.toNat % 64)) =
      some [a, b, c] := by
  have ha : a.toNat < 256 := a.toNat_lt
  have hb : b.toNat < 256 := b.toNat_lt
  have hc : c.toNat < 256 := c.toNat_lt
  have h1 : a.toNat / 4 * 4 + (a.toNat % 4 * 16 + b.toNat / 16) / 16 = a.toNat := by omega
  have h2 : (a.toNat % 4 * 16 + b.toNat / 16) % 16 * 16 +
      (b.toNat % 16 * 4 + c.toNat / 64) / 4 = b.toNat := by omega
  have h3 : (b.toNat % 16 * 4 + c.toNat / 64) % 4 * 64 + c.toNat % 64 = c.toNat := by omega
  unfold base64Group
  rw [(base64Symbol_facts (a.toNat / 4) (by omega)).1,
    (base64Symbol_facts (a.toNat % 4 * 16 + b.toNat / 16) (by omega)).1,
    (base64Symbol_facts (b.toNat % 16 * 4 + c.toNat / 64) (by omega)).1,
    (base64Symbol_facts (c.toNat % 64) (by omega)).1]
  show some [UInt8.ofNat _, UInt8.ofNat _, UInt8.ofNat _] = _
  rw [h1, h2, h3, UInt8.ofNat_toNat, UInt8.ofNat_toNat, UInt8.ofNat_toNat]

/-- A last group of one byte. -/
theorem base64LastGroup_one (a : UInt8) :
    base64LastGroup (base64Symbol (a.toNat / 4)) (base64Symbol (a.toNat % 4 * 16)) base64Pad
      base64Pad = some [a] := by
  have ha : a.toNat < 256 := a.toNat_lt
  have h1 : a.toNat / 4 * 4 + a.toNat % 4 * 16 / 16 = a.toNat := by omega
  have hzero : a.toNat % 4 * 16 % 16 = 0 := by omega
  unfold base64LastGroup
  rw [if_pos rfl, if_pos rfl, (base64Symbol_facts (a.toNat / 4) (by omega)).1,
    (base64Symbol_facts (a.toNat % 4 * 16) (by omega)).1]
  show (if a.toNat % 4 * 16 % 16 = 0 then some [UInt8.ofNat _] else none) = _
  rw [if_pos hzero, h1, UInt8.ofNat_toNat]

/-- A last group of two bytes. -/
theorem base64LastGroup_two (a b : UInt8) :
    base64LastGroup (base64Symbol (a.toNat / 4))
      (base64Symbol (a.toNat % 4 * 16 + b.toNat / 16)) (base64Symbol (b.toNat % 16 * 4))
      base64Pad = some [a, b] := by
  have ha : a.toNat < 256 := a.toNat_lt
  have hb : b.toNat < 256 := b.toNat_lt
  have h1 : a.toNat / 4 * 4 + (a.toNat % 4 * 16 + b.toNat / 16) / 16 = a.toNat := by omega
  have h2 : (a.toNat % 4 * 16 + b.toNat / 16) % 16 * 16 + b.toNat % 16 * 4 / 4 = b.toNat := by
    omega
  have hzero : b.toNat % 16 * 4 % 4 = 0 := by omega
  have hr := base64Symbol_facts (b.toNat % 16 * 4) (by omega)
  unfold base64LastGroup
  rw [if_pos rfl, if_neg hr.2.1, (base64Symbol_facts (a.toNat / 4) (by omega)).1,
    (base64Symbol_facts (a.toNat % 4 * 16 + b.toNat / 16) (by omega)).1, hr.1]
  show (if b.toNat % 16 * 4 % 4 = 0 then some [UInt8.ofNat _, UInt8.ofNat _] else none) = _
  rw [if_pos hzero, h1, h2, UInt8.ofNat_toNat, UInt8.ofNat_toNat]

/-- A last group of three bytes has no padding. -/
theorem base64LastGroup_three (a b c : UInt8) :
    base64LastGroup (base64Symbol (a.toNat / 4))
      (base64Symbol (a.toNat % 4 * 16 + b.toNat / 16))
      (base64Symbol (b.toNat % 16 * 4 + c.toNat / 64)) (base64Symbol (c.toNat % 64)) =
      some [a, b, c] := by
  unfold base64LastGroup
  rw [if_neg (base64Symbol_facts (c.toNat % 64) (by omega)).2.1, base64Group_symbols]

theorem base64Bytes_base64Symbols (bytes : Bytes) :
    base64Bytes (base64Symbols bytes) = some bytes := by
  induction bytes using base64Symbols.induct with
  | case1 => rfl
  | case2 a => exact base64LastGroup_one a
  | case3 a b => exact base64LastGroup_two a b
  | case4 a b c rest ih =>
    rw [base64Symbols, base64Bytes]
    -- The group is the last one exactly when no byte follows it.
    by_cases hrest : base64Symbols rest = []
    · rw [if_pos hrest, base64LastGroup_three]
      rw [hrest, base64Bytes] at ih
      rw [Option.some.inj ih]
    · rw [if_neg hrest, base64Group_symbols, ih]
      rfl

theorem base64Symbols_ascii (bytes : Bytes) : ∀ x ∈ base64Symbols bytes, x.toNat < 128 := by
  have hsymbol : ∀ v, (base64Symbol v).toNat < 128 := by
    intro v
    unfold base64Symbol
    split_ifs with h1 h2 h3
    · simp only [UInt8.toNat_ofNat']
      omega
    · simp only [UInt8.toNat_ofNat']
      omega
    · simp only [UInt8.toNat_ofNat']
      omega
    · decide
    · decide
  have hpad : base64Pad.toNat < 128 := by decide
  induction bytes using base64Symbols.induct with
  | case1 => simp [base64Symbols]
  | case2 a => simp [base64Symbols, hsymbol, hpad]
  | case3 a b => simp [base64Symbols, hsymbol, hpad]
  | case4 a b c rest ih =>
    intro x hx
    simp only [base64Symbols, List.mem_cons] at hx
    rcases hx with rfl | rfl | rfl | rfl | hx
    · exact hsymbol _
    · exact hsymbol _
    · exact hsymbol _
    · exact hsymbol _
    · exact ih x hx

theorem base64Symbols_length (bytes : Bytes) :
    (base64Symbols bytes).length = (bytes.length + 2) / 3 * 4 := by
  induction bytes using base64Symbols.induct with
  | case1 => rfl
  | case2 a => simp [base64Symbols]
  | case3 a b => simp [base64Symbols]
  | case4 a b c rest ih =>
    simp only [base64Symbols, List.length_cons, ih]
    omega

/-! ## Texts -/

/-- `BASE64.encode`. -/
def base64Encode (bytes : Bytes) : String := ofAscii (base64Symbols bytes)

/-- `BASE64.decode`, with `none` for the error. -/
def base64Decode (text : String) : Option Bytes := base64Bytes (asBytes text)

theorem asBytes_base64Encode (bytes : Bytes) :
    asBytes (base64Encode bytes) = base64Symbols bytes :=
  asBytes_ofAscii (base64Symbols_ascii bytes)

/-- The decoder reads back what the encoder writes. -/
@[simp] theorem base64Decode_base64Encode (bytes : Bytes) :
    base64Decode (base64Encode bytes) = some bytes := by
  rw [base64Decode, asBytes_base64Encode, base64Bytes_base64Symbols]

/-- Four symbols for three bytes, and four for a rest. -/
theorem base64Encode_length (bytes : Bytes) :
    (asBytes (base64Encode bytes)).length = (bytes.length + 2) / 3 * 4 := by
  rw [asBytes_base64Encode, base64Symbols_length]

example : base64Encode [0x4d, 0x61] = "TWE=" := by decide +kernel

example : base64Decode "TWF=" = none := by decide +kernel

end TokenStudio
