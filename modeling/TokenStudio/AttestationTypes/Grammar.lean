import TokenStudio.AttestationTypes.Hex

/-!
# The texts that `digest_from_hex` reads

`digest_from_hex` is meant for 64 hexadecimal digits behind an optional prefix.  It
checks the length and leaves each pair of bytes to `u8::from_str_radix`, which also
takes a plus sign before a single digit.  So the parser reads more than its grammar:
`+1` stands for the byte `01`.

`digestFromHex_eq_ok_iff` says what it reads.  The text consists of `ReadablePairs`,
and the digits of the digest are those of the text in lower case, with a zero for
each plus sign.  `parsesExactly_iff` says that the parser keeps to its grammar on
all texts but two kinds: those with such a plus sign, and those that make it panic.
-/

namespace TokenStudio

/-! ## Digits -/

/-- `u8::to_ascii_lowercase`. -/
def toAsciiLowercase (byte : UInt8) : UInt8 :=
  if 0x41 ≤ byte ∧ byte ≤ 0x5a then byte + 0x20 else byte

/-- A hexadecimal digit, of either letter case. -/
def IsHexDigit (byte : UInt8) : Prop :=
  (0x30 ≤ byte ∧ byte ≤ 0x39) ∨ (0x41 ≤ byte ∧ byte ≤ 0x46) ∨ (0x61 ≤ byte ∧ byte ≤ 0x66)

instance : DecidablePred IsHexDigit := fun byte => by
  unfold IsHexDigit; infer_instance

/-- The digit that a byte of a text stands for: a plus sign counts as a zero. -/
def plainDigit (byte : UInt8) : UInt8 :=
  if byte = 0x2b then 0x30 else toAsciiLowercase byte

/-- The value of a digit below sixteen, and its text. -/
theorem hexDigit?_facts (byte : UInt8) :
    (hexDigit? byte).isSome = decide (IsHexDigit byte) ∧
      ∀ value ∈ hexDigit? byte, value < 16 ∧
        hexNibble (UInt8.ofNat value) = toAsciiLowercase byte := by
  revert byte
  apply forall_byte
  decide +kernel

theorem hexDigit?_of_digit {byte : UInt8} (h : IsHexDigit byte) :
    ∃ value, hexDigit? byte = some value ∧ value < 16 ∧
      hexNibble (UInt8.ofNat value) = toAsciiLowercase byte := by
  obtain ⟨hsome, hvalue⟩ := hexDigit?_facts byte
  rw [decide_eq_true h, Option.isSome_iff_exists] at hsome
  obtain ⟨value, hget⟩ := hsome
  exact ⟨value, hget, hvalue value hget⟩

theorem hexDigit?_of_not_digit {byte : UInt8} (h : ¬ IsHexDigit byte) : hexDigit? byte = none := by
  have hnone := (hexDigit?_facts byte).1
  rw [decide_eq_false h] at hnone
  exact Option.not_isSome_iff_eq_none.mp (by rw [hnone]; exact Bool.false_ne_true)

/-- The two digits of a value below 256. -/
theorem hexByte_ofNat {hi lo : Nat} (hhi : hi < 16) (hlo : lo < 16) :
    hexByte (UInt8.ofNat (hi * 16 + lo)) =
      [hexNibble (UInt8.ofNat hi), hexNibble (UInt8.ofNat lo)] := by
  have hall : ∀ hi < 16, ∀ lo < 16, hexByte (UInt8.ofNat (hi * 16 + lo)) =
      [hexNibble (UInt8.ofNat hi), hexNibble (UInt8.ofNat lo)] := by
    decide +kernel
  exact hall hi hhi lo hlo

theorem hexByte_injective : Function.Injective hexByte := by
  intro b b' h
  have hencode : hexEncode [b] = hexEncode [b'] := by
    simp only [hexEncode, List.flatMap_cons, List.flatMap_nil, h]
  exact List.singleton_injective (hexEncode_injective hencode)

/-! ## Pairs -/

/-- What `u8::from_str_radix` takes of two bytes: two digits, or a plus sign and a
digit. -/
def ReadablePair (hi lo : UInt8) : Prop := (IsHexDigit hi ∨ hi = 0x2b) ∧ IsHexDigit lo

/-- A readable pair stands for the byte with its digits. -/
theorem u8FromStrRadix16_of_readable {hi lo : UInt8} (h : ReadablePair hi lo) :
    ∃ b, u8FromStrRadix16 [hi, lo] = some b ∧ hexByte b = [plainDigit hi, plainDigit lo] := by
  obtain ⟨hfirst, hlo⟩ := h
  obtain ⟨low, hlow, hlt, hnibble⟩ := hexDigit?_of_digit hlo
  have hplain : ∀ byte, IsHexDigit byte → plainDigit byte = toAsciiLowercase byte := by
    intro byte hbyte
    refine if_neg ?_
    rintro rfl
    exact absurd hbyte (by decide)
  rw [hplain lo hlo, ← hnibble]
  by_cases hplus : hi = 0x2b
  · subst hplus
    have hbyte : hexByte (UInt8.ofNat (0 * 16 + low)) = _ := hexByte_ofNat (by decide) hlt
    refine ⟨UInt8.ofNat (0 * 16 + low), ?_, hbyte⟩
    have hfits : 0 * 16 + low < 256 := by omega
    simp only [u8FromStrRadix16, u8FromDigits, hlow, Option.bind_eq_bind, Option.bind_some,
      if_pos hfits]
  · have hhi : IsHexDigit hi := hfirst.resolve_right hplus
    obtain ⟨high, hhigh, hlt', hnibble'⟩ := hexDigit?_of_digit hhi
    rw [hplain hi hhi, ← hnibble']
    refine ⟨UInt8.ofNat (high * 16 + low), ?_, hexByte_ofNat hlt' hlt⟩
    have hfits : high < 256 := by omega
    have hfits' : high * 16 + low < 256 := by omega
    rw [u8FromStrRadix16.eq_def]
    simp [u8FromDigits, hhigh, hlow, hplus, hfits, hfits']

/-- The parser takes readable pairs only. -/
theorem readable_of_u8FromStrRadix16 {hi lo b : UInt8} (h : u8FromStrRadix16 [hi, lo] = some b) :
    ReadablePair hi lo := by
  by_cases hplus : hi = 0x2b
  · subst hplus
    refine ⟨Or.inr rfl, ?_⟩
    by_contra hlo
    simp [u8FromStrRadix16, u8FromDigits, hexDigit?_of_not_digit hlo] at h
  · rw [u8FromStrRadix16.eq_def] at h
    by_contra hnot
    by_cases hhi : IsHexDigit hi
    · have hlo : ¬ IsHexDigit lo := fun hlo => hnot ⟨Or.inl hhi, hlo⟩
      obtain ⟨high, hhigh, -⟩ := hexDigit?_of_digit hhi
      simp [u8FromDigits, hplus, hhigh, hexDigit?_of_not_digit hlo] at h
    · simp [u8FromDigits, hplus, hexDigit?_of_not_digit hhi] at h

/-- What `u8::from_str_radix` makes of two bytes. -/
theorem u8FromStrRadix16_pair {hi lo b : UInt8} :
    u8FromStrRadix16 [hi, lo] = some b ↔
      ReadablePair hi lo ∧ hexByte b = [plainDigit hi, plainDigit lo] := by
  constructor
  · intro h
    have hpair := readable_of_u8FromStrRadix16 h
    obtain ⟨b', hb', hdigits⟩ := u8FromStrRadix16_of_readable hpair
    obtain rfl : b = b' := Option.some.inj (h.symm.trans hb')
    exact ⟨hpair, hdigits⟩
  · rintro ⟨hpair, hdigits⟩
    obtain ⟨b', hb', hdigits'⟩ := u8FromStrRadix16_of_readable hpair
    rw [hb', hexByte_injective (hdigits'.trans hdigits.symm)]

/-! ## The loop -/

/-- A text of readable pairs. -/
def ReadablePairs : Bytes → Prop
  | hi :: lo :: rest => ReadablePair hi lo ∧ ReadablePairs rest
  | rest => rest = []

/-- A readable pair does not begin inside a character. -/
theorem isCharBoundary_of_readable {value : Bytes} {index : Nat} (hle : index ≤ value.length)
    (h : ReadablePairs (value.drop index)) : isCharBoundary value index = true := by
  unfold isCharBoundary
  split
  · rfl
  · have hhead : value[index]? = (value.drop index)[0]? := by
      rw [List.getElem?_drop, Nat.add_zero]
    rw [hhead]
    rcases hdrop : value.drop index with _ | ⟨hi, _ | ⟨lo, rest⟩⟩
    · have hlen := congrArg List.length hdrop
      simp only [List.length_drop, List.length_nil] at hlen
      simp only [List.getElem?_nil, decide_eq_true_eq]
      omega
    · rw [hdrop] at h
      cases h
    · rw [hdrop] at h
      have hascii : ∀ byte, IsHexDigit byte ∨ byte = 0x2b → byte < 0x80 := by
        unfold IsHexDigit
        apply forall_byte
        decide +kernel
      have hlt : hi.toNat < 0x80 := UInt8.lt_iff_toNat_lt.mp (hascii hi h.1.1)
      simp only [List.getElem?_cons_zero, Bool.not_eq_true', Bool.and_eq_false_iff,
        decide_eq_false_iff_not]
      omega

/-- One round of the loop. -/
theorem digestBytesFrom_succ_eq_ok_iff {value text : Bytes} {count index : Nat} {b : UInt8}
    {rest : List.Vector UInt8 count}
    (hslice : slice value (index * 2) (index * 2 + 2) = some text) :
    digestBytesFrom value (count + 1) index = .ok (b ::ᵥ rest) ↔
      u8FromStrRadix16 text = some b ∧ digestBytesFrom value count (index + 1) = .ok rest := by
  simp only [digestBytesFrom, hslice, Outcome.liftM_eq, Outcome.ofOption_some, Outcome.ok_bind,
    Outcome.bind_eq_ok, Outcome.pure_eq, Outcome.ok.injEq, parseHexByte_eq_ok]
  constructor
  · rintro ⟨byte, hbyte, others, hothers, heq⟩
    obtain ⟨hhead, htail⟩ := (List.Vector.eq_cons_iff b (byte ::ᵥ others) rest).mp heq
    rw [List.Vector.head_cons] at hhead
    rw [List.Vector.tail_cons] at htail
    rw [hhead] at hbyte
    rw [htail] at hothers
    exact ⟨hbyte, hothers⟩
  · rintro ⟨hbyte, hothers⟩
    exact ⟨b, hbyte, rest, hothers, rfl⟩

/-- The loop comes to its end exactly on readable pairs, and then the digits of the
text are those of the bytes. -/
theorem digestBytesFrom_eq_ok_iff {value : Bytes} {count index : Nat}
    {bytes : List.Vector UInt8 count} (hlen : value.length = (index + count) * 2)
    (hlo : isCharBoundary value (index * 2) = true) :
    digestBytesFrom value count index = .ok bytes ↔
      ReadablePairs (value.drop (index * 2)) ∧
        hexEncode bytes.toList = (value.drop (index * 2)).map plainDigit := by
  induction count generalizing index with
  | zero =>
    have hnil : value.drop (index * 2) = [] := List.drop_eq_nil_of_le (by omega)
    rw [hnil, bytes.eq_nil]
    simp [digestBytesFrom, ReadablePairs, hexEncode]
  | succ count ih =>
    obtain ⟨b, rest, rfl⟩ := bytes.exists_eq_cons
    have hsplit : ∃ hi lo, value.drop (index * 2) = hi :: lo :: value.drop ((index + 1) * 2) := by
      have hfirst : index * 2 < value.length := by omega
      have hsecond : index * 2 + 1 < value.length := by omega
      refine ⟨value[index * 2], value[index * 2 + 1], ?_⟩
      rw [List.drop_eq_getElem_cons hfirst, List.drop_eq_getElem_cons hsecond, Nat.add_mul]
    obtain ⟨hi, lo, hdrop⟩ := hsplit
    have hslice := slice_pair (by omega) hlo
    have hnext : (index + 1) * 2 = index * 2 + 2 := by omega
    rw [hdrop] at hslice ⊢
    by_cases hhi : isCharBoundary value (index * 2 + 2) = true
    · rw [if_pos hhi, List.take_succ_cons, List.take_succ_cons, List.take_zero] at hslice
      have hrest := @ih (index + 1) rest (by omega) (by rw [hnext]; exact hhi)
      have hencode : hexEncode (b ::ᵥ rest).toList = hexByte b ++ hexEncode rest.toList := rfl
      rw [digestBytesFrom_succ_eq_ok_iff hslice, u8FromStrRadix16_pair, hrest, hencode, hexByte,
        List.map_cons, List.map_cons, ReadablePairs]
      simp only [List.cons_append, List.nil_append, List.cons.injEq, and_true]
      tauto
    · -- the next pair would begin inside a character
      rw [if_neg hhi] at hslice
      have hpanic : digestBytesFrom value (count + 1) index = .panic := by
        simp only [digestBytesFrom, hslice]
        rfl
      rw [hpanic]
      refine iff_of_false (by simp) ?_
      rintro ⟨⟨-, hreadable⟩, -⟩
      have hboundary := isCharBoundary_of_readable (by omega) hreadable
      rw [hnext] at hboundary
      exact hhi hboundary

/-! ## The parser -/

/-- What `digest_from_hex` reads. -/
theorem digestFromHex_eq_ok_iff {text : String} {digest : Digest32} :
    digestFromHex text = .ok digest ↔
      (stripHexPrefix (asBytes text)).length = 64 ∧
        ReadablePairs (stripHexPrefix (asBytes text)) ∧
        asBytes (digestToHex digest) = (stripHexPrefix (asBytes text)).map plainDigit := by
  rw [digestFromHex, asBytes_digestToHex]
  simp only [Outcome.bind_eq_ok, Outcome.check_eq_ok, Outcome.exists_unit, ne_eq, not_not]
  refine and_congr_right fun hlen => ?_
  exact digestBytesFrom_eq_ok_iff hlen rfl

/-- Readable pairs without a plus sign are digits. -/
theorem readablePairs_iff_of_no_plus {value : Bytes} (hplus : 0x2b ∉ value) :
    ReadablePairs value ↔ value.length % 2 = 0 ∧ ∀ byte ∈ value, IsHexDigit byte := by
  induction value using ReadablePairs.induct with
  | case1 hi lo rest ih =>
    simp only [List.mem_cons, not_or] at hplus
    have hhi : hi ≠ 0x2b := fun h => hplus.1 h.symm
    rw [ReadablePairs, ih hplus.2.2, ReadablePair, or_iff_left hhi, List.length_cons,
      List.length_cons, Nat.add_assoc, Nat.add_mod_right]
    simp only [List.forall_mem_cons]
    tauto
  | case2 value hshort =>
    rcases value with _ | ⟨hi, _ | ⟨lo, rest⟩⟩
    · simp [ReadablePairs]
    · simp [ReadablePairs]
    · exact absurd rfl (hshort hi lo rest)

/-- The grammar: 64 hexadecimal digits, and in lower case they are the text of the
digest. -/
structure SpellsDigest (text : String) (digest : Digest32) : Prop where
  length : (stripHexPrefix (asBytes text)).length = 64
  digits : ∀ byte ∈ stripHexPrefix (asBytes text), IsHexDigit byte
  lowerCase : asBytes (digestToHex digest) =
    (stripHexPrefix (asBytes text)).map toAsciiLowercase

/-- The parser reads the text exactly as the grammar does, and it returns. -/
structure ParsesExactly (text : String) : Prop where
  accepts : ∀ digest, digestFromHex text = .ok digest ↔ SpellsDigest text digest
  returns : (digestFromHex text).Returns

/-- A text of 32 readable pairs, not counting a prefix, with a plus sign in one of
them. -/
structure HasPlusPair (text : String) : Prop where
  length : (stripHexPrefix (asBytes text)).length = 64
  pairs : ReadablePairs (stripHexPrefix (asBytes text))
  plus : 0x2b ∈ stripHexPrefix (asBytes text)

/-- Readable pairs are the digits of some bytes. -/
theorem exists_hexEncode {value : Bytes} (h : ReadablePairs value) :
    ∃ bytes, hexEncode bytes = value.map plainDigit := by
  induction value using ReadablePairs.induct with
  | case1 hi lo rest ih =>
    obtain ⟨hpair, hrest⟩ := h
    obtain ⟨bytes, hbytes⟩ := ih hrest
    obtain ⟨b, -, hb⟩ := u8FromStrRadix16_of_readable hpair
    refine ⟨b :: bytes, ?_⟩
    rw [hexEncode, List.flatMap_cons, ← hexEncode, hb, hbytes]
    rfl
  | case2 value hshort =>
    rcases value with _ | ⟨hi, _ | ⟨lo, rest⟩⟩
    · exact ⟨[], rfl⟩
    · cases h
    · exact absurd rfl (hshort hi lo rest)

/-- A text with a plus pair is read. -/
theorem HasPlusPair.exists_digest {text : String} (h : HasPlusPair text) :
    ∃ digest, digestFromHex text = .ok digest := by
  obtain ⟨bytes, hbytes⟩ := exists_hexEncode h.pairs
  have hlen := congrArg List.length hbytes
  rw [hexEncode_length, List.length_map, h.length] at hlen
  obtain ⟨digest, rfl⟩ : ∃ digest : Digest32, digest.toList = bytes :=
    ⟨⟨bytes, by omega⟩, rfl⟩
  rw [← asBytes_digestToHex] at hbytes
  exact ⟨digest, digestFromHex_eq_ok_iff.mpr ⟨h.length, h.pairs, hbytes⟩⟩

/-- Without a plus sign the plain digits are the digits in lower case. -/
theorem map_plainDigit_of_no_plus {value : Bytes} (hplus : 0x2b ∉ value) :
    value.map plainDigit = value.map toAsciiLowercase := by
  refine List.map_congr_left fun byte hbyte => if_neg ?_
  rintro rfl
  exact hplus hbyte

/-- A hexadecimal digit is no plus sign. -/
theorem no_plus_of_digits {value : Bytes} (h : ∀ byte ∈ value, IsHexDigit byte) :
    0x2b ∉ value :=
  fun hplus => absurd (h _ hplus) (by decide)

/-- The two kinds of texts on which the parser leaves its grammar. -/
theorem parsesExactly_iff (text : String) :
    ParsesExactly text ↔ ¬ SplitsCharacter text ∧ ¬ HasPlusPair text := by
  rw [← digestFromHex_eq_panic_iff]
  constructor
  · intro h
    refine ⟨h.returns, ?_⟩
    intro hplus
    obtain ⟨digest, hok⟩ := hplus.exists_digest
    exact no_plus_of_digits ((h.accepts digest).mp hok).digits hplus.plus
  · rintro ⟨hreturns, hnoPlus⟩
    refine ⟨?_, hreturns⟩
    intro digest
    rw [digestFromHex_eq_ok_iff]
    constructor
    · rintro ⟨hlen, hpairs, htext⟩
      have hplus : 0x2b ∉ stripHexPrefix (asBytes text) := fun h => hnoPlus ⟨hlen, hpairs, h⟩
      rw [map_plainDigit_of_no_plus hplus] at htext
      exact ⟨hlen, ((readablePairs_iff_of_no_plus hplus).mp hpairs).2, htext⟩
    · intro h
      have hplus := no_plus_of_digits h.digits
      rw [map_plainDigit_of_no_plus hplus, readablePairs_iff_of_no_plus hplus, h.length]
      exact ⟨rfl, ⟨rfl, h.digits⟩, h.lowerCase⟩

theorem lowerCase_byte_eq_iff {x y : UInt8} (h : plainDigit x = plainDigit y) :
    toAsciiLowercase x = toAsciiLowercase y ↔ (x = 0x2b ↔ y = 0x2b) := by
  have hplus : ∀ byte, byte ≠ 0x2b → plainDigit byte = toAsciiLowercase byte :=
    fun byte hbyte => if_neg hbyte
  by_cases hx : x = 0x2b
  · by_cases hy : y = 0x2b
    · simp [hx, hy]
    · -- a plus sign and a zero
      rw [hplus y hy, hx] at h
      rw [hx, ← h]
      simp [hy, show toAsciiLowercase 0x2b ≠ plainDigit 0x2b by decide]
  · by_cases hy : y = 0x2b
    · rw [hplus x hx, hy] at h
      rw [hy, h]
      simp [hx, show plainDigit 0x2b ≠ toAsciiLowercase 0x2b by decide]
    · rw [← hplus x hx, ← hplus y hy]
      simp [hx, hy, h]

/-- Two byte strings with the same plain digits differ in their letter cases only
exactly when they have their plus signs at the same places. -/
theorem lowerCase_eq_iff {value value' : Bytes}
    (h : value.map plainDigit = value'.map plainDigit) :
    value.map toAsciiLowercase = value'.map toAsciiLowercase ↔
      ∀ i : Nat, value[i]? = some 0x2b ↔ value'[i]? = some 0x2b := by
  induction value generalizing value' with
  | nil =>
    obtain rfl : value' = [] := List.map_eq_nil_iff.mp h.symm
    simp
  | cons x xs ih =>
    obtain ⟨y, ys, rfl, hxy, hrest⟩ := List.map_eq_cons_iff.mp h.symm
    have hplaces := Nat.and_forall_add_one
      (p := fun i => (x :: xs)[i]? = some 0x2b ↔ (y :: ys)[i]? = some 0x2b)
    simp only [List.getElem?_cons_zero, List.getElem?_cons_succ, Option.some.injEq] at hplaces
    rw [List.map_cons, List.map_cons, List.cons.injEq, ih hrest.symm,
      lowerCase_byte_eq_iff hxy.symm]
    exact hplaces

/-- The parser keeps to its grammar on all texts but the ones with a plus pair and the
ones that split a character.  What the program writes reads back, and two texts of
one digest differ in their prefixes and letter cases only, unless they differ in
their plus signs. -/
theorem hex_grammar_iff (text : String) :
    (ParsesExactly text ↔ ¬ SplitsCharacter text ∧ ¬ HasPlusPair text) ∧
      (∀ digest, digestFromHex (digestToHex digest) = .ok digest) ∧
      (∀ owner, programOwnerFromHex (programOwnerToHex owner) = .ok owner) ∧
      ∀ text' digest, digestFromHex text = .ok digest → digestFromHex text' = .ok digest →
        ((stripHexPrefix (asBytes text)).map toAsciiLowercase =
            (stripHexPrefix (asBytes text')).map toAsciiLowercase ↔
          ∀ i : Nat, (stripHexPrefix (asBytes text))[i]? = some 0x2b ↔
            (stripHexPrefix (asBytes text'))[i]? = some 0x2b) := by
  refine ⟨parsesExactly_iff text, digestFromHex_digestToHex, programOwnerFromHex_programOwnerToHex,
    ?_⟩
  intro text' digest h h'
  obtain ⟨-, -, hdigits⟩ := digestFromHex_eq_ok_iff.mp h
  obtain ⟨-, -, hdigits'⟩ := digestFromHex_eq_ok_iff.mp h'
  exact lowerCase_eq_iff (hdigits.symm.trans hdigits')

/-- The digest whose bytes are all ten. -/
def tensDigest : Digest32 := List.Vector.replicate 32 10

/-- A text of it with a prefix and letters of both cases. -/
def mixedText : String := "0X" ++ ofAscii (List.replicate 32 [0x30, 0x41]).flatten

/-- It is the text that the program writes, up to the prefix and the letter cases. -/
theorem hex_grammar_mixed :
    (stripHexPrefix (asBytes mixedText)).map toAsciiLowercase =
      (stripHexPrefix (asBytes (digestToHex tensDigest))).map toAsciiLowercase := by
  have hmixed : digestFromHex mixedText = .ok tensDigest := by decide +kernel
  have hnone : 0x2b ∉ stripHexPrefix (asBytes mixedText) := by decide +kernel
  have hnone' : 0x2b ∉ stripHexPrefix (asBytes (digestToHex tensDigest)) := by decide +kernel
  obtain ⟨-, hwritten, -, hsame⟩ := hex_grammar_iff mixedText
  refine (hsame _ _ hmixed (hwritten tensDigest)).mpr fun i => ?_
  exact iff_of_false (fun h => hnone (List.mem_of_getElem? h))
    fun h => hnone' (List.mem_of_getElem? h)

/-- A text of it with plus signs. -/
def plusText : String := ofAscii (List.replicate 32 [0x2b, 0x61]).flatten

/-- A text of 64 bytes whose first character has three. -/
def euroDigits : String := "€" ++ ofAscii (List.replicate 61 0x61)

/-- The parser reads a text with plus signs, as the digest of another text, and it
panics on a text in which a character lies across a pair. -/
theorem plus_sign_is_read :
    digestFromHex plusText = .ok tensDigest ∧
      (¬ ∀ byte ∈ stripHexPrefix (asBytes plusText), IsHexDigit byte) ∧
      ¬ ParsesExactly plusText ∧
      (stripHexPrefix (asBytes plusText)).map toAsciiLowercase ≠
        (stripHexPrefix (asBytes (digestToHex tensDigest))).map toAsciiLowercase ∧
      digestFromHex euroDigits = .panic ∧ ¬ ParsesExactly euroDigits := by
  have hplus : digestFromHex plusText = .ok tensDigest := by decide +kernel
  have hdigits : ¬ ∀ byte ∈ stripHexPrefix (asBytes plusText), IsHexDigit byte := by
    decide +kernel
  have heuro : digestFromHex euroDigits = .panic := by decide +kernel
  refine ⟨hplus, hdigits, ?_, by decide +kernel, heuro, fun h => h.returns heuro⟩
  intro h
  exact hdigits ((h.accepts tensDigest).mp hplus).digits

end TokenStudio
