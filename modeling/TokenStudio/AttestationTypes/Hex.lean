import TokenStudio.AttestationTypes.Basic

/-!
# Hexadecimal digests

The text form of digests and program owners in `attestation-types`:
`digest_to_hex`, `digest_from_hex` and the two `program_owner` functions.

`digest_from_hex` checks that the text has 64 bytes and then slices it two
bytes at a time.  The length is a byte count, so the text can hold characters
of more than one byte, and a slice that ends inside such a character panics.
`digestFromHex` keeps that panic apart from the parse error.
`SplitsCharacter` describes the texts on which it happens, in terms of the
text alone, and `digestFromHex_eq_panic_iff` says that there are no others.

`digestFromHex_digestToHex` and `digestToHex_injective` are what the rest of
the development uses: a digest written by the program reads back.
-/

namespace TokenStudio

/-- `ParseHexError`. -/
structure ParseHexError where
  message : String
  deriving DecidableEq, Repr

/-! ## The functions -/

/-- `digest_to_hex`. -/
def digestToHex (digest : Digest32) : String :=
  ofAscii (hexEncode digest.toList)

/-- `strip_hex_prefix`. -/
def stripHexPrefix (value : Bytes) : Bytes :=
  ((stripPrefix? [0x30, 0x78] value).orElse fun _ => stripPrefix? [0x30, 0x58] value).getD value

/-- `parse_hex_byte`, on a slice of the text. -/
def parseHexByte (value : Bytes) : Outcome ParseHexError UInt8 :=
  match u8FromStrRadix16 value with
  | some b => .ok b
  | none =>
    .err ⟨"invalid hexadecimal byte '" ++
      (String.fromUTF8? ⟨value.toArray⟩).getD "" ++ "'"⟩

/-- The loop of `digest_from_hex`: `count` bytes from byte number `index` on. -/
def digestBytesFrom (value : Bytes) :
    (count index : Nat) → Outcome ParseHexError (List.Vector UInt8 count)
  | 0, _ => .ok List.Vector.nil
  | count + 1, index => do
    let offset := index * 2
    let text ← slice value offset (offset + 2)
    let byte ← parseHexByte text
    let rest ← digestBytesFrom value count (index + 1)
    pure (byte ::ᵥ rest)

/-- `digest_from_hex`. -/
def digestFromHex (value : String) : Outcome ParseHexError Digest32 := do
  let value := stripHexPrefix (asBytes value)
  Outcome.check (value.length ≠ 64)
    ⟨"digest must be exactly 32 bytes / 64 hexadecimal characters"⟩
  digestBytesFrom value 32 0

/-- `program_owner_to_hex`. -/
def programOwnerToHex (owner : ProgramOwner) : String :=
  ofAscii (hexEncode ((Codec.u32.array 8).encode owner))

/-- The words of 32 bytes, four bytes each, as `chunks_exact(4)` gives them. -/
def ownerOfBytes (bytes : Digest32) : ProgramOwner :=
  List.Vector.ofFn fun i : Fin 8 =>
    UInt32.ofNat (ofLeBytes ((bytes.toList.drop (4 * i)).take 4))

/-- `program_owner_from_hex`. -/
def programOwnerFromHex (value : String) : Outcome ParseHexError ProgramOwner := do
  let bytes ← digestFromHex value
  pure (ownerOfBytes bytes)

/-! ## Reading back what was written -/

theorem asBytes_digestToHex (digest : Digest32) :
    asBytes (digestToHex digest) = hexEncode digest.toList :=
  asBytes_ofAscii (hexEncode_ascii _)

theorem digestToHex_injective : Function.Injective digestToHex := by
  intro d d' h
  have hbytes := congrArg asBytes h
  rw [asBytes_digestToHex, asBytes_digestToHex] at hbytes
  exact List.Vector.eq _ _ (hexEncode_injective hbytes)

/-- The digits of a digest do not start with `0x` or `0X`, because `x` is no
digit. -/
theorem stripHexPrefix_hexEncode (bytes : Bytes) :
    stripHexPrefix (hexEncode bytes) = hexEncode bytes := by
  cases bytes with
  | nil => rfl
  | cons b bs =>
    have hne : hexNibble (b &&& 0x0f) ≠ 0x78 ∧ hexNibble (b &&& 0x0f) ≠ 0x58 := by
      revert b
      apply forall_byte
      decide +kernel
    have hx : ([0x30, 0x78] : Bytes).isPrefixOf (hexEncode (b :: bs)) = false := by
      simp [hexEncode, hexByte, List.isPrefixOf, hne.1.symm]
    have hX : ([0x30, 0x58] : Bytes).isPrefixOf (hexEncode (b :: bs)) = false := by
      simp [hexEncode, hexByte, List.isPrefixOf, hne.2.symm]
    simp [stripHexPrefix, stripPrefix?, hx, hX]

/-- The digits of one byte, at its place in the digits of a byte string. -/
theorem hexEncode_pair {pre : Bytes} {b : UInt8} {post : Bytes} :
    ((hexEncode (pre ++ b :: post)).drop (pre.length * 2)).take 2 = hexByte b := by
  have hlen : (hexEncode pre).length = pre.length * 2 := by
    rw [hexEncode_length, Nat.mul_comm]
  have hsplit : hexEncode (pre ++ b :: post) = hexEncode pre ++ (hexByte b ++ hexEncode post) := by
    simp [hexEncode]
  rw [hsplit, List.drop_left' hlen, List.take_left' (by rfl)]

/-- The loop reads the digits of a byte string from any byte on. -/
theorem digestBytesFrom_hexEncode {n : Nat} (v : List.Vector UInt8 n) (pre : Bytes) :
    digestBytesFrom (hexEncode (pre ++ v.toList)) n pre.length = .ok v := by
  induction v generalizing pre with
  | nil => simp [digestBytesFrom]
  | @cons n b v ih =>
    have hslice : slice (hexEncode (pre ++ b :: v.toList)) (pre.length * 2)
        (pre.length * 2 + 2) = some (hexByte b) := by
      rw [slice_of_ascii (hexEncode_ascii _) (by omega) (by simp; omega)]
      rw [show pre.length * 2 + 2 - pre.length * 2 = 2 by omega, hexEncode_pair]
    have hrest := ih (pre ++ [b])
    simp only [List.append_assoc, List.singleton_append, List.length_append,
      List.length_singleton] at hrest
    simp [digestBytesFrom, hslice, parseHexByte, (hexByte_facts b).2.2, hrest]

/-- `digest_from_hex` reads back what `digest_to_hex` writes. -/
theorem digestFromHex_digestToHex (digest : Digest32) :
    digestFromHex (digestToHex digest) = .ok digest := by
  have hloop := digestBytesFrom_hexEncode digest []
  simp only [List.nil_append, List.length_nil] at hloop
  simp [digestFromHex, asBytes_digestToHex, stripHexPrefix_hexEncode, hloop]

/-- Piece number `i` of a sequence of pieces of one length. -/
theorem take_drop_flatMap {α β : Type} {f : α → List β} {n : Nat} (hf : ∀ a, (f a).length = n)
    (xs : List α) (i : Nat) (hi : i < xs.length) :
    ((xs.flatMap f).drop (n * i)).take n = f xs[i] := by
  induction xs generalizing i with
  | nil => simp at hi
  | cons x xs ih =>
    rw [List.flatMap_cons]
    cases i with
    | zero => rw [Nat.mul_zero, List.drop_zero, List.take_left' (hf x), List.getElem_cons_zero]
    | succ i =>
      rw [Nat.mul_succ, Nat.add_comm, ← List.drop_drop, List.drop_left' (hf x),
        ih i (by simpa using hi), List.getElem_cons_succ]

/-- The bytes of an owner, as a digest. -/
def ownerBytes (owner : ProgramOwner) : Digest32 :=
  ⟨(Codec.u32.array 8).encode owner, by
    have hone : ∀ w, (Codec.u32.encode w).length = 4 := fun w => leBytes_length _ _
    show (owner.toList.flatMap Codec.u32.encode).length = 32
    simp [List.length_flatMap, hone]⟩

theorem ownerOfBytes_ownerBytes (owner : ProgramOwner) :
    ownerOfBytes (ownerBytes owner) = owner := by
  apply List.Vector.ext
  intro i
  have hi : i.val < owner.toList.length := by simp
  have hpiece : ((ownerBytes owner).toList.drop (4 * i)).take 4 =
      leBytes 4 owner.toList[i.val].toNat :=
    take_drop_flatMap (fun _ => leBytes_length _ _) owner.toList i.val hi
  have hlt : owner.toList[i.val].toNat < 256 ^ 4 := UInt32.toNat_lt _
  rw [ownerOfBytes, List.Vector.get_ofFn, hpiece, ofLeBytes_leBytes, Nat.mod_eq_of_lt hlt,
    UInt32.ofNat_toNat, List.Vector.get_eq_get_toList]
  rfl

/-- `program_owner_from_hex` reads back what `program_owner_to_hex` writes. -/
theorem programOwnerFromHex_programOwnerToHex (owner : ProgramOwner) :
    programOwnerFromHex (programOwnerToHex owner) = .ok owner := by
  have htext : programOwnerToHex owner = digestToHex (ownerBytes owner) := rfl
  rw [programOwnerFromHex, htext, digestFromHex_digestToHex, Outcome.ok_bind,
    ownerOfBytes_ownerBytes]
  rfl

/-! ## Texts that make the parser panic -/

/-- `u8::from_str_radix` reads the pair of bytes number `index`: it is two hexadecimal
digits, or a plus sign and a digit. -/
def IsHexPair (value : Bytes) (index : Nat) : Prop :=
  (u8FromStrRadix16 ((value.drop (index * 2)).take 2)).isSome

instance (value : Bytes) (index : Nat) : Decidable (IsHexPair value index) := by
  unfold IsHexPair; infer_instance

/-- A text of 64 bytes, not counting a prefix, whose first pair that
`u8::from_str_radix` does not read ends inside a character: a character of more than
one byte lies across the end of a pair, and every pair before that one is read. -/
def SplitsCharacter (text : String) : Prop :=
  (stripHexPrefix (asBytes text)).length = 64 ∧
    ∃ index < 32, (∀ before < index, IsHexPair (stripHexPrefix (asBytes text)) before) ∧
      isCharBoundary (stripHexPrefix (asBytes text)) (index * 2 + 2) = false

instance (text : String) : Decidable (SplitsCharacter text) := by
  unfold SplitsCharacter; infer_instance

/-- The first slice of the loop, when its start is a character boundary. -/
theorem slice_pair {value : Bytes} {index : Nat} (hlen : index * 2 + 2 ≤ value.length)
    (hlo : isCharBoundary value (index * 2) = true) :
    slice value (index * 2) (index * 2 + 2) =
      if isCharBoundary value (index * 2 + 2) then some ((value.drop (index * 2)).take 2)
      else none := by
  unfold slice
  have hle : index * 2 ≤ index * 2 + 2 := by omega
  have htwo : index * 2 + 2 - index * 2 = 2 := by omega
  rw [htwo]
  by_cases hhi : isCharBoundary value (index * 2 + 2) = true
  · rw [if_pos ⟨hle, hlen, hlo, hhi⟩, if_pos hhi]
  · rw [if_neg fun h => hhi h.2.2.2, if_neg hhi]

theorem parseHexByte_ne_panic (value : Bytes) : parseHexByte value ≠ .panic := by
  unfold parseHexByte
  split <;> simp

theorem parseHexByte_eq_ok {value : Bytes} {b : UInt8} :
    parseHexByte value = .ok b ↔ u8FromStrRadix16 value = some b := by
  unfold parseHexByte
  cases u8FromStrRadix16 value <;> simp

theorem exists_parseHexByte_eq_ok (value : Bytes) :
    (∃ b, parseHexByte value = .ok b) ↔ (u8FromStrRadix16 value).isSome = true := by
  rw [Option.isSome_iff_exists]
  exact exists_congr fun b => parseHexByte_eq_ok

/-- The loop panics exactly when it gets to a pair that ends inside a
character. -/
theorem digestBytesFrom_eq_panic_iff {value : Bytes} {count index : Nat}
    (hlen : (index + count) * 2 ≤ value.length)
    (hlo : isCharBoundary value (index * 2) = true) :
    digestBytesFrom value count index = .panic ↔
      ∃ j, index ≤ j ∧ j < index + count ∧ (∀ before, index ≤ before → before < j →
        IsHexPair value before) ∧ isCharBoundary value (j * 2 + 2) = false := by
  induction count generalizing index with
  | zero =>
    simp only [digestBytesFrom, reduceCtorEq, false_iff]
    rintro ⟨j, hj, hj', -⟩
    omega
  | succ count ih =>
    have hslice := slice_pair (by omega) hlo
    unfold digestBytesFrom
    by_cases hhi : isCharBoundary value (index * 2 + 2) = true
    · rw [if_pos hhi] at hslice
      simp only [hslice]
      show (parseHexByte _ >>= _) = _ ↔ _
      cases hparse : parseHexByte ((value.drop (index * 2)).take 2) with
      | panic => exact absurd hparse (parseHexByte_ne_panic _)
      | err e =>
        -- The loop stops with an error, so no later pair is looked at.
        have hno : ¬ IsHexPair value index := by
          intro h
          obtain ⟨b, hb⟩ := (exists_parseHexByte_eq_ok _).mpr h
          rw [hb] at hparse
          simp at hparse
        simp only [Outcome.err_bind, reduceCtorEq, false_iff]
        rintro ⟨j, hj, -, hbefore, hcut⟩
        by_cases hji : j = index
        · subst hji
          rw [hhi] at hcut
          simp at hcut
        · exact hno (hbefore index (by omega) (by omega))
      | ok b =>
        have hpair : IsHexPair value index := (exists_parseHexByte_eq_ok _).mp ⟨b, hparse⟩
        have hrest := @ih (index + 1) (by omega) (by rw [Nat.add_mul]; exact hhi)
        have hstep : ((Outcome.ok b : Outcome ParseHexError UInt8) >>= fun byte =>
            digestBytesFrom value count (index + 1) >>= fun rest => pure (byte ::ᵥ rest)) =
            .panic ↔ digestBytesFrom value count (index + 1) = .panic := by
          rw [Outcome.ok_bind, Outcome.bind_eq_panic]
          simp
        rw [hstep, hrest]
        constructor
        · rintro ⟨j, hj, hj', hbefore, hcut⟩
          refine ⟨j, by omega, by omega, ?_, hcut⟩
          intro before h h'
          by_cases hb : before = index
          · rw [hb]
            exact hpair
          · exact hbefore before (by omega) h'
        · rintro ⟨j, hj, hj', hbefore, hcut⟩
          have hne : j ≠ index := by
            rintro rfl
            rw [hhi] at hcut
            simp at hcut
          exact ⟨j, by omega, by omega, fun before h h' => hbefore before (by omega) h', hcut⟩
    · rw [if_neg hhi] at hslice
      simp only [hslice]
      refine iff_of_true rfl ⟨index, Nat.le_refl _, by omega, ?_, by simpa using hhi⟩
      intro before h h'
      omega

/-- `digest_from_hex` panics exactly on the texts that split a character. -/
theorem digestFromHex_eq_panic_iff (text : String) :
    digestFromHex text = .panic ↔ SplitsCharacter text := by
  unfold digestFromHex SplitsCharacter
  by_cases hlen : (stripHexPrefix (asBytes text)).length = 64
  · have hloop := @digestBytesFrom_eq_panic_iff (stripHexPrefix (asBytes text)) 32 0
      (by omega) rfl
    simp only [Nat.zero_le, Nat.zero_add, forall_const, true_and] at hloop
    simp [hlen, hloop]
  · simp [hlen]

theorem programOwnerFromHex_eq_panic_iff (text : String) :
    programOwnerFromHex text = .panic ↔ SplitsCharacter text := by
  rw [programOwnerFromHex, Outcome.bind_eq_panic, digestFromHex_eq_panic_iff]
  simp

/-- The pair with the plus sign is read, and the next one ends inside the euro sign. -/
example : SplitsCharacter ("+a€" ++ String.ofList (List.replicate 59 'a')) := by decide +kernel

end TokenStudio
