import TokenStudio.AttestationTypes.Basic
import TokenStudio.CodeLib.Merkle
import TokenStudio.CodeLib.Sha2

/-!
# LEZ accounts, commitments and membership proofs

The model of the crate `lez-compat`: the byte layout of a private account
commitment, the membership path of a commitment in the LEZ commitment tree,
and the byte layout of a fungible token holding.

`MembershipProof.computeRoot` is the loop of the source.  It is an instance of
`climb` (`computeRoot_eq_climb`), so `mem_of_verifies` follows from the library
result about perfect trees: a path that reaches the root of the tree over a
list of accounts starts at the commitment of one of these accounts, whatever
its length, index and siblings are.

`LezAccount.eq_of_commitment_eq` is the binding property of a commitment.  The
data of an account enters its commitment through its own hash, so binding uses
that two pairs of byte strings do not collide.
-/

namespace TokenStudio

/-! ## Accounts and commitments -/

/-- `COMMITMENT_PREFIX`. -/
def commitmentPrefix : Bytes := asBytes "/LEE/v0.3/Commitment/" ++ List.replicate 11 0

structure LezAccount where
  accountId : Digest32
  programOwner : ProgramOwner
  balance : U128
  nonce : U128
  data : Bytes
  deriving DecidableEq

/-- `Commitment(pub Digest32)`. -/
structure Commitment where
  digest : Digest32
  deriving DecidableEq

/-- `hash_account_data`. -/
def hashAccountData (sha256 : Bytes → Digest32) (data : Bytes) : Digest32 := sha256 data

/-- `LezAccount::commitment_preimage`, a `[u8; 160]` in the source. -/
def LezAccount.commitmentPreimage (sha256 : Bytes → Digest32) (self : LezAccount) : Bytes :=
  commitmentPrefix ++
    self.accountId.toList ++
    (Codec.u32.array 8).encode self.programOwner ++
    Codec.u128.encode self.balance ++
    Codec.u128.encode self.nonce ++
    (hashAccountData sha256 self.data).toList

/-- `Commitment::new`. -/
def Commitment.new (sha256 : Bytes → Digest32) (account : LezAccount) : Commitment :=
  ⟨sha256 (account.commitmentPreimage sha256)⟩

/-- `LezAccount::commitment`. -/
def LezAccount.commitment (sha256 : Bytes → Digest32) (self : LezAccount) : Commitment :=
  Commitment.new sha256 self

/-- `Commitment::leaf_hash`. -/
def Commitment.leafHash (sha256 : Bytes → Digest32) (self : Commitment) : Digest32 :=
  sha256 self.digest.toList

/-- The byte strings that committing to an account hashes. -/
def LezAccount.hashed (sha256 : Bytes → Digest32) (self : LezAccount) : List Bytes :=
  [self.data, self.commitmentPreimage sha256]

/-- Two accounts with the same commitment are equal, unless their own preimages
collide. -/
theorem LezAccount.eq_of_commitment_eq {sha256 : Bytes → Digest32} {a b : LezAccount}
    (hfree : CollisionFree sha256 (a.hashed sha256 ++ b.hashed sha256))
    (h : a.commitment sha256 = b.commitment sha256) : a = b := by
  have hpre : a.commitmentPreimage sha256 = b.commitmentPreimage sha256 :=
    hfree _ (by simp [hashed]) _ (by simp [hashed]) (congrArg Commitment.digest h)
  simp only [commitmentPreimage, List.append_assoc] at hpre
  have hpre := List.append_cancel_left hpre
  obtain ⟨h1, hpre⟩ := (Codec.byteArray 32).peel hpre
  obtain ⟨h2, hpre⟩ := (Codec.u32.array 8).peel hpre
  obtain ⟨h3, hpre⟩ := Codec.u128.peel hpre
  obtain ⟨h4, hpre⟩ := Codec.u128.peel hpre
  have h5 := (Codec.byteArray 32).peel_last hpre
  have h6 : a.data = b.data := hfree _ (by simp [hashed]) _ (by simp [hashed]) h5
  cases a
  cases b
  simp_all

/-! ## Membership proofs -/

/-- `MembershipProof`.  The index is a `usize`; the loop only halves it and
reads its low bit, so a natural number covers every width. -/
structure MembershipProof where
  leafIndex : Nat
  siblings : List Digest32
  deriving DecidableEq

/-- The 64 bytes that one level hashes: the running digest stands on the left
when the index at that level is even. -/
def siblingPair (levelIndex : Nat) (result sibling : Digest32) : Bytes :=
  if levelIndex &&& 1 = 0 then result.toList ++ sibling.toList
  else sibling.toList ++ result.toList

/-- `MembershipProof::compute_root`. -/
def MembershipProof.computeRoot (sha256 : Bytes → Digest32) (self : MembershipProof)
    (commitment : Commitment) : Digest32 :=
  (self.siblings.foldl
    (fun (state : Digest32 × Nat) sibling =>
      (sha256 (siblingPair state.2 state.1 sibling), state.2 >>> 1))
    (commitment.leafHash sha256, self.leafIndex)).1

/-- `MembershipProof::verifies`. -/
def MembershipProof.verifies (sha256 : Bytes → Digest32) (self : MembershipProof)
    (commitment : Commitment) (expectedRoot : Digest32) : Bool :=
  self.computeRoot sha256 commitment = expectedRoot

/-- The message of an inner node: its two digests next to each other. -/
def nodeBytes (left right : Digest32) : Bytes := left.toList ++ right.toList

/-- The byte strings that checking a membership proof hashes. -/
def MembershipProof.hashed (sha256 : Bytes → Digest32) (self : MembershipProof)
    (commitment : Commitment) : List Bytes :=
  commitment.digest.toList ::
    climbMessages sha256 nodeBytes self.leafIndex (commitment.leafHash sha256) self.siblings

/-- The tree over the commitments of a list of accounts. -/
def commitmentTree (sha256 : Bytes → Digest32) {d : Nat} (accounts : List LezAccount)
    (h : accounts.length = 2 ^ d) : PerfectTree Commitment d :=
  PerfectTree.ofList d (accounts.map (LezAccount.commitment sha256)) (by simpa using h)

/-- The root of the tree over the commitments of a list of accounts. -/
def commitmentTreeRoot (sha256 : Bytes → Digest32) {d : Nat} (accounts : List LezAccount)
    (h : accounts.length = 2 ^ d) : Digest32 :=
  (commitmentTree sha256 accounts h).root sha256 (fun c => c.digest.toList) nodeBytes

/-- The byte strings that computing this root hashes, from the accounts up. -/
def commitmentTreeHashed (sha256 : Bytes → Digest32) {d : Nat} (accounts : List LezAccount)
    (h : accounts.length = 2 ^ d) : List Bytes :=
  accounts.flatMap (LezAccount.hashed sha256) ++
    (commitmentTree sha256 accounts h).messages sha256 (fun c => c.digest.toList) nodeBytes

theorem siblingPair_eq_stepMsg (levelIndex : Nat) (result sibling : Digest32) :
    siblingPair levelIndex result sibling = stepMsg nodeBytes levelIndex result sibling := by
  simp only [siblingPair, stepMsg, nodeBytes, Nat.and_one_is_mod]

/-- The loop of the source is the general climb. -/
theorem MembershipProof.computeRoot_eq_climb (sha256 : Bytes → Digest32) (p : MembershipProof)
    (c : Commitment) :
    p.computeRoot sha256 c =
      climb sha256 nodeBytes p.leafIndex (c.leafHash sha256) p.siblings := by
  have hloop : ∀ (siblings : List Digest32) (acc : Digest32) (index : Nat),
      (siblings.foldl
        (fun (state : Digest32 × Nat) sibling =>
          (sha256 (siblingPair state.2 state.1 sibling), state.2 >>> 1)) (acc, index)).1 =
        climb sha256 nodeBytes index acc siblings := by
    intro siblings
    induction siblings with
    | nil => intro acc index; rfl
    | cons s rest ih =>
      intro acc index
      rw [List.foldl_cons, ih, climb, siblingPair_eq_stepMsg, Nat.shiftRight_one]
  exact hloop _ _ _

theorem Commitment.toList_injective :
    Function.Injective fun c : Commitment => c.digest.toList := by
  intro c c' h
  cases c
  cases c'
  simp only [Commitment.mk.injEq]
  exact List.Vector.eq _ _ h

theorem nodeBytes_inj (x y x' y' : Digest32) (h : nodeBytes x y = nodeBytes x' y') :
    x = x' ∧ y = y' := by
  obtain ⟨hx, h⟩ := (Codec.byteArray 32).peel h
  exact ⟨hx, List.Vector.eq _ _ h⟩

/-- A leaf string has 32 bytes and a node string has 64. -/
theorem leaf_ne_nodeBytes (c : Commitment) (x y : Digest32) :
    c.digest.toList ≠ nodeBytes x y := by
  intro h
  have hlen := congrArg List.length h
  simp [nodeBytes] at hlen

/-- A path that reaches the root of the tree over a list of accounts starts at
the commitment of one of them. -/
theorem mem_of_verifies {sha256 : Bytes → Digest32} {d : Nat} {accounts : List LezAccount}
    (hlen : accounts.length = 2 ^ d) {p : MembershipProof} {a : LezAccount}
    (hfree : CollisionFree sha256 (commitmentTreeHashed sha256 accounts hlen ++
      (a.hashed sha256 ++ p.hashed sha256 (a.commitment sha256))))
    (h : p.verifies sha256 (a.commitment sha256) (commitmentTreeRoot sha256 accounts hlen)) :
    a ∈ accounts := by
  have hclimb : climb sha256 nodeBytes p.leafIndex ((a.commitment sha256).leafHash sha256)
      p.siblings = commitmentTreeRoot sha256 accounts hlen := by
    rw [← p.computeRoot_eq_climb]
    simpa [MembershipProof.verifies] using h
  have hpath := eq_of_climb_eq_root (commitmentTree sha256 accounts hlen)
    Commitment.toList_injective nodeBytes_inj leaf_ne_nodeBytes (a.commitment sha256)
    p.leafIndex p.siblings
    (hfree.mono (by
      intro m hm
      simp only [commitmentTreeHashed, MembershipProof.hashed, List.mem_append,
        List.mem_cons] at hm ⊢
      rcases hm with hm | hm
      · exact Or.inl (Or.inr hm)
      · exact Or.inr (Or.inr hm)))
    hclimb
  have hmem : a.commitment sha256 ∈ accounts.map (LezAccount.commitment sha256) := by
    rw [hpath.1]
    simpa [commitmentTree] using
      (commitmentTree sha256 accounts hlen).get_mem p.leafIndex
  obtain ⟨b, hb, hcommit⟩ := List.mem_map.mp hmem
  have hab : b = a := by
    refine LezAccount.eq_of_commitment_eq (hfree.mono ?_) hcommit
    intro m hm
    simp only [commitmentTreeHashed, List.mem_append, List.mem_flatMap] at hm ⊢
    rcases hm with hm | hm
    · exact Or.inl (Or.inl ⟨b, hb, hm⟩)
    · exact Or.inr (Or.inl hm)
  exact hab ▸ hb

/-! ### Proofs over a list of commitments -/

/-- The root of the tree over a list of commitments. -/
def commitmentsRoot (sha256 : Bytes → Digest32) {d : Nat} (commitments : List Commitment)
    (h : commitments.length = 2 ^ d) : Digest32 :=
  (PerfectTree.ofList d commitments h).root sha256 (fun c => c.digest.toList) nodeBytes

/-- The byte strings that computing it hashes. -/
def commitmentsHashed (sha256 : Bytes → Digest32) {d : Nat} (commitments : List Commitment)
    (h : commitments.length = 2 ^ d) : List Bytes :=
  (PerfectTree.ofList d commitments h).messages sha256 (fun c => c.digest.toList) nodeBytes

/-- The siblings of a proof are the roots of the blocks next to the blocks of a
position, level by level. -/
def SiblingsOf (sha256 : Bytes → Digest32) (commitments : List Commitment) (d position : Nat)
    (siblings : List Digest32) : Prop :=
  siblings.length = d ∧ ∀ k < d,
    ∃ h : (block commitments k (siblingNumber (position / 2 ^ k))).length = 2 ^ k,
      siblings[k]? = some (commitmentsRoot sha256
        (block commitments k (siblingNumber (position / 2 ^ k))) h)

/-- The path of the tree is the list of these siblings, and there is no other one. -/
theorem siblingsOf_iff {sha256 : Bytes → Digest32} {d : Nat} {commitments : List Commitment}
    (hlen : commitments.length = 2 ^ d) (i : Nat) {siblings : List Digest32} :
    SiblingsOf sha256 commitments d (i % 2 ^ d) siblings ↔
      siblings = (PerfectTree.ofList d commitments hlen).siblings sha256
        (fun c => c.digest.toList) nodeBytes i := by
  have hlength := (climb_siblings sha256 (fun c : Commitment => c.digest.toList) nodeBytes
    (PerfectTree.ofList d commitments hlen) i).2
  have hlevel : ∀ k < d,
      ∃ h : (block commitments k (siblingNumber (i % 2 ^ d / 2 ^ k))).length = 2 ^ k,
        ((PerfectTree.ofList d commitments hlen).siblings sha256 (fun c => c.digest.toList)
            nodeBytes i)[k]? =
          some (commitmentsRoot sha256 (block commitments k (siblingNumber (i % 2 ^ d / 2 ^ k)))
            h) := by
    intro k hk
    have hblock := (PerfectTree.ofList d commitments hlen).siblings_getElem? sha256
      (fun c : Commitment => c.digest.toList) nodeBytes i hk
    simp only [PerfectTree.toList_ofList] at hblock
    exact hblock
  constructor
  · rintro ⟨hlen', hsiblings⟩
    apply List.ext_getElem?
    intro k
    by_cases hk : k < d
    · obtain ⟨h, hget⟩ := hlevel k hk
      obtain ⟨h', hget'⟩ := hsiblings k hk
      rw [hget, hget']
    · rw [List.getElem?_eq_none (by omega), List.getElem?_eq_none (by omega)]
  · rintro rfl
    exact ⟨hlength, hlevel⟩

/-- A membership proof is checked against the root of a tree with success exactly when
it is the proof of that tree for its index, taken modulo the number of leaves, and the
commitment is the one at that position. -/
theorem verifies_iff {sha256 : Bytes → Digest32} {d : Nat} {commitments : List Commitment}
    (hlen : commitments.length = 2 ^ d) {c : Commitment} {p : MembershipProof}
    (hfree : CollisionFree sha256 (commitmentsHashed sha256 commitments hlen ++
      p.hashed sha256 c)) :
    p.verifies sha256 c (commitmentsRoot sha256 commitments hlen) = true ↔
      commitments[p.leafIndex % 2 ^ d]? = some c ∧
        SiblingsOf sha256 commitments d (p.leafIndex % 2 ^ d) p.siblings := by
  have hget := (PerfectTree.ofList d commitments hlen).getElem?_toList p.leafIndex
  rw [PerfectTree.toList_ofList] at hget
  rw [hget, siblingsOf_iff hlen, Option.some.injEq, MembershipProof.verifies,
    decide_eq_true_eq, p.computeRoot_eq_climb]
  constructor
  · intro hroot
    obtain ⟨hleaf, hsiblings⟩ := eq_of_climb_eq_root (PerfectTree.ofList d commitments hlen)
      Commitment.toList_injective nodeBytes_inj leaf_ne_nodeBytes c p.leafIndex p.siblings hfree
      hroot
    exact ⟨hleaf.symm, hsiblings⟩
  · rintro ⟨rfl, hsiblings⟩
    rw [hsiblings]
    exact (climb_siblings sha256 (fun c : Commitment => c.digest.toList) nodeBytes
      (PerfectTree.ofList d commitments hlen) p.leafIndex).1

/-- Two commitments, and the proof of the second one with an index beyond the list. -/
theorem verifies_iff_two :
    (MembershipProof.mk 3 [sha256 (List.replicate 32 1)]).verifies sha256
      ⟨List.Vector.replicate 32 2⟩
      (commitmentsRoot sha256 (d := 1)
        [⟨List.Vector.replicate 32 1⟩, ⟨List.Vector.replicate 32 2⟩] rfl) = true :=
  (verifies_iff (d := 1) rfl (by decide +kernel)).mpr
    ⟨rfl, rfl, fun k hk => by
      obtain rfl : k = 0 := by omega
      exact ⟨rfl, by decide +kernel⟩⟩

/-! ## Token holdings -/

/-- `FUNGIBLE_TOKEN_HOLDING_VARIANT`. -/
def fungibleTokenHoldingVariant : UInt8 := 0

/-- `FUNGIBLE_TOKEN_HOLDING_LENGTH`. -/
def fungibleTokenHoldingLength : Nat := 49

@[ext] structure FungibleTokenHolding where
  definitionId : Digest32
  balance : U128
  deriving DecidableEq

inductive TokenHoldingDecodeError where
  | invalidLength (actual : Nat)
  | notFungible (variant : UInt8)
  deriving DecidableEq, Repr

namespace FungibleTokenHolding

/-- `FungibleTokenHolding::encode`, a `[u8; 49]` in the source. -/
def encode (self : FungibleTokenHolding) : Bytes :=
  fungibleTokenHoldingVariant ::
    (self.definitionId.toList ++ Codec.u128.encode self.balance)

/-- `FungibleTokenHolding::decode`.  The length is checked before any byte is
read, so the default of `headD` is never used. -/
def decode (bytes : Bytes) : Outcome TokenHoldingDecodeError FungibleTokenHolding :=
  if h : bytes.length = fungibleTokenHoldingLength then
    if bytes.headD 0 ≠ fungibleTokenHoldingVariant then
      .err (.notFungible (bytes.headD 0))
    else
      .ok
        { definitionId := ⟨(bytes.drop 1).take 32, by
            rw [fungibleTokenHoldingLength] at h
            simp only [List.length_take, List.length_drop]
            omega⟩
          balance := BitVec.ofNat 128 (ofLeBytes ((bytes.drop 33).take 16)) }
  else .err (.invalidLength bytes.length)

@[simp] theorem encode_length (holding : FungibleTokenHolding) :
    holding.encode.length = fungibleTokenHoldingLength := by
  simp [encode, fungibleTokenHoldingLength, Codec.u128, Codec.fixed]

@[simp] theorem decode_encode (holding : FungibleTokenHolding) :
    decode holding.encode = .ok holding := by
  have hid : (holding.encode.drop 1).take 32 = holding.definitionId.toList := by
    rw [encode, List.drop_succ_cons, List.drop_zero]
    exact List.take_left' holding.definitionId.toList_length
  have hbalance : (holding.encode.drop 33).take 16 = Codec.u128.encode holding.balance := by
    rw [encode, List.drop_succ_cons, List.drop_left' holding.definitionId.toList_length]
    exact List.take_of_length_le (by simp [Codec.u128, Codec.fixed])
  have hread : BitVec.ofNat 128 (ofLeBytes (Codec.u128.encode holding.balance)) =
      holding.balance := by
    have hlt : holding.balance.toNat < 256 ^ 16 := holding.balance.isLt
    rw [show Codec.u128.encode holding.balance = leBytes 16 holding.balance.toNat from rfl,
      ofLeBytes_leBytes, Nat.mod_eq_of_lt hlt, BitVec.ofNat_toNat, BitVec.setWidth_eq]
  rw [decode, dif_pos (encode_length holding), if_neg (by simp [encode])]
  refine congrArg Outcome.ok (FungibleTokenHolding.ext (List.Vector.eq _ _ hid) ?_)
  rw [hbalance, hread]

/-- The decoder accepts exactly the encodings. -/
theorem decode_eq_ok_iff {bytes : Bytes} {holding : FungibleTokenHolding} :
    decode bytes = .ok holding ↔ bytes = holding.encode := by
  refine ⟨fun h => ?_, fun h => h ▸ decode_encode holding⟩
  rw [decode] at h
  split at h
  · rename_i hlen
    split at h
    · simp at h
    · rename_i hvariant
      simp only [Outcome.ok.injEq] at h
      subst h
      rw [fungibleTokenHoldingLength] at hlen
      obtain ⟨b, tail, rfl⟩ := List.exists_cons_of_length_eq_add_one hlen
      have hb : b = fungibleTokenHoldingVariant := by simpa using hvariant
      have htail : tail.length = 48 := by simpa using hlen
      have hrest : (tail.drop 32).length = 16 := by simp [htail]
      have hlt : ofLeBytes (tail.drop 32) < 2 ^ 128 := by
        have := ofLeBytes_lt (tail.drop 32)
        rw [hrest] at this
        exact this
      have hbalance : Codec.u128.encode (BitVec.ofNat 128
          (ofLeBytes (((b :: tail).drop 33).take 16))) = tail.drop 32 := by
        rw [List.drop_succ_cons, List.take_of_length_le (by omega)]
        have hback := leBytes_ofLeBytes (tail.drop 32)
        rw [hrest] at hback
        simp only [Codec.u128, Codec.fixed, BitVec.toNat_ofNat, Nat.mod_eq_of_lt hlt, hback]
      rw [encode, hbalance, hb]
      exact congrArg _ (List.take_append_drop 32 tail).symm
  · simp at h

end FungibleTokenHolding

end TokenStudio
