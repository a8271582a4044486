import Mathlib.Data.List.Prime
import Mathlib.Data.ZMod.Basic
import Mathlib.GroupTheory.OrderOfElement
import Mathlib.NumberTheory.LucasPrimality
import Mathlib.Tactic.NormNum.Prime
import TokenStudio.CodeLib.Ed25519

/-!
# When an Ed25519 signature fits one message only

The verification equation compares encodings of points.  `GroupLaws` says what
is known of the curve: its points form a commutative group in which `8 * l`
times any point is zero, with `l` the prime order of the base point, and two
points have the same encoding exactly when they are equal.  Of the multiplication
only reduced scalars are covered.  Verification uses no other, and an
implementation with a fixed number of scalar bits computes no other.

Two messages that one signature fits have scalars `k` and `k'` with
`k * A = k' * A`.  If `8 * A` is not zero, the order of `A` is a multiple of
`l`, and then `k` and `k'` agree modulo `l` (`modEq_of_verify`).  If `8 * A` is
zero, the signature with scalar `s` and point `s * B` fits every message whose
scalar is a multiple of eight (`verify_of_small_order`).

`groupOrder_prime` proves that `l` is prime, with Lucas's test and a chain of
certificates (`LucasCertificate`) for `l - 1` and the factors of it.

`EdGroup.cyclic` is a group with these laws, the integers modulo `8 * l`.  The
curve is this group up to the choice of the encodings, which is a parameter.
-/

namespace TokenStudio

/-! ## The order of the base point is prime -/

/-- `a ^ n % m`, by squaring, over at most `bits` bits of the exponent. -/
def powMod (m a : ℕ) : (bits n : ℕ) → ℕ
  | 0, _ => 1 % m
  | bits + 1, n =>
    let half := powMod m a bits (n / 2)
    half * half % m * a ^ (n % 2) % m

theorem powMod_eq (m a : ℕ) {bits n : ℕ} (h : n < 2 ^ bits) :
    powMod m a bits n = a ^ n % m := by
  induction bits generalizing n with
  | zero =>
    obtain rfl : n = 0 := by omega
    rfl
  | succ bits ih =>
    have hexp : a ^ n = a ^ (n / 2) * a ^ (n / 2) * a ^ (n % 2) := by
      rw [← pow_add, ← pow_add]
      congr 1
      omega
    rw [powMod, ih (by omega), hexp, ← Nat.mul_mod, Nat.mod_mul_mod]

/-- Lucas's test, for a number below `2 ^ 256` and the factors of its
predecessor. -/
theorem prime_of_factors {p : ℕ} (a : ℕ) (factors : List ℕ) (hp : 2 ≤ p ∧ p < 2 ^ 256)
    (hprod : factors.prod = p - 1) (hone : powMod p a 256 (p - 1) = 1)
    (hne : ∀ q ∈ factors, powMod p a 256 ((p - 1) / q) ≠ 1)
    (hprimes : ∀ q ∈ factors, q.Prime) : p.Prime := by
  have hcast : ∀ n < p, ((a : ZMod p) ^ n = 1) ↔ powMod p a 256 n = 1 := by
    intro n hn
    rw [powMod_eq p a (by omega), ← Nat.cast_pow, ← Nat.cast_one,
      ZMod.natCast_eq_natCast_iff', Nat.mod_eq_of_lt hp.1]
  refine lucas_primality p (a : ZMod p) ((hcast _ (by omega)).mpr hone) ?_
  intro q hq hdvd
  have hlt : (p - 1) / q < p := by
    have hle := Nat.div_le_self (p - 1) q
    omega
  rw [Ne, hcast _ hlt]
  -- A prime divisor of `p - 1` is one of the listed primes.
  rw [← hprod] at hdvd
  obtain ⟨q', hmem, hdvd'⟩ := (Prime.dvd_prod_iff hq.prime).mp hdvd
  rw [(Nat.prime_dvd_prime_iff_eq hq (hprimes q' hmem)).mp hdvd']
  exact hne q' hmem

/-- A base and the factors of `number - 1` for Lucas's test. -/
structure LucasCertificate where
  number : ℕ
  base : ℕ
  factors : List ℕ

/-- The number passes the test, with factors that are known to be prime. -/
def LucasCertificate.passes (c : LucasCertificate) (known : List ℕ) : Bool :=
  2 ≤ c.number && c.number < 2 ^ 256 && c.factors.prod = c.number - 1 &&
    powMod c.number c.base 256 (c.number - 1) = 1 &&
    c.factors.all fun q =>
      powMod c.number c.base 256 ((c.number - 1) / q) ≠ 1 && known.contains q

/-- Every number passes, with factors from `known` or from before it. -/
def LucasCertificate.chain : List LucasCertificate → List ℕ → Bool
  | [], _ => true
  | c :: rest, known => c.passes known && chain rest (c.number :: known)

theorem LucasCertificate.prime_of_passes {c : LucasCertificate} {known : List ℕ}
    (hknown : ∀ q ∈ known, q.Prime) (h : c.passes known = true) : c.number.Prime := by
  simp only [passes, Bool.and_eq_true, decide_eq_true_eq, List.all_eq_true,
    List.contains_iff_mem] at h
  obtain ⟨⟨⟨hbounds, hprod⟩, hone⟩, hfactors⟩ := h
  exact prime_of_factors c.base c.factors hbounds hprod hone (fun q hq => (hfactors q hq).1)
    fun q hq => hknown q (hfactors q hq).2

theorem LucasCertificate.prime_of_chain {certificates : List LucasCertificate} {known : List ℕ}
    (hknown : ∀ q ∈ known, q.Prime) (h : chain certificates known = true) :
    ∀ c ∈ certificates, c.number.Prime := by
  induction certificates generalizing known with
  | nil => simp
  | cons c rest ih =>
    rw [chain, Bool.and_eq_true] at h
    have hc := prime_of_passes hknown h.1
    have hrest := ih (List.forall_mem_cons.mpr ⟨hc, hknown⟩) h.2
    exact List.forall_mem_cons.mpr ⟨hc, hrest⟩

/-- The factorizations behind the order of the base point. -/
def groupOrderCertificates : List LucasCertificate :=
  [⟨292386187, 2, [2, 3, 3, 3, 3, 307, 5879]⟩,
    ⟨213441916511, 13, [2, 5, 73, 292386187]⟩,
    ⟨1257559732178653, 2, [2, 2, 3, 7, 23, 531581, 1224481]⟩,
    ⟨4434155615661930479, 17, [2, 41, 43, 1257559732178653]⟩,
    ⟨3044861653679985063343, 5, [2, 3, 11, 30703, 82163, 132667, 137849]⟩,
    ⟨172054593956031949258510691, 2, [2, 5, 1361, 2851, 4434155615661930479]⟩,
    ⟨198211423230930754013084525763697, 5,
      [2, 2, 2, 2, 3, 23, 58964693, 3044861653679985063343]⟩,
    ⟨19757330305831588566944191468367130476339, 2,
      [2, 269, 213441916511, 172054593956031949258510691]⟩,
    ⟨276602624281642239937218680557139826668747, 2,
      [2, 7, 19757330305831588566944191468367130476339]⟩,
    ⟨groupOrder, 2, [2, 2, 3, 11, 198211423230930754013084525763697,
      276602624281642239937218680557139826668747]⟩]

theorem groupOrder_prime : groupOrder.Prime := by
  -- The factors that are small enough for trial division.
  have hsmall : ∀ q ∈ [2, 3, 5, 7, 11, 23, 41, 43, 73, 269, 307, 1361, 2851, 5879, 30703, 82163,
      132667, 137849, 531581, 1224481, 58964693], q.Prime := by
    simp only [List.forall_mem_cons, List.not_mem_nil, false_implies, implies_true, and_true]
    norm_num
  have hall : ∀ c ∈ groupOrderCertificates, c.number.Prime :=
    LucasCertificate.prime_of_chain hsmall (by decide +kernel)
  exact hall ⟨groupOrder, 2, _⟩ (List.mem_of_getElem? (i := 9) rfl)

/-! ## Groups with a cofactor of eight -/

/-- A multiple of a point that is not of small order determines the scalar. -/
theorem modEq_of_nsmul_eq {Γ : Type} [AddCommGroup Γ] {g : Γ} {k k' : ℕ}
    (horder : (8 * groupOrder) • g = 0) (hsmall : 8 • g ≠ 0) (h : k • g = k' • g) :
    k ≡ k' [MOD groupOrder] := by
  have hdvd : addOrderOf g ∣ 8 * groupOrder := addOrderOf_dvd_of_nsmul_eq_zero horder
  have hmul : groupOrder ∣ addOrderOf g := by
    by_contra hnot
    have hcoprime : Nat.Coprime (addOrderOf g) groupOrder :=
      (Nat.coprime_comm.mp ((Nat.Prime.coprime_iff_not_dvd groupOrder_prime).mpr hnot))
    have height : addOrderOf g ∣ 8 := hcoprime.dvd_of_dvd_mul_right hdvd
    exact hsmall (addOrderOf_dvd_iff_nsmul_eq_zero.mp height)
  exact (nsmul_eq_nsmul_iff_modEq.mp h).of_dvd hmul

namespace EdGroup

/-- The laws of the curve, for its points as elements of a group. -/
structure GroupLaws (E : EdGroup) (Γ : Type) [AddCommGroup Γ] where
  /-- The group element of a point. -/
  val : E.Point → Γ
  /-- The coordinates describe a point of the curve. -/
  Valid : E.Point → Prop
  base_valid : Valid E.base
  decompress_valid : ∀ {bytes P}, E.decompress bytes = some P → Valid P
  sub_valid : ∀ {P Q}, Valid P → Valid Q → Valid (E.sub P Q)
  smul_valid : ∀ {n P}, n < groupOrder → Valid P → Valid (E.smul n P)
  val_sub : ∀ {P Q}, Valid P → Valid Q → val (E.sub P Q) = val P - val Q
  val_smul : ∀ {n P}, n < groupOrder → Valid P → val (E.smul n P) = n • val P
  compress_eq_iff : ∀ {P Q}, Valid P → Valid Q → (E.compress P = E.compress Q ↔ val P = val Q)
  order : ∀ g : Γ, (8 * groupOrder) • g = 0

/-- A scalar that comes from a hash is reduced. -/
theorem challengeScalar_lt (E : EdGroup) (r key : List.Vector UInt8 32) (message : Bytes) :
    E.challengeScalar r key message < groupOrder :=
  Nat.mod_lt _ (by decide)

variable {E : EdGroup} {Γ : Type} [AddCommGroup Γ]

/-- Two messages that a signature fits have scalars that agree modulo the order
of the base point, unless the key is of small order. -/
theorem modEq_of_verify (L : E.GroupLaws Γ) {key : E.VerifyingKey}
    (hkey : L.Valid key.point) (hsmall : 8 • L.val key.point ≠ 0)
    {signature : List.Vector UInt8 64} {m m' : Bytes} (h : E.verify key m signature = true)
    (h' : E.verify key m' signature = true) :
    E.challengeScalar (signatureR signature) key.compressed m ≡
      E.challengeScalar (signatureR signature) key.compressed m' [MOD groupOrder] := by
  obtain ⟨hreduced, hfits⟩ := E.verify_eq_true.mp h
  have heq := hfits.trans (E.verify_eq_true.mp h').2.symm
  have hbase := L.smul_valid hreduced L.base_valid
  have hk := E.challengeScalar_lt (signatureR signature) key.compressed m
  have hk' := E.challengeScalar_lt (signatureR signature) key.compressed m'
  rw [L.compress_eq_iff (L.sub_valid hbase (L.smul_valid hk hkey))
      (L.sub_valid hbase (L.smul_valid hk' hkey)),
    L.val_sub hbase (L.smul_valid hk hkey), L.val_sub hbase (L.smul_valid hk' hkey),
    L.val_smul hk hkey, L.val_smul hk' hkey] at heq
  exact modEq_of_nsmul_eq (L.order _) hsmall (sub_right_injective heq)

/-- With a key of small order, the signature that has `s * B` as its point fits
every message whose scalar is a multiple of eight. -/
theorem verify_of_small_order (L : E.GroupLaws Γ) {key : E.VerifyingKey}
    (hkey : L.Valid key.point) (hsmall : 8 • L.val key.point = 0) {s : ℕ}
    (hs : s < groupOrder) {m : Bytes}
    (hdvd : 8 ∣ E.challengeScalar (E.compress (E.smul s E.base)) key.compressed m) :
    E.verify key m (signatureOf (E.compress (E.smul s E.base)) s) = true := by
  rw [E.verify_eq_true, signatureR_signatureOf, signatureS_signatureOf _ hs]
  refine ⟨hs, ?_⟩
  have hbase := L.smul_valid hs L.base_valid
  have hk := E.challengeScalar_lt (E.compress (E.smul s E.base)) key.compressed m
  rw [L.compress_eq_iff (L.sub_valid hbase (L.smul_valid hk hkey)) hbase,
    L.val_sub hbase (L.smul_valid hk hkey), L.val_smul hk hkey]
  obtain ⟨n, hn⟩ := hdvd
  rw [hn, mul_nsmul, hsmall, nsmul_zero, sub_zero]

/-! ## The integers modulo eight times the order -/

/-- The 32 little-endian bytes of a residue. -/
def residueBytes (n : ℕ) : List.Vector UInt8 32 :=
  ⟨leBytes 32 (n % (8 * groupOrder)), by simp⟩

/-- The integers modulo `8 * l`, with `B = 8`, under any renaming of the
encodings. -/
def cyclic (rename : Equiv.Perm (List.Vector UInt8 32)) : EdGroup where
  Point := ℕ
  base := 8
  sub a b := a + (8 * groupOrder - b % (8 * groupOrder))
  smul n a := n * a
  compress a := rename (residueBytes a)
  decompress bytes := some (ofLeBytes (rename.symm bytes).toList)
  hash := sha512

theorem residueBytes_eq_iff {a b : ℕ} :
    residueBytes a = residueBytes b ↔ (a : ZMod (8 * groupOrder)) = b := by
  have hread : ∀ n : ℕ, ofLeBytes (residueBytes n).toList = n % (8 * groupOrder) := by
    intro n
    have hlt : n % (8 * groupOrder) < 256 ^ 32 :=
      lt_trans (Nat.mod_lt n (by decide)) (by decide)
    show ofLeBytes (leBytes 32 (n % (8 * groupOrder))) = _
    rw [ofLeBytes_leBytes, Nat.mod_eq_of_lt hlt]
  rw [ZMod.natCast_eq_natCast_iff']
  constructor
  · intro h
    rw [← hread a, h, hread b]
  · intro h
    refine List.Vector.eq _ _ ?_
    show leBytes 32 (a % (8 * groupOrder)) = leBytes 32 (b % (8 * groupOrder))
    rw [h]

/-- The laws hold, whatever the encodings are. -/
def cyclicLaws (rename : Equiv.Perm (List.Vector UInt8 32)) :
    (cyclic rename).GroupLaws (ZMod (8 * groupOrder)) where
  val := fun a : ℕ => (a : ZMod (8 * groupOrder))
  Valid _ := True
  base_valid := trivial
  decompress_valid _ := trivial
  sub_valid _ _ := trivial
  smul_valid _ _ := trivial
  val_sub := by
    intro (a : ℕ) (b : ℕ) _ _
    show ((a + (8 * groupOrder - b % (8 * groupOrder)) : ℕ) : ZMod (8 * groupOrder)) = a - b
    have hle : b % (8 * groupOrder) ≤ 8 * groupOrder := (Nat.mod_lt b (by decide)).le
    rw [Nat.cast_add, Nat.cast_sub hle, ZMod.natCast_self, ZMod.natCast_mod, zero_sub,
      sub_eq_add_neg]
  val_smul := by
    intro n (a : ℕ) _ _
    show ((n * a : ℕ) : ZMod (8 * groupOrder)) = n • (a : ZMod (8 * groupOrder))
    rw [Nat.cast_mul, nsmul_eq_mul]
  compress_eq_iff := by
    intro (a : ℕ) (b : ℕ) _ _
    exact rename.injective.eq_iff.trans residueBytes_eq_iff
  order g := by
    rw [nsmul_eq_mul, ZMod.natCast_self, zero_mul]

end EdGroup

end TokenStudio
