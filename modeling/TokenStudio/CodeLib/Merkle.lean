import Mathlib.Algebra.Ring.Nat
import Mathlib.Data.List.Basic
import Mathlib.Tactic.Common

/-!
# Perfect Merkle trees and free-form membership paths

The tree hashes messages with one function `hash`.  A leaf hashes `leafMsg a`
and an inner node hashes `nodeMsg left right`, where `left` and `right` are the
digests of the two children.  `PerfectTree α d` is a tree with `2 ^ d` leaves.

A membership path is a leaf value, an index and a list of sibling digests, and
its author chooses all three.  `climb` folds the siblings over the leaf digest,
from the bottom up, and the bits of the index say on which side each sibling
stands.  The path of the tree itself reaches the root (`climb_siblings`), and
a path that reaches the root is the path of the tree (`eq_of_climb_eq_root`):
its length is the depth, its leaf is the one at the index, and its siblings
are the roots of the sibling subtrees.  `getElem?_toList` and
`siblings_getElem?` say where that leaf and these subtrees are in the list of
leaves: the subtrees of a level are the blocks of the list.

The hash function is not assumed to be injective.  `CollisionFree hash msgs`
says that `hash` separates the messages of a finite list, and the lists here
are the messages that building the root and climbing the path really hash
(`PerfectTree.messages` and `climbMessages`).
-/

namespace TokenStudio

/-- `hash` separates the messages of the list. -/
def CollisionFree {M D : Type} (hash : M → D) (msgs : List M) : Prop :=
  ∀ x ∈ msgs, ∀ y ∈ msgs, hash x = hash y → x = y

instance {M D : Type} [DecidableEq M] [DecidableEq D] (hash : M → D) (msgs : List M) :
    Decidable (CollisionFree hash msgs) := by
  unfold CollisionFree; infer_instance

theorem CollisionFree.mono {M D : Type} {hash : M → D} {msgs msgs' : List M}
    (h : CollisionFree hash msgs) (hsub : msgs' ⊆ msgs) : CollisionFree hash msgs' :=
  fun x hx y hy => h x (hsub hx) y (hsub hy)

/-! ## Blocks of leaves -/

/-- The block number `j` of `2 ^ k` elements. -/
def block {α : Type} (xs : List α) (k j : Nat) : List α := (xs.drop (j * 2 ^ k)).take (2 ^ k)

/-- The number of the other block under the node of block `j`. -/
def siblingNumber (j : Nat) : Nat := if j % 2 = 0 then j + 1 else j - 1

theorem siblingNumber_lt {j n : Nat} (h : j < 2 ^ (n + 1)) : siblingNumber j < 2 ^ (n + 1) := by
  unfold siblingNumber
  rw [Nat.pow_succ] at h ⊢
  split <;> omega

theorem siblingNumber_add (j n : Nat) :
    siblingNumber (j + 2 ^ (n + 1)) = siblingNumber j + 2 ^ (n + 1) := by
  unfold siblingNumber
  rw [Nat.pow_succ]
  split <;> split <;> omega

section

variable {α : Type} {left right : List α} {k j : Nat}

/-- A block in the left half. -/
theorem block_append_left {n : Nat} (hleft : left.length = 2 ^ n * 2 ^ k) (hj : j < 2 ^ n) :
    block (left ++ right) k j = block left k j := by
  have hle : j * 2 ^ k + 2 ^ k ≤ left.length := by
    rw [hleft, ← Nat.succ_mul]
    exact Nat.mul_le_mul_right _ hj
  unfold block
  rw [List.drop_append_of_le_length (Nat.le_of_add_right_le hle), List.take_append_of_le_length]
  rw [List.length_drop]
  exact Nat.le_sub_of_add_le' hle

/-- A block in the right half. -/
theorem block_append_right {n : Nat} (hleft : left.length = 2 ^ n * 2 ^ k) :
    block (left ++ right) k (j + 2 ^ n) = block right k j := by
  have hstart : (j + 2 ^ n) * 2 ^ k = left.length + j * 2 ^ k := by
    rw [Nat.add_mul, hleft, Nat.add_comm]
  unfold block
  rw [hstart, List.drop_length_add_append]

theorem block_zero (hlength : left.length = 2 ^ k) : block (left ++ right) k 0 = left := by
  unfold block
  rw [Nat.zero_mul, List.drop_zero, List.take_left' hlength]

theorem block_one (hleft : left.length = 2 ^ k) (hright : right.length = 2 ^ k) :
    block (left ++ right) k 1 = right := by
  unfold block
  rw [Nat.one_mul, List.drop_left' hleft, List.take_of_length_le (Nat.le_of_eq hright)]

end

/-! ## Trees -/

/-- A perfect binary tree with data at its `2 ^ d` leaves. -/
inductive PerfectTree (α : Type) : Nat → Type where
  | leaf (a : α) : PerfectTree α 0
  | node {d : Nat} (left right : PerfectTree α d) : PerfectTree α (d + 1)

namespace PerfectTree

variable {α : Type} {d : Nat}

/-- The leaves from left to right. -/
def toList {d : Nat} : PerfectTree α d → List α
  | leaf a => [a]
  | node left right => left.toList ++ right.toList

/-- The tree whose leaves are the elements of a list of `2 ^ d` elements. -/
def ofList : (d : Nat) → (xs : List α) → xs.length = 2 ^ d → PerfectTree α d
  | 0, [a], _ => leaf a
  | d + 1, xs, h =>
    node (ofList d (xs.take (2 ^ d)) (by rw [List.length_take, h]; omega))
      (ofList d (xs.drop (2 ^ d)) (by rw [List.length_drop, h]; omega))

@[simp] theorem toList_ofList (d : Nat) (xs : List α) (h : xs.length = 2 ^ d) :
    (ofList d xs h).toList = xs := by
  induction d generalizing xs with
  | zero =>
    obtain ⟨a, rfl⟩ := List.length_eq_one_iff.mp (by simpa using h)
    rfl
  | succ d ih => simp only [ofList, toList, ih, List.take_append_drop]

/-- The leaf at an index, read modulo the number of leaves. -/
def get {d : Nat} : PerfectTree α d → Nat → α
  | leaf a, _ => a
  | @node _ d left right, i => if i / 2 ^ d % 2 = 0 then left.get i else right.get i

theorem get_mem (t : PerfectTree α d) (i : Nat) : t.get i ∈ t.toList := by
  induction t with
  | leaf a => simp [get, toList]
  | node left right ihl ihr =>
    simp only [get, toList, List.mem_append]
    split
    · exact Or.inl ihl
    · exact Or.inr ihr

@[simp] theorem toList_length (t : PerfectTree α d) : t.toList.length = 2 ^ d := by
  induction t with
  | leaf a => rfl
  | node left right ihl ihr => rw [toList, List.length_append, ihl, ihr, Nat.pow_succ, Nat.mul_two]

/-- A tree is the one over its leaves. -/
theorem ofList_toList (t : PerfectTree α d) (h : t.toList.length = 2 ^ d) :
    ofList d t.toList h = t := by
  induction t with
  | leaf a => rfl
  | @node d left right ihl ihr =>
    have htake : (left.toList ++ right.toList).take (2 ^ d) = left.toList :=
      List.take_left' left.toList_length
    have hdrop : (left.toList ++ right.toList).drop (2 ^ d) = right.toList :=
      List.drop_left' left.toList_length
    simp only [toList, ofList, htake, hdrop, ihl, ihr]

/-- The leaf at an index is the element at its remainder. -/
theorem getElem?_toList (t : PerfectTree α d) (i : Nat) :
    t.toList[i % 2 ^ d]? = some (t.get i) := by
  induction t with
  | leaf a => simp [toList, get, Nat.mod_one]
  | @node d left right ihl ihr =>
    have hlt : i % 2 ^ d < left.toList.length := by
      rw [toList_length]
      exact Nat.mod_lt _ (Nat.two_pow_pos d)
    rw [toList, get, Nat.mod_pow_succ]
    split
    · rename_i hbit
      rw [hbit, Nat.mul_zero, Nat.add_zero, List.getElem?_append_left hlt, ihl]
    · rename_i hbit
      have hone : i / 2 ^ d % 2 = 1 := by omega
      rw [hone, Nat.mul_one, List.getElem?_append_right (by rw [toList_length]; omega),
        toList_length, Nat.add_sub_cancel, ihr]

end PerfectTree

section Hashing

variable {α M D : Type} (hash : M → D) (leafMsg : α → M) (nodeMsg : D → D → M)

namespace PerfectTree

/-- The digest of a tree. -/
def root {d : Nat} : PerfectTree α d → D
  | leaf a => hash (leafMsg a)
  | node left right => hash (nodeMsg left.root right.root)

/-- The messages that computing the digest of a tree hashes. -/
def messages {d : Nat} : PerfectTree α d → List M
  | leaf a => [leafMsg a]
  | node left right =>
    nodeMsg (left.root hash leafMsg nodeMsg) (right.root hash leafMsg nodeMsg) ::
      (left.messages ++ right.messages)

/-- The digests of the sibling subtrees on the path of a leaf, bottom up. -/
def siblings {d : Nat} : PerfectTree α d → Nat → List D
  | leaf _, _ => []
  | @node _ d left right, i =>
    if i / 2 ^ d % 2 = 0 then left.siblings i ++ [right.root hash leafMsg nodeMsg]
    else right.siblings i ++ [left.root hash leafMsg nodeMsg]

end PerfectTree

/-- The message of one step of a path: the sibling stands on the right of an
even index and on the left of an odd one. -/
def stepMsg (index : Nat) (acc sibling : D) : M :=
  if index % 2 = 0 then nodeMsg acc sibling else nodeMsg sibling acc

/-- The digest that a path reaches from the digest `acc`. -/
def climb : Nat → D → List D → D
  | _, acc, [] => acc
  | i, acc, s :: rest => climb (i / 2) (hash (stepMsg nodeMsg i acc s)) rest

/-- The messages that `climb` hashes. -/
def climbMessages : Nat → D → List D → List M
  | _, _, [] => []
  | i, acc, s :: rest =>
    stepMsg nodeMsg i acc s ::
      climbMessages (i / 2) (hash (stepMsg nodeMsg i acc s)) rest

/-- The last step of a path combines the digest that the others reach with the
last sibling, on the side that the bit of the index at that level says. -/
theorem climb_append (i : Nat) (acc : D) (init : List D) (s : D) :
    climb hash nodeMsg i acc (init ++ [s]) =
      hash (stepMsg nodeMsg (i / 2 ^ init.length) (climb hash nodeMsg i acc init) s) := by
  induction init generalizing i acc with
  | nil => simp [climb]
  | cons s' init ih =>
    simp only [List.cons_append, climb, ih, List.length_cons, Nat.pow_succ]
    rw [Nat.div_div_eq_div_mul, Nat.mul_comm 2]

theorem climbMessages_append (i : Nat) (acc : D) (init : List D) (s : D) :
    climbMessages hash nodeMsg i acc (init ++ [s]) =
      climbMessages hash nodeMsg i acc init ++
        [stepMsg nodeMsg (i / 2 ^ init.length) (climb hash nodeMsg i acc init) s] := by
  induction init generalizing i acc with
  | nil => simp [climb, climbMessages]
  | cons s' init ih =>
    simp only [List.cons_append, climb, climbMessages, ih, List.length_cons, Nat.pow_succ]
    rw [Nat.div_div_eq_div_mul, Nat.mul_comm 2]

/-- The path that a tree gives to an index reaches its root. -/
theorem climb_siblings {d : Nat} (t : PerfectTree α d) (i : Nat) :
    climb hash nodeMsg i (hash (leafMsg (t.get i))) (t.siblings hash leafMsg nodeMsg i) =
        t.root hash leafMsg nodeMsg ∧
      (t.siblings hash leafMsg nodeMsg i).length = d := by
  induction t with
  | leaf a => simp [PerfectTree.get, PerfectTree.siblings, PerfectTree.root, climb]
  | @node d left right ihl ihr =>
    simp only [PerfectTree.get, PerfectTree.siblings, PerfectTree.root]
    split
    · rename_i hbit
      rw [climb_append, ihl.1, ihl.2]
      simp [stepMsg, hbit, ihl.2]
    · rename_i hbit
      rw [climb_append, ihr.1, ihr.2]
      simp [stepMsg, hbit, ihr.2]

/-- The sibling at a level of the path of a leaf is the digest of the block next to the
block of the leaf. -/
theorem PerfectTree.siblings_getElem? {d : Nat} (t : PerfectTree α d) (i : Nat) {k : Nat}
    (hk : k < d) :
    ∃ h : (block t.toList k (siblingNumber (i % 2 ^ d / 2 ^ k))).length = 2 ^ k,
      (t.siblings hash leafMsg nodeMsg i)[k]? =
        some ((ofList k (block t.toList k (siblingNumber (i % 2 ^ d / 2 ^ k))) h).root
          hash leafMsg nodeMsg) := by
  induction t with
  | leaf a => omega
  | @node d left right ihl ihr =>
    have hl := (climb_siblings hash leafMsg nodeMsg left i).2
    have hr := (climb_siblings hash leafMsg nodeMsg right i).2
    rw [toList, siblings, Nat.mod_pow_succ]
    rcases Nat.lt_succ_iff_lt_or_eq.mp hk with hlt | rfl
    · -- below the top level the two blocks are in one half
      obtain ⟨n, hn⟩ := Nat.exists_eq_add_of_lt hlt
      have hpow : 2 ^ d = 2 ^ (n + 1) * 2 ^ k := by
        rw [← Nat.pow_add, hn]
        congr 1
        omega
      have hhalf : left.toList.length = 2 ^ (n + 1) * 2 ^ k := by rw [toList_length, hpow]
      have hrem : i % 2 ^ d < 2 ^ d := Nat.mod_lt _ (Nat.two_pow_pos d)
      generalize i % 2 ^ d = r at hrem ihl ihr ⊢
      split
      · rename_i hbit
        have hblock : r / 2 ^ k < 2 ^ (n + 1) := by
          rw [Nat.div_lt_iff_lt_mul (Nat.two_pow_pos k), ← hpow]
          exact hrem
        rw [hbit, Nat.mul_zero, Nat.add_zero, List.getElem?_append_left (by omega),
          block_append_left hhalf (siblingNumber_lt hblock)]
        exact ihl hlt
      · rename_i hbit
        have hone : i / 2 ^ d % 2 = 1 := by omega
        have hnumber : (r + 2 ^ d) / 2 ^ k = r / 2 ^ k + 2 ^ (n + 1) := by
          rw [hpow, Nat.add_mul_div_right _ _ (Nat.two_pow_pos k)]
        rw [hone, Nat.mul_one, hnumber, siblingNumber_add,
          List.getElem?_append_left (by omega), block_append_right hhalf]
        exact ihr hlt
    · -- at the top level each half is a block
      have hsmall : i % 2 ^ k / 2 ^ k = 0 :=
        Nat.div_eq_of_lt (Nat.mod_lt _ (Nat.two_pow_pos k))
      split
      · rename_i hbit
        have hnumber : siblingNumber ((i % 2 ^ k + 2 ^ k * 0) / 2 ^ k) = 1 := by
          rw [Nat.mul_zero, Nat.add_zero, hsmall]
          rfl
        rw [hbit, hnumber, block_one left.toList_length right.toList_length,
          List.getElem?_append_right (by omega), hl, Nat.sub_self]
        exact ⟨right.toList_length, by rw [ofList_toList]; rfl⟩
      · rename_i hbit
        have hone : i / 2 ^ k % 2 = 1 := by omega
        have hnumber : siblingNumber ((i % 2 ^ k + 2 ^ k * 1) / 2 ^ k) = 0 := by
          rw [Nat.add_mul_div_left _ _ (Nat.two_pow_pos k), hsmall]
          rfl
        rw [hone, hnumber, block_zero left.toList_length,
          List.getElem?_append_right (by omega), hr, Nat.sub_self]
        exact ⟨left.toList_length, by rw [ofList_toList]; rfl⟩

variable {hash leafMsg nodeMsg}

/-- A path that reaches the root of a tree is the path of the tree.

The induction is on the tree and peels the last step of the path, which is the
one at the root.  A path that is too short puts a leaf message where the tree
has a node message, and one that is too long does the opposite. -/
theorem eq_of_climb_eq_root {d : Nat} (t : PerfectTree α d)
    (hleaf : Function.Injective leafMsg)
    (hnode : ∀ x y x' y', nodeMsg x y = nodeMsg x' y' → x = x' ∧ y = y')
    (hdisj : ∀ a x y, leafMsg a ≠ nodeMsg x y) (a : α) (i : Nat) (sibs : List D)
    (hfree : CollisionFree hash (t.messages hash leafMsg nodeMsg ++
      leafMsg a :: climbMessages hash nodeMsg i (hash (leafMsg a)) sibs))
    (hroot : climb hash nodeMsg i (hash (leafMsg a)) sibs = t.root hash leafMsg nodeMsg) :
    a = t.get i ∧ sibs = t.siblings hash leafMsg nodeMsg i := by
  induction t generalizing sibs with
  | leaf b =>
    rcases List.eq_nil_or_concat sibs with rfl | ⟨init, s, rfl⟩
    · have hmsg := hfree (leafMsg a) (by simp) (leafMsg b) (by simp [PerfectTree.messages]) hroot
      exact ⟨hleaf hmsg, rfl⟩
    · rw [List.concat_eq_append] at hroot hfree
      rw [climb_append, PerfectTree.root] at hroot
      rw [climbMessages_append] at hfree
      have hmsg := hfree _ (by simp) _ (by simp [PerfectTree.messages]) hroot
      rw [stepMsg] at hmsg
      split at hmsg
      · exact absurd hmsg.symm (hdisj _ _ _)
      · exact absurd hmsg.symm (hdisj _ _ _)
  | @node d left right ihl ihr =>
    rcases List.eq_nil_or_concat sibs with rfl | ⟨init, s, rfl⟩
    · have hmsg := hfree (leafMsg a) (by simp) _ (by simp [PerfectTree.messages]) hroot
      exact absurd hmsg (hdisj _ _ _)
    · rw [List.concat_eq_append] at hroot hfree ⊢
      rw [climb_append, PerfectTree.root] at hroot
      rw [climbMessages_append] at hfree
      have hmsg := hfree _ (by simp) _ (by simp [PerfectTree.messages]) hroot
      have hsub : ∀ l : List M, l ⊆ left.messages hash leafMsg nodeMsg ++
            right.messages hash leafMsg nodeMsg →
          CollisionFree hash (l ++
            leafMsg a :: climbMessages hash nodeMsg i (hash (leafMsg a)) init) := by
        intro l hl
        refine hfree.mono ?_
        intro m hm
        simp only [PerfectTree.messages, List.mem_append, List.mem_cons] at hm ⊢
        rcases hm with hm | hm | hm
        · exact Or.inl (Or.inr (List.mem_append.mp (hl hm)))
        · exact Or.inr (Or.inl hm)
        · exact Or.inr (Or.inr (Or.inl hm))
      rw [stepMsg] at hmsg
      split at hmsg
      · rename_i hbit
        obtain ⟨hacc, rfl⟩ := hnode _ _ _ _ hmsg
        obtain ⟨hget, hsibs⟩ := ihl init (hsub _ (by simp)) hacc
        have hlen : init.length = d := by rw [hsibs]; exact (climb_siblings _ _ _ left i).2
        rw [hlen] at hbit
        simp only [PerfectTree.get, PerfectTree.siblings, hbit, if_true]
        exact ⟨hget, by rw [← hsibs]⟩
      · rename_i hbit
        obtain ⟨rfl, hacc⟩ := hnode _ _ _ _ hmsg
        obtain ⟨hget, hsibs⟩ := ihr init (hsub _ (by simp)) hacc
        have hlen : init.length = d := by rw [hsibs]; exact (climb_siblings _ _ _ right i).2
        rw [hlen] at hbit
        simp only [PerfectTree.get, PerfectTree.siblings, hbit, if_false]
        exact ⟨hget, by rw [← hsibs]⟩

end Hashing

end TokenStudio
