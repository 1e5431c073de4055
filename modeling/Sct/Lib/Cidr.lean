import Mathlib.Data.List.OfFn
import Mathlib.Algebra.Order.Group.Nat
import Mathlib.Tactic.Ring

/-!
# Address blocks

Blocks of addresses as CIDR writes them: of a power of two addresses, starting at a multiple of
their size. A block is cut into the blocks of a given length inside it; two blocks overlap when
they share an address.
-/

namespace Sct.Cidr

/-- A block of the addresses of a given width. -/
structure Block (width : Nat) where
  address : Nat
  /-- The number of leading bits the addresses share. -/
  length : Nat
  length_le : length ≤ width
  aligned : 2 ^ (width - length) ∣ address
  bounded : address < 2 ^ width
  deriving DecidableEq

namespace Block

variable {width : Nat}

def size (block : Block width) : Nat := 2 ^ (width - block.length)

/-- An address is in a block. -/
def Covers (block : Block width) (address : Nat) : Prop :=
  block.address ≤ address ∧ address < block.address + block.size

def Overlaps (one other : Block width) : Prop := ∃ address, one.Covers address ∧ other.Covers address

/-- All addresses of a block are in another. -/
def Inside (block base : Block width) : Prop :=
  base.address ≤ block.address ∧ block.address + block.size ≤ base.address + base.size

lemma size_pos (block : Block width) : 0 < block.size := Nat.two_pow_pos _

lemma overlaps_iff (one other : Block width) :
    one.Overlaps other ↔
      one.address < other.address + other.size ∧ other.address < one.address + one.size := by
  constructor
  · rintro ⟨address, ⟨_, _⟩, _, _⟩
    omega
  · rintro ⟨below, above⟩
    have := one.size_pos
    have := other.size_pos
    refine ⟨max one.address other.address, ⟨?_, ?_⟩, ?_, ?_⟩ <;> omega

instance (one other : Block width) : Decidable (one.Overlaps other) :=
  decidable_of_iff' _ (overlaps_iff one other)

lemma overlaps_self (block : Block width) : block.Overlaps block := by
  rw [overlaps_iff]
  have := block.size_pos
  omega

lemma end_le (block : Block width) : block.address + block.size ≤ 2 ^ width := by
  obtain ⟨place, start⟩ := block.aligned
  have whole : 2 ^ width = 2 ^ (width - block.length) * 2 ^ block.length := by
    rw [← pow_add, Nat.sub_add_cancel block.length_le]
  have below : 2 ^ (width - block.length) * place <
      2 ^ (width - block.length) * 2 ^ block.length := by
    rw [← start, ← whole]
    exact block.bounded
  have next : place + 1 ≤ 2 ^ block.length := Nat.lt_of_mul_lt_mul_left below
  calc block.address + block.size
      = 2 ^ (width - block.length) * (place + 1) := by rw [start, size]; ring
    _ ≤ 2 ^ (width - block.length) * 2 ^ block.length := Nat.mul_le_mul_left _ next
    _ = 2 ^ width := whole.symm

lemma size_eq_parts (base : Block width) {length : Nat} (longer : base.length ≤ length)
    (fits : length ≤ width) : base.size = 2 ^ (length - base.length) * 2 ^ (width - length) := by
  rw [size, ← pow_add]
  congr 1
  omega

/-- The part of a block with a number, counting from its first address. -/
def part (base : Block width) {length : Nat} (longer : base.length ≤ length)
    (fits : length ≤ width) (number : Fin (2 ^ (length - base.length))) : Block width where
  address := base.address + number * 2 ^ (width - length)
  length := length
  length_le := fits
  aligned := by
    have coarse : 2 ^ (width - length) ∣ base.address :=
      (pow_dvd_pow 2 (by omega)).trans base.aligned
    exact Nat.dvd_add coarse (Nat.dvd_mul_left _ _)
  bounded := by
    have step : (number : Nat) * 2 ^ (width - length) <
        2 ^ (length - base.length) * 2 ^ (width - length) :=
      Nat.mul_lt_mul_of_pos_right number.isLt (Nat.two_pow_pos _)
    have ends := base.end_le
    rw [base.size_eq_parts longer fits] at ends
    omega

/-- The blocks of a length inside a block, in order; nothing when the length does not fit. A block
of one address is cut into itself whatever the length. -/
def subnets (base : Block width) (length : Nat) : Option (List (Block width)) :=
  if base.length = width then some [base]
  else if longer : base.length ≤ length then
    if fits : length ≤ width then some (List.ofFn (base.part longer fits)) else none
  else none

lemma mem_subnets_of_inside {base block : Block width} {blocks : List (Block width)}
    (cut : base.subnets block.length = some blocks) (inside : block.Inside base) :
    block ∈ blocks := by
  obtain ⟨starts, ends⟩ := inside
  have fits := block.length_le
  unfold subnets at cut
  split at cut
  · rename_i single
    obtain rfl := Option.some.inj cut
    have one : base.size = 1 := by rw [size, single, Nat.sub_self, pow_zero]
    have := block.size_pos
    have unit : block.size = 1 := by omega
    have long : block.length = width := by
      have flat := (Nat.pow_eq_one.mp unit).resolve_left (by decide)
      omega
    have start : block.address = base.address := by omega
    cases block
    cases base
    simp_all
  · split at cut
    · rename_i longer
      obtain rfl := Option.some.inj cut
      obtain ⟨place, apart⟩ : block.size ∣ block.address - base.address :=
        Nat.dvd_sub block.aligned ((pow_dvd_pow 2 (by omega)).trans base.aligned)
      have step : block.address = base.address + place * block.size := by
        rw [Nat.mul_comm] at apart
        omega
      have few : place < 2 ^ (block.length - base.length) := by
        have room : block.size * (place + 1) ≤ block.size * 2 ^ (block.length - base.length) := by
          calc block.size * (place + 1)
              = place * block.size + block.size := by ring
            _ ≤ base.size := by omega
            _ = block.size * 2 ^ (block.length - base.length) := by
                rw [base.size_eq_parts longer fits, Nat.mul_comm, size]
        exact Nat.le_of_mul_le_mul_left room block.size_pos
      apply List.mem_ofFn.mpr
      refine ⟨⟨place, few⟩, ?_⟩
      cases block
      simp_all [part, size]
    · cases cut

end Block

end Sct.Cidr
