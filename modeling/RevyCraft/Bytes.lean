/-
  RevyCraft/Bytes.lean
  ====================
  **Fixed-width integers over byte lists** — the part of the
  wire formats that every module of the development shares.  Nothing here
  names the server: `leBytes w n` is `to_le_bytes` of a `w`-byte integer and
  `leValue` is `from_le_bytes`; `beBytes` and `beValue` are the big-endian
  pair.  A signed integer is read and written through its bit pattern.
-/
import Mathlib.Data.Nat.Basic
import Mathlib.Tactic.Ring
import Mathlib.Tactic.Positivity
import Mathlib.Tactic.Zify

namespace RevyCraft.Bytes

/-- The `w` low-order bytes of `n`, least significant first. -/
def leBytes : Nat → Nat → List UInt8
  | 0, _ => []
  | w + 1, n => UInt8.ofNat (n % 256) :: leBytes w (n / 256)

/-- The number spelled by a little-endian byte list. -/
def leValue : List UInt8 → Nat
  | [] => 0
  | b :: bs => b.toNat + 256 * leValue bs

@[simp] theorem length_leBytes (w n : Nat) : (leBytes w n).length = w := by
  induction w generalizing n with
  | zero => rfl
  | succ w ih => simp [leBytes, ih]

theorem leValue_leBytes (w n : Nat) (h : n < 256 ^ w) : leValue (leBytes w n) = n := by
  induction w generalizing n with
  | zero =>
    have hn : n = 0 := by simpa using h
    subst hn
    rfl
  | succ w ih =>
    have hdiv : n / 256 < 256 ^ w := by
      apply Nat.div_lt_of_lt_mul
      rw [pow_succ] at h
      omega
    have hbyte : (UInt8.ofNat (n % 256)).toNat = n % 256 := by
      simp
    simp only [leBytes, leValue, ih _ hdiv, hbyte]
    omega

/-- The `w` low-order bytes of `n`, most significant first. -/
def beBytes (w n : Nat) : List UInt8 := (leBytes w n).reverse

/-- The number spelled by a big-endian byte list. -/
def beValue (bs : List UInt8) : Nat := leValue bs.reverse

@[simp] theorem length_beBytes (w n : Nat) : (beBytes w n).length = w := by
  simp [beBytes]

theorem beValue_beBytes (w n : Nat) (h : n < 256 ^ w) : beValue (beBytes w n) = n := by
  simp [beValue, beBytes, leValue_leBytes w n h]

theorem leValue_lt (bs : List UInt8) : leValue bs < 256 ^ bs.length := by
  induction bs with
  | nil => simp [leValue]
  | cons b bs ih =>
    have hb := b.toNat_lt
    rw [leValue, List.length_cons, Nat.pow_succ]
    omega

theorem leBytes_leValue (bs : List UInt8) : leBytes bs.length (leValue bs) = bs := by
  induction bs with
  | nil => rfl
  | cons b bs ih =>
    have hb := b.toNat_lt
    have hlow : (b.toNat + 256 * leValue bs) % 256 = b.toNat := by omega
    have hhigh : (b.toNat + 256 * leValue bs) / 256 = leValue bs := by omega
    rw [List.length_cons, leValue, leBytes, hlow, hhigh, ih, UInt8.ofNat_toNat]

theorem beValue_lt (bs : List UInt8) : beValue bs < 256 ^ bs.length := by
  simpa [beValue] using leValue_lt bs.reverse

theorem beBytes_beValue (bs : List UInt8) : beBytes bs.length (beValue bs) = bs := by
  have hback := leBytes_leValue bs.reverse
  rw [List.length_reverse] at hback
  rw [beBytes, beValue, hback, List.reverse_reverse]

/-! ### Two's complement -/

/-- The bit pattern of a `w`-byte integer in two's complement. -/
def toUnsigned (w : Nat) (v : Int) : Nat := (v % 256 ^ w).toNat

/-- The `w`-byte integer that a bit pattern stands for in two's complement. -/
def toSigned (w n : Nat) : Int := if 2 * n < 256 ^ w then n else n - 256 ^ w

/-- The values of a signed integer of `w` bytes. -/
def FitsSigned (w : Nat) (v : Int) : Prop := -256 ^ w ≤ 2 * v ∧ 2 * v < 256 ^ w

instance (w : Nat) (v : Int) : Decidable (FitsSigned w v) :=
  inferInstanceAs (Decidable (_ ∧ _))

theorem toUnsigned_lt (w : Nat) (v : Int) : toUnsigned w v < 256 ^ w := by
  have hpos : (0 : Int) < 256 ^ w := by positivity
  have hmod := Int.emod_lt_of_pos v hpos
  have hnonneg := Int.emod_nonneg v hpos.ne'
  zify [toUnsigned]
  rwa [Int.toNat_of_nonneg hnonneg]

theorem toSigned_toUnsigned {w : Nat} {v : Int} (h : FitsSigned w v) :
    toSigned w (toUnsigned w v) = v := by
  obtain ⟨hlow, hhigh⟩ := h
  have hpos : (0 : Int) < 256 ^ w := by positivity
  have hnonneg := Int.emod_nonneg v hpos.ne'
  have hcast : ((toUnsigned w v : Nat) : Int) = v % 256 ^ w := by
    rw [toUnsigned, Int.toNat_of_nonneg hnonneg]
  by_cases hv : 0 ≤ v
  · have hmod : v % 256 ^ w = v := Int.emod_eq_of_lt hv (by omega)
    rw [hmod] at hcast
    rw [toSigned, if_pos (by zify; omega), hcast]
  · have hmod : v % 256 ^ w = v + 256 ^ w := by
      rw [← Int.add_emod_right, Int.emod_eq_of_lt (by omega) (by omega)]
    rw [hmod] at hcast
    rw [toSigned, if_neg (by zify; omega), hcast]
    ring

theorem fitsSigned_toSigned {w n : Nat} (h : n < 256 ^ w) : FitsSigned w (toSigned w n) := by
  have h' : (n : Int) < 256 ^ w := by exact_mod_cast h
  unfold toSigned FitsSigned
  split
  next hlow =>
    have hlow' : 2 * (n : Int) < 256 ^ w := by exact_mod_cast hlow
    omega
  next hhigh =>
    have hhigh' : (256 : Int) ^ w ≤ 2 * n := by exact_mod_cast Nat.le_of_not_lt hhigh
    omega

/-- `to_be_bytes` of a signed integer. -/
def beInt (w : Nat) (v : Int) : List UInt8 := beBytes w (toUnsigned w v)

/-- `from_be_bytes` of a signed integer. -/
def beIntValue (bs : List UInt8) : Int := toSigned bs.length (beValue bs)

@[simp] theorem length_beInt (w : Nat) (v : Int) : (beInt w v).length = w := by
  simp [beInt]

theorem beIntValue_beInt {w : Nat} {v : Int} (h : FitsSigned w v) :
    beIntValue (beInt w v) = v := by
  rw [beIntValue, length_beInt, beInt, beValue_beBytes w _ (toUnsigned_lt w v),
    toSigned_toUnsigned h]

end RevyCraft.Bytes
