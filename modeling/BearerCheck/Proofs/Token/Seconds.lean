import BearerCheck.Token.Claims
import Mathlib.Algebra.Order.Ring.Int
import Mathlib.Tactic.SplitIfs

namespace BearerCheck

open Float.Model UnpackedFloat

def saturate (n : Int) : Int := max (-2 ^ 63) (min n (2 ^ 63 - 1))

theorem saturate_nonneg {n : Int} (hn : 0 ≤ n) : 0 ≤ saturate n := by
  rw [saturate]
  omega

theorem ofIntClamp_toInt (n : Int) : (Int64.ofIntClamp n).toInt = saturate n := by
  have hmin : Int64.minValue.toInt = -2 ^ 63 := rfl
  have hmax : Int64.maxValue.toInt = 2 ^ 63 - 1 := rfl
  unfold Int64.ofIntClamp saturate
  split_ifs with hl hr
  · rw [Int64.toInt_ofIntLE]
    omega
  · omega
  · omega

theorem mantissa_shiftRight (x : ExtendedMantissa) (n : Nat) :
    (x >>> n).mantissa = x.mantissa / 2 ^ n := by
  induction n with
  | zero => exact (Nat.div_one _).symm
  | succ n ih =>
    change (x >>> n).mantissa / 2 = _
    rw [ih, Nat.div_div_eq_div_mul, Nat.pow_succ]

theorem roundToInt_eq (s : Sign) (m : Nat) (e : Int) :
    roundToInt s m e = s.apply (m * 2 ^ e.toNat / 2 ^ (-e).toNat : Nat) := by
  have hup : (e - 0).toNat = e.toNat := by omega
  have hdown : (0 - (e - e.toNat)).toNat = (-e).toNat := by omega
  simp only [roundToInt, decreaseExponent, shiftToExponent, hup, hdown, mantissa_shiftRight,
    Nat.shiftLeft_eq]
  rfl

namespace Token.Claims

theorem wholeSeconds_toInt (t : Float) :
    (wholeSeconds t).toInt = match t.toModel.unpack with
      | .finite s m e _ => saturate (s.apply (m * 2 ^ e.toNat / 2 ^ (-e).toNat : Nat))
      | .infinity .positive => 2 ^ 63 - 1
      | .infinity .negative => -2 ^ 63
      | .zero _ | .notANumber => 0 := by
  change (Int64.ofIntClamp _).toInt = _
  rw [ofIntClamp_toInt]
  cases t.toModel.unpack with
  | finite s m e _ => exact congrArg saturate (roundToInt_eq s m e)
  | infinity s => cases s <;> rfl
  | zero s => rfl
  | notANumber => rfl

theorem wholeSeconds_nonneg {t : Float} (ht : 1.0 ≤ t) : 0 ≤ (wholeSeconds t).toInt := by
  have hone : (1.0 : Float).toModel.unpack = .finite .positive (2 ^ 52) (-52) (by decide) := rfl
  have hle : (1.0 : Float).toModel.unpack.le t.toModel.unpack = true := of_decide_eq_true ht
  rw [hone] at hle
  rw [wholeSeconds_toInt]
  cases hu : t.toModel.unpack with
  | finite s m e hpos =>
    cases s with
    | positive => exact saturate_nonneg (Int.natCast_nonneg _)
    | negative =>
      rw [hu] at hle
      cases hle
  | infinity s =>
    cases s with
    | positive => decide
    | negative =>
      rw [hu] at hle
      cases hle
  | zero s => exact Int.le_refl 0
  | notANumber => exact Int.le_refl 0

end Token.Claims

end BearerCheck
