/-
The C++ integer types the wrapper computes with, as `Int` ranges.

A value of a `w`-bit signed type is an `Int` in `[-2^(w-1), 2^(w-1))`
(`FitsSigned`). Two things can happen to an `Int` computation that leaves that
range, and the model keeps them apart:

* a narrowing conversion (`static_cast<time_t>(int64_t)`, `static_cast<uint64_t>(long)`)
  is defined, modulo `2^w`: `wrapSigned` and `toUInt64`;
* a signed `+` or `*` that overflows is undefined behaviour: `int64?` ends the
  call with `Error.signedOverflow`.

So "the wrapper returns `s`" already says that no signed operation on the way
overflowed. The platform is LP64 with a 32-bit `int`: `long` and `int64_t` are
64 bits wide, which fixes `LONG_MAX` and `INT_MAX` below.
-/
import MoCOCrW.CheckedCall
import Mathlib.Tactic.Ring

set_option autoImplicit false

namespace mococrw.openssl

/-- `x` is a value of the `w`-bit two's-complement type. -/
def FitsSigned (w : Nat) (x : Int) : Prop := -2 ^ (w - 1) ≤ x ∧ x < 2 ^ (w - 1)

instance (w : Nat) (x : Int) : Decidable (FitsSigned w x) :=
  inferInstanceAs (Decidable (_ ∧ _))

/-- The `w`-bit value a narrowing conversion leaves: `x` reduced modulo `2^w`
into `[-2^(w-1), 2^(w-1))`. -/
def wrapSigned (w : Nat) (x : Int) : Int := x.bmod (2 ^ w)

/-- `static_cast<uint64_t>` of a signed value: reduction modulo `2^64`. -/
def toUInt64 (x : Int) : UInt64 := UInt64.ofNat (x % 2 ^ 64).toNat

/-- An `int64_t` result: the exact value when it fits, the overflow otherwise. -/
def int64? (x : Int) : Except Error {v : Int // FitsSigned 64 v} :=
  if h : FitsSigned 64 x then .ok ⟨x, h⟩ else .error .signedOverflow

/-- `std::numeric_limits<long>::max()` on LP64. -/
def LONG_MAX : Int := 2 ^ 63 - 1

/-- `std::numeric_limits<int>::max()`. -/
def INT_MAX : Int := 2 ^ 31 - 1

/-- `std::numeric_limits<int>::min()`. -/
def INT_MIN : Int := -2 ^ 31

theorem wrapSigned_of_fitsSigned {w : Nat} (hw : 0 < w) {x : Int} (h : FitsSigned w x) :
    wrapSigned w x = x := by
  obtain ⟨k, rfl⟩ : ∃ k, w = k + 1 := ⟨w - 1, by omega⟩
  obtain ⟨hlo, hhi⟩ := h
  simp only [Nat.add_sub_cancel] at hlo hhi
  have hpos : (0 : Int) < 2 ^ k := by exact_mod_cast Nat.two_pow_pos k
  have hm : ((2 ^ (k + 1) : Nat) : Int) = 2 * 2 ^ k := by push_cast; ring
  have hmod : x % (2 * 2 ^ k) = if x < 0 then x + 2 * 2 ^ k else x := by
    split
    · rw [← Int.add_emod_self, Int.emod_eq_of_lt (by omega) (by omega)]
    · exact Int.emod_eq_of_lt (by omega) (by omega)
  rw [wrapSigned, Int.bmod_def, hm, hmod]
  split <;> split <;> omega

theorem fitsSigned_wrapSigned {w : Nat} (hw : 0 < w) (x : Int) :
    FitsSigned w (wrapSigned w x) := by
  obtain ⟨k, rfl⟩ : ∃ k, w = k + 1 := ⟨w - 1, by omega⟩
  have hm : ((2 ^ (k + 1) : Nat) : Int) = 2 * 2 ^ k := by push_cast; ring
  have hpos : 0 < 2 ^ (k + 1) := Nat.two_pow_pos _
  have hlo := Int.le_bmod (x := x) hpos
  have hhi := Int.bmod_lt (x := x) hpos
  rw [hm] at hlo hhi
  refine ⟨?_, ?_⟩ <;> simp only [wrapSigned, Nat.add_sub_cancel] <;> omega

/-- `int64_t`'s range with the numerals written out, for `omega`. -/
theorem fitsSigned_64 (x : Int) :
    FitsSigned 64 x ↔ -9223372036854775808 ≤ x ∧ x < 9223372036854775808 := by
  simp only [FitsSigned]; norm_num

/-- A size handed to an `int` parameter, with the numerals written out for `omega`. -/
theorem wrapSigned_32_natCast (n : Nat) :
    wrapSigned 32 n =
      if (n : Int) % 4294967296 < 2147483648 then (n : Int) % 4294967296
      else (n : Int) % 4294967296 - 4294967296 := by
  rw [wrapSigned, Int.bmod_def]; rfl

theorem int64?_of_fitsSigned {x : Int} (h : FitsSigned 64 x) : int64? x = .ok ⟨x, h⟩ := by
  simp [int64?, h]

end mococrw.openssl
