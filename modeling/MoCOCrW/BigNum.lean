/-
`ASN1_INTEGER` and `BIGNUM` conversions of `src/openssl_wrap.cpp` (lines
1036-1092): `Asn1IntegerToInt64`, `Asn1IntegerToString`, `Asn1IntegerToBinary`,
`_BN_bin2bn` and `_BN_bn2binpad`.

Both OpenSSL types are arbitrary-precision signed integers, so both are an
`Int` here; a byte string (`std::vector<uint8_t>`, or a pointer with its
length) is a `List UInt8`. The natives are modelled from their OpenSSL 3.0
contracts: `BN_num_bytes` is `(BN_num_bits + 7) / 8`, with `BN_num_bits` the
bit length (`Nat.size`); `BN_bn2bin` writes the magnitude big-endian in exactly
that many bytes and returns the count; `BN_bn2binpad` returns `tolen` after
writing the magnitude left-padded to `tolen` bytes, or `-1` when it does not
fit; `ASN1_INTEGER_get` returns the value when it fits a `long` and `-1`
otherwise.

What matters in this file is where these contracts meet the wrapper's return
policies. `BN_num_bytes`, `BN_bn2bin` and `BN_bn2binpad` can all succeed with
the answer 0 (the number zero, or a zero width), and all three are checked with
`OpensslCallIsPositive`. `BigNum.lean`'s specifications therefore describe
the positive cases, and the zero cases are evaluated where the serial number
and the padding are specified.
-/
import MoCOCrW.MachineInt
import Mathlib.Data.Nat.Size
import Mathlib.Data.List.Basic

set_option autoImplicit false

namespace mococrw.openssl

/-! ## Big-endian bytes -/

/-- The unsigned value of a big-endian byte string. -/
def beValue (b : List UInt8) : Nat := b.foldl (fun acc x => acc * 256 + x.toNat) 0

/-- `n` in `len` big-endian bytes: its low `len` bytes, most significant first. -/
def toBytesBE (n : Nat) : Nat → List UInt8
  | 0 => []
  | len + 1 => toBytesBE (n / 256) len ++ [UInt8.ofNat (n % 256)]

/-- `BN_num_bytes` of a magnitude: its bit length rounded up to bytes. -/
def numBytes (n : Nat) : Nat := (Nat.size n + 7) / 8

/-- `std::vector::resize`: truncate, or pad with zero bytes. -/
def vectorResize (v : List UInt8) (n : Nat) : List UInt8 :=
  v.take n ++ List.replicate (n - v.length) 0

/-! ## The native functions -/

namespace lib.OpenSSLLib

/-- `BN_bin2bn(s, len, nullptr)`: a new `BIGNUM` holding the big-endian value of
the `len` bytes at `s`. -/
def SSL_BN_bin2bn (s : List UInt8) : Option Int := some (beValue s)

/-- `BN_bn2binpad(a, to, tolen)` as `(return value, the bytes at `to`)`. -/
def SSL_BN_bn2binpad (a : Int) (toBuf : List UInt8) (tolen : Int) : Int × List UInt8 :=
  if 0 ≤ tolen ∧ numBytes a.natAbs ≤ tolen.toNat then (tolen, toBytesBE a.natAbs tolen.toNat)
  else (-1, toBuf)

/-- `BN_num_bytes(a)`. -/
def SSL_BN_num_bytes (a : Int) : Int := numBytes a.natAbs

/-- `BN_bn2bin(a, to)` as `(return value, the bytes at `to`)`. -/
def SSL_BN_bn2bin (a : Int) (toBuf : List UInt8) : Int × List UInt8 :=
  let bytes := toBytesBE a.natAbs (numBytes a.natAbs)
  (bytes.length, bytes ++ toBuf.drop bytes.length)

/-- `BN_bn2dec(a)`: the decimal numeral, with a `-` for a negative number. -/
def SSL_BN_bn2dec (a : Int) : Option String := some (toString a)

/-- `ASN1_INTEGER_new()`: a new integer, zero. -/
def SSL_ASN1_INTEGER_new : Option Int := some 0

/-- `ASN1_INTEGER_set(a, value)` as `(return value, the new a)`. -/
def SSL_ASN1_INTEGER_set (_a : Int) (value : Int) : Int × Int := (1, value)

/-- `ASN1_INTEGER_cmp(x, y)`: its sign is the order of `x` and `y`. -/
def SSL_ASN1_INTEGER_cmp (x y : Int) : Int := if x < y then -1 else if x = y then 0 else 1

/-- `ASN1_INTEGER_get(a)`: the value as a `long`, or `-1` when it does not fit. -/
def SSL_ASN1_INTEGER_get (a : Int) : Int := if FitsSigned 64 a then a else -1

/-- `ASN1_INTEGER_to_BN(ai, nullptr)`. -/
def SSL_ASN1_INTEGER_to_BN (ai : Int) : Option Int := some ai

end lib.OpenSSLLib

/-! ## The wrapper -/

/-- `Asn1IntegerToInt64`: the value, after a range check against the
`ASN1_INTEGER`s zero and `LONG_MAX`. -/
def Asn1IntegerToInt64 (number : Int) : Except Error UInt64 := do
  let maxLong ← OpensslCallPtr.callChecked lib.OpenSSLLib.SSL_ASN1_INTEGER_new
  let zero ← OpensslCallPtr.callChecked lib.OpenSSLLib.SSL_ASN1_INTEGER_new
  let (rv, zero) := lib.OpenSSLLib.SSL_ASN1_INTEGER_set zero 0
  let _ ← OpensslCallIsOne.callChecked rv
  let (rv, maxLong) := lib.OpenSSLLib.SSL_ASN1_INTEGER_set maxLong LONG_MAX
  let _ ← OpensslCallIsOne.callChecked rv
  if lib.OpenSSLLib.SSL_ASN1_INTEGER_cmp number maxLong > 0 ∨
      lib.OpenSSLLib.SSL_ASN1_INTEGER_cmp number zero < 0 then
    throw (.openSSLExceptionWith "Number is out of the accepted range.")
  return toUInt64 (lib.OpenSSLLib.SSL_ASN1_INTEGER_get number)

/-- `Asn1IntegerToString`. -/
def Asn1IntegerToString (number : Int) : Except Error String := do
  let bnNumber ← OpensslCallPtr.callChecked (lib.OpenSSLLib.SSL_ASN1_INTEGER_to_BN number)
  OpensslCallPtr.callChecked (lib.OpenSSLLib.SSL_BN_bn2dec bnNumber)

/-- `Asn1IntegerToBinary`: size the vector by `BN_num_bytes`, let `BN_bn2bin`
fill it, and cut it to the count `BN_bn2bin` returned. -/
def Asn1IntegerToBinary (number : Int) : Except Error (List UInt8) := do
  let serialNumber : List UInt8 := []
  let bnNumber ← OpensslCallPtr.callChecked (lib.OpenSSLLib.SSL_ASN1_INTEGER_to_BN number)
  let numBytes ← OpensslCallIsPositive.callChecked (lib.OpenSSLLib.SSL_BN_num_bytes bnNumber)
  let serialNumber := vectorResize serialNumber numBytes.toNat
  let (size, serialNumber) := lib.OpenSSLLib.SSL_BN_bn2bin bnNumber serialNumber
  let size ← OpensslCallIsPositive.callChecked size
  return vectorResize serialNumber size.toNat

/-- `_BN_bin2bn`, for the `dataLen` bytes `data`. -/
def _BN_bin2bn (data : List UInt8) : Except Error Int :=
  if data.length > INT_MAX then
    .error (.openSSLExceptionWith "INT_MAX is the maximum supported size for BIGNUM")
  else OpensslCallPtr.callChecked (lib.OpenSSLLib.SSL_BN_bin2bn data)

/-- `_BN_bn2binpad`. `std::vector<uint8_t> out(tolen)` converts `tolen` to
`size_t`, so a negative `tolen` asks for more than `max_size()`. -/
def _BN_bn2binpad (bignum : Int) (tolen : Int) : Except Error (List UInt8) := do
  if tolen < 0 then throw .lengthError
  let out := List.replicate tolen.toNat 0
  let (rv, out) := lib.OpenSSLLib.SSL_BN_bn2binpad bignum out tolen
  let _ ← OpensslCallIsPositive.callChecked rv
  return out

end mococrw.openssl

namespace MoCOCrW.BigNum

open mococrw.openssl

/-! ## Big-endian bytes -/

@[simp] theorem length_toBytesBE (n len : Nat) : (toBytesBE n len).length = len := by
  induction len generalizing n with
  | zero => rfl
  | succ len ih => simp [toBytesBE, ih]

@[simp] theorem beValue_nil : beValue [] = 0 := rfl

@[simp] theorem beValue_append_singleton (l : List UInt8) (x : UInt8) :
    beValue (l ++ [x]) = beValue l * 256 + x.toNat := by
  simp [beValue, List.foldl_append]

theorem uint8_toNat_ofNat_mod (n : Nat) : (UInt8.ofNat (n % 256)).toNat = n % 256 :=
  UInt8.toNat_ofNat_of_lt (Nat.mod_lt _ (by decide))

/-- Reading `len` bytes back gives the number modulo `256^len`. -/
theorem beValue_toBytesBE (n len : Nat) : beValue (toBytesBE n len) = n % 256 ^ len := by
  induction len generalizing n with
  | zero => simp [toBytesBE, Nat.mod_one]
  | succ len ih =>
    rw [toBytesBE, beValue_append_singleton, ih, uint8_toNat_ofNat_mod, Nat.pow_succ,
      Nat.mul_comm (256 ^ len) 256, Nat.mod_mul]
    ring

theorem beValue_lt (b : List UInt8) : beValue b < 256 ^ b.length := by
  induction b using List.reverseRecOn with
  | nil => simp
  | append_singleton l x ih =>
    have hx : x.toNat < 256 := x.toNat_lt_size
    rw [beValue_append_singleton, List.length_append, List.length_singleton, Nat.pow_succ]
    calc beValue l * 256 + x.toNat < (beValue l + 1) * 256 := by omega
      _ ≤ 256 ^ l.length * 256 := Nat.mul_le_mul_right _ ih

/-- Writing the value of `b` in `|b|` bytes gives `b` back. -/
theorem toBytesBE_beValue (b : List UInt8) : toBytesBE (beValue b) b.length = b := by
  induction b using List.reverseRecOn with
  | nil => rfl
  | append_singleton l x ih =>
    have hx : x.toNat < 256 := x.toNat_lt_size
    have hdiv : (beValue l * 256 + x.toNat) / 256 = beValue l := by omega
    have hmod : (beValue l * 256 + x.toNat) % 256 = x.toNat := by omega
    rw [beValue_append_singleton, List.length_append, List.length_singleton, toBytesBE, hdiv,
      hmod, ih]
    congr
    exact UInt8.toNat.inj (UInt8.toNat_ofNat_of_lt hx)

@[simp] theorem toBytesBE_zero (len : Nat) : toBytesBE 0 len = List.replicate len 0 := by
  induction len with
  | zero => rfl
  | succ len ih => simp [toBytesBE, ih, List.replicate_succ']

/-- Writing in `k + m` bytes is writing the high part in `k` and the low `m`. -/
theorem toBytesBE_add (n k m : Nat) :
    toBytesBE n (k + m) = toBytesBE (n / 256 ^ m) k ++ toBytesBE n m := by
  induction m generalizing n with
  | zero => simp [toBytesBE]
  | succ m ih =>
    rw [← Nat.add_assoc, toBytesBE, ih, toBytesBE, Nat.div_div_eq_div_mul, ← Nat.pow_succ',
      List.append_assoc]

/-- **Left padding.** The value of `b` in `k ≥ |b|` bytes is `b` behind
`k - |b|` zero bytes. -/
theorem toBytesBE_beValue_pad (b : List UInt8) {k : Nat} (h : b.length ≤ k) :
    toBytesBE (beValue b) k = List.replicate (k - b.length) 0 ++ b := by
  obtain ⟨j, rfl⟩ := Nat.exists_eq_add_of_le' h
  rw [toBytesBE_add, Nat.div_eq_of_lt (beValue_lt b), toBytesBE_zero, toBytesBE_beValue,
    Nat.add_sub_cancel]

/-- `BN_num_bytes` is at most `k` exactly when the number fits in `k` bytes. -/
theorem numBytes_le_iff (n k : Nat) : numBytes n ≤ k ↔ n < 256 ^ k := by
  rw [show (256 : Nat) ^ k = 2 ^ (8 * k) by rw [Nat.pow_mul], ← Nat.size_le, numBytes]
  omega

@[simp] theorem numBytes_zero : numBytes 0 = 0 := by simp [numBytes]

theorem numBytes_pos {n : Nat} (h : 0 < n) : 0 < numBytes n := by
  have := Nat.size_pos.mpr h
  unfold numBytes; omega

/-- The number fits the bytes `numBytes` counts. -/
theorem lt_pow_numBytes (n : Nat) : n < 256 ^ numBytes n := (numBytes_le_iff n _).mp le_rfl

@[simp] theorem length_vectorResize (v : List UInt8) (n : Nat) : (vectorResize v n).length = n := by
  simp only [vectorResize, List.length_append, List.length_take, List.length_replicate]; omega

theorem vectorResize_of_length {v : List UInt8} {n : Nat} (h : v.length = n) :
    vectorResize v n = v := by
  simp [vectorResize, h]

/-! ## `Asn1IntegerToInt64` -/

theorem toUInt64_natCast (s : UInt64) : toUInt64 (s.toNat : Int) = s := by
  have hs : s.toNat < 2 ^ 64 := s.toNat_lt_size
  have hmod : ((s.toNat : Int) % 2 ^ 64).toNat = s.toNat := by omega
  rw [toUInt64, hmod]
  exact UInt64.toNat.inj (UInt64.toNat_ofNat_of_lt hs)

theorem SSL_ASN1_INTEGER_cmp_pos_iff (x y : Int) :
    lib.OpenSSLLib.SSL_ASN1_INTEGER_cmp x y > 0 ↔ y < x := by
  unfold lib.OpenSSLLib.SSL_ASN1_INTEGER_cmp; split_ifs <;> omega

theorem SSL_ASN1_INTEGER_cmp_neg_iff (x y : Int) :
    lib.OpenSSLLib.SSL_ASN1_INTEGER_cmp x y < 0 ↔ x < y := by
  unfold lib.OpenSSLLib.SSL_ASN1_INTEGER_cmp; split_ifs <;> omega

/-- `Asn1IntegerToInt64` returns exactly the numbers between the two
`ASN1_INTEGER`s it builds, zero and `LONG_MAX`, and refuses every other. -/
theorem Asn1IntegerToInt64_eq (number : Int) :
    Asn1IntegerToInt64 number =
      if 0 ≤ number ∧ number ≤ LONG_MAX then .ok (toUInt64 number)
      else .error (.openSSLExceptionWith "Number is out of the accepted range.") := by
  simp only [Asn1IntegerToInt64, lib.OpenSSLLib.SSL_ASN1_INTEGER_new,
    lib.OpenSSLLib.SSL_ASN1_INTEGER_set, OpensslCallPtr.callChecked_some,
    OpensslCallIsOne.callChecked_eq, callChecked_isOne_one, ok_bind,
    SSL_ASN1_INTEGER_cmp_pos_iff, SSL_ASN1_INTEGER_cmp_neg_iff]
  by_cases h : 0 ≤ number ∧ number ≤ LONG_MAX
  · have hfit : FitsSigned 64 number := by rw [fitsSigned_64]; unfold LONG_MAX at h; omega
    rw [if_neg (by omega), if_pos h, lib.OpenSSLLib.SSL_ASN1_INTEGER_get, if_pos hfit]
    rfl
  · rw [if_pos (by omega), if_neg h]
    rfl

/-! ## `Asn1IntegerToString` and `Asn1IntegerToBinary` -/

theorem Asn1IntegerToString_eq (number : Int) :
    Asn1IntegerToString number = .ok (toString number) := rfl

/-- A nonzero `ASN1_INTEGER` is written as its magnitude in the fewest bytes. -/
theorem Asn1IntegerToBinary_of_ne_zero {number : Int} (h : number ≠ 0) :
    Asn1IntegerToBinary number = .ok (toBytesBE number.natAbs (numBytes number.natAbs)) := by
  have hpos : (0 : Int) < numBytes number.natAbs := by
    have := numBytes_pos (Int.natAbs_pos.mpr h); omega
  simp only [Asn1IntegerToBinary, lib.OpenSSLLib.SSL_ASN1_INTEGER_to_BN,
    OpensslCallPtr.callChecked_some, lib.OpenSSLLib.SSL_BN_num_bytes,
    OpensslCallIsPositive.callChecked_eq, callChecked_positive hpos, ok_bind,
    lib.OpenSSLLib.SSL_BN_bn2bin, length_toBytesBE, pure_eq_ok]
  rw [Int.toNat_natCast, List.drop_eq_nil_of_le (by simp), List.append_nil,
    vectorResize_of_length (length_toBytesBE _ _)]

/-- The number zero: `BN_num_bytes` answers 0, which the positive-return policy
refuses. -/
theorem Asn1IntegerToBinary_zero : Asn1IntegerToBinary 0 = .error .openSSLException := by
  simp [Asn1IntegerToBinary, lib.OpenSSLLib.SSL_ASN1_INTEGER_to_BN,
    lib.OpenSSLLib.SSL_BN_num_bytes, callChecked, ReturnCheckPolicy.returnValueIsOk]

/-! ## `_BN_bin2bn` and `_BN_bn2binpad` -/

theorem _BN_bin2bn_of_le {data : List UInt8} (h : (data.length : Int) ≤ INT_MAX) :
    _BN_bin2bn data = .ok (beValue data) := by
  simp [_BN_bin2bn, lib.OpenSSLLib.SSL_BN_bin2bn, not_lt.mpr h]

/-- `_BN_bn2binpad` at a width `tolen ≥ 0`: the padded magnitude when it fits in
`tolen` bytes and `tolen` is positive, the error-queue exception otherwise. -/
theorem _BN_bn2binpad_eq (bignum : Int) {tolen : Int} (h : 0 ≤ tolen) :
    _BN_bn2binpad bignum tolen =
      if 0 < tolen ∧ bignum.natAbs < 256 ^ tolen.toNat then
        .ok (toBytesBE bignum.natAbs tolen.toNat)
      else .error .openSSLException := by
  simp only [_BN_bn2binpad, lib.OpenSSLLib.SSL_BN_bn2binpad, numBytes_le_iff,
    if_neg (not_lt.mpr h), pure_eq_ok, ok_bind, OpensslCallIsPositive.callChecked_eq]
  by_cases hfit : bignum.natAbs < 256 ^ tolen.toNat
  · rcases h.lt_or_eq with hpos | rfl
    · simp [hfit, h, hpos, callChecked_positive hpos]
    · by_cases h0 : bignum = 0 <;> simp [h0, callChecked, ReturnCheckPolicy.returnValueIsOk]
  · simp [hfit, callChecked, ReturnCheckPolicy.returnValueIsOk]

/-! ## The round trip through a `BIGNUM` -/

theorem bn_roundtrip_eq (b : List UInt8) {tolen : Int} (hb : (b.length : Int) ≤ INT_MAX)
    (ht : 0 < tolen) :
    (_BN_bin2bn b >>= fun bn => _BN_bn2binpad bn tolen) =
      if beValue b < 256 ^ tolen.toNat then .ok (toBytesBE (beValue b) tolen.toNat)
      else .error .openSSLException := by
  rw [_BN_bin2bn_of_le hb, ok_bind, _BN_bn2binpad_eq _ ht.le]
  simp [ht]

/-- **The padded round trip.** A byte string of at most `INT_MAX` bytes, read
into a `BIGNUM` and written back at a positive width `tolen`, comes back as its
value in exactly `tolen` bytes when that value fits and makes `_BN_bn2binpad`
throw otherwise; when the string itself fits the width, what comes back is the
string behind `tolen - |b|` zero bytes (the string itself at `tolen = |b|`). -/
theorem bn_roundtrip_padded (b : List UInt8) (tolen : Int) (hb : (b.length : Int) ≤ INT_MAX)
    (ht : 0 < tolen) :
    (_BN_bin2bn b >>= fun bn => _BN_bn2binpad bn tolen) =
        (if beValue b < 256 ^ tolen.toNat then .ok (toBytesBE (beValue b) tolen.toNat)
        else .error .openSSLException) ∧
      (b.length ≤ tolen.toNat → (_BN_bin2bn b >>= fun bn => _BN_bn2binpad bn tolen) =
        .ok (List.replicate (tolen.toNat - b.length) 0 ++ b)) := by
  refine ⟨bn_roundtrip_eq b hb ht, fun hlen => ?_⟩
  have hfit : beValue b < 256 ^ tolen.toNat :=
    lt_of_lt_of_le (beValue_lt b) (Nat.pow_le_pow_right (by decide) hlen)
  rw [bn_roundtrip_eq b hb ht, if_pos hfit, toBytesBE_beValue_pad b hlen]

theorem bn_roundtrip_padded_one_byte :
    ((([7] : List UInt8).length : Int) ≤ INT_MAX ∧ (0 : Int) < 2) ∧
      (_BN_bin2bn [7] >>= fun bn => _BN_bn2binpad bn 2) = .ok [0, 7] :=
  ⟨⟨by decide, by decide⟩, (bn_roundtrip_padded [7] 2 (by decide) (by decide)).2 (by decide)⟩

/-- At width zero the round trip throws, even for the empty string, whose value
0 fits in zero bytes: `BN_bn2binpad` then succeeds with `tolen = 0`, which
`OpensslCallIsPositive` takes for a failure. -/
theorem bn_roundtrip_zero_width_throws :
    (_BN_bin2bn [] >>= fun bn => _BN_bn2binpad bn 0) = .error .openSSLException := by
  rw [_BN_bin2bn_of_le (by decide), ok_bind, _BN_bn2binpad_eq _ le_rfl]
  simp

end MoCOCrW.BigNum
