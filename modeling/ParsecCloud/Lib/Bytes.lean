import Mathlib.Data.List.Basic
import Mathlib.Data.Nat.Bitwise

/- Integers as bytes, in both byte orders, and the exclusive or of buffers of one length. -/
namespace Bytes

inductive ByteOrder where
  | little
  | big

/-- The first byte is the least significant one. -/
def fromLittle : List UInt8 → Nat
  | [] => 0
  | byte :: rest => byte.toNat + 256 * fromLittle rest

def toLittle : Nat → Nat → List UInt8
  | 0, _ => []
  | length + 1, n => UInt8.ofNat (n % 256) :: toLittle length (n / 256)

/-- int.from_bytes -/
def fromBytes : ByteOrder → List UInt8 → Nat
  | .little, bytes => fromLittle bytes
  | .big, bytes => fromLittle bytes.reverse

def toBytes : ByteOrder → Nat → Nat → List UInt8
  | .little, length, n => toLittle length n
  | .big, length, n => (toLittle length n).reverse

theorem fromLittle_lt (bytes : List UInt8) : fromLittle bytes < 256 ^ bytes.length := by
  induction bytes with
  | nil => simp [fromLittle]
  | cons byte rest ih =>
    have := byte.toNat_lt
    rw [fromLittle, List.length_cons, Nat.pow_succ]
    omega

theorem toLittle_fromLittle (bytes : List UInt8) :
    toLittle bytes.length (fromLittle bytes) = bytes := by
  induction bytes with
  | nil => rfl
  | cons byte rest ih =>
    have := byte.toNat_lt
    have low : (byte.toNat + 256 * fromLittle rest) % 256 = byte.toNat := by omega
    have high : (byte.toNat + 256 * fromLittle rest) / 256 = fromLittle rest := by omega
    rw [fromLittle, List.length_cons, toLittle, low, high, ih]
    simp

theorem length_toLittle (length n : Nat) : (toLittle length n).length = length := by
  induction length generalizing n with
  | zero => rfl
  | succ length ih => rw [toLittle, List.length_cons, ih]

theorem fromLittle_toLittle {length n : Nat} (fits : n < 256 ^ length) :
    fromLittle (toLittle length n) = n := by
  induction length generalizing n with
  | zero =>
    have : n = 0 := by simpa using fits
    rw [this]
    rfl
  | succ length ih =>
    have low : n % 256 < 256 := Nat.mod_lt _ (by decide)
    rw [toLittle, fromLittle, ih (by rw [Nat.pow_succ] at fits; omega), UInt8.toNat_ofNat']
    omega

theorem fromBytes_lt (order : ByteOrder) (bytes : List UInt8) :
    fromBytes order bytes < 256 ^ bytes.length := by
  cases order with
  | little => exact fromLittle_lt bytes
  | big =>
    rw [fromBytes, ← List.length_reverse]
    exact fromLittle_lt _

theorem toBytes_fromBytes (order : ByteOrder) (bytes : List UInt8) :
    toBytes order bytes.length (fromBytes order bytes) = bytes := by
  cases order with
  | little => exact toLittle_fromLittle bytes
  | big =>
    rw [fromBytes, toBytes, ← List.length_reverse, toLittle_fromLittle, List.reverse_reverse]

theorem fromBytes_toBytes (order : ByteOrder) {length n : Nat} (fits : n < 256 ^ length) :
    fromBytes order (toBytes order length n) = n := by
  cases order with
  | little => exact fromLittle_toLittle fits
  | big =>
    rw [toBytes, fromBytes, List.reverse_reverse]
    exact fromLittle_toLittle fits

theorem length_toBytes (order : ByteOrder) (length n : Nat) :
    (toBytes order length n).length = length := by
  cases order with
  | little => exact length_toLittle length n
  | big => rw [toBytes, List.length_reverse, length_toLittle]

def xor (a b : List UInt8) : List UInt8 := List.zipWith (· ^^^ ·) a b

theorem length_xor {a b : List UInt8} (same : a.length = b.length) : (xor a b).length = a.length := by
  rw [xor, List.length_zipWith, same, Nat.min_self]

theorem xor_digit {x y m n : Nat} (low : x < 256) (low' : y < 256) :
    (x + 256 * m) ^^^ (y + 256 * n) = (x ^^^ y) + 256 * (m ^^^ n) := by
  have digit : ∀ {z k : Nat}, z < 256 → (z + 256 * k) % 2 ^ 8 = z ∧ (z + 256 * k) / 2 ^ 8 = k := by
    intro z k small
    omega
  have small : x ^^^ y < 256 := Nat.xor_lt_two_pow (n := 8) low low'
  have rest : ((x + 256 * m) ^^^ (y + 256 * n)) % 2 ^ 8 = x ^^^ y := by
    rw [Nat.xor_mod_two_pow, (digit low).1, (digit low').1]
  have high : ((x + 256 * m) ^^^ (y + 256 * n)) / 2 ^ 8 = m ^^^ n := by
    rw [Nat.xor_div_two_pow, (digit low).2, (digit low').2]
  omega

theorem fromLittle_xor {a b : List UInt8} (same : a.length = b.length) :
    fromLittle (xor a b) = fromLittle a ^^^ fromLittle b := by
  induction a generalizing b with
  | nil =>
    cases List.length_eq_zero_iff.mp same.symm
    rfl
  | cons x a ih =>
    cases b with
    | nil => cases same
    | cons y b =>
      rw [fromLittle, fromLittle, xor_digit x.toNat_lt y.toNat_lt, ← ih (Nat.succ.inj same)]
      change (x ^^^ y).toNat + _ = _
      rw [UInt8.toNat_xor]
      rfl

theorem fromBytes_xor (order : ByteOrder) {a b : List UInt8} (same : a.length = b.length) :
    fromBytes order (xor a b) = fromBytes order a ^^^ fromBytes order b := by
  cases order with
  | little => exact fromLittle_xor same
  | big =>
    have swap : (xor a b).reverse = xor a.reverse b.reverse := by
      rw [xor, xor, List.reverse_zipWith same]
    rw [fromBytes, fromBytes, fromBytes, swap, fromLittle_xor (by simp [same])]

end Bytes
