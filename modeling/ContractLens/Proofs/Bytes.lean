import ContractLens.Bytes
import Mathlib.Tactic

/-!
# Numbers and texts as bytes

`bytesOfNat` writes a number with a given count of bytes and `natOfBytes` reads it back. A text is
stored as its UTF-8 bytes.

* `natOfBytes_bytesOfNat`: what is read back is the number modulo a power of 256.
* `natOfBytes_inj`: as many bytes that stand for the same number are the same.
* `drop_bytesOfNat`: the last bytes of a number are the number written with fewer bytes.
* `utf8Bytes_eq`: the UTF-8 bytes of a text are those that it is stored as.
-/

namespace ContractLens

/-! ## Reading -/

@[simp] theorem natOfBytes_nil : natOfBytes [] = 0 := rfl

theorem natOfBytes_concat (a : List UInt8) (b : UInt8) :
    natOfBytes (a ++ [b]) = 256 * natOfBytes a + b.toNat := by
  simp [natOfBytes]

theorem natOfBytes_append (a b : List UInt8) :
    natOfBytes (a ++ b) = 256 ^ b.length * natOfBytes a + natOfBytes b := by
  induction b using List.reverseRecOn with
  | nil => simp
  | append_singleton b x ih =>
    rw [← List.append_assoc, natOfBytes_concat, natOfBytes_concat, ih, List.length_append,
      List.length_singleton]
    ring

theorem natOfBytes_cons (b : UInt8) (a : List UInt8) :
    natOfBytes (b :: a) = 256 ^ a.length * b.toNat + natOfBytes a := by
  have h := natOfBytes_append [b] a
  rwa [show natOfBytes [b] = b.toNat by simp [natOfBytes]] at h

theorem natOfBytes_lt (bytes : List UInt8) : natOfBytes bytes < 256 ^ bytes.length := by
  induction bytes using List.reverseRecOn with
  | nil => simp
  | append_singleton bytes b ih =>
    have hb : b.toNat < 256 := b.toNat_lt
    rw [natOfBytes_concat, List.length_append, List.length_singleton, pow_succ]
    omega

/-! ## Writing -/

/-- `UInt8.toNat_ofNat_of_lt` with its bound written out. -/
theorem toNat_ofNat_of_lt {n : ℕ} (h : n < 256) : (UInt8.ofNat n).toNat = n := by
  rw [UInt8.toNat_ofNat', Nat.mod_eq_of_lt h]

@[simp] theorem length_bytesOfNat (count n : ℕ) : (bytesOfNat count n).length = count := by
  induction count generalizing n with
  | zero => rfl
  | succ count ih => rw [bytesOfNat, List.length_append, ih, List.length_singleton]

/-- What is read back is the number without the bytes that had no place. -/
theorem natOfBytes_bytesOfNat (count n : ℕ) :
    natOfBytes (bytesOfNat count n) = n % 256 ^ count := by
  induction count generalizing n with
  | zero => simp [bytesOfNat, Nat.mod_one]
  | succ count ih =>
    have hlast : (UInt8.ofNat n).toNat = n % 256 := UInt8.toNat_ofNat'
    rw [bytesOfNat, natOfBytes_concat, ih, hlast, pow_succ', Nat.mod_mul]
    exact Nat.add_comm _ _

theorem natOfBytes_bytesOfNat_of_lt {count n : ℕ} (h : n < 256 ^ count) :
    natOfBytes (bytesOfNat count n) = n := by
  rw [natOfBytes_bytesOfNat, Nat.mod_eq_of_lt h]

/-- Bytes are what is written for their number. -/
theorem bytesOfNat_natOfBytes (bytes : List UInt8) :
    bytesOfNat bytes.length (natOfBytes bytes) = bytes := by
  induction bytes using List.reverseRecOn with
  | nil => rfl
  | append_singleton bytes b ih =>
    have hb := b.toNat_lt
    have hfront : (256 * natOfBytes bytes + b.toNat) / 256 = natOfBytes bytes := by omega
    have hlast : UInt8.ofNat (256 * natOfBytes bytes + b.toNat) = b := by
      apply UInt8.toNat.inj
      rw [UInt8.toNat_ofNat']
      omega
    rw [List.length_append, List.length_singleton, bytesOfNat, natOfBytes_concat, hfront, ih, hlast]

/-- As many bytes that stand for the same number are the same. -/
theorem natOfBytes_inj {a b : List UInt8} (hlength : a.length = b.length)
    (h : natOfBytes a = natOfBytes b) : a = b := by
  rw [← bytesOfNat_natOfBytes a, hlength, h, bytesOfNat_natOfBytes]

/-- The last bytes of a number are the number written with fewer bytes. -/
theorem drop_bytesOfNat (front count n : ℕ) :
    (bytesOfNat (front + count) n).drop front = bytesOfNat count n := by
  induction count generalizing n with
  | zero => exact List.drop_of_length_le (by simp)
  | succ count ih =>
    rw [← Nat.add_assoc, bytesOfNat, List.drop_append_of_le_length (by simp), ih, bytesOfNat]

/-! ## Texts -/

theorem utf8Bytes_eq (s : String) : utf8Bytes s = s.toByteArray.data.toList := by
  have hbytes : (utf8Bytes s).toByteArray = s.toByteArray := String.utf8Encode_toList
  rw [← hbytes, List.data_toByteArray]

end ContractLens
