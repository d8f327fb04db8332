import Mathlib.Algebra.Order.Ring.Nat
import Mathlib.Data.List.Basic

/-! # Texts and numbers as bytes -/

namespace Encoding

/-- The bytes of a text, as they are sent. -/
def utf8 (text : String) : List UInt8 := text.toUTF8.data.toList

theorem utf8_append (text text' : String) : utf8 (text ++ text') = utf8 text ++ utf8 text' := by
  rw [utf8, String.toUTF8_eq_toByteArray, String.toByteArray_append, ByteArray.data_append,
    Array.toList_append]
  rfl

/-- A text of ASCII characters has one byte for each of them. -/
theorem utf8_ofList {text : List Char} (ascii : ∀ c ∈ text, c.toNat < 128) :
    utf8 (String.ofList text) = text.map fun c => c.val.toUInt8 := by
  rw [utf8, String.toUTF8_eq_toByteArray, String.toByteArray_ofList, List.utf8Encode,
    List.toList_data_toByteArray]
  induction text with
  | nil => rfl
  | cons c text ih =>
    have small : c.toNat < 128 := ascii c (List.mem_cons_self ..)
    have size : c.utf8Size = 1 := by
      rw [Char.utf8Size_eq_one_iff, UInt32.le_iff_toNat_le]
      exact Nat.le_of_lt_succ small
    rw [List.flatMap_cons, String.utf8EncodeChar_eq_singleton size, List.map_cons,
      ih fun c member => ascii c (List.mem_cons_of_mem _ member)]
    rfl

theorem utf8_injective {text text' : String} (same : utf8 text = utf8 text') : text = text' := by
  rw [← String.toByteArray_inj]
  exact ByteArray.ext (Array.toList_inj.mp same)

/-- Bytes are read as the text whose bytes they are. -/
theorem fromUTF8?_eq_some_iff {bytes : List UInt8} {text : String} :
    String.fromUTF8? ⟨bytes.toArray⟩ = some text ↔ utf8 text = bytes := by
  rw [String.fromUTF8?]
  constructor
  · intro read
    split at read
    case isTrue valid =>
      obtain rfl := Option.some.inj read
      rfl
    case isFalse broken => cases read
  · rintro rfl
    have whole : (⟨(utf8 text).toArray⟩ : ByteArray) = text.toByteArray := rfl
    have valid : ByteArray.IsValidUTF8 ⟨(utf8 text).toArray⟩ := by
      rw [whole]
      exact text.isValidUTF8
    rw [dif_pos valid]
    apply congrArg some
    rw [← String.toByteArray_inj]
    exact whole

/-! ## Little-endian numbers -/

namespace LittleEndian

/-- A number as a fixed count of bytes, the lowest first. -/
def write : ℕ → ℕ → List UInt8
  | 0, _ => []
  | width + 1, n => UInt8.ofNat n :: write width (n / 256)

def read : List UInt8 → ℕ
  | [] => 0
  | byte :: rest => byte.toNat + 256 * read rest

theorem write_length (width n : ℕ) : (write width n).length = width := by
  induction width generalizing n with
  | zero => rfl
  | succ width ih => rw [write, List.length_cons, ih]

/-- A number that fits is read back. -/
theorem read_write {width n : ℕ} (fits : n < 256 ^ width) : read (write width n) = n := by
  induction width generalizing n with
  | zero =>
    rw [Nat.pow_zero] at fits
    rw [write, read]
    omega
  | succ width ih =>
    have rest : n / 256 < 256 ^ width := by
      rw [Nat.pow_succ] at fits
      exact Nat.div_lt_of_lt_mul (by rwa [Nat.mul_comm])
    have byte : (UInt8.ofNat n).toNat = n % 256 := by simp
    rw [write, read, ih rest, byte]
    omega

end LittleEndian

end Encoding
