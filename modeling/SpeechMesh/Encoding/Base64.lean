import Mathlib.Data.List.Basic
import Mathlib.Data.Nat.Digits.Defs

/-! # Standard Base64

Three bytes are written as four digits, and what is left at the end is padded. The decoder is
strict: it wants the padding, and the bits that stand for nothing to be zero.
-/

namespace Encoding.Base64

def alphabet : List Char :=
  "ABCDEFGHIJKLMNOPQRSTUVWXYZabcdefghijklmnopqrstuvwxyz0123456789+/".toList

def digit (n : ℕ) : Char := alphabet.getD n '='

/-- The value of a digit. -/
def value? (c : Char) : Option ℕ :=
  if 'A' ≤ c ∧ c ≤ 'Z' then some (c.toNat - 'A'.toNat)
  else if 'a' ≤ c ∧ c ≤ 'z' then some (c.toNat - 'a'.toNat + 26)
  else if '0' ≤ c ∧ c ≤ '9' then some (c.toNat - '0'.toNat + 52)
  else if c = '+' then some 62
  else if c = '/' then some 63
  else none

def encode : List UInt8 → List Char
  | [] => []
  | [a] => [digit (a.toNat / 4), digit (a.toNat % 4 * 16), '=', '=']
  | [a, b] =>
      [digit (a.toNat / 4), digit (a.toNat % 4 * 16 + b.toNat / 16), digit (b.toNat % 16 * 4), '=']
  | a :: b :: c :: rest =>
      digit (a.toNat / 4) :: digit (a.toNat % 4 * 16 + b.toNat / 16) ::
        digit (b.toNat % 16 * 4 + c.toNat / 64) :: digit (c.toNat % 64) :: encode rest

def decode : List Char → Option (List UInt8)
  | [] => some []
  | [w, x, '=', '='] => do
      let w ← value? w
      let x ← value? x
      if x % 16 = 0 then return [UInt8.ofNat (w * 4 + x / 16)] else none
  | [w, x, y, '='] => do
      let w ← value? w
      let x ← value? x
      let y ← value? y
      if y % 4 = 0 then
        return [UInt8.ofNat (w * 4 + x / 16), UInt8.ofNat (x % 16 * 16 + y / 4)]
      else none
  | w :: x :: y :: z :: rest => do
      let w ← value? w
      let x ← value? x
      let y ← value? y
      let z ← value? z
      let bytes ← decode rest
      return UInt8.ofNat (w * 4 + x / 16) :: UInt8.ofNat (x % 16 * 16 + y / 4) ::
        UInt8.ofNat (y % 4 * 64 + z) :: bytes
  | _ => none

/-! ## Digits -/

/-- What holds of the digits up to 64 is checked digit by digit. -/
@[simp] theorem value?_digit {n : ℕ} (small : n < 64) : value? (digit n) = some n := by
  have all : ∀ m : Fin 64, value? (digit m) = some m.val := by decide +kernel
  exact all ⟨n, small⟩

theorem value?_pad : value? '=' = none := by decide

theorem digit_ne_pad {n : ℕ} (small : n < 64) : digit n ≠ '=' := by
  intro same
  have read := value?_digit small
  rw [same, value?_pad] at read
  cases read

/-! ## Reading what was written -/

theorem ofNat_eq {n : ℕ} {byte : UInt8} (same : n = byte.toNat) : UInt8.ofNat n = byte := by
  rw [same, UInt8.ofNat_toNat]

/-- A group of four digits, the last of which is no padding. -/
theorem decode_group {w x y z : Char} {rest : List Char} (notPad : z ≠ '=') :
    decode (w :: x :: y :: z :: rest) = do
      let w ← value? w
      let x ← value? x
      let y ← value? y
      let z ← value? z
      let bytes ← decode rest
      return UInt8.ofNat (w * 4 + x / 16) :: UInt8.ofNat (x % 16 * 16 + y / 4) ::
        UInt8.ofNat (y % 4 * 64 + z) :: bytes := by
  rw [decode]
  · intro _ pad _
    exact notPad pad
  · intro pad _
    exact notPad pad

theorem decode_three {w x y : Char} (notPad : y ≠ '=') :
    decode [w, x, y, '='] = (do
      let w ← value? w
      let x ← value? x
      let y ← value? y
      if y % 4 = 0 then
        return [UInt8.ofNat (w * 4 + x / 16), UInt8.ofNat (x % 16 * 16 + y / 4)]
      else none) := by
  rw [decode]
  exact notPad

theorem decode_encode (bytes : List UInt8) : decode (encode bytes) = some bytes := by
  induction bytes using encode.induct with
  | case1 => rfl
  | case2 a =>
    have ha := a.toNat_lt
    have first : a.toNat / 4 < 64 := by omega
    have second : a.toNat % 4 * 16 < 64 := by omega
    have whole : a.toNat / 4 * 4 + a.toNat % 4 * 16 / 16 = a.toNat := by omega
    have zero : a.toNat % 4 * 16 % 16 = 0 := by omega
    rw [encode, decode, value?_digit first, value?_digit second]
    simp only [Option.bind_eq_bind, Option.bind_some, zero, if_true, ofNat_eq whole]
    rfl
  | case3 a b =>
    have ha := a.toNat_lt
    have hb := b.toNat_lt
    have first : a.toNat / 4 < 64 := by omega
    have second : a.toNat % 4 * 16 + b.toNat / 16 < 64 := by omega
    have third : b.toNat % 16 * 4 < 64 := by omega
    have wholeA : a.toNat / 4 * 4 + (a.toNat % 4 * 16 + b.toNat / 16) / 16 = a.toNat := by omega
    have wholeB : (a.toNat % 4 * 16 + b.toNat / 16) % 16 * 16 + b.toNat % 16 * 4 / 4 = b.toNat := by
      omega
    have zero : b.toNat % 16 * 4 % 4 = 0 := by omega
    rw [encode, decode_three (digit_ne_pad third), value?_digit first, value?_digit second,
      value?_digit third]
    simp only [Option.bind_eq_bind, Option.bind_some, zero, if_true, ofNat_eq wholeA,
      ofNat_eq wholeB]
    rfl
  | case4 a b c rest ih =>
    have ha := a.toNat_lt
    have hb := b.toNat_lt
    have hc := c.toNat_lt
    have first : a.toNat / 4 < 64 := by omega
    have second : a.toNat % 4 * 16 + b.toNat / 16 < 64 := by omega
    have third : b.toNat % 16 * 4 + c.toNat / 64 < 64 := by omega
    have fourth : c.toNat % 64 < 64 := by omega
    have wholeA : a.toNat / 4 * 4 + (a.toNat % 4 * 16 + b.toNat / 16) / 16 = a.toNat := by omega
    have wholeB : (a.toNat % 4 * 16 + b.toNat / 16) % 16 * 16 +
        (b.toNat % 16 * 4 + c.toNat / 64) / 4 = b.toNat := by omega
    have wholeC : (b.toNat % 16 * 4 + c.toNat / 64) % 4 * 64 + c.toNat % 64 = c.toNat := by omega
    rw [encode, decode_group (digit_ne_pad fourth), value?_digit first, value?_digit second,
      value?_digit third, value?_digit fourth, ih]
    simp only [Option.bind_eq_bind, Option.bind_some, ofNat_eq wholeA, ofNat_eq wholeB,
      ofNat_eq wholeC]
    rfl

/-! ## The shape of what is written -/

/-- Every character is a digit or padding. -/
theorem encode_chars (bytes : List UInt8) :
    ∀ c ∈ encode bytes, c = '=' ∨ ∃ n < 64, c = digit n := by
  induction bytes using encode.induct with
  | case1 => simp [encode]
  | case2 a =>
    have ha := a.toNat_lt
    intro c member
    simp only [encode, List.mem_cons, List.not_mem_nil, or_false] at member
    rcases member with rfl | rfl | rfl | rfl
    · exact .inr ⟨_, by omega, rfl⟩
    · exact .inr ⟨_, by omega, rfl⟩
    · exact .inl rfl
    · exact .inl rfl
  | case3 a b =>
    have ha := a.toNat_lt
    have hb := b.toNat_lt
    intro c member
    simp only [encode, List.mem_cons, List.not_mem_nil, or_false] at member
    rcases member with rfl | rfl | rfl | rfl
    · exact .inr ⟨_, by omega, rfl⟩
    · exact .inr ⟨_, by omega, rfl⟩
    · exact .inr ⟨_, by omega, rfl⟩
    · exact .inl rfl
  | case4 a b c rest ih =>
    have ha := a.toNat_lt
    have hb := b.toNat_lt
    have hc := c.toNat_lt
    intro char member
    simp only [encode, List.mem_cons] at member
    rcases member with rfl | rfl | rfl | rfl | member
    · exact .inr ⟨_, by omega, rfl⟩
    · exact .inr ⟨_, by omega, rfl⟩
    · exact .inr ⟨_, by omega, rfl⟩
    · exact .inr ⟨_, by omega, rfl⟩
    · exact ih char member

/-- There are four characters for every three bytes, the last of which may be missing. -/
theorem encode_length (bytes : List UInt8) :
    (encode bytes).length = (bytes.length + 2) / 3 * 4 := by
  induction bytes using encode.induct with
  | case1 => rfl
  | case2 a => simp [encode]
  | case3 a b => simp [encode]
  | case4 a b c rest ih =>
    simp only [encode, List.length_cons, ih]
    omega

/-- Only nothing is read as nothing. -/
theorem decode_eq_nil {text : List Char} (read : decode text = some []) : text = [] := by
  unfold decode at read
  split at read
  · rfl
  · obtain ⟨w, _, read⟩ := Option.bind_eq_some_iff.mp read
    obtain ⟨x, _, read⟩ := Option.bind_eq_some_iff.mp read
    split_ifs at read
    cases read
  · obtain ⟨w, _, read⟩ := Option.bind_eq_some_iff.mp read
    obtain ⟨x, _, read⟩ := Option.bind_eq_some_iff.mp read
    obtain ⟨y, _, read⟩ := Option.bind_eq_some_iff.mp read
    split_ifs at read
    cases read
  · obtain ⟨w, _, read⟩ := Option.bind_eq_some_iff.mp read
    obtain ⟨x, _, read⟩ := Option.bind_eq_some_iff.mp read
    obtain ⟨y, _, read⟩ := Option.bind_eq_some_iff.mp read
    obtain ⟨z, _, read⟩ := Option.bind_eq_some_iff.mp read
    obtain ⟨bytes, _, read⟩ := Option.bind_eq_some_iff.mp read
    cases read
  · cases read

end Encoding.Base64
