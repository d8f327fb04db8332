import SpeechMesh.Soundness.AudioDecoding

/-! # Which texts decode as hexadecimal digits

The decoder reads two bytes at a time with the parser for numbers, which also accepts a plus sign
before a digit. It decodes nothing else than digits unless such a pair makes it through.
-/

namespace SpeechMesh.Soundness

open Encoding Model

/-! ## One pair -/

theorem hexValue_lt {c : Char} (digit : isAsciiHexDigit c = true) : hexValue c < 16 := by
  have all : ∀ n : Fin 128, isAsciiHexDigit (Char.ofNat n) = true →
      hexValue (Char.ofNat n) < 16 := by decide
  have small : c.toNat < 128 := by
    have bounds := isAsciiHexDigit_bounds digit
    omega
  have found := all ⟨c.toNat, small⟩
  rw [Char.ofNat_toNat] at found
  exact found digit

theorem not_isAsciiHexDigit_plus : isAsciiHexDigit '+' = false := by decide

/-- A digit is written as its value, in lower case. -/
theorem hexDigit_hexValue {c : Char} (digit : isAsciiHexDigit c = true) :
    hexDigit false (hexValue c) = c.toLower := by
  have all : ∀ n : Fin 128, isAsciiHexDigit (Char.ofNat n) = true →
      hexDigit false (hexValue (Char.ofNat n)) = (Char.ofNat n).toLower := by decide
  have small : c.toNat < 128 := by
    have bounds := isAsciiHexDigit_bounds digit
    omega
  have found := all ⟨c.toNat, small⟩
  rw [Char.ofNat_toNat] at found
  exact found digit

theorem digits_of_hexNumber {value : ℕ} {text : List Char} {byte : UInt8}
    (read : hexNumber value text = .ok byte) : ∀ c ∈ text, isAsciiHexDigit c = true := by
  induction text generalizing value with
  | nil => simp
  | cons c rest ih =>
    rw [hexNumber] at read
    split_ifs at read with digit fits
    rw [List.forall_mem_cons]
    exact ⟨digit, ih read⟩

theorem u8FromHex_signed (low : Char) :
    u8FromHex (String.ofList ['+', low]) = hexNumber 0 [low] := by
  unfold u8FromHex
  rw [String.toList_ofList]
  rfl

theorem u8FromHex_unsigned {high low : Char} (plain : high ≠ '+') :
    u8FromHex (String.ofList [high, low]) = hexNumber 0 [high, low] := by
  unfold u8FromHex
  rw [String.toList_ofList]
  split
  · contradiction
  · next same => cases same
  · next digits _ same => exact absurd (List.cons.inj same).1 plain
  · rfl

/-- The parser for numbers reads a pair of characters as `hexByte` does. -/
theorem u8FromHex_pair (high low : Char) :
    u8FromHex (String.ofList [high, low]) = hexByte high low := by
  rw [hexByte]
  by_cases sign : high = '+'
  · subst sign
    have noDigit : ¬ (isAsciiHexDigit '+' = true ∧ isAsciiHexDigit low = true) := by
      rw [not_isAsciiHexDigit_plus]
      exact fun both => Bool.false_ne_true both.1
    rw [u8FromHex_signed, hexNumber, if_neg noDigit]
    by_cases digit : isAsciiHexDigit low = true
    · have small := hexValue_lt digit
      rw [if_pos digit, if_pos (by omega), if_pos ⟨rfl, digit⟩, hexNumber, Nat.zero_mul,
        Nat.zero_add]
    · rw [if_neg digit, if_neg (fun both => digit both.2)]
  · rw [u8FromHex_unsigned sign, hexNumber]
    by_cases first : isAsciiHexDigit high = true
    · have bound := hexValue_lt first
      rw [if_pos first, if_pos (by omega), hexNumber, Nat.zero_mul, Nat.zero_add]
      by_cases second : isAsciiHexDigit low = true
      · have bound' := hexValue_lt second
        rw [if_pos second, if_pos (by omega), if_pos ⟨first, second⟩, hexNumber]
      · rw [if_neg second, if_neg (fun both => second both.2), if_neg (fun both => sign both.1)]
    · rw [if_neg first, if_neg (fun both => first both.1), if_neg (fun both => sign both.1)]

theorem ascii_of_u8FromHex {text : String} {byte : UInt8} (read : u8FromHex text = .ok byte) :
    ∀ c ∈ text.toList, c.toNat < 128 := by
  have ascii {c : Char} (digit : isAsciiHexDigit c = true) : c.toNat < 128 := by
    have bounds := isAsciiHexDigit_bounds digit
    omega
  rw [u8FromHex] at read
  split at read
  · cases read
  · cases read
  · next digits _ same =>
    rw [same, List.forall_mem_cons]
    exact ⟨by decide, fun c member => ascii (digits_of_hexNumber read c member)⟩
  · exact fun c member => ascii (digits_of_hexNumber read c member)

/-! ## The loop over the bytes -/

/-- The byte of an ASCII character. -/
def asciiByte (c : Char) : UInt8 := c.val.toUInt8

theorem fromUTF8?_ascii {high low : Char} (first : high.toNat < 128) (second : low.toNat < 128) :
    String.fromUTF8? ⟨#[asciiByte high, asciiByte low]⟩ = some (String.ofList [high, low]) := by
  have ascii : ∀ c ∈ [high, low], c.toNat < 128 := by simp [first, second]
  refine (@fromUTF8?_eq_some_iff [asciiByte high, asciiByte low] _).mpr ?_
  exact utf8_ofList ascii

theorem ascii_of_hexByte {high low : Char} {byte : UInt8} (read : hexByte high low = .ok byte) :
    high.toNat < 128 ∧ low.toNat < 128 := by
  rw [← u8FromHex_pair] at read
  have ascii := ascii_of_u8FromHex read
  rw [String.toList_ofList] at ascii
  exact ⟨ascii high (by simp), ascii low (by simp)⟩

/-- Two bytes that the parser accepts are two ASCII characters. -/
theorem exists_pair {first second : UInt8} {pair : String} {byte : UInt8}
    (decoded : String.fromUTF8? ⟨#[first, second]⟩ = some pair) (read : u8FromHex pair = .ok byte) :
    ∃ high low, first = asciiByte high ∧ second = asciiByte low ∧ hexByte high low = .ok byte := by
  have whole : utf8 pair = [first, second] := fromUTF8?_eq_some_iff.mp decoded
  have ascii := utf8_ofList (ascii_of_u8FromHex read)
  rw [String.ofList_toList, whole] at ascii
  match chars : pair.toList with
  | [] => rw [chars] at ascii; cases ascii
  | [_] => rw [chars] at ascii; cases ascii
  | _ :: _ :: _ :: _ => rw [chars] at ascii; cases ascii
  | [high, low] =>
    rw [chars] at ascii
    have same : pair = String.ofList [high, low] := by rw [← chars, String.ofList_toList]
    rw [same, u8FromHex_pair] at read
    refine ⟨high, low, ?_, ?_, read⟩
    · exact (List.cons.inj ascii).1
    · exact (List.cons.inj (List.cons.inj ascii).2).1

/-- An even number of bytes never makes the loop panic. -/
theorem decodeHexLoop_ne_none {bytes : Bytes} (even : bytes.length % 2 = 0) :
    decodeHexLoop bytes ≠ none := by
  induction bytes using decodeHexLoop.induct with
  | case1 => nofun
  | case2 byte => cases even
  | case3 first second rest broken =>
    rw [decodeHexLoop, broken]
    nofun
  | case4 first second rest pair decoded error failed =>
    rw [decodeHexLoop, decoded]
    dsimp only
    rw [failed]
    nofun
  | case5 first second rest pair decoded byte read ih =>
    rw [decodeHexLoop, decoded]
    dsimp only
    rw [read]
    intro broke
    refine ih ?_ (Option.map_eq_none_iff.mp broke)
    rw [List.length_cons, List.length_cons] at even
    omega

theorem ascii_of_hexPairs {text : List Char} {bytes : Bytes} (even : text.length % 2 = 0)
    (pairs : hexPairs text = .ok bytes) : ∀ c ∈ text, c.toNat < 128 := by
  induction text using hexPairs.induct generalizing bytes with
  | case1 high low rest ih =>
    rw [hexPairs] at pairs
    obtain ⟨byte, first, pairs⟩ := exists_of_bind_ok pairs
    obtain ⟨later, rests, _⟩ := exists_of_bind_ok pairs
    obtain ⟨highAscii, lowAscii⟩ := ascii_of_hexByte first
    rw [List.length_cons, List.length_cons] at even
    rw [List.forall_mem_cons, List.forall_mem_cons]
    exact ⟨highAscii, lowAscii, ih (by omega) rests⟩
  | case2 text short =>
    cases text with
    | nil => simp
    | cons high rest =>
      cases rest with
      | nil => cases even
      | cons low rest => exact absurd rfl (short high low rest)

/-- ASCII characters are decoded in pairs. -/
theorem decodeHexLoop_ascii {text : List Char} (ascii : ∀ c ∈ text, c.toNat < 128)
    (even : text.length % 2 = 0) :
    decodeHexLoop (text.map asciiByte) = some (hexPairs text) := by
  induction text using hexPairs.induct with
  | case1 high low rest ih =>
    rw [List.forall_mem_cons, List.forall_mem_cons] at ascii
    rw [List.length_cons, List.length_cons] at even
    rw [List.map_cons, List.map_cons, decodeHexLoop, fromUTF8?_ascii ascii.1 ascii.2.1, hexPairs]
    dsimp only
    rw [u8FromHex_pair, ih ascii.2.2 (by omega)]
    cases hexByte high low with
    | error error => rfl
    | ok byte =>
      cases hexPairs rest with
      | error error => rfl
      | ok bytes => rfl
  | case2 text short =>
    cases text with
    | nil => rfl
    | cons high rest =>
      cases rest with
      | nil => cases even
      | cons low rest => exact absurd rfl (short high low rest)

/-- Bytes that are decoded are those of ASCII characters. -/
theorem exists_of_decodeHexLoop {bytes decoded : Bytes}
    (ran : decodeHexLoop bytes = some (.ok decoded)) :
    ∃ text : List Char, (∀ c ∈ text, c.toNat < 128) ∧ bytes = text.map asciiByte ∧
      text.length % 2 = 0 ∧ hexPairs text = .ok decoded := by
  induction bytes using decodeHexLoop.induct generalizing decoded with
  | case1 => exact ⟨[], by simp, rfl, rfl, Option.some.inj ran⟩
  | case2 byte => cases ran
  | case3 first second rest broken =>
    rw [decodeHexLoop, broken] at ran
    cases ran
  | case4 first second rest pair read error failed =>
    rw [decodeHexLoop, read] at ran
    dsimp only at ran
    rw [failed] at ran
    cases ran
  | case5 first second rest pair read byte number ih =>
    rw [decodeHexLoop, read] at ran
    dsimp only at ran
    rw [number] at ran
    obtain ⟨later, ranLater, same⟩ := Option.map_eq_some_iff.mp ran
    cases later with
    | error error => cases same
    | ok later =>
      obtain rfl := Except.ok.inj same
      obtain ⟨text, ascii, rfl, even, pairs⟩ := ih ranLater
      obtain ⟨high, low, rfl, rfl, made⟩ := exists_pair read number
      obtain ⟨highAscii, lowAscii⟩ := ascii_of_hexByte made
      refine ⟨high :: low :: text, ?_, rfl, ?_, ?_⟩
      · rw [List.forall_mem_cons, List.forall_mem_cons]
        exact ⟨highAscii, lowAscii, ascii⟩
      · rw [List.length_cons, List.length_cons]
        omega
      · rw [hexPairs, made, pairs]
        rfl

/-! ## Which texts are decoded -/

/-- The text without its whitespace. -/
def compactText (value : String) : List Char := value.toList.filter fun c => !isWhitespace c

/-- A text decodes exactly if, without whitespace, it decodes in pairs of characters. -/
theorem decodeHexBytes_ok_iff (value : String) (bytes : Bytes) :
    decodeHexBytes value = some (.ok bytes) ↔
      (compactText value).length % 2 = 0 ∧ hexPairs (compactText value) = .ok bytes := by
  rw [decodeHexBytes, ← compactText]
  constructor
  · intro ran
    split_ifs at ran with odd
    · cases ran
    obtain ⟨text, ascii, same, even, pairs⟩ := exists_of_decodeHexLoop ran
    have texts := utf8_injective (same.trans (utf8_ofList ascii).symm)
    rw [String.ofList_injective texts]
    exact ⟨even, pairs⟩
  · rintro ⟨even, pairs⟩
    have ascii := ascii_of_hexPairs even pairs
    rw [utf8_ofList ascii, List.length_map, if_neg (not_not_intro even), ← pairs]
    exact decodeHexLoop_ascii ascii even

/-- The reading on characters decodes the same texts to the same bytes. -/
theorem decodeHex_ok_iff (value : String) (bytes : Bytes) :
    decodeHex value = .ok bytes ↔ decodeHexBytes value = some (.ok bytes) := by
  rw [decodeHexBytes_ok_iff, decodeHex, ← compactText]
  constructor
  · intro ran
    split_ifs at ran with odd plain
    have ascii : ∀ c ∈ compactText value, c.toNat < 128 := fun c member =>
      of_decide_eq_true (List.all_eq_true.mp plain c member)
    rw [utf8ByteSize_ofList ascii] at odd
    exact ⟨by omega, ran⟩
  · rintro ⟨even, pairs⟩
    have ascii := ascii_of_hexPairs even pairs
    have plain : (compactText value).all (fun c => decide (c.toNat < 128)) = true :=
      List.all_eq_true.mpr fun c member => decide_eq_true (ascii c member)
    rw [utf8ByteSize_ofList ascii, if_neg (not_not_intro even), if_pos plain]
    exact pairs

/-- Hexadecimal digits, as many as bytes have. -/
def HexText (text : List Char) : Prop :=
  text.length % 2 = 0 ∧ ∀ c ∈ text, isAsciiHexDigit c = true

/-- Pairs of digits, where a plus sign may stand for the first one. -/
def SignedPairs : List Char → Prop
  | [] => True
  | [_] => False
  | high :: low :: rest =>
      (isAsciiHexDigit high = true ∨ high = '+') ∧ isAsciiHexDigit low = true ∧ SignedPairs rest

theorem exists_hexByte_iff (high low : Char) :
    (∃ byte, hexByte high low = .ok byte) ↔
      (isAsciiHexDigit high = true ∨ high = '+') ∧ isAsciiHexDigit low = true := by
  rw [hexByte]
  split_ifs with digits signed
  · exact iff_of_true ⟨_, rfl⟩ ⟨.inl digits.1, digits.2⟩
  · exact iff_of_true ⟨_, rfl⟩ ⟨.inr signed.1, signed.2⟩
  · apply iff_of_false
    · rintro ⟨_, made⟩
      cases made
    rintro ⟨first | sign, second⟩
    · exact digits ⟨first, second⟩
    · exact signed ⟨sign, second⟩

theorem exists_hexPairs_iff (text : List Char) :
    (text.length % 2 = 0 ∧ ∃ bytes, hexPairs text = .ok bytes) ↔ SignedPairs text := by
  induction text using SignedPairs.induct with
  | case1 => exact iff_of_true ⟨rfl, [], rfl⟩ trivial
  | case2 c => exact iff_of_false (fun both => by cases both.1) id
  | case3 high low rest ih =>
    rw [SignedPairs, ← ih, ← and_assoc, ← exists_hexByte_iff, hexPairs, List.length_cons,
      List.length_cons]
    constructor
    · rintro ⟨even, bytes, ran⟩
      obtain ⟨byte, first, ran⟩ := exists_of_bind_ok ran
      obtain ⟨later, rests, _⟩ := exists_of_bind_ok ran
      exact ⟨⟨byte, first⟩, by omega, later, rests⟩
    · rintro ⟨⟨byte, first⟩, even, later, rests⟩
      refine ⟨by omega, byte :: later, ?_⟩
      rw [first, rests]
      rfl

theorem signedPairs_of_hexText {text : List Char} (hex : HexText text) : SignedPairs text := by
  induction text using SignedPairs.induct with
  | case1 => trivial
  | case2 c => cases hex.1
  | case3 high low rest ih =>
    obtain ⟨even, digits⟩ := hex
    rw [List.forall_mem_cons, List.forall_mem_cons] at digits
    rw [List.length_cons, List.length_cons] at even
    exact ⟨.inl digits.1, digits.2.1, ih ⟨by omega, digits.2.2⟩⟩

theorem hexText_of_signedPairs {text : List Char} (pairs : SignedPairs text)
    (plain : '+' ∉ text) : HexText text := by
  induction text using SignedPairs.induct with
  | case1 => exact ⟨rfl, by simp⟩
  | case2 c => exact pairs.elim
  | case3 high low rest ih =>
    obtain ⟨first, second, pairs⟩ := pairs
    rw [List.mem_cons, List.mem_cons, not_or, not_or] at plain
    obtain ⟨even, digits⟩ := ih pairs plain.2.2
    constructor
    · rw [List.length_cons, List.length_cons]
      omega
    · rw [List.forall_mem_cons, List.forall_mem_cons]
      exact ⟨first.resolve_right (Ne.symm plain.1), second, digits⟩

/-- The bytes of hexadecimal digits are written as these digits, in lower case. -/
theorem hexOf_of_hexPairs {text : List Char} {bytes : Bytes} (hex : HexText text)
    (pairs : hexPairs text = .ok bytes) : hexOf false bytes = text.map Char.toLower := by
  induction text using SignedPairs.induct generalizing bytes with
  | case1 =>
    obtain rfl := Except.ok.inj pairs
    rfl
  | case2 c => cases hex.1
  | case3 high low rest ih =>
    obtain ⟨even, digits⟩ := hex
    rw [List.forall_mem_cons, List.forall_mem_cons] at digits
    rw [List.length_cons, List.length_cons] at even
    rw [hexPairs, hexByte, if_pos ⟨digits.1, digits.2.1⟩] at pairs
    obtain ⟨byte, first, pairs⟩ := exists_of_bind_ok pairs
    obtain ⟨later, rests, same⟩ := exists_of_bind_ok pairs
    obtain rfl := Except.ok.inj first
    obtain rfl := Except.ok.inj same
    have highSmall := hexValue_lt digits.1
    have lowSmall := hexValue_lt digits.2.1
    have whole : (UInt8.ofNat (hexValue high * 16 + hexValue low)).toNat =
        hexValue high * 16 + hexValue low := by
      rw [UInt8.toNat_ofNat']
      omega
    have upper : (hexValue high * 16 + hexValue low) / 16 = hexValue high := by omega
    have lower : (hexValue high * 16 + hexValue low) % 16 = hexValue low := by omega
    rw [hexOf, List.flatMap_cons, whole, upper, lower, hexDigit_hexValue digits.1,
      hexDigit_hexValue digits.2.1, ← hexOf, ih ⟨by omega, digits.2.2⟩ rests]
    rfl

/-- What decoding hexadecimal digits promises: it accepts these and nothing else, it yields the bytes
they stand for, and it never panics. -/
structure DecodesDigits (value : String) : Prop where
  accepts : (∃ bytes, decodeHexBytes value = some (.ok bytes)) ↔ HexText (compactText value)
  reencodes : ∀ bytes, decodeHexBytes value = some (.ok bytes) →
    hexOf false bytes = (compactText value).map Char.toLower
  total : decodeHexBytes value ≠ none

theorem decodeHexBytes_ne_none (value : String) : decodeHexBytes value ≠ none := by
  rw [decodeHexBytes]
  split_ifs with odd
  · nofun
  · exact decodeHexLoop_ne_none (by omega)

theorem accepts_signedPairs_iff (value : String) :
    (∃ bytes, decodeHexBytes value = some (.ok bytes)) ↔ SignedPairs (compactText value) := by
  rw [← exists_hexPairs_iff, ← exists_and_left]
  exact exists_congr fun bytes => decodeHexBytes_ok_iff value bytes

/-- The decoder keeps its promise unless a plus sign stands in for a digit of a text that decodes. -/
theorem decodesDigits_iff (value : String) :
    DecodesDigits value ↔ (SignedPairs (compactText value) → '+' ∉ compactText value) := by
  constructor
  · intro decodes signed sign
    have hex := decodes.accepts.mp ((accepts_signedPairs_iff value).mpr signed)
    have digit := hex.2 '+' sign
    rw [not_isAsciiHexDigit_plus] at digit
    cases digit
  · intro unsigned
    have accepts : (∃ bytes, decodeHexBytes value = some (.ok bytes)) ↔
        HexText (compactText value) := by
      rw [accepts_signedPairs_iff]
      constructor
      · exact fun signed => hexText_of_signedPairs signed (unsigned signed)
      · exact signedPairs_of_hexText
    constructor
    case accepts => exact accepts
    case reencodes =>
      intro bytes decoded
      have hex := accepts.mp ⟨bytes, decoded⟩
      exact hexOf_of_hexPairs hex ((decodeHexBytes_ok_iff value bytes).mp decoded).2
    case total => exact decodeHexBytes_ne_none value

theorem signedText_accepted : ¬ DecodesDigits "+f" := by
  intro decodes
  have accepted : decodeHexBytes "+f" = some (.ok [15]) := by decide
  have hex := decodes.accepts.mp ⟨[15], accepted⟩
  have sign : '+' ∈ compactText "+f" := by decide
  cases hex.2 '+' sign

end SpeechMesh.Soundness
