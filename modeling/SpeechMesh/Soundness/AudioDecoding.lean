import SpeechMesh.Model.TtsBridges

/-! # Decoding the audio of MiniMax

The decoder has to guess whether it is given hexadecimal digits or Base64. It reads back whatever
was written as hexadecimal digits. Base64 it reads back unless all of its characters happen to be
hexadecimal digits.
-/

namespace SpeechMesh.Soundness

open Model

/-! ## Texts between blanks -/

theorem trim_between {before text after : List Char}
    (blankBefore : ∀ c ∈ before, isWhitespace c = true)
    (blankAfter : ∀ c ∈ after, isWhitespace c = true)
    (solid : ∀ c ∈ text, isWhitespace c = false) :
    trim (String.ofList (before ++ text ++ after)) = String.ofList text := by
  have starts {rest tail : List Char} (blank : ∀ c ∈ rest, isWhitespace c = true) :
      (rest ++ tail).dropWhile isWhitespace = tail.dropWhile isWhitespace := by
    rw [List.dropWhile_append_of_pos blank]
  have kept {rest : List Char} (solid : ∀ c ∈ rest, isWhitespace c = false) :
      rest.dropWhile isWhitespace = rest := by
    cases rest with
    | nil => rfl
    | cons c rest => rw [List.dropWhile_cons_of_neg (by simp [solid c List.mem_cons_self])]
  cases text with
  | nil =>
    have blank : ∀ c ∈ before ++ [] ++ after, isWhitespace c = true := by
      intro c member
      rw [List.append_nil, List.mem_append] at member
      exact member.elim (blankBefore c) (blankAfter c)
    rw [trim, String.toList_ofList, ← List.append_nil (before ++ [] ++ after), starts blank]
    rfl
  | cons first rest =>
    have head : (first :: rest ++ after).dropWhile isWhitespace = first :: rest ++ after := by
      rw [List.cons_append,
        List.dropWhile_cons_of_neg (by simp [solid first List.mem_cons_self])]
    rw [trim, String.toList_ofList, List.append_assoc, starts blankBefore, head,
      List.reverse_append, starts, kept, List.reverse_reverse]
    · exact fun c member => solid c (List.mem_reverse.mp member)
    · exact fun c member => blankAfter c (List.mem_reverse.mp member)

theorem utf8ByteSize_ofList {text : List Char} (ascii : ∀ c ∈ text, c.toNat < 128) :
    (String.ofList text).utf8ByteSize = text.length := by
  induction text with
  | nil => rfl
  | cons c rest ih =>
    have size : c.utf8Size = 1 := by
      have small := ascii c List.mem_cons_self
      rw [Char.utf8Size_eq_one_iff, UInt32.le_iff_toNat_le]
      exact Nat.le_of_lt_succ small
    rw [String.ofList_cons, String.utf8ByteSize_append, String.utf8ByteSize_singleton, size,
      ih fun other member => ascii other (List.mem_cons_of_mem c member), List.length_cons]
    omega

/-! ## Hexadecimal digits -/

/-- A hexadecimal digit, in capitals or not. -/
def hexDigit (capital : Bool) (n : ℕ) : Char :=
  if n < 10 then Char.ofNat ('0'.toNat + n)
  else Char.ofNat ((if capital then 'A'.toNat else 'a'.toNat) + n - 10)

def hexOf (capital : Bool) (bytes : Bytes) : List Char :=
  bytes.flatMap fun byte => [hexDigit capital (byte.toNat / 16), hexDigit capital (byte.toNat % 16)]

theorem hexDigit_spec (capital : Bool) {n : ℕ} (small : n < 16) :
    isAsciiHexDigit (hexDigit capital n) = true ∧ hexValue (hexDigit capital n) = n := by
  have all : ∀ m : Fin 16, ∀ capital, isAsciiHexDigit (hexDigit capital m) = true ∧
      hexValue (hexDigit capital m) = m.val := by decide +kernel
  exact all ⟨n, small⟩ capital

theorem isAsciiHexDigit_bounds {c : Char} (digit : isAsciiHexDigit c = true) :
    48 ≤ c.toNat ∧ c.toNat ≤ 102 := by
  rw [isAsciiHexDigit, Bool.or_eq_true, Bool.or_eq_true, Bool.and_eq_true, Bool.and_eq_true,
    Bool.and_eq_true, decide_eq_true_eq, decide_eq_true_eq, decide_eq_true_eq, decide_eq_true_eq,
    decide_eq_true_eq, decide_eq_true_eq] at digit
  rcases digit with (⟨low, high⟩ | ⟨low, high⟩) | ⟨low, high⟩
  · change 48 ≤ c.toNat at low
    change c.toNat ≤ 57 at high
    omega
  · change 97 ≤ c.toNat at low
    change c.toNat ≤ 102 at high
    omega
  · change 65 ≤ c.toNat at low
    change c.toNat ≤ 70 at high
    omega

theorem not_isWhitespace {c : Char} (low : 33 ≤ c.toNat) (high : c.toNat < 128) :
    isWhitespace c = false := by
  rw [Bool.eq_false_iff]
  intro blank
  simp only [isWhitespace, Bool.or_eq_true, Bool.and_eq_true, decide_eq_true_eq,
    beq_iff_eq] at blank
  omega

theorem hexOf_digits (capital : Bool) (bytes : Bytes) :
    ∀ c ∈ hexOf capital bytes, isAsciiHexDigit c = true := by
  intro c member
  obtain ⟨byte, _, digit⟩ := List.mem_flatMap.mp member
  have small := byte.toNat_lt
  rcases List.mem_pair.mp digit with rfl | rfl
  · exact (hexDigit_spec capital (by omega)).1
  · exact (hexDigit_spec capital (by omega)).1

theorem hexOf_length (capital : Bool) (bytes : Bytes) :
    (hexOf capital bytes).length = 2 * bytes.length := by
  induction bytes with
  | nil => rfl
  | cons byte rest ih =>
    rw [hexOf, List.flatMap_cons, List.length_append, ← hexOf, ih]
    simp only [List.length_cons, List.length_nil]
    omega

theorem hexPairs_hexOf (capital : Bool) (bytes : Bytes) :
    hexPairs (hexOf capital bytes) = .ok bytes := by
  induction bytes with
  | nil => rfl
  | cons byte rest ih =>
    have small := byte.toNat_lt
    obtain ⟨highDigit, highValue⟩ := hexDigit_spec capital (n := byte.toNat / 16) (by omega)
    obtain ⟨lowDigit, lowValue⟩ := hexDigit_spec capital (n := byte.toNat % 16) (by omega)
    have whole : byte.toNat / 16 * 16 + byte.toNat % 16 = byte.toNat := by omega
    have read : hexByte (hexDigit capital (byte.toNat / 16)) (hexDigit capital (byte.toNat % 16)) =
        .ok byte := by
      rw [hexByte, if_pos ⟨highDigit, lowDigit⟩, highValue, lowValue, whole, UInt8.ofNat_toNat]
    rw [hexOf, List.flatMap_cons, List.cons_append, List.singleton_append, ← hexOf, hexPairs, read,
      ih]
    rfl

theorem hexPairs_length {digits : List Char} {bytes : Bytes} (read : hexPairs digits = .ok bytes) :
    bytes.length = digits.length / 2 := by
  induction digits using hexPairs.induct generalizing bytes with
  | case1 high low rest ih =>
    rw [hexPairs] at read
    obtain ⟨byte, _, read⟩ := exists_of_bind_ok read
    obtain ⟨others, later, same⟩ := exists_of_bind_ok read
    obtain rfl := Except.ok.inj same
    rw [List.length_cons, ih later, List.length_cons, List.length_cons]
    omega
  | case2 digits short =>
    rw [hexPairs] at read
    · obtain rfl := Except.ok.inj read
      match digits, short with
      | [], _ => rfl
      | [_], _ => simp
      | high :: low :: rest, short => exact absurd rfl (short high low rest)
    · exact short

/-! ## The decoder -/

/-- What the decoder makes of hexadecimal digits. -/
theorem decodeMinimaxAudio_digits (base64 : Base64) {before digits after : List Char}
    (blankBefore : ∀ c ∈ before, isWhitespace c = true)
    (blankAfter : ∀ c ∈ after, isWhitespace c = true)
    (all : ∀ c ∈ digits, isAsciiHexDigit c = true) (nonempty : digits ≠ [])
    (even : digits.length % 2 = 0) {bytes : Bytes} :
    decodeMinimaxAudio base64 (String.ofList (before ++ digits ++ after)) = .ok bytes ↔
      hexPairs digits = .ok bytes := by
  have bounds {c : Char} (member : c ∈ digits) := isAsciiHexDigit_bounds (all c member)
  have solid : ∀ c ∈ digits, isWhitespace c = false := fun c member =>
    not_isWhitespace (by have := bounds member; omega) (by have := bounds member; omega)
  have ascii : ∀ c ∈ digits, c.toNat < 128 := fun c member => by
    have := bounds member
    omega
  have compact : digits.filter (fun c => !isWhitespace c) = digits :=
    List.filter_eq_self.mpr fun c member => by rw [solid c member]; rfl
  have plain : digits.all (fun c => decide (c.toNat < 128)) = true :=
    List.all_eq_true.mpr fun c member => decide_eq_true (ascii c member)
  have hex : decodeHex (String.ofList digits) = hexPairs digits := by
    rw [decodeHex, String.toList_ofList, compact, utf8ByteSize_ofList ascii,
      if_neg (not_not_intro even), if_pos plain]
  have spoken : String.ofList digits ≠ "" := by
    intro empty
    apply nonempty
    rw [← String.toList_ofList (l := digits), empty]
    rfl
  have trimmed := trim_between blankBefore blankAfter solid
  rw [decodeMinimaxAudio, trimmed]
  rw [if_neg spoken, if_pos, hex]
  · cases hexPairs digits with
    | ok read => exact ⟨fun same => congrArg _ (Except.ok.inj same),
        fun same => congrArg _ (Except.ok.inj same)⟩
    | error error => exact ⟨(fun same => by cases same), (fun same => by cases same)⟩
  · rw [utf8ByteSize_ofList ascii, String.toList_ofList]
    exact ⟨even, List.all_eq_true.mpr all⟩

/-- Hexadecimal digits are read back. -/
theorem decodeMinimaxAudio_hexOf (base64 : Base64) (capital : Bool) {bytes : Bytes}
    {before after : List Char} (nonempty : bytes ≠ [])
    (blankBefore : ∀ c ∈ before, isWhitespace c = true)
    (blankAfter : ∀ c ∈ after, isWhitespace c = true) :
    decodeMinimaxAudio base64 (String.ofList (before ++ hexOf capital bytes ++ after)) =
      .ok bytes := by
  have length := hexOf_length capital bytes
  rw [decodeMinimaxAudio_digits base64 blankBefore blankAfter (hexOf_digits capital bytes)]
  · exact hexPairs_hexOf capital bytes
  · intro empty
    apply nonempty
    rw [← List.length_eq_zero_iff]
    rw [empty, List.length_nil] at length
    omega
  · omega

/-! ## Base64 -/

/-- The characters of Base64 are printable. -/
theorem encode_bounds {bytes : Bytes} {c : Char} (member : c ∈ Encoding.Base64.encode bytes) :
    33 ≤ c.toNat ∧ c.toNat < 128 := by
  rcases Encoding.Base64.encode_chars bytes c member with rfl | ⟨n, small, rfl⟩
  · decide
  · have all : ∀ m : Fin 64, 33 ≤ (Encoding.Base64.digit m).toNat ∧
        (Encoding.Base64.digit m).toNat < 128 := by decide +kernel
    exact all ⟨n, small⟩

/-- Without padding, the bytes come in threes. -/
theorem length_of_unpadded {bytes : Bytes} (unpadded : '=' ∉ Encoding.Base64.encode bytes) :
    bytes.length % 3 = 0 := by
  induction bytes using Encoding.Base64.encode.induct with
  | case1 => rfl
  | case2 a => simp [Encoding.Base64.encode] at unpadded
  | case3 a b => simp [Encoding.Base64.encode] at unpadded
  | case4 a b c rest ih =>
    have later : '=' ∉ Encoding.Base64.encode rest := by
      intro member
      apply unpadded
      simp [Encoding.Base64.encode, member]
    have threes := ih later
    simp only [List.length_cons]
    omega

/-- The engine writes standard Base64 and reads back what it writes. -/
structure StandardBase64 (base64 : Base64) : Prop where
  encode_eq : ∀ bytes, base64.encode bytes = String.ofList (Encoding.Base64.encode bytes)
  decode_encode : ∀ bytes, base64.decode (base64.encode bytes) = .ok bytes

theorem base64Standard_standard : StandardBase64 base64Standard where
  encode_eq _ := rfl
  decode_encode bytes := by
    simp only [base64Standard, String.toList_ofList, Encoding.Base64.decode_encode]

/-- Base64 is read back exactly if one of its characters is no hexadecimal digit. -/
theorem decodeMinimaxAudio_encode_iff {base64 : Base64} (standard : StandardBase64 base64)
    {bytes : Bytes} {before after : List Char} (nonempty : bytes ≠ []) (blankBefore : ∀ c ∈ before, isWhitespace c = true)
    (blankAfter : ∀ c ∈ after, isWhitespace c = true) :
    decodeMinimaxAudio base64
        (String.ofList (before ++ Encoding.Base64.encode bytes ++ after)) = .ok bytes ↔
      ∃ c ∈ Encoding.Base64.encode bytes, isAsciiHexDigit c = false := by
  have length := Encoding.Base64.encode_length bytes
  have positive : 0 < bytes.length := List.length_pos_iff.mpr nonempty
  have written : Encoding.Base64.encode bytes ≠ [] := by
    intro empty
    rw [empty, List.length_nil] at length
    omega
  have even : (Encoding.Base64.encode bytes).length % 2 = 0 := by omega
  by_cases digits : ∀ c ∈ Encoding.Base64.encode bytes, isAsciiHexDigit c = true
  · -- it is read as hexadecimal digits, which stand for fewer bytes
    rw [decodeMinimaxAudio_digits base64 blankBefore blankAfter digits written even]
    have unpadded : '=' ∉ Encoding.Base64.encode bytes := fun pad => by cases digits '=' pad
    have threes := length_of_unpadded unpadded
    refine iff_of_false (fun read => ?_) ?_
    · have half := hexPairs_length read
      omega
    · rintro ⟨c, member, other⟩
      rw [digits c member] at other
      cases other
  · have solid : ∀ c ∈ Encoding.Base64.encode bytes, isWhitespace c = false := fun c member =>
      not_isWhitespace (encode_bounds member).1 (encode_bounds member).2
    have trimmed := trim_between blankBefore blankAfter solid
    have spoken : String.ofList (Encoding.Base64.encode bytes) ≠ "" := by
      intro empty
      apply written
      rw [← String.toList_ofList (l := Encoding.Base64.encode bytes), empty]
      rfl
    have read := standard.decode_encode bytes
    rw [standard.encode_eq] at read
    refine iff_of_true ?_ ?_
    · rw [decodeMinimaxAudio, trimmed, if_neg spoken, if_neg, read]
      rintro ⟨_, all⟩
      rw [String.toList_ofList] at all
      exact digits (List.all_eq_true.mp all)
    · obtain ⟨c, other⟩ := not_forall.mp digits
      obtain ⟨member, other⟩ := Classical.not_imp.mp other
      exact ⟨c, member, Bool.eq_false_iff.mpr other⟩

/-- The decoder reads back both ways of writing some bytes, whatever blanks stand around them. -/
def InvertsBoth (base64 : Base64) (bytes : Bytes) : Prop :=
  ∀ before after : List Char, (∀ c ∈ before, isWhitespace c = true) →
    (∀ c ∈ after, isWhitespace c = true) →
      (∀ capital, decodeMinimaxAudio base64
        (String.ofList (before ++ hexOf capital bytes ++ after)) = .ok bytes) ∧
      decodeMinimaxAudio base64
        (String.ofList (before ++ (base64.encode bytes).toList ++ after)) = .ok bytes

theorem invertsBoth_iff {base64 : Base64} (standard : StandardBase64 base64) {bytes : Bytes}
    (nonempty : bytes ≠ []) :
    InvertsBoth base64 bytes ↔ ∃ c ∈ (base64.encode bytes).toList, isAsciiHexDigit c = false := by
  rw [InvertsBoth, standard.encode_eq, String.toList_ofList]
  constructor
  · intro inverts
    have read := (inverts [] [] (by simp) (by simp)).2
    exact (decodeMinimaxAudio_encode_iff standard nonempty (by simp) (by simp)).mp read
  · intro other before after blankBefore blankAfter
    constructor
    · intro capital
      exact decodeMinimaxAudio_hexOf base64 capital nonempty blankBefore blankAfter
    · exact (decodeMinimaxAudio_encode_iff standard nonempty blankBefore blankAfter).mpr other

/-- The start of a WAV file. -/
theorem riff_inverts : InvertsBoth base64Standard [0x52, 0x49, 0x46, 0x46] :=
  (invertsBoth_iff base64Standard_standard (by decide)).mpr ⟨'U', by decide, by decide⟩

/-- The Base64 of these three bytes is `abcd`. -/
theorem abcd_not_inverted : ¬ InvertsBoth base64Standard [0x69, 0xb7, 0x1d] := by
  intro inverts
  have read := (inverts [] [] (by simp) (by simp)).2
  revert read
  decide +kernel

/-! ## Nothing is never decoded -/

/-- Only an empty text decodes to nothing. -/
def NeverSilent (base64 : Base64) : Prop := ∀ text, base64.decode text = .ok [] → text = ""

theorem base64Standard_neverSilent : NeverSilent base64Standard := by
  intro text read
  simp only [base64Standard] at read
  split at read
  · rename_i bytes found
    obtain rfl := Except.ok.inj read
    exact String.toList_eq_nil_iff.mp (Encoding.Base64.decode_eq_nil found)
  · cases read

/-- A trimmed text that is not empty has a character that is not blank. -/
theorem exists_solid {text : String} (spoken : trim text ≠ "") :
    ∃ c ∈ (trim text).toList, isWhitespace c = false := by
  by_contra blank
  have all : ∀ c ∈ (trim text).toList, isWhitespace c = true := by
    intro c member
    by_contra solid
    exact blank ⟨c, member, Bool.eq_false_iff.mpr solid⟩
  have nothing : trim (String.ofList ((trim text).toList ++ [] ++ [])) = String.ofList [] :=
    trim_between all (by simp) (by simp)
  rw [List.append_nil, List.append_nil, String.ofList_toList, trim_trim] at nothing
  exact spoken nothing

theorem decodeHex_ne_nil {text : String} (spoken : trim text ≠ "") :
    decodeHex (trim text) ≠ .ok [] := by
  intro read
  obtain ⟨c, member, solid⟩ := exists_solid spoken
  have kept : c ∈ (trim text).toList.filter fun c => !isWhitespace c :=
    List.mem_filter.mpr ⟨member, by rw [solid]; rfl⟩
  unfold decodeHex at read
  dsimp only at read
  split_ifs at read with odd ascii
  have length := hexPairs_length read
  rw [utf8ByteSize_ofList fun c member => by simpa using List.all_eq_true.mp ascii c member] at odd
  have positive := List.length_pos_of_mem kept
  rw [List.length_nil] at length
  omega

/-- What is decoded is not empty. -/
theorem decodeMinimaxAudio_ne_nil {base64 : Base64} (solid : NeverSilent base64) (text : String) :
    decodeMinimaxAudio base64 text ≠ .ok [] := by
  intro read
  unfold decodeMinimaxAudio at read
  dsimp only at read
  split_ifs at read with blank digits
  · split at read
    · rename_i bytes found
      rw [Except.ok.inj read] at found
      exact decodeHex_ne_nil blank found
    · cases read
  · split at read
    · rename_i bytes found
      rw [Except.ok.inj read] at found
      exact blank (solid _ found)
    · split at read
      · rename_i bytes found
        rw [Except.ok.inj read] at found
        exact decodeHex_ne_nil blank found
      · cases read

end SpeechMesh.Soundness
