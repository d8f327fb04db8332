import SpeechMesh.Encoding.Bytes

/-! # Bytes read as text, with what is broken replaced

Each longest piece that could have begun a character but does not go on as one is replaced by one
replacement character.
-/

namespace Encoding

def replacementCharacter : Char := Char.ofNat 0xfffd

/-- A byte that continues a character. -/
def isContinuation (byte : UInt8) : Bool := 0x80 ≤ byte && byte ≤ 0xbf

/-- Whether the second byte may follow the first one of a character of three or four bytes. -/
def mayFollow (first second : UInt8) : Bool :=
  if first = 0xe0 then 0xa0 ≤ second && second ≤ 0xbf
  else if first = 0xed then 0x80 ≤ second && second ≤ 0x9f
  else if first = 0xf0 then 0x90 ≤ second && second ≤ 0xbf
  else if first = 0xf4 then 0x80 ≤ second && second ≤ 0x8f
  else isContinuation second

/-- How many bytes are replaced together with the first one of a broken character. -/
def brokenTail (first : UInt8) (rest : List UInt8) : ℕ :=
  if 0xe0 ≤ first ∧ first ≤ 0xef then
    match rest with
    | second :: _ => if mayFollow first second then 1 else 0
    | [] => 0
  else if 0xf0 ≤ first ∧ first ≤ 0xf4 then
    match rest with
    | second :: third :: _ =>
        if mayFollow first second then (if isContinuation third then 2 else 1) else 0
    | [second] => if mayFollow first second then 1 else 0
    | [] => 0
  else 0

/-- The first character, and how many bytes it takes besides the first one. -/
def lossyStep (first : UInt8) (rest : List UInt8) : Char × ℕ :=
  match ByteArray.utf8DecodeChar? ⟨(first :: rest).toArray⟩ 0 with
  | some c => (c, c.utf8Size - 1)
  | none => (replacementCharacter, brokenTail first rest)

/-- The bytes as text, after those of the last character are skipped. -/
def lossyAfter : ℕ → List UInt8 → List Char
  | _, [] => []
  | skipped + 1, _ :: rest => lossyAfter skipped rest
  | 0, first :: rest =>
      let (c, taken) := lossyStep first rest
      c :: lossyAfter taken rest

def lossy (bytes : List UInt8) : List Char := lossyAfter 0 bytes

theorem lossyAfter_drop (skipped : ℕ) (bytes : List UInt8) :
    lossyAfter skipped bytes = lossy (bytes.drop skipped) := by
  induction skipped generalizing bytes with
  | zero => rfl
  | succ skipped ih =>
    cases bytes with
    | nil => rfl
    | cons byte rest =>
      rw [lossyAfter, ih]
      rfl

theorem utf8_cons (c : Char) (text : List Char) :
    utf8 (String.ofList (c :: text)) = String.utf8EncodeChar c ++ utf8 (String.ofList text) := by
  rw [utf8, utf8, String.toUTF8_eq_toByteArray, String.toUTF8_eq_toByteArray,
    String.toByteArray_ofList, String.toByteArray_ofList, List.utf8Encode, List.utf8Encode,
    List.toList_data_toByteArray, List.toList_data_toByteArray, List.flatMap_cons]

/-- A character stands at the start of its bytes. -/
theorem lossy_utf8EncodeChar_append (c : Char) (bytes : List UInt8) :
    lossy (String.utf8EncodeChar c ++ bytes) = c :: lossy bytes := by
  have length := String.length_utf8EncodeChar c
  have positive := c.utf8Size_pos
  cases encoded : String.utf8EncodeChar c with
  | nil =>
    rw [encoded, List.length_nil] at length
    omega
  | cons first others =>
    have decoded : ByteArray.utf8DecodeChar? ⟨(first :: (others ++ bytes)).toArray⟩ 0 = some c := by
      have found := ByteArray.utf8DecodeChar?_utf8EncodeChar_append (b := bytes.toByteArray) (c := c)
      have whole : (⟨(first :: (others ++ bytes)).toArray⟩ : ByteArray) =
          (String.utf8EncodeChar c).toByteArray ++ bytes.toByteArray := by
        rw [← List.toByteArray_append, encoded]
        apply ByteArray.ext
        rw [← Array.toList_inj, List.toList_data_toByteArray]
        rfl
      rw [whole]
      exact found
    have size : others.length = c.utf8Size - 1 := by
      rw [encoded, List.length_cons] at length
      omega
    rw [lossy, List.cons_append, lossyAfter, lossyStep, decoded]
    dsimp only
    rw [lossyAfter_drop, ← size, List.drop_left]

/-- The bytes of a text are read as that text. -/
theorem lossy_utf8 (text : List Char) : lossy (utf8 (String.ofList text)) = text := by
  induction text with
  | nil => rfl
  | cons c rest ih => rw [utf8_cons, lossy_utf8EncodeChar_append, ih]

end Encoding
