import SpeechMesh.Model.AudioUploads

/-! # WAV files

PCM is wrapped exactly when the fields of the header can hold its numbers. A reader then finds those
numbers at their places, and the PCM after them. That the RIFF size does not fit has an error of its
own, but by then the length of the PCM has been bounded.
-/

namespace SpeechMesh.Soundness

open Encoding Model

/-- The bytes of a file from an offset on. -/
def fieldAt (wav : Bytes) (offset width : ℕ) : Bytes := (wav.drop offset).take width

def numberAt (wav : Bytes) (offset width : ℕ) : ℕ := LittleEndian.read (fieldAt wav offset width)

/-- `wav` is a WAV file of `pcm`, as a reader of the format takes it apart. -/
structure IsWavOf (pcm : Bytes) (sampleRateHz : UInt32) (channels : UInt16) (wav : Bytes) :
    Prop where
  riff : fieldAt wav 0 4 = utf8 "RIFF"
  riffSize : numberAt wav 4 4 + 8 = wav.length
  wave : fieldAt wav 8 4 = utf8 "WAVE"
  fmt : fieldAt wav 12 4 = utf8 "fmt "
  fmtSize : numberAt wav 16 4 = 16
  format : numberAt wav 20 2 = 1
  channelCount : numberAt wav 22 2 = channels.toNat
  rate : numberAt wav 24 4 = sampleRateHz.toNat
  byteRate : numberAt wav 28 4 = sampleRateHz.toNat * channels.toNat * 2
  blockAlign : numberAt wav 32 2 = channels.toNat * 2
  bitsPerSample : numberAt wav 34 2 = 16
  data : fieldAt wav 36 4 = utf8 "data"
  dataSize : numberAt wav 40 4 = pcm.length
  samples : wav.drop 44 = pcm
  length : wav.length = 44 + pcm.length

theorem read_leBytes32 (n : UInt32) : LittleEndian.read (leBytes32 n) = n.toNat := by
  apply LittleEndian.read_write
  exact n.toNat_lt

theorem read_leBytes16 (n : UInt16) : LittleEndian.read (leBytes16 n) = n.toNat := by
  apply LittleEndian.read_write
  exact n.toNat_lt

@[simp] theorem leBytes32_length (n : UInt32) : (leBytes32 n).length = 4 :=
  LittleEndian.write_length 4 n.toNat

@[simp] theorem leBytes16_length (n : UInt16) : (leBytes16 n).length = 2 :=
  LittleEndian.write_length 2 n.toNat

@[simp] theorem utf8_riff_length : (utf8 "RIFF").length = 4 := by decide +kernel

@[simp] theorem utf8_wave_length : (utf8 "WAVE").length = 4 := by decide +kernel

@[simp] theorem utf8_fmt_length : (utf8 "fmt ").length = 4 := by decide +kernel

@[simp] theorem utf8_data_length : (utf8 "data").length = 4 := by decide +kernel

/-! ## Fields of a header -/

/-- What stands after the field is not read. -/
theorem fieldAt_append_left {front rest : Bytes} {offset width : ℕ}
    (inside : offset + width ≤ front.length) :
    fieldAt (front ++ rest) offset width = fieldAt front offset width := by
  rw [fieldAt, fieldAt, List.drop_append_of_le_length (by omega)]
  apply List.take_append_of_le_length
  rw [List.length_drop]
  omega

theorem fieldAt_last {front piece : Bytes} {offset width : ℕ} (before : front.length = offset)
    (size : piece.length = width) : fieldAt (front ++ piece) offset width = piece := by
  rw [fieldAt, ← before, List.drop_left, ← size, List.take_length]

theorem numberAt_append_left {front rest : Bytes} {offset width : ℕ}
    (inside : offset + width ≤ front.length) :
    numberAt (front ++ rest) offset width = numberAt front offset width := by
  rw [numberAt, fieldAt_append_left inside, numberAt]

theorem numberAt_last32 {front : Bytes} {offset : ℕ} {n : UInt32}
    (before : front.length = offset) : numberAt (front ++ leBytes32 n) offset 4 = n.toNat := by
  rw [numberAt, fieldAt_last before (leBytes32_length n)]
  exact read_leBytes32 n

theorem numberAt_last16 {front : Bytes} {offset : ℕ} {n : UInt16}
    (before : front.length = offset) : numberAt (front ++ leBytes16 n) offset 2 = n.toNat := by
  rw [numberAt, fieldAt_last before (leBytes16_length n)]
  exact read_leBytes16 n

/-! ## The header that is written -/

section

variable (riffSize rate byteRate dataSize : UInt32) (channels blockAlign : UInt16) (pcm : Bytes)

/-- The file that is written. -/
def wavFile : Bytes :=
  utf8 "RIFF" ++ leBytes32 riffSize ++ utf8 "WAVE" ++ utf8 "fmt " ++ leBytes32 16 ++
    leBytes16 1 ++ leBytes16 channels ++ leBytes32 rate ++ leBytes32 byteRate ++
    leBytes16 blockAlign ++ leBytes16 16 ++ utf8 "data" ++ leBytes32 dataSize ++ pcm

theorem wavFile_length :
    (wavFile riffSize rate byteRate dataSize channels blockAlign pcm).length = 44 + pcm.length := by
  simp only [wavFile, List.length_append, leBytes32_length, leBytes16_length, utf8_riff_length,
    utf8_wave_length, utf8_fmt_length, utf8_data_length]

theorem wavFile_samples :
    (wavFile riffSize rate byteRate dataSize channels blockAlign pcm).drop 44 = pcm := by
  rw [wavFile]
  apply List.drop_left'
  simp

/-- The header that is written fits the numbers that it was computed from. -/
theorem wavFile_isWavOf (byteRate_eq : byteRate.toNat = rate.toNat * channels.toNat * 2)
    (blockAlign_eq : blockAlign.toNat = channels.toNat * 2)
    (dataSize_eq : dataSize.toNat = pcm.length)
    (riffSize_eq : riffSize.toNat = 36 + pcm.length) :
    IsWavOf pcm rate channels (wavFile riffSize rate byteRate dataSize channels blockAlign pcm) := by
  have length := wavFile_length riffSize rate byteRate dataSize channels blockAlign pcm
  have riff : fieldAt (utf8 "RIFF") 0 4 = utf8 "RIFF" :=
    @fieldAt_last [] _ 0 4 rfl utf8_riff_length
  constructor
  case riff => simp (disch := simp) only [wavFile, fieldAt_append_left, riff]
  case wave => simp (disch := simp) only [wavFile, fieldAt_append_left, fieldAt_last]
  case fmt => simp (disch := simp) only [wavFile, fieldAt_append_left, fieldAt_last]
  case data => simp (disch := simp) only [wavFile, fieldAt_append_left, fieldAt_last]
  case riffSize =>
    rw [length]
    simp (disch := simp) only [wavFile, numberAt_append_left, numberAt_last32]
    omega
  case fmtSize =>
    simp (disch := simp) only [wavFile, numberAt_append_left, numberAt_last32]
    rfl
  case format =>
    simp (disch := simp) only [wavFile, numberAt_append_left, numberAt_last16]
    rfl
  case channelCount => simp (disch := simp) only [wavFile, numberAt_append_left, numberAt_last16]
  case rate => simp (disch := simp) only [wavFile, numberAt_append_left, numberAt_last32]
  case byteRate =>
    rw [← byteRate_eq]
    simp (disch := simp) only [wavFile, numberAt_append_left, numberAt_last32]
  case blockAlign =>
    rw [← blockAlign_eq]
    simp (disch := simp) only [wavFile, numberAt_append_left, numberAt_last16]
  case bitsPerSample =>
    simp (disch := simp) only [wavFile, numberAt_append_left, numberAt_last16]
    rfl
  case dataSize =>
    rw [← dataSize_eq]
    simp (disch := simp) only [wavFile, numberAt_append_left, numberAt_last32]
  case samples => exact wavFile_samples ..
  case length => exact length

end

/-! ## When PCM is wrapped -/

theorem checkedMul32_of_fits {a b : UInt32} (fits : a.toNat * b.toNat < 2 ^ 32) :
    checkedMul32 a b = some (a * b) ∧ (a * b).toNat = a.toNat * b.toNat := by
  constructor
  · rw [checkedMul32, if_pos fits]
  · rw [UInt32.toNat_mul]
    exact Nat.mod_eq_of_lt fits

theorem checkedMul32_none {a b : UInt32} (large : 2 ^ 32 ≤ a.toNat * b.toNat) :
    checkedMul32 a b = none := by
  rw [checkedMul32, if_neg (by omega)]

/-- Bytes for each second, if 32 bits hold their number. -/
theorem byteRate_cases (rate : UInt32) (channels : UInt16) :
    (rate.toNat * channels.toNat * 2 < 2 ^ 32 ∧ ∃ byteRate : UInt32,
      ((checkedMul32 rate channels.toUInt32).bind fun value => checkedMul32 value 2) =
        some byteRate ∧ byteRate.toNat = rate.toNat * channels.toNat * 2) ∨
    (2 ^ 32 ≤ rate.toNat * channels.toNat * 2 ∧
      ((checkedMul32 rate channels.toUInt32).bind fun value => checkedMul32 value 2) = none) := by
  have channels_toNat : channels.toUInt32.toNat = channels.toNat := UInt16.toNat_toUInt32 channels
  have two : (2 : UInt32).toNat = 2 := rfl
  by_cases first : rate.toNat * channels.toNat < 2 ^ 32
  · obtain ⟨found, value⟩ := checkedMul32_of_fits (a := rate) (b := channels.toUInt32)
      (by rwa [channels_toNat])
    rw [channels_toNat] at value
    rw [found, Option.bind_some]
    by_cases second : rate.toNat * channels.toNat * 2 < 2 ^ 32
    · left
      obtain ⟨found', value'⟩ := checkedMul32_of_fits (a := rate * channels.toUInt32) (b := 2)
        (by rwa [value, two])
      rw [value, two] at value'
      exact ⟨second, _, found', value'⟩
    · right
      refine ⟨by omega, ?_⟩
      apply checkedMul32_none
      rw [value, two]
      omega
  · right
    refine ⟨by omega, ?_⟩
    rw [checkedMul32_none (by rw [channels_toNat]; omega), Option.bind_none]

theorem blockAlign_cases (channels : UInt16) :
    (channels.toNat * 2 < 2 ^ 16 ∧ ∃ blockAlign : UInt16,
      checkedMul16 channels 2 = some blockAlign ∧ blockAlign.toNat = channels.toNat * 2) ∨
    (2 ^ 16 ≤ channels.toNat * 2 ∧ checkedMul16 channels 2 = none) := by
  have two : (2 : UInt16).toNat = 2 := rfl
  by_cases fits : channels.toNat * 2 < 2 ^ 16
  · left
    refine ⟨fits, channels * 2, ?_, ?_⟩
    · rw [checkedMul16, two, if_pos fits]
    · rw [UInt16.toNat_mul, two]
      exact Nat.mod_eq_of_lt fits
  · right
    refine ⟨by omega, ?_⟩
    rw [checkedMul16, two, if_neg fits]

/-- The guard on the length makes the later casts lossless. -/
theorem sizes_fit {pcm : Bytes} (bounded : pcm.length ≤ 2 ^ 32 - 1 - 44) :
    (UInt32.ofNat pcm.length).toNat = pcm.length ∧
      checkedAdd32 36 (UInt32.ofNat pcm.length) = some (36 + UInt32.ofNat pcm.length) ∧
      (36 + UInt32.ofNat pcm.length).toNat = 36 + pcm.length := by
  have header : (36 : UInt32).toNat = 36 := rfl
  have data : (UInt32.ofNat pcm.length).toNat = pcm.length := by
    rw [UInt32.toNat_ofNat']
    omega
  refine ⟨data, ?_, ?_⟩
  · rw [checkedAdd32, header, data, if_pos (by omega)]
  · rw [UInt32.toNat_add, header, data]
    omega

/-- What comes of the encoding, and when. -/
theorem encodePcmS16leWav_cases (pcm : Bytes) (rate : UInt32) (channels : UInt16) :
    (pcm.length ≤ 2 ^ 32 - 1 - 44 ∧ rate.toNat * channels.toNat * 2 < 2 ^ 32 ∧
      channels.toNat * 2 < 2 ^ 16 ∧
      ∃ wav, encodePcmS16leWav pcm rate channels = .ok wav ∧ IsWavOf pcm rate channels wav) ∨
    (2 ^ 32 - 1 - 44 < pcm.length ∧ encodePcmS16leWav pcm rate channels =
      .error (.protocol "PCM payload too large to wrap in WAV")) ∨
    (2 ^ 32 ≤ rate.toNat * channels.toNat * 2 ∧ encodePcmS16leWav pcm rate channels =
      .error (.protocol "invalid WAV byte rate")) ∨
    (2 ^ 16 ≤ channels.toNat * 2 ∧ encodePcmS16leWav pcm rate channels =
      .error (.protocol "invalid WAV block align")) := by
  by_cases large : 2 ^ 32 - 1 - 44 < pcm.length
  · right; left
    refine ⟨large, ?_⟩
    rw [encodePcmS16leWav, if_pos large]
    rfl
  · have bounded : pcm.length ≤ 2 ^ 32 - 1 - 44 := by omega
    obtain ⟨dataSize, riff, riffSize⟩ := sizes_fit bounded
    rw [encodePcmS16leWav, if_neg large]
    rcases byteRate_cases rate channels with ⟨rateFits, byteRate, found, byteRate_eq⟩ |
      ⟨rateLarge, found⟩
    · rw [found]
      rcases blockAlign_cases channels with ⟨alignFits, blockAlign, found', blockAlign_eq⟩ |
        ⟨alignLarge, found'⟩
      · left
        rw [found']
        dsimp only
        rw [riff]
        exact ⟨bounded, rateFits, alignFits, _, rfl,
          wavFile_isWavOf _ _ _ _ _ _ _ byteRate_eq blockAlign_eq dataSize riffSize⟩
      · right; right; right
        rw [found']
        exact ⟨alignLarge, rfl⟩
    · right; right; left
      rw [found]
      exact ⟨rateLarge, rfl⟩

/-- PCM is wrapped if and only if the header can hold its numbers, the WAV file is read back as the
rate, the channels and the PCM it was made from, and the RIFF size always fits. -/
theorem wav_exact (pcm : Bytes) (sampleRateHz : UInt32) (channels : UInt16) :
    ((∃ wav, encodePcmS16leWav pcm sampleRateHz channels = .ok wav) ↔
      pcm.length ≤ 2 ^ 32 - 1 - 44 ∧ sampleRateHz.toNat * channels.toNat * 2 < 2 ^ 32 ∧
        channels.toNat * 2 < 2 ^ 16) ∧
    (∀ wav, encodePcmS16leWav pcm sampleRateHz channels = .ok wav →
      IsWavOf pcm sampleRateHz channels wav) ∧
    encodePcmS16leWav pcm sampleRateHz channels ≠ .error (.protocol "invalid WAV size") := by
  rcases encodePcmS16leWav_cases pcm sampleRateHz channels with
    ⟨bounded, rateFits, alignFits, wav, written, isWav⟩ | ⟨large, failed⟩ | ⟨large, failed⟩ |
      ⟨large, failed⟩
  · refine ⟨⟨fun _ => ⟨bounded, rateFits, alignFits⟩, fun _ => ⟨wav, written⟩⟩, ?_, ?_⟩
    · intro wav' written'
      rw [written] at written'
      cases written'
      exact isWav
    · rw [written]
      simp
  all_goals
    rw [failed]
    simp
    omega

/-- The uploads that the session accepts are those that can be wrapped. -/
theorem checkPcmS16leWav_agrees (pcm : Bytes) (format : AudioFormat) :
    checkPcmS16leWav pcm format =
      (encodePcmS16leWav pcm format.sampleRateHz format.channels).map fun _ => () := by
  by_cases large : 2 ^ 32 - 1 - 44 < pcm.length
  · rw [checkPcmS16leWav, encodePcmS16leWav, if_pos large, if_pos large]
    rfl
  · have small : pcm.length ≤ 2 ^ 32 - 1 - 44 := by omega
    obtain ⟨-, riff, -⟩ := sizes_fit small
    rw [checkPcmS16leWav, encodePcmS16leWav, if_neg large, if_neg large]
    rcases byteRate_cases format.sampleRateHz format.channels with ⟨rateFits, byteRate, found, -⟩ |
      ⟨rateLarge, found⟩
    · rw [found, if_neg (by omega)]
      rcases blockAlign_cases format.channels with ⟨alignFits, blockAlign, found', -⟩ |
        ⟨alignLarge, found'⟩
      · rw [found', if_neg (by omega)]
        dsimp only
        rw [riff]
        rfl
      · rw [found', if_pos alignLarge]
        rfl
    · rw [found, if_pos (Or.inr rateLarge)]
      rfl

theorem checkMinimaxUploadAudio_agrees (format : AudioFormat) (audio : Bytes) :
    checkMinimaxUploadAudio format audio =
      (encodeMinimaxUploadAudio format audio).map fun _ => () := by
  rw [checkMinimaxUploadAudio, encodeMinimaxUploadAudio]
  cases format.encoding
  case pcmS16Le => exact checkPcmS16leWav_agrees audio format
  all_goals rfl

end SpeechMesh.Soundness
