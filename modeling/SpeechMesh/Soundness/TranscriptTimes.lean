import SpeechMesh.Soundness.AsrSessions

/-! # The times of a transcript

The end of a segment is the sum of two times that a bridge process sends as numbers of any size.
The conversion of each saturates, their sum does not: it overflows exactly if the two times do not
fit together into 64 bits. Checked arithmetic panics there, and unchecked arithmetic lets the segment
end before it starts.
-/

namespace SpeechMesh.Soundness

open Async Model

variable {secondsToMs : String → Option UInt64}

/-! ## Sums of two times -/

theorem addU64Checked_eq_some_iff {a b : UInt64} :
    addU64Checked a b = some (a + b) ↔ a.toNat + b.toNat < 2 ^ 64 := by
  rw [addU64Checked]
  split
  case isTrue fits => exact ⟨fun _ => fits, fun _ => rfl⟩
  case isFalse large => exact ⟨nofun, fun fits => absurd fits large⟩

/-- A sum that wraps around is smaller than both of its parts. -/
theorem le_add_iff {a b : UInt64} : a ≤ a + b ↔ a.toNat + b.toNat < 2 ^ 64 := by
  have small := b.toNat_lt
  rw [UInt64.le_iff_toNat_le, UInt64.toNat_add]
  constructor
  · intro ordered
    by_contra large
    have wrapped : (a.toNat + b.toNat) % 2 ^ 64 = a.toNat + b.toNat - 2 ^ 64 := by
      have := a.toNat_lt
      omega
    omega
  · intro fits
    rw [Nat.mod_eq_of_lt fits]
    omega

/-! ## One segment -/

/-- The two times of a segment, where both are numbers. -/
def segmentTimes? (secondsToMs : String → Option UInt64) (segment : Json) :
    Option (UInt64 × UInt64) := do
  let start ← (segment.get? "timestamp_s").bind (Json.asMs? secondsToMs)
  let duration ← (segment.get? "duration_s").bind (Json.asMs? secondsToMs)
  return (start, duration)

/-- The start and the duration of a segment with a text fit together into 64 bits. -/
def SegmentFits (secondsToMs : String → Option UInt64) (segment : Json) : Prop :=
  ∀ text, (segment.get? "substring").bind Json.asString? = some text →
    ∀ times, segmentTimes? secondsToMs segment = some times →
      times.1.toNat + times.2.toNat < 2 ^ 64

def InOrder (segment : TranscriptSegment) : Prop :=
  ∀ start, segment.startMs = some start → ∀ finish, segment.endMs = some finish → start ≤ finish

/-- What one segment of the payload becomes, by the times it has. -/
theorem extractSegment_cases (segment : Json) :
    extractSegment secondsToMs segment = none ∧
        (segment.get? "substring").bind Json.asString? = none ∧
        extractSegmentChecked secondsToMs segment = some none ∨
      ∃ text, (segment.get? "substring").bind Json.asString? = some text ∧
        ((∃ start duration, segmentTimes? secondsToMs segment = some (start, duration) ∧
            extractSegment secondsToMs segment =
              some ⟨text, true, some start, some (start + duration)⟩ ∧
            extractSegmentChecked secondsToMs segment =
              (addU64Checked start duration).map fun sum =>
                some ⟨text, true, some start, some sum⟩) ∨
          segmentTimes? secondsToMs segment = none ∧
            ∃ startMs, extractSegment secondsToMs segment = some ⟨text, true, startMs, none⟩ ∧
              extractSegmentChecked secondsToMs segment =
                some (some ⟨text, true, startMs, none⟩)) := by
  cases texts : (segment.get? "substring").bind Json.asString? with
  | none => exact .inl (by simp [extractSegment, extractSegmentChecked, texts])
  | some text =>
    refine .inr ⟨text, rfl, ?_⟩
    cases starts : (segment.get? "timestamp_s").bind (Json.asMs? secondsToMs) with
    | none =>
      refine .inr ⟨by simp [segmentTimes?, starts], none, ?_, ?_⟩
      · simp [extractSegment, texts, starts]
      · simp [extractSegmentChecked, texts, starts]
    | some start =>
      cases durations : (segment.get? "duration_s").bind (Json.asMs? secondsToMs) with
      | none =>
        refine .inr ⟨by simp [segmentTimes?, starts, durations], some start, ?_, ?_⟩
        · simp [extractSegment, texts, starts, durations]
        · simp [extractSegmentChecked, texts, starts, durations]
      | some duration =>
        refine .inl ⟨start, duration, by simp [segmentTimes?, starts, durations], ?_, ?_⟩
        · simp [extractSegment, texts, starts, durations]
        · simp only [extractSegmentChecked, texts, starts, durations]
          cases addU64Checked start duration with
          | none => rfl
          | some sum => rfl

theorem extractSegment_inOrder_iff (segment : Json) :
    (∀ extracted, extractSegment secondsToMs segment = some extracted → InOrder extracted) ↔
      SegmentFits secondsToMs segment := by
  rcases @extractSegment_cases secondsToMs segment with
    ⟨plain, silent, _⟩ | ⟨text, texts, ⟨start, duration, times, plain, _⟩ | ⟨untimed, _, plain, _⟩⟩
  · rw [plain, SegmentFits, silent]
    exact iff_of_true nofun nofun
  · constructor
    · intro ordered _ _ found same
      rw [times] at same
      obtain rfl := Option.some.inj same
      exact le_add_iff.mp (ordered _ plain start rfl _ rfl)
    · intro fits extracted same
      rw [plain] at same
      obtain rfl := Option.some.inj same
      intro first firstIs finish finishIs
      obtain rfl := Option.some.inj firstIs
      obtain rfl := Option.some.inj finishIs
      exact le_add_iff.mpr (fits text texts _ times)
  · refine iff_of_true (fun extracted same => ?_) fun _ _ times same => ?_
    · rw [plain] at same
      obtain rfl := Option.some.inj same
      exact fun _ _ _ finishIs => nomatch finishIs
    · rw [untimed] at same
      cases same

/-- Checked arithmetic extracts the same segment, unless its times do not fit. -/
theorem extractSegmentChecked_eq_iff (segment : Json) :
    extractSegmentChecked secondsToMs segment = some (extractSegment secondsToMs segment) ↔
      SegmentFits secondsToMs segment := by
  rcases @extractSegment_cases secondsToMs segment with
    ⟨plain, silent, checked⟩ |
      ⟨text, texts, ⟨start, duration, times, plain, checked⟩ | ⟨untimed, _, plain, checked⟩⟩
  · rw [plain, checked, SegmentFits, silent]
    exact iff_of_true rfl nofun
  · rw [plain, checked]
    constructor
    · intro same _ _ found foundIs
      rw [times] at foundIs
      obtain rfl := Option.some.inj foundIs
      obtain ⟨sum, added, same⟩ := Option.map_eq_some_iff.mp same
      obtain rfl : sum = start + duration := by simpa using same
      exact addU64Checked_eq_some_iff.mp added
    · intro fits
      rw [addU64Checked_eq_some_iff.mpr (fits text texts _ times), Option.map_some]
  · rw [plain, checked]
    refine iff_of_true rfl fun _ _ times same => ?_
    rw [untimed] at same
    cases same

theorem extractSegmentChecked_or (segment : Json) :
    extractSegmentChecked secondsToMs segment = none ∨
      extractSegmentChecked secondsToMs segment = some (extractSegment secondsToMs segment) := by
  rcases @extractSegment_cases secondsToMs segment with
    ⟨plain, _, checked⟩ | ⟨text, _, ⟨start, duration, _, plain, checked⟩ | ⟨_, _, plain, checked⟩⟩
  · exact .inr (checked.trans (congrArg some plain.symm))
  · rw [checked, plain, addU64Checked]
    split
    case isTrue fits => exact .inr rfl
    case isFalse large => exact .inl rfl
  · exact .inr (checked.trans (congrArg some plain.symm))

/-! ## The whole transcript -/

/-- A list breaks exactly if one of its items does. -/
theorem filterMapM_cases {α β : Type} {step : α → Option (Option β)} {plain : α → Option β}
    (agrees : ∀ item, step item = none ∨ step item = some (plain item)) (items : List α) :
    (∀ item ∈ items, step item = some (plain item)) ∧
        items.filterMapM step = some (items.filterMap plain) ∨
      (∃ item ∈ items, step item = none) ∧ items.filterMapM step = none := by
  induction items with
  | nil => exact .inl ⟨by simp, rfl⟩
  | cons item rest ih =>
    rw [List.filterMapM_cons, List.forall_mem_cons]
    rcases agrees item with broke | done
    · exact .inr ⟨⟨item, List.mem_cons_self, broke⟩, by rw [broke]; rfl⟩
    · rw [done, Option.bind_eq_bind, Option.bind_some]
      rcases ih with ⟨all, ran⟩ | ⟨⟨other, member, broke⟩, ran⟩
      · refine .inl ⟨⟨rfl, all⟩, ?_⟩
        rw [ran]
        cases kept : plain item with
        | none => rw [List.filterMap_cons_none kept]
        | some value => rw [List.filterMap_cons_some kept]; rfl
      · refine .inr ⟨⟨other, List.mem_cons_of_mem item member, broke⟩, ?_⟩
        rw [ran]
        cases plain item with
        | none => rfl
        | some value => rfl

/-- The payload has a text, and its segments have times that fit. -/
def TimesFit (secondsToMs : String → Option UInt64) (payload : Json) : Prop :=
  ((payload.get? "text").bind Json.asString?).isSome = true →
    ∀ items, (payload.get? "segments").bind Json.asArray? = some items →
      ∀ segment ∈ items, SegmentFits secondsToMs segment

/-- The transcript is extracted without an overflow, and no segment of it ends before it starts. -/
def SoundTimes (secondsToMs : String → Option UInt64) (payload : Json) : Prop :=
  extractFinalTranscriptChecked secondsToMs payload =
      some (extractFinalTranscript secondsToMs payload) ∧
    ∀ transcript, extractFinalTranscript secondsToMs payload = some transcript →
      ∀ segment ∈ transcript.segments, InOrder segment

theorem extractFinalTranscript_inOrder (payload : Json) (fits : TimesFit secondsToMs payload)
    (transcript : Transcript)
    (extracted : extractFinalTranscript secondsToMs payload = some transcript) :
    ∀ segment ∈ transcript.segments, InOrder segment := by
  rw [extractFinalTranscript, Option.map_eq_some_iff] at extracted
  obtain ⟨text, texts, rfl⟩ := extracted
  intro segment member
  cases found : (payload.get? "segments").bind Json.asArray? with
  | none =>
    rw [found] at member
    cases member
  | some items =>
    rw [found] at member
    obtain ⟨item, among, made⟩ := List.mem_filterMap.mp member
    have fit := fits (by rw [texts]; rfl) items found item among
    exact (extractSegment_inOrder_iff item).mpr fit segment made

/-- Checked arithmetic gets through a payload exactly if all of its times fit. -/
theorem extractFinalTranscriptChecked_eq_iff (payload : Json) :
    extractFinalTranscriptChecked secondsToMs payload =
        some (extractFinalTranscript secondsToMs payload) ↔
      TimesFit secondsToMs payload := by
  rw [extractFinalTranscriptChecked, extractFinalTranscript, TimesFit]
  cases (payload.get? "text").bind Json.asString? with
  | none => exact iff_of_true rfl nofun
  | some text =>
    cases (payload.get? "segments").bind Json.asArray? with
    | none => exact iff_of_true rfl (fun _ _ same => nomatch same)
    | some items =>
      have each (item : Json) := @extractSegmentChecked_eq_iff secondsToMs item
      rcases filterMapM_cases extractSegmentChecked_or items with ⟨all, ran⟩ | ⟨broken, ran⟩
      · refine iff_of_true (by dsimp only; rw [ran]; rfl) fun _ _ same segment member => ?_
        obtain rfl := Option.some.inj same
        exact (each segment).mp (all segment member)
      · obtain ⟨item, member, broke⟩ := broken
        refine iff_of_false (by dsimp only; rw [ran]; nofun) fun fits => ?_
        have done := (each item).mpr (fits rfl items rfl item member)
        rw [broke] at done
        cases done

/-- The transcript of a final frame has sound times exactly if the start and the duration of each of
its segments fit together into 64 bits. -/
theorem soundTimes_iff (secondsToMs : String → Option UInt64) (payload : Json) :
    SoundTimes secondsToMs payload ↔ TimesFit secondsToMs payload := by
  constructor
  · exact fun sound => (extractFinalTranscriptChecked_eq_iff payload).mp sound.1
  · intro fits
    constructor
    · exact (extractFinalTranscriptChecked_eq_iff payload).mpr fits
    · exact extractFinalTranscript_inOrder payload fits

/-- The segment of a bridge whose clock has run away: both of its times saturate. -/
def saturatedPayload : Json :=
  .object [("text", .string "hi"), ("segments", .array [.object [("substring", .string "hi"),
    ("timestamp_s", .number "1e17"), ("duration_s", .number "1e17")]])]

theorem saturatedPayload_unsound :
    ∃ secondsToMs : String → Option UInt64, secondsToMs "1e17" = some (UInt64.ofNat (2 ^ 64 - 1)) ∧
      ¬ SoundTimes secondsToMs saturatedPayload := by
  refine ⟨fun _ => some (UInt64.ofNat (2 ^ 64 - 1)), rfl, fun sound => ?_⟩
  have checked := sound.1
  revert checked
  decide +kernel

/-! ## The frames of a bridge process -/

/-- Only the `asr.final` frames become a transcript, the one of their payload. -/
theorem extracted_of_mapBridgeFrame {frame : Json} {transcript : Transcript}
    (mapped : mapBridgeFrame secondsToMs frame = some (.final transcript)) :
    bridgeFrameType? frame = some "asr.final" ∧
      extractFinalTranscript secondsToMs ((frame.get? "payload").getD .null) = some transcript := by
  rw [mapBridgeFrame] at mapped
  cases typed : bridgeFrameType? frame with
  | none =>
    rw [typed] at mapped
    cases mapped
  | some frameType =>
    rw [typed] at mapped
    dsimp only at mapped
    split_ifs at mapped with partial_ final ended failed
    · obtain ⟨_, _, same⟩ := Option.map_eq_some_iff.mp mapped
      cases same
    · obtain ⟨_, extracted, same⟩ := Option.map_eq_some_iff.mp mapped
      obtain rfl := BridgeAsrEvent.final.inj same
      exact ⟨congrArg some final, extracted⟩
    · cases mapped
    · cases mapped

/-- If the times of all final frames fit, no segment that the reader relays ends before it starts. -/
theorem runBridgeReader_inOrder (secondsToMs : String → Option UInt64) (reads : List BridgeRead)
    (fits : ∀ frame ∈ framesRead reads, bridgeFrameType? frame = some "asr.final" →
      TimesFit secondsToMs ((frame.get? "payload").getD .null))
    (transcript : Transcript)
    (relayed : .final transcript ∈ (runBridgeReader secondsToMs reads ⟨[], none⟩).accepted) :
    ∀ segment ∈ transcript.segments, InOrder segment := by
  rw [runBridgeReader_live, List.nil_append] at relayed
  obtain ⟨frame, member, mapped⟩ := List.mem_filterMap.mp relayed
  obtain ⟨final, extracted⟩ := extracted_of_mapBridgeFrame mapped
  exact extractFinalTranscript_inOrder _ (fits frame member final) transcript extracted

def clockedPayload : Json :=
  .object [("text", .string "hi"), ("segments", .array [.object [("substring", .string "hi"),
    ("timestamp_s", .number "1"), ("duration_s", .number "1")]])]

def clockedReads : List BridgeRead :=
  [.line (.ok (.object [("type", .string "asr.final"), ("payload", clockedPayload)])), .eof]

theorem runBridgeReader_clocked : ∃ transcript,
    (runBridgeReader (fun _ => some 1000) clockedReads ⟨[], none⟩).accepted =
      [.final transcript] ∧ ∀ segment ∈ transcript.segments, InOrder segment := by
  obtain ⟨transcript, read⟩ : ∃ transcript,
      (runBridgeReader (fun _ => some 1000) clockedReads ⟨[], none⟩).accepted =
        [.final transcript] := ⟨_, rfl⟩
  refine ⟨transcript, read, ?_⟩
  apply runBridgeReader_inOrder (fun _ => some 1000) clockedReads
  · intro frame member _
    rw [List.mem_singleton.mp member]
    apply (extractFinalTranscriptChecked_eq_iff clockedPayload).mp
    decide +kernel
  · rw [read]
    exact .head _

end SpeechMesh.Soundness
