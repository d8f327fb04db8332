import SpeechMesh.Model.PlaybackFailures

/-! # Summaries of what a player wrote

The summary of a long output is cut at a fixed byte index. The cut panics if it falls into a
character, and then the failure of the task is not reported at all.
-/

namespace SpeechMesh.Soundness

open Encoding Model

/-! ## Slices -/

@[simp] theorem byteLength_nil : byteLength [] = 0 := rfl

@[simp] theorem byteLength_cons (c : Char) (text : List Char) :
    byteLength (c :: text) = c.utf8Size + byteLength text := rfl

@[simp] theorem byteLength_append (text text' : List Char) :
    byteLength (text ++ text') = byteLength text + byteLength text' := by
  rw [byteLength, List.map_append, List.sum_append]
  rfl

/-- A slice is the start of the text that has as many bytes. -/
theorem sliceTo_eq_some_iff {index : ℕ} {text kept : List Char} :
    sliceTo index text = some kept ↔ kept <+: text ∧ byteLength kept = index := by
  induction index, text using sliceTo.induct generalizing kept with
  | case1 text =>
    rw [sliceTo]
    constructor
    · rintro same
      obtain rfl := Option.some.inj same
      exact ⟨List.nil_prefix, rfl⟩
    · rintro ⟨_, empty⟩
      cases kept with
      | nil => rfl
      | cons c kept =>
        have positive := c.utf8Size_pos
        rw [byteLength_cons] at empty
        omega
  | case2 index =>
    rw [sliceTo]
    refine iff_of_false nofun ?_
    rintro ⟨start, length⟩
    obtain rfl := List.prefix_nil.mp start
    cases length
  | case3 index c rest fits ih =>
    rw [sliceTo, if_pos fits, Option.map_eq_some_iff]
    constructor
    · rintro ⟨later, sliced, rfl⟩
      obtain ⟨start, length⟩ := ih.mp sliced
      rw [byteLength_cons, List.cons_prefix_cons]
      exact ⟨⟨rfl, start⟩, by omega⟩
    · rintro ⟨start, length⟩
      cases kept with
      | nil => cases length
      | cons other later =>
        obtain ⟨rfl, startLater⟩ := List.cons_prefix_cons.mp start
        rw [byteLength_cons] at length
        exact ⟨later, ih.mpr ⟨startLater, by omega⟩, rfl⟩
  | case4 index c rest large =>
    rw [sliceTo, if_neg large]
    refine iff_of_false nofun ?_
    rintro ⟨start, length⟩
    cases kept with
    | nil => cases length
    | cons other later =>
      obtain ⟨rfl, start⟩ := List.cons_prefix_cons.mp start
      rw [byteLength_cons] at length
      omega

/-! ## Summaries -/

/-- What a summary is: the text, or a start of it that is not too long and an ellipsis. A text in
which there is nothing is summarized as such. -/
def IsSummary (normalized : List Char) (summary : String) : Prop :=
  if normalized = [] then summary = "(empty)"
  else ∃ kept, kept <+: normalized ∧ byteLength kept ≤ maxStderrLength ∧
    summary = if kept = normalized then String.ofList kept else String.ofList kept ++ "..."

/-- What a player wrote is summarized, and the failure of its task is reported. -/
structure SummarizesSafely (bytes : Bytes) : Prop where
  summarized : ∃ summary, summarizeStderr bytes = some summary ∧
    IsSummary (normalizedStderr bytes) summary
  reported : ∀ taskId failure, ∃ message,
    finishFailureStatus taskId failure (.read bytes) =
      some (.taskStatus taskId ⟨.failed, some message⟩)

/-- A text is short, or one of its characters begins at the cut. -/
def CutsBetweenCharacters (normalized : List Char) : Prop :=
  maxStderrLength < byteLength normalized →
    ∃ kept, kept <+: normalized ∧ byteLength kept = maxStderrLength

theorem isSome_summarizeStderr_iff (bytes : Bytes) :
    (∃ summary, summarizeStderr bytes = some summary) ↔
      CutsBetweenCharacters (normalizedStderr bytes) := by
  rw [summarizeStderr]
  dsimp only
  split_ifs with silent blank long
  · subst silent
    exact iff_of_true ⟨_, rfl⟩ (fun long => absurd long (by decide))
  · rw [blank]
    exact iff_of_true ⟨_, rfl⟩ (fun long => absurd long (by decide))
  · constructor
    · rintro ⟨summary, made⟩ _
      obtain ⟨kept, sliced, _⟩ := Option.map_eq_some_iff.mp made
      exact ⟨kept, sliceTo_eq_some_iff.mp sliced⟩
    · intro cuts
      obtain ⟨kept, start⟩ := cuts long
      rw [sliceTo_eq_some_iff.mpr start]
      exact ⟨_, rfl⟩
  · exact iff_of_true ⟨_, rfl⟩ (fun large => absurd large long)

theorem isSummary_of_summarizeStderr {bytes : Bytes} {summary : String}
    (made : summarizeStderr bytes = some summary) :
    IsSummary (normalizedStderr bytes) summary := by
  rw [summarizeStderr] at made
  rw [IsSummary]
  dsimp only at made
  split_ifs at made with silent blank long
  · subst silent
    rw [if_pos (by rfl)]
    exact (Option.some.inj made).symm
  · rw [if_pos blank]
    exact (Option.some.inj made).symm
  · obtain ⟨kept, sliced, rfl⟩ := Option.map_eq_some_iff.mp made
    obtain ⟨start, length⟩ := sliceTo_eq_some_iff.mp sliced
    have shorter : kept ≠ normalizedStderr bytes := by
      rintro rfl
      omega
    rw [if_neg blank]
    exact ⟨kept, start, length.le, by rw [if_neg shorter]⟩
  · rw [if_neg blank]
    refine ⟨normalizedStderr bytes, List.prefix_rfl, by omega, ?_⟩
    rw [if_pos rfl]
    exact (Option.some.inj made).symm

/-- Summarizing is safe exactly if the cut does not fall into a character. -/
theorem summarizesSafely_iff (bytes : Bytes) :
    SummarizesSafely bytes ↔ CutsBetweenCharacters (normalizedStderr bytes) := by
  rw [← isSome_summarizeStderr_iff]
  constructor
  · intro safely
    obtain ⟨summary, made, _⟩ := safely.summarized
    exact ⟨summary, made⟩
  · rintro ⟨summary, made⟩
    constructor
    case summarized => exact ⟨summary, made, isSummary_of_summarizeStderr made⟩
    case reported =>
      intro taskId failure
      rw [finishFailureStatus, finishFailureMessage, collectChildStderr, made]
      exact ⟨_, rfl⟩

/-- A word is not changed by the normalization. -/
theorem normalizedStderr_word {word : List Char} (spoken : word ≠ [])
    (solid : ∀ c ∈ word, isWhitespace c = false) :
    normalizedStderr (utf8 (String.ofList word)) = word := by
  have words : splitWhitespace word = [word] := by
    rw [splitWhitespace, List.splitOnP_eq_singleton solid]
    exact List.filter_cons_of_pos (decide_eq_true spoken)
  rw [normalizedStderr, lossy_utf8, words]
  exact List.append_nil word

/-- A complaint whose last character begins one byte before the cut. -/
def accentedComplaint : List Char := List.replicate 239 'a' ++ [Char.ofNat 0xe9]

theorem accentedComplaint_unsafe :
    ¬ SummarizesSafely (utf8 (String.ofList accentedComplaint)) := by
  intro safely
  obtain ⟨summary, made, _⟩ := safely.summarized
  have solid : ∀ c ∈ accentedComplaint, isWhitespace c = false := by
    intro c member
    rcases List.mem_append.mp member with letter | accent
    · rw [List.eq_of_mem_replicate letter]
      decide
    · rw [List.mem_singleton.mp accent]
      decide
  have broken : sliceTo maxStderrLength accentedComplaint = none := by decide +kernel
  have written : utf8 (String.ofList accentedComplaint) ≠ [] := by decide +kernel
  have long : maxStderrLength < byteLength accentedComplaint := by decide +kernel
  have spoken : accentedComplaint ≠ [] := by decide +kernel
  rw [summarizeStderr, if_neg written, normalizedStderr_word spoken solid] at made
  rw [if_neg spoken, if_pos long, broken] at made
  cases made

end SpeechMesh.Soundness
