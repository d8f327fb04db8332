import SpeechMesh.Model.AsrBridges
import SpeechMesh.Model.State

/-! # How an ASR session ends

A session that is committed or stopped should end once, with nothing after the end. The mock does.
The MiniMax bridge leaves its session without an end whenever a transcription fails, where the TTS
bridges report the error and end; the stdio and TCP bridges relay whatever the process writes.
-/

namespace SpeechMesh.Soundness

open Async Model

/-- The commands that make a session end. -/
def Concludes : BridgeCommand → Prop
  | .pushAudio _ => False
  | .commit | .stop => True

/-! ## The mock bridge -/

/-- Before the first command that concludes the session, the mock sends partial results only. -/
theorem mockAsrTask_endsOnce (outputMode : StreamMode) {commands : List BridgeCommand}
    (concluded : ∃ command ∈ commands, Concludes command) (buffered : ℕ)
    (accepted : List BridgeAsrEvent) :
    ∃ events, mockAsrTask outputMode commands buffered ⟨accepted, none⟩ = ⟨accepted ++ events, none⟩ ∧
      EndsOnce BridgeAsrEvent.isEnded events := by
  induction commands generalizing buffered accepted with
  | nil =>
    obtain ⟨_, member, _⟩ := concluded
    cases member
  | cons command rest ih =>
    cases command with
    | pushAudio chunk =>
      have later : ∃ command ∈ rest, Concludes command := by
        obtain ⟨command, member, ends⟩ := concluded
        rcases List.mem_cons.mp member with rfl | member
        · exact ends.elim
        · exact ⟨command, member, ends⟩
      cases outputMode with
      | streaming =>
        let told : BridgeAsrEvent :=
          .partial_ ("mock partial bytes=" ++ toString (buffered + chunk.length))
        obtain ⟨events, ran, once⟩ := ih later (buffered + chunk.length) (accepted ++ [told])
        refine ⟨told :: events, ?_, (endsOnce_cons rfl).mpr once⟩
        simp only [mockAsrTask, Outbox.send_live]
        rw [ran, List.append_assoc, List.singleton_append]
      | buffered => exact ih later ..
    | commit =>
      refine ⟨[.final (mockTranscript buffered), .ended none], ?_, ?_⟩
      · simp only [mockAsrTask, Outbox.send_live, List.append_assoc, List.singleton_append]
      · exact (endsOnce_cons rfl).mpr (endsOnce_singleton.mpr rfl)
    | stop => exact ⟨[.ended (some "stopped")], rfl, endsOnce_singleton.mpr rfl⟩

/-! ## The MiniMax bridge -/

/-- Every transcription that the session asks for, up to its first Commit or Stop, succeeds. -/
def TranscriptionsSucceed (session : MiniMaxAsrSession) :
    List (BridgeCommand × HttpReply MiniMaxAsrResponse) → MiniMaxAsrState → Prop
  | [], _ => True
  | (.pushAudio chunk, reply) :: rest, state =>
      let state := state.push chunk
      if session.wantsPartial state then
        match session.transcribe state reply with
        | .ok transcript =>
            match state.newPartial transcript with
            | some text => TranscriptionsSucceed session rest (state.told text)
            | none => TranscriptionsSucceed session rest state
        | .error _ => False
      else TranscriptionsSucceed session rest state
  | (.commit, reply) :: _, state => (session.transcribe state reply).toBool = true
  | (.stop, _) :: _, _ => True

theorem minimaxAsrTask_endsOnce (session : MiniMaxAsrSession)
    {commands : List (BridgeCommand × HttpReply MiniMaxAsrResponse)}
    (concluded : ∃ command ∈ commands, Concludes command.1) (state : MiniMaxAsrState)
    (accepted : List BridgeAsrEvent) :
    ∃ events, session.task commands state ⟨accepted, none⟩ = ⟨accepted ++ events, none⟩ ∧
      (EndsOnce BridgeAsrEvent.isEnded events ↔ TranscriptionsSucceed session commands state) := by
  induction commands generalizing state accepted with
  | nil =>
    obtain ⟨_, member, _⟩ := concluded
    cases member
  | cons command rest ih =>
    obtain ⟨command, reply⟩ := command
    -- after an error nothing is sent any more
    have silent (error : BridgeError) : ¬ EndsOnce BridgeAsrEvent.isEnded [.error error.toText] :=
      endsOnce_singleton.not.mpr Bool.false_ne_true
    cases command with
    | pushAudio chunk =>
      have later : ∃ command ∈ rest, Concludes command.1 := by
        obtain ⟨command, member, ends⟩ := concluded
        rcases List.mem_cons.mp member with rfl | member
        · exact ends.elim
        · exact ⟨command, member, ends⟩
      simp only [MiniMaxAsrSession.task, TranscriptionsSucceed]
      split_ifs with wanted
      · cases transcribed : session.transcribe (state.push chunk) reply with
        | error error => exact ⟨[.error error.toText], rfl, by simpa using silent error⟩
        | ok transcript =>
          dsimp only
          cases told : (state.push chunk).newPartial transcript with
          | none => exact ih later ..
          | some text =>
            obtain ⟨events, ran, ends⟩ :=
              ih later ((state.push chunk).told text) (accepted ++ [.partial_ text])
            refine ⟨.partial_ text :: events, ?_, ?_⟩
            · simp only [Outbox.send_live]
              rw [ran, List.append_assoc, List.singleton_append]
            · exact (endsOnce_cons rfl).trans ends
      · exact ih later ..
    | commit =>
      simp only [MiniMaxAsrSession.task, TranscriptionsSucceed]
      cases transcribed : session.transcribe state reply with
      | error error => exact ⟨[.error error.toText], rfl, by simpa [Except.toBool] using silent error⟩
      | ok transcript =>
        refine ⟨[.final transcript, .ended none], by simp, ?_⟩
        have once : EndsOnce BridgeAsrEvent.isEnded [.final transcript, .ended none] :=
          (endsOnce_cons rfl).mpr (endsOnce_singleton.mpr rfl)
        simpa [Except.toBool] using once
    | stop => exact ⟨_, rfl, iff_of_true (endsOnce_singleton.mpr rfl) trivial⟩

/-! ## The stdio and TCP bridges -/

/-- The frames read before the bridge closes or breaks its stream. -/
def framesRead : List BridgeRead → List Json
  | [] => []
  | .line (.ok frame) :: rest => frame :: framesRead rest
  | .line (.error _) :: rest => framesRead rest
  | .eof :: _ | .failed _ :: _ => []

/-- The bridge writes one `asr.ended`, and nothing after it that becomes an event. -/
def EndsItsStream (secondsToMs : String → Option UInt64) (frames : List Json) : Prop :=
  ∃ earlier ending later, frames = earlier ++ ending :: later ∧
    bridgeFrameType? ending = some "asr.ended" ∧
    (∀ frame ∈ earlier, bridgeFrameType? frame ≠ some "asr.ended") ∧
    ∀ frame ∈ later, mapBridgeFrame secondsToMs frame = none

/-- The reader relays. -/
theorem runBridgeReader_live (secondsToMs : String → Option UInt64) (reads : List BridgeRead)
    (accepted : List BridgeAsrEvent) :
    runBridgeReader secondsToMs reads ⟨accepted, none⟩ =
      ⟨accepted ++ (framesRead reads).filterMap (mapBridgeFrame secondsToMs), none⟩ := by
  induction reads generalizing accepted with
  | nil => simp [runBridgeReader, framesRead]
  | cons read rest ih =>
    match read with
    | .eof | .failed _ => simp [runBridgeReader, framesRead]
    | .line (.error _) => simp only [runBridgeReader, framesRead, ih]
    | .line (.ok frame) =>
      simp only [runBridgeReader, framesRead, List.filterMap_cons]
      cases mapped : mapBridgeFrame secondsToMs frame with
      | none => simp only [ih]
      | some event => simp only [Outbox.send_live, ih, List.append_assoc, List.singleton_append]

/-- Only the `asr.ended` frames become an end. -/
theorem mapBridgeFrame_isEnded (secondsToMs : String → Option UInt64) (frame : Json) :
    (∃ event, mapBridgeFrame secondsToMs frame = some event ∧ event.isEnded = true) ↔
      bridgeFrameType? frame = some "asr.ended" := by
  unfold mapBridgeFrame
  cases bridgeFrameType? frame with
  | none => simp
  | some frameType =>
    dsimp only
    split_ifs with partial_ final ended failed
    · subst partial_
      simp only [Option.map_eq_some_iff]
      exact iff_of_false (by rintro ⟨_, ⟨_, _, rfl⟩, ended⟩; cases ended) (by decide)
    · subst final
      simp only [Option.map_eq_some_iff]
      exact iff_of_false (by rintro ⟨_, ⟨_, _, rfl⟩, ended⟩; cases ended) (by decide)
    · simp [ended, BridgeAsrEvent.isEnded]
    · subst failed
      simp [BridgeAsrEvent.isEnded]
    · simp [ended]

theorem endsOnce_filterMap (secondsToMs : String → Option UInt64) (frames : List Json) :
    EndsOnce BridgeAsrEvent.isEnded (frames.filterMap (mapBridgeFrame secondsToMs)) ↔
      EndsItsStream secondsToMs frames := by
  have quiet {frame : Json} {event : BridgeAsrEvent}
      (other : bridgeFrameType? frame ≠ some "asr.ended")
      (mapped : mapBridgeFrame secondsToMs frame = some event) : event.isEnded = false := by
    by_contra ended
    exact other ((mapBridgeFrame_isEnded secondsToMs frame).mp ⟨event, mapped, by simpa using ended⟩)
  constructor
  · -- the frame behind the last event is the only `asr.ended`
    induction frames with
    | nil => rintro ⟨once, _⟩; cases once
    | cons frame rest ih =>
      intro once
      by_cases ends : bridgeFrameType? frame = some "asr.ended"
      · obtain ⟨event, mapped, ended⟩ := (mapBridgeFrame_isEnded secondsToMs frame).mpr ends
        rw [List.filterMap_cons_some mapped] at once
        refine ⟨[], frame, rest, rfl, ends, by simp, fun later member => ?_⟩
        by_contra told
        obtain ⟨event', mapped'⟩ := Option.ne_none_iff_exists'.mp told
        have present : event' ∈ rest.filterMap (mapBridgeFrame secondsToMs) :=
          List.mem_filterMap.mpr ⟨later, member, mapped'⟩
        obtain ⟨count, last⟩ := once
        rw [List.filter_cons_of_pos ended, List.length_cons, Nat.add_eq_right,
          List.length_eq_zero_iff, List.filter_eq_nil_iff] at count
        have nonempty := List.ne_nil_of_mem present
        rw [List.getLast?_cons, List.getLast?_eq_some_getLast nonempty] at last
        exact count _ (List.getLast_mem nonempty) last
      · have same : EndsOnce BridgeAsrEvent.isEnded
            (rest.filterMap (mapBridgeFrame secondsToMs)) := by
          cases mapped : mapBridgeFrame secondsToMs frame with
          | none => rwa [List.filterMap_cons_none mapped] at once
          | some event =>
            rw [List.filterMap_cons_some mapped] at once
            exact (endsOnce_cons (quiet ends mapped)).mp once
        obtain ⟨earlier, ending, later, rfl, type, before, after⟩ := ih same
        refine ⟨frame :: earlier, ending, later, rfl, type, ?_, after⟩
        intro other member
        rcases List.mem_cons.mp member with rfl | member
        · exact ends
        · exact before other member
  · rintro ⟨earlier, ending, later, rfl, type, before, after⟩
    obtain ⟨event, mapped, ended⟩ := (mapBridgeFrame_isEnded secondsToMs ending).mpr type
    have nothing : later.filterMap (mapBridgeFrame secondsToMs) = [] := by
      rw [List.filterMap_eq_nil_iff]
      exact after
    rw [List.filterMap_append, List.filterMap_cons_some mapped, nothing]
    refine .of_last (fun other member => ?_) ended
    obtain ⟨frame, present, mapped⟩ := List.mem_filterMap.mp member
    exact quiet (before frame present) mapped

/-! ## All bridges -/

/-- What has to go well upstream for the session to end once. -/
def EndsUpstream : AsrTask → Prop
  | .mock _ _ => True
  | .minimax session commands => TranscriptionsSucceed session commands {}
  | .bridge secondsToMs _ reads => EndsItsStream secondsToMs (framesRead reads)

/-- A session that is committed or stopped ends exactly once, with nothing after it, if and only if
its upstream lets it. -/
theorem asr_ends_once_iff (task : AsrTask)
    (concluded : ∃ command ∈ task.commands, Concludes command) :
    EndsOnce BridgeAsrEvent.isEnded task.events ↔ EndsUpstream task := by
  cases task with
  | mock outputMode commands =>
    obtain ⟨events, ran, once⟩ := mockAsrTask_endsOnce outputMode concluded 0 []
    have same : (AsrTask.mock outputMode commands).events = events := congrArg Outbox.accepted ran
    rw [same]
    exact iff_of_true once trivial
  | minimax session commands =>
    obtain ⟨command, member, ends⟩ := concluded
    obtain ⟨entry, present, rfl⟩ := List.mem_map.mp member
    obtain ⟨events, ran, once⟩ := minimaxAsrTask_endsOnce session ⟨entry, present, ends⟩ {} []
    have same : (AsrTask.minimax session commands).events = events := congrArg Outbox.accepted ran
    rw [same]
    exact once
  | bridge secondsToMs commands reads =>
    have same : (AsrTask.bridge secondsToMs commands reads).events =
        (framesRead reads).filterMap (mapBridgeFrame secondsToMs) := by
      simp [AsrTask.events, AsrTask.run, runBridgeReader_live]
    rw [same]
    exact endsOnce_filterMap ..

/-- A MiniMax session with nothing buffered when it is committed. -/
def emptyCommit : AsrTask :=
  .minimax ⟨⟨"https://provider", 0⟩, ⟨{}, ⟨.pcmS16Le, 16000, 1⟩, {}⟩⟩ [(.commit, .failed "")]

/-- A MiniMax session with audio that is transcribed. -/
def transcribedCommit : AsrTask :=
  .minimax ⟨⟨"https://provider", 0⟩, ⟨{}, ⟨.pcmS16Le, 16000, 1⟩, {}⟩⟩
    [(.pushAudio [0, 0], .failed ""), (.commit, .body (.ok { text := some "hello" }))]

theorem asr_ends_once_iff_concluded :
    EndsOnce BridgeAsrEvent.isEnded (AsrTask.mock .streaming [.pushAudio [0], .stop]).events ∧
      EndsOnce BridgeAsrEvent.isEnded transcribedCommit.events := by
  constructor
  · exact (asr_ends_once_iff (.mock .streaming [.pushAudio [0], .stop])
      ⟨.stop, by simp [AsrTask.commands], trivial⟩).mpr trivial
  · refine (asr_ends_once_iff transcribedCommit
      ⟨.commit, by simp [transcribedCommit, AsrTask.commands], trivial⟩).mpr ?_
    -- the reply to the commit is a transcript
    change (MiniMaxAsrSession.transcribe ⟨⟨"https://provider", 0⟩, ⟨{}, ⟨.pcmS16Le, 16000, 1⟩, {}⟩⟩
      (MiniMaxAsrState.push {} [0, 0]) (.body (.ok { text := some "hello" }))).toBool = true
    decide

/-- The commit is answered with an error, and the session never ends. -/
theorem emptyCommit_never_ends :
    BridgeCommand.commit ∈ emptyCommit.commands ∧
      ¬ EndsOnce BridgeAsrEvent.isEnded emptyCommit.events :=
  ⟨by simp [emptyCommit, AsrTask.commands], by decide⟩

end SpeechMesh.Soundness
