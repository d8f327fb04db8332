import Mathlib.Data.List.Chain
import SpeechMesh.Model.AsrBridges

/-! # The uploads for partial results

A streaming MiniMax session transcribes all it has buffered whenever enough audio has come since the
last partial result that it told. A transcript that tells nothing new does not count: after one, the
next chunk is uploaded whatever its size.
-/

namespace SpeechMesh.Soundness

open Async Model

namespace PartialUploads

variable (session : MiniMaxAsrSession)

/-- `partial_min_bytes` of the session task. -/
def partialMinBytes : ℕ :=
  streamingPartialTriggerBytes session.request.inputFormat session.config.streamingPartialMinBytes

/-- Each upload has enough audio that the one before had not. -/
def RateLimited (uploads : List Bytes) : Prop :=
  uploads.IsChain fun earlier later => earlier.length + partialMinBytes session ≤ later.length

def partialText : BridgeAsrEvent → Option String
  | .partial_ text => some text
  | _ => none

/-- No partial result repeats the one before. -/
def NeverRepeats (events : List BridgeAsrEvent) : Prop :=
  (events.filterMap partialText).IsChain (· ≠ ·)

/-- Wherever a transcript told nothing new, the next chunk that is uploaded is large enough.
`quiet` says that the last one told nothing new. -/
def Spaced : Bool → List (BridgeCommand × HttpReply MiniMaxAsrResponse) → MiniMaxAsrState →
    Outbox BridgeAsrEvent → Prop
  | quiet, (.pushAudio chunk, reply) :: rest, state, outbox =>
      let state := state.push chunk
      (quiet = true → session.uploads state.bufferedAudio = true →
        partialMinBytes session ≤ chunk.length) ∧
      if session.wantsPartial state then
        match session.transcribe state reply with
        | .ok transcript =>
            match state.newPartial transcript with
            | some text =>
                match outbox.send (.partial_ text) with
                | (outbox, true) => Spaced false rest (state.told text) outbox
                | (_, false) => True
            | none => Spaced true rest state outbox
        | .error _ => True
      else Spaced false rest state outbox
  | _, _, _, _ => True

/-! ## Uploads -/

section

variable {session}

theorem tracedTask_fst (commands : List (BridgeCommand × HttpReply MiniMaxAsrResponse))
    (state : MiniMaxAsrState) (outbox : Outbox BridgeAsrEvent) :
    (session.tracedTask commands state outbox).1 = session.task commands state outbox := by
  induction commands generalizing state outbox with
  | nil => rfl
  | cons command rest ih =>
    obtain ⟨command, reply⟩ := command
    cases command with
    | commit => rfl
    | stop => rfl
    | pushAudio chunk =>
      simp only [MiniMaxAsrSession.tracedTask, MiniMaxAsrSession.task]
      split
      · split
        · split
          · split
            · exact ih ..
            · rfl
          · exact ih ..
        · rfl
      · exact ih ..

/-- A transcript comes from an upload. -/
theorem uploads_of_transcribe {state : MiniMaxAsrState} {reply : HttpReply MiniMaxAsrResponse}
    {transcript : Transcript} (transcribed : session.transcribe state reply = .ok transcript) :
    session.uploads state.bufferedAudio = true := by
  rw [MiniMaxAsrSession.transcribe, transcribeMinimax] at transcribed
  split_ifs at transcribed with empty
  · cases transcribed
  · obtain ⟨_, mime, transcribed⟩ := exists_of_bind_ok transcribed
    obtain ⟨_, checked, _⟩ := exists_of_bind_ok transcribed
    rw [MiniMaxAsrSession.uploads, mime, checked, Bool.eq_false_iff.mpr empty]
    rfl

variable {state : MiniMaxAsrState} {chunk : Bytes} {reply : HttpReply MiniMaxAsrResponse}
  {rest : List (BridgeCommand × HttpReply MiniMaxAsrResponse)} {outbox : Outbox BridgeAsrEvent}
  {quiet : Bool}

/-- The bytes that are new since the last partial result that was told. -/
theorem wantsPartial_far (wants : session.wantsPartial state = true)
    (marked : state.lastPartialBytes ≤ state.bufferedAudio.length) :
    state.lastPartialBytes + partialMinBytes session ≤ state.bufferedAudio.length := by
  rw [MiniMaxAsrSession.wantsPartial, Bool.and_eq_true, decide_eq_true_eq] at wants
  have enough := wants.2
  rw [← partialMinBytes] at enough
  omega

/-- Once a chunk triggers, every later one does until something is told. -/
theorem wantsPartial_push (wants : session.wantsPartial state = true) (chunk : Bytes) :
    session.wantsPartial (state.push chunk) = true := by
  rw [MiniMaxAsrSession.wantsPartial, Bool.and_eq_true, decide_eq_true_eq] at wants ⊢
  refine ⟨wants.1, ?_⟩
  rw [MiniMaxAsrState.push, List.length_append]
  have enough := wants.2
  dsimp only
  omega

theorem marked_push (marked : state.lastPartialBytes ≤ state.bufferedAudio.length)
    (chunk : Bytes) : (state.push chunk).lastPartialBytes ≤ (state.push chunk).bufferedAudio.length := by
  rw [MiniMaxAsrState.push, List.length_append]
  exact Nat.le_add_right_of_le marked

/-- The first upload has enough audio that was not there at the last partial result. -/
theorem head_far {commands : List (BridgeCommand × HttpReply MiniMaxAsrResponse)}
    (marked : state.lastPartialBytes ≤ state.bufferedAudio.length) :
    ∀ upload ∈ (session.tracedTask commands state outbox).2.head?,
      state.lastPartialBytes + partialMinBytes session ≤ upload.length := by
  induction commands generalizing state with
  | nil => exact fun _ member => by cases member
  | cons command rest ih =>
    obtain ⟨command, reply⟩ := command
    cases command with
    | commit => exact fun _ member => by cases member
    | stop => exact fun _ member => by cases member
    | pushAudio chunk =>
      have next := marked_push marked chunk
      simp only [MiniMaxAsrSession.tracedTask]
      by_cases wants : session.wantsPartial (state.push chunk) = true
      · rw [if_pos wants]
        by_cases uploaded : session.uploads (state.push chunk).bufferedAudio = true
        · rw [if_pos uploaded]
          intro upload member
          obtain rfl := Option.some.inj member
          exact wantsPartial_far wants next
        · -- without an upload there is no transcript, and the session ends
          rw [if_neg uploaded]
          cases transcribed : session.transcribe (state.push chunk) reply with
          | ok transcript => exact absurd (uploads_of_transcribe transcribed) uploaded
          | error error => exact fun _ member => by cases member
      · rw [if_neg wants]
        exact ih next

/-- The upload after a fruitless one is far enough from it if the chunk in between is large enough. -/
theorem rateLimited_push {later : List Bytes} :
    RateLimited session ((if quiet then [state.bufferedAudio] else []) ++
        (state.push chunk).bufferedAudio :: later) ↔
      (quiet = true → partialMinBytes session ≤ chunk.length) ∧
        RateLimited session ((state.push chunk).bufferedAudio :: later) := by
  cases quiet with
  | false => simp
  | true =>
    rw [if_pos rfl, List.singleton_append, RateLimited, List.isChain_cons_cons, ← RateLimited]
    apply and_congr_left'
    rw [MiniMaxAsrState.push, List.length_append]
    constructor
    · intro far _
      omega
    · intro far
      have := far rfl
      omega

theorem rateLimited_cons {upload : Bytes} {later : List Bytes}
    (far : ∀ next ∈ later.head?, upload.length + partialMinBytes session ≤ next.length) :
    RateLimited session (upload :: later) ↔ RateLimited session later := by
  rw [RateLimited, List.isChain_cons]
  exact and_iff_right far

/-- The uploads are far enough apart exactly if the chunks after fruitless ones are large enough. -/
theorem rateLimited_iff {commands : List (BridgeCommand × HttpReply MiniMaxAsrResponse)}
    (marked : state.lastPartialBytes ≤ state.bufferedAudio.length)
    (waiting : quiet = true → session.wantsPartial state = true) :
    RateLimited session ((if quiet then [state.bufferedAudio] else []) ++
        (session.tracedTask commands state outbox).2) ↔
      Spaced session quiet commands state outbox := by
  induction commands generalizing state outbox quiet with
  | nil => cases quiet <;> simp [MiniMaxAsrSession.tracedTask, RateLimited, Spaced]
  | cons command rest ih =>
    obtain ⟨command, reply⟩ := command
    cases command with
    | commit => cases quiet <;> simp [MiniMaxAsrSession.tracedTask, RateLimited, Spaced]
    | stop => cases quiet <;> simp [MiniMaxAsrSession.tracedTask, RateLimited, Spaced]
    | pushAudio chunk =>
      have next := marked_push marked chunk
      have loudly {state : MiniMaxAsrState} {outbox : Outbox BridgeAsrEvent}
          (marked : state.lastPartialBytes ≤ state.bufferedAudio.length) :
          RateLimited session (session.tracedTask rest state outbox).2 ↔
            Spaced session false rest state outbox :=
        @ih state outbox false marked fun quiet => Bool.noConfusion quiet
      simp only [MiniMaxAsrSession.tracedTask, Spaced]
      by_cases wants : session.wantsPartial (state.push chunk) = true
      · rw [if_pos wants, if_pos wants]
        by_cases uploaded : session.uploads (state.push chunk).bufferedAudio = true
        · rw [if_pos uploaded, List.singleton_append, rateLimited_push]
          apply and_congr
          · exact ⟨fun large loud _ => large loud, fun large loud => large loud uploaded⟩
          · cases session.transcribe (state.push chunk) reply with
            | error error => simp [RateLimited]
            | ok transcript =>
              dsimp only
              cases (state.push chunk).newPartial transcript with
              | none => exact @ih (state.push chunk) outbox true next fun _ => wants
              | some text =>
                dsimp only
                cases outbox.send (.partial_ text) with
                | mk after taken =>
                  cases taken with
                  | false => simp [RateLimited]
                  | true =>
                    have told : ((state.push chunk).told text).lastPartialBytes ≤
                        ((state.push chunk).told text).bufferedAudio.length := le_rfl
                    refine (rateLimited_cons (head_far told)).trans ?_
                    exact loudly told
        · rw [if_neg uploaded]
          cases transcribed : session.transcribe (state.push chunk) reply with
          | ok transcript => exact absurd (uploads_of_transcribe transcribed) uploaded
          | error error =>
            refine iff_of_true ?_ ⟨fun _ loud => absurd loud uploaded, trivial⟩
            cases quiet <;> simp [RateLimited]
      · have loud : quiet = false := by
          rw [Bool.eq_false_iff]
          exact fun quiet => wants (wantsPartial_push (waiting quiet) chunk)
        subst loud
        rw [if_neg wants, if_neg wants]
        refine Iff.trans ?_ (and_iff_right fun quiet => by cases quiet).symm
        exact loudly next

end

/-! ## Partial results -/

section

variable {session}

theorem newPartial_fresh {state : MiniMaxAsrState} {transcript : Transcript} {text : String}
    (new : state.newPartial transcript = some text) : state.lastPartialText ≠ some text := by
  unfold MiniMaxAsrState.newPartial at new
  dsimp only at new
  split_ifs at new with fresh
  obtain rfl := Option.some.inj new
  exact fresh.2

theorem neverRepeats_send {outbox : Outbox BridgeAsrEvent} {event : BridgeAsrEvent}
    (silent : partialText event = none) (fresh : NeverRepeats outbox.accepted) :
    NeverRepeats (outbox.send event).1.accepted := by
  rcases outbox.send_cases event with ⟨_, appended⟩ | ⟨_, refused⟩
  · rw [appended, NeverRepeats, List.filterMap_append, List.filterMap_cons_none silent,
      List.filterMap_nil, List.append_nil]
    exact fresh
  · rw [refused]
    exact fresh

/-- The last partial result is the one that the session remembers. -/
structure Remembers (state : MiniMaxAsrState) (outbox : Outbox BridgeAsrEvent) : Prop where
  fresh : NeverRepeats outbox.accepted
  last : (outbox.accepted.filterMap partialText).getLast? = state.lastPartialText

theorem Remembers.told {state : MiniMaxAsrState} {outbox after : Outbox BridgeAsrEvent}
    {text : String} (remembers : Remembers state outbox) (new : state.lastPartialText ≠ some text)
    (sent : outbox.send (.partial_ text) = (after, true)) : Remembers (state.told text) after := by
  have appended : after.accepted = outbox.accepted ++ [.partial_ text] := by
    rcases outbox.send_cases (.partial_ text) with ⟨_, appended⟩ | ⟨_, refused⟩
    · rwa [sent] at appended
    · rw [sent] at refused
      cases (Prod.mk.inj refused).2
  have texts : after.accepted.filterMap partialText =
      outbox.accepted.filterMap partialText ++ [text] := by
    rw [appended, List.filterMap_append]
    rfl
  constructor
  · rw [NeverRepeats, texts, List.isChain_append]
    refine ⟨remembers.fresh, List.isChain_singleton _, fun before member next same => ?_⟩
    obtain rfl := Option.some.inj same
    rintro rfl
    rw [remembers.last] at member
    exact new member
  · rw [texts, List.getLast?_append]
    rfl

theorem task_neverRepeats {commands : List (BridgeCommand × HttpReply MiniMaxAsrResponse)}
    {state : MiniMaxAsrState} {outbox : Outbox BridgeAsrEvent}
    (remembers : Remembers state outbox) :
    NeverRepeats (session.task commands state outbox).accepted := by
  induction commands generalizing state outbox with
  | nil => exact remembers.fresh
  | cons command rest ih =>
    obtain ⟨command, reply⟩ := command
    cases command with
    | stop => exact neverRepeats_send rfl remembers.fresh
    | commit =>
      simp only [MiniMaxAsrSession.task]
      cases session.transcribe state reply with
      | error error => exact neverRepeats_send rfl remembers.fresh
      | ok transcript =>
        dsimp only
        have final : NeverRepeats (outbox.send (.final transcript)).1.accepted :=
          neverRepeats_send rfl remembers.fresh
        split
        · rename_i after sent
          rw [sent] at final
          exact neverRepeats_send rfl final
        · rename_i after sent
          rw [sent] at final
          exact final
    | pushAudio chunk =>
      have pushed : Remembers (state.push chunk) outbox := ⟨remembers.fresh, remembers.last⟩
      simp only [MiniMaxAsrSession.task]
      by_cases wants : session.wantsPartial (state.push chunk) = true
      · rw [if_pos wants]
        cases session.transcribe (state.push chunk) reply with
        | error error => exact neverRepeats_send rfl remembers.fresh
        | ok transcript =>
          dsimp only
          cases new : (state.push chunk).newPartial transcript with
          | none => exact ih pushed
          | some text =>
            dsimp only
            cases sent : outbox.send (.partial_ text) with
            | mk after taken =>
              cases taken with
              | true => exact ih (pushed.told (newPartial_fresh new) sent)
              | false =>
                rcases outbox.send_cases (.partial_ text) with ⟨taken, _⟩ | ⟨_, refused⟩
                · rw [sent] at taken
                  cases taken
                · rw [sent] at refused
                  obtain ⟨rfl, _⟩ := Prod.mk.inj refused
                  exact remembers.fresh
      · rw [if_neg wants]
        exact ih pushed

end

/-- The uploads for partial results are rate-limited by new audio, and partial results do not repeat,
exactly if the chunk after an upload that told nothing new is large enough. -/
theorem rate_limited_iff
    (commands : List (BridgeCommand × HttpReply MiniMaxAsrResponse)) (room : Option ℕ) :
    RateLimited session (session.tracedTask commands {} ⟨[], room⟩).2 ∧
        NeverRepeats (session.task commands {} ⟨[], room⟩).accepted ↔
      Spaced session false commands {} ⟨[], room⟩ := by
  have fresh : NeverRepeats (session.task commands {} ⟨[], room⟩).accepted :=
    task_neverRepeats ⟨List.isChain_nil, rfl⟩
  refine (and_iff_left fresh).trans ?_
  exact @rateLimited_iff session {} ⟨[], room⟩ false commands le_rfl fun quiet => Bool.noConfusion quiet

/-! ## A repeated transcript -/

/-- Partial results are told after four bytes of audio. -/
def fourBytes : MiniMaxAsrSession where
  config := ⟨"https://api.minimaxi.com/v1", 4⟩
  request :=
    { provider := {}, inputFormat := ⟨.wav, 16000, 1⟩, options := { interimResults := true } }

def answer (text : String) : HttpReply MiniMaxAsrResponse := .body (.ok { text := some text })

/-- The second transcript repeats the first, so the single byte that follows is uploaded too. -/
theorem repeated_not_limited : ¬ RateLimited fourBytes (fourBytes.tracedTask
    [(.pushAudio [1, 2, 3, 4], answer "hello"), (.pushAudio [5, 6, 7, 8], answer "hello"),
      (.pushAudio [9], answer "hello")] {} {}).2 := by
  have uploads : (fourBytes.tracedTask
      [(.pushAudio [1, 2, 3, 4], answer "hello"), (.pushAudio [5, 6, 7, 8], answer "hello"),
        (.pushAudio [9], answer "hello")] {} {}).2 =
      [[1, 2, 3, 4], [1, 2, 3, 4, 5, 6, 7, 8], [1, 2, 3, 4, 5, 6, 7, 8, 9]] := by
    decide +kernel
  rw [uploads, RateLimited]
  decide

end PartialUploads

end SpeechMesh.Soundness
