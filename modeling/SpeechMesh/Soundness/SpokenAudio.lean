import SpeechMesh.Model.CliStream
import SpeechMesh.Soundness.AudioStream

/-! # From the chunks of a bridge to the sink of the client

The command line client writes the chunks it hears to its sink until it has seen both closing
messages of the session. What it has written is followed through every run of it, and then composed
with what the forwarder of the gateway queues.
-/

namespace SpeechMesh.Soundness

open Async SpeechMesh.Model

/-! ## What the client hears and writes -/

def messageHeard : Entry commandLine → Option ServerMessage
  | ⟨.nextFrame, frame⟩ =>
      match (frame : Incoming ServerMessage) with
      | .text (.ok message) => some message
      | _ => none
  | _ => none

/-- The text is committed, which is the last that is sent before the streaming loop. -/
def commits : Entry commandLine → Bool
  | ⟨.send (.ttsCommit _), sent⟩ =>
      match (sent : Except String Unit) with
      | .ok () => true
      | .error _ => false
  | _ => false

def committed (trace : Trace commandLine) : Bool := trace.any commits

/-- The messages that are heard in the streaming loop. The audio of a session is among them: a bridge
has no text before the client commits it, which it does once `start_tts` has returned. -/
def looped : Trace commandLine → List ServerMessage
  | [] => []
  | entry :: rest => if commits entry then rest.filterMap messageHeard else looped rest

def writtenBy : Entry commandLine → Bytes
  | ⟨.writeAll bytes, result⟩ =>
      match (result : Except (ℕ × String) Unit) with
      | .ok () => bytes
      | .error (count, _) => bytes.take count
  | _ => []

/-- The bytes that the sink has taken. -/
def written (trace : Trace commandLine) : Bytes := trace.flatMap writtenBy

/-- The answer makes the client give up. -/
def fails : Entry commandLine → Bool
  | ⟨.connect, answer⟩ | ⟨.send _, answer⟩ | ⟨.sendPong _, answer⟩ | ⟨.flush, answer⟩
  | ⟨.printJsonl _, answer⟩ =>
      match (answer : Except String Unit) with
      | .ok () => false
      | .error _ => true
  | ⟨.writeAll _, answer⟩ =>
      match (answer : Except (ℕ × String) Unit) with
      | .ok () => false
      | .error _ => true
  | ⟨.nextFrame, frame⟩ =>
      match (frame : Incoming ServerMessage) with
      | .text (.ok _) | .ping _ | .pong => false
      | .ended | .failed _ | .text (.error _) | .close | .binary _ => true

def awaits : Entry commandLine → Bool
  | ⟨.nextFrame, _⟩ => true
  | _ => false

def soundOf (base64 : Base64) : ServerMessage → Bytes
  | .ttsAudioDelta _ _ payload =>
      match base64.decode payload.audioBase64 with
      | .ok bytes => bytes
      | .error _ => []
  | _ => []

/-- The audio in the messages. -/
def sounds (base64 : Base64) (messages : List ServerMessage) : Bytes :=
  messages.flatMap (soundOf base64)

def undecodable (base64 : Base64) : ServerMessage → Prop
  | .ttsAudioDelta _ _ payload => ∃ error, base64.decode payload.audioBase64 = .error error
  | _ => False

variable {trace : Trace commandLine} {entry : Entry commandLine} {base64 : Base64}

theorem committed_snoc : committed (trace ++ [entry]) = (committed trace || commits entry) := by
  rw [committed, List.any_append, List.any_cons, List.any_nil, Bool.or_false, committed]

theorem written_snoc : written (trace ++ [entry]) = written trace ++ writtenBy entry := by
  rw [written, List.flatMap_append, List.flatMap_singleton, written]

theorem looped_snoc (inLoop : committed trace = true) :
    looped (trace ++ [entry]) = looped trace ++ (messageHeard entry).toList := by
  induction trace with
  | nil => cases inLoop
  | cons first rest ih =>
    rw [committed, List.any_cons, Bool.or_eq_true] at inLoop
    rw [List.cons_append, looped, looped]
    cases commit : commits first with
    | true => rw [if_pos rfl, if_pos rfl, filterMap_snoc]
    | false =>
      rw [if_neg Bool.false_ne_true, if_neg Bool.false_ne_true]
      exact ih (inLoop.resolve_left (by rw [commit]; exact Bool.false_ne_true))

theorem looped_uncommitted (outside : committed trace = false) : looped trace = [] := by
  induction trace with
  | nil => rfl
  | cons first rest ih =>
    rw [committed, List.any_cons, Bool.or_eq_false_iff] at outside
    rw [looped, if_neg (by rw [outside.1]; exact Bool.false_ne_true)]
    exact ih outside.2

/-- Nothing is heard in the loop until something is received after the commit. -/
theorem looped_commit (entry : Entry commandLine) (outside : committed trace = false) :
    looped (trace ++ [entry]) = [] := by
  induction trace with
  | nil =>
    rw [List.nil_append, looped]
    exact ite_self _
  | cons first rest ih =>
    rw [committed, List.any_cons, Bool.or_eq_false_iff] at outside
    rw [List.cons_append, looped, if_neg (by rw [outside.1]; exact Bool.false_ne_true)]
    exact ih outside.2

/-- The entry is not about the session: nothing is heard, committed or written. -/
structure Aside (entry : Entry commandLine) : Prop where
  unheard : messageHeard entry = none
  uncommitting : commits entry = false
  unwritten : writtenBy entry = []

/-- What was heard and written is the same at a later time. -/
structure Kept (trace later : Trace commandLine) : Prop where
  committed : committed later = committed trace
  looped : looped later = looped trace
  written : written later = written trace

theorem Kept.refl : Kept trace trace := ⟨rfl, rfl, rfl⟩

theorem Aside.kept (aside : Aside entry) : Kept trace (trace ++ [entry]) := by
  refine ⟨?_, ?_, ?_⟩
  · rw [committed_snoc, aside.uncommitting, Bool.or_false]
  · cases inLoop : committed trace with
    | true => rw [looped_snoc inLoop, aside.unheard, Option.toList_none, List.append_nil]
    | false => rw [looped_commit entry inLoop, looped_uncommitted inLoop]
  · rw [written_snoc, aside.unwritten, List.append_nil]

/-! ## What holds at every time -/

/-- Both closing messages were heard. -/
def Complete (messages : List ServerMessage) : Prop :=
  messages.any isAudioDone = true ∧ messages.any isSessionEnded = true

/-- What is written is audio that was heard, and the client does not wait for another frame once it
has heard both closing messages. -/
structure Heeded (base64 : Base64) (trace : Trace commandLine) : Prop where
  sound : written trace <+: sounds base64 (looped trace)
  awaited : ∀ earlier entry, trace = earlier ++ [entry] → awaits entry = true →
    committed earlier = true → ¬ Complete (looped earlier)

theorem Heeded.snoc
    (sound : written (trace ++ [entry]) <+: sounds base64 (looped (trace ++ [entry])))
    (unawaited : awaits entry = true → committed trace = true → ¬ Complete (looped trace)) :
    Heeded base64 (trace ++ [entry]) := by
  refine ⟨sound, ?_⟩
  intro earlier last whole awaiting inLoop
  obtain ⟨same, single⟩ := List.append_inj' whole rfl
  obtain rfl := List.singleton_inj.mp single
  subst same
  exact unawaited awaiting inLoop

/-- Some answer made the client give up. -/
def Faulty (trace : Trace commandLine) : Prop := ∃ entry ∈ trace, fails entry = true

theorem Faulty.snoc (failed : fails entry = true) : Faulty (trace ++ [entry]) :=
  ⟨entry, List.mem_append_right _ List.mem_cons_self, failed⟩

/-- Why the streaming loop fails. -/
def Blamed (base64 : Base64) (trace : Trace commandLine) : Prop :=
  Faulty trace ∨ ∃ message ∈ looped trace,
    isErrorMessage message = true ∨ undecodable base64 message

/-! ## What holds between two rounds -/

/-- Before the loop. -/
structure Unheard (trace : Trace commandLine) : Prop where
  outside : committed trace = false
  silent : written trace = []

/-- In the loop, everything that was heard is written, and the flags are right. -/
structure Playing (base64 : Base64) (sawAudioDone sawSessionEnd : Bool)
    (trace : Trace commandLine) : Prop where
  inLoop : committed trace = true
  all : written trace = sounds base64 (looped trace)
  audioDone : sawAudioDone = (looped trace).any isAudioDone
  sessionEnd : sawSessionEnd = (looped trace).any isSessionEnded

/-- What holds when a procedure is entered. -/
def Streaming (base64 : Base64) : CliProcedure → Trace commandLine → Unit → Prop
  | .connecting, trace, _ => Unheard trace
  | .handshake _, trace, _ => Unheard trace
  | .starting _ _, trace, _ => Unheard trace
  | .streaming _ sawAudioDone sawSessionEnd, trace, _ =>
      Playing base64 sawAudioDone sawSessionEnd trace
  | .finished (.ok ()), trace, _ => Playing base64 true true trace
  | .finished (.error _), trace, _ => committed trace = true → Blamed base64 trace

abbrev Heeds (base64 : Base64) (code : CliCode (Option CliProcedure))
    (trace : Trace commandLine) : Prop :=
  code.Ensures AnyStep (fun trace _ => Heeded base64 trace)
    (Code.Exits (Streaming base64) fun _ _ => True) trace ()

theorem Unheard.kept {later : Trace commandLine} (unheard : Unheard trace)
    (kept : Kept trace later) : Unheard later :=
  ⟨kept.committed.trans unheard.outside, kept.written.trans unheard.silent⟩

theorem Unheard.heeded (unheard : Unheard (trace ++ [entry])) (before : committed trace = false) :
    Heeded base64 (trace ++ [entry]) := by
  refine Heeded.snoc ?_ ?_
  · rw [unheard.silent]
    exact List.nil_prefix
  · intro _ inLoop
    rw [before] at inLoop
    cases inLoop

/-- An entry beside the session, before the loop. -/
theorem Unheard.aside (base64 : Base64) (unheard : Unheard trace) (aside : Aside entry) :
    Heeded base64 (trace ++ [entry]) ∧ Unheard (trace ++ [entry]) := by
  have later := unheard.kept aside.kept
  exact ⟨later.heeded unheard.outside, later⟩

theorem Unheard.fails (unheard : Unheard trace) (error : CliError) :
    Heeds base64 (cliFailed error) trace := by
  intro inLoop
  rw [unheard.outside] at inLoop
  cases inLoop

/-! ## Receiving -/

/-- Before the loop, whatever is received is beside the session. -/
theorem Unheard.hears (base64 : Base64) (unheard : Unheard trace)
    (frame : Incoming ServerMessage) :
    Heeded base64 (trace ++ [⟨.nextFrame, frame⟩]) ∧ Unheard (trace ++ [⟨.nextFrame, frame⟩]) := by
  have later : Unheard (trace ++ [(⟨.nextFrame, frame⟩ : Entry commandLine)]) := by
    refine ⟨?_, ?_⟩
    · rw [committed_snoc, unheard.outside]
      rfl
    · rw [written_snoc, unheard.silent]
      rfl
  exact ⟨later.heeded unheard.outside, later⟩

theorem Unheard.recv (unheard : Unheard trace) :
    SdkClient.recv.Ensures AnyStep (fun trace _ => Heeded base64 trace)
      (fun _ later _ => Unheard later) trace () := by
  intro frame _ _
  have hears := unheard.hears base64 frame
  refine ⟨hears.1, ?_⟩
  cases frame with
  | text message => cases message <;> exact hears.2
  | ping payload =>
    intro sent _ _
    have pong : Aside ⟨.sendPong payload, sent⟩ := ⟨rfl, rfl, rfl⟩
    have sends := hears.2.aside base64 pong
    refine ⟨sends.1, ?_⟩
    cases sent <;> exact sends.2
  | ended => exact hears.2
  | failed error => exact hears.2
  | binary bytes => exact hears.2
  | pong => exact hears.2
  | close => exact hears.2

theorem Unheard.send {message : ClientMessage}
    (other : ∀ sessionId, message ≠ .ttsCommit sessionId) (unheard : Unheard trace) :
    (SdkClient.sendJson message).Ensures AnyStep (fun trace _ => Heeded base64 trace)
      (fun _ later _ => Unheard later) trace () := by
  intro sent _ _
  have aside : Aside ⟨.send message, sent⟩ := by
    refine ⟨rfl, ?_, rfl⟩
    cases message with
    | ttsCommit sessionId => exact absurd rfl (other sessionId)
    | _ => rfl
  have sends := unheard.aside base64 aside
  refine ⟨sends.1, ?_⟩
  cases sent <;> exact sends.2

/-! ## Up to the loop -/

section Bodies

variable {config : CliConfig} {client : SdkClient}

theorem Unheard.connecting (unheard : Unheard trace) :
    Heeds base64 (cliConnecting config) trace := by
  intro answer _ _
  have aside : Aside ⟨.connect, answer⟩ := ⟨rfl, rfl, rfl⟩
  have connects := unheard.aside base64 aside
  refine ⟨connects.1, ?_⟩
  cases answer with
  | error error => exact connects.2.fails _
  | ok _ =>
    refine (connects.2.send (fun _ other => by cases other)).bind ?_
    intro sent later _ unheard
    cases sent with
    | error error => exact unheard.fails _
    | ok _ => exact unheard

theorem Unheard.starts (unheard : Unheard trace) : Heeds base64 (startTts config client) trace := by
  unfold startTts
  split_ifs with active
  · exact unheard.fails _
  · refine (unheard.send (fun _ other => by cases other)).bind ?_
    intro sent later _ unheard
    cases sent with
    | error error => exact unheard.fails _
    | ok _ => exact unheard

theorem Unheard.handshake (unheard : Unheard trace) :
    Heeds base64 (cliHandshake config client) trace := by
  refine unheard.recv.bind ?_
  intro received later _ unheard
  rcases received with _ | error | message
  · exact unheard
  · exact unheard.fails _
  · cases message with
    | helloOk requestId payload => exact unheard.starts
    | error requestId sessionId error => exact unheard.fails _
    | _ => exact unheard

/-- The commit takes the client into the loop. -/
theorem Unheard.commits (unheard : Unheard trace) (sessionId : SessionId) :
    (SdkClient.sendJson (.ttsCommit sessionId)).Ensures AnyStep
      (fun trace _ => Heeded base64 trace)
      (fun sent later _ => match sent with
        | .ok () => Playing base64 false false later
        | .error _ => Unheard later) trace () := by
  intro sent _ _
  have looped := looped_commit ⟨.send (.ttsCommit sessionId), sent⟩ unheard.outside
  have written : written (trace ++ [(⟨.send (.ttsCommit sessionId), sent⟩ : Entry commandLine)]) =
      [] := by
    rw [written_snoc, unheard.silent]
    rfl
  refine ⟨Heeded.snoc ?_ nofun, ?_⟩
  · rw [written]
    exact List.nil_prefix
  · cases sent with
    | ok _ =>
      refine ⟨?_, ?_, ?_, ?_⟩
      · rw [committed_snoc]
        exact Bool.or_true _
      · rw [written, looped]
        rfl
      · rw [looped]
        rfl
      · rw [looped]
        rfl
    | error error =>
      refine ⟨?_, written⟩
      rw [committed_snoc, unheard.outside]
      rfl

theorem domain_of_ensured (ensured : client.ensureActiveSessionDomain .tts = .ok ()) :
    client.activeSessionDomain = some .tts := by
  unfold SdkClient.ensureActiveSessionDomain at ensured
  cases domain : client.activeSessionDomain with
  | none =>
    rw [domain] at ensured
    cases ensured
  | some actual =>
    rw [domain] at ensured
    dsimp only at ensured
    split_ifs at ensured with same
    rw [same]

/-- Text is appended to a TTS session only. -/
theorem Unheard.appends (unheard : Unheard trace) :
    (client.appendTtsInput config.text).Ensures AnyStep (fun trace _ => Heeded base64 trace)
      (fun appended later _ => Unheard later ∧
        (appended = .ok () → client.activeSessionDomain = some .tts)) trace () := by
  unfold SdkClient.appendTtsInput
  cases ensured : client.ensureActiveSessionDomain .tts with
  | error error => exact ⟨unheard, nofun⟩
  | ok _ =>
    have domain := domain_of_ensured ensured
    cases client.activeSessionId with
    | none => exact ⟨unheard, nofun⟩
    | some sessionId =>
      exact (unheard.send (fun _ other => by cases other)).mono (fun _ _ heeded => heeded)
        fun _ _ _ later => ⟨later, fun _ => domain⟩

theorem Unheard.sendsText (unheard : Unheard trace) :
    Heeds base64 (sendText config client) trace := by
  refine unheard.appends.bind ?_
  rintro appended later _ ⟨unheard, domain⟩
  cases appended with
  | error error => exact unheard.fails _
  | ok _ =>
    have commits : client.commit.Ensures AnyStep (fun trace _ => Heeded base64 trace)
        (fun sent later _ => match sent with
          | .ok () => Playing base64 false false later
          | .error _ => Unheard later) later () := by
      unfold SdkClient.commit
      cases client.activeSessionId with
      | none => exact unheard
      | some sessionId =>
        rw [domain rfl]
        exact unheard.commits sessionId
    refine commits.bind ?_
    intro sent later _ reached
    cases sent with
    | error error => exact Unheard.fails reached _
    | ok _ => exact reached

theorem Unheard.starting {requestId : RequestId} (unheard : Unheard trace) :
    Heeds base64 (cliStarting config client requestId) trace := by
  refine unheard.recv.bind ?_
  intro received later _ unheard
  rcases received with _ | error | message
  · exact unheard
  · exact unheard.fails _
  · cases message with
    | sessionStarted responseId sessionId payload =>
      change Heeds base64 (if _ then _ else _) later
      split_ifs
      · exact unheard.sendsText
      · exact unheard
    | error responseId sessionId error =>
      change Heeds base64 (if _ then _ else _) later
      split_ifs
      · exact unheard.fails _
      · exact unheard
    | _ => exact unheard

/-! ## The loop -/

variable {sawAudioDone sawSessionEnd : Bool}

theorem Playing.kept {later : Trace commandLine}
    (playing : Playing base64 sawAudioDone sawSessionEnd trace) (kept : Kept trace later) :
    Playing base64 sawAudioDone sawSessionEnd later := by
  refine ⟨kept.committed.trans playing.inLoop, ?_, ?_, ?_⟩
  · rw [kept.written, kept.looped, playing.all]
  · rw [kept.looped, playing.audioDone]
  · rw [kept.looped, playing.sessionEnd]

theorem Playing.heeded (playing : Playing base64 sawAudioDone sawSessionEnd (trace ++ [entry]))
    (local_ : awaits entry = false) : Heeded base64 (trace ++ [entry]) := by
  refine Heeded.snoc ?_ ?_
  · rw [playing.all]
  · rw [local_]
    nofun

theorem Playing.aside (playing : Playing base64 sawAudioDone sawSessionEnd trace)
    (aside : Aside entry) (local_ : awaits entry = false) :
    Heeded base64 (trace ++ [entry]) ∧
      Playing base64 sawAudioDone sawSessionEnd (trace ++ [entry]) := by
  have later := playing.kept aside.kept
  exact ⟨later.heeded local_, later⟩

/-- The loop goes on after a line is printed. -/
theorem Playing.prints (playing : Playing base64 sawAudioDone sawSessionEnd trace)
    (line : JsonLine) :
    Heeds base64 (printedThen config line (.streaming client sawAudioDone sawSessionEnd))
      trace := by
  unfold printedThen
  split_ifs
  · intro printed _ _
    have aside : Aside ⟨.printJsonl line, printed⟩ := ⟨rfl, rfl, rfl⟩
    have prints := playing.aside aside rfl
    refine ⟨prints.1, ?_⟩
    cases printed with
    | ok _ => exact prints.2
    | error error => exact fun _ => .inl (Faulty.snoc rfl)
  · exact playing

theorem Playing.unfinished (playing : Playing base64 sawAudioDone sawSessionEnd trace)
    (missing : ¬(sawAudioDone && sawSessionEnd) = true) : ¬ Complete (looped trace) := by
  rintro ⟨done, ended⟩
  rw [playing.audioDone, playing.sessionEnd, done, ended] at missing
  exact missing rfl

theorem sounds_append (first second : List ServerMessage) :
    sounds base64 (first ++ second) = sounds base64 first ++ sounds base64 second :=
  List.flatMap_append

/-- Every frame that is received in the loop. -/
theorem Playing.receives (playing : Playing base64 sawAudioDone sawSessionEnd trace)
    (missing : ¬(sawAudioDone && sawSessionEnd) = true) (frame : Incoming ServerMessage) :
    Heeded base64 (trace ++ [⟨.nextFrame, frame⟩]) := by
  refine Heeded.snoc ?_ (fun _ _ => playing.unfinished missing)
  rw [written_snoc, looped_snoc playing.inLoop, sounds_append, playing.all]
  exact ⟨_, by rw [List.append_assoc]; rfl⟩

/-- A message was heard, and is not yet acted upon. -/
structure Hearing (base64 : Base64) (sawAudioDone sawSessionEnd : Bool) (message : ServerMessage)
    (trace : Trace commandLine) : Prop where
  inLoop : committed trace = true
  before : ∃ earlier, looped trace = earlier ++ [message] ∧
    written trace = sounds base64 earlier ∧ sawAudioDone = earlier.any isAudioDone ∧
      sawSessionEnd = earlier.any isSessionEnded

theorem Playing.hears (playing : Playing base64 sawAudioDone sawSessionEnd trace)
    (message : ServerMessage) : Hearing base64 sawAudioDone sawSessionEnd message
      (trace ++ [⟨.nextFrame, .text (.ok message)⟩]) := by
  refine ⟨?_, looped trace, looped_snoc playing.inLoop, ?_, playing.audioDone,
    playing.sessionEnd⟩
  · rw [committed_snoc, playing.inLoop, Bool.true_or]
  · rw [written_snoc, playing.all]
    exact List.append_nil _

/-- A message without audio needs no write. -/
theorem Hearing.silent {message : ServerMessage}
    (hearing : Hearing base64 sawAudioDone sawSessionEnd message trace)
    (soundless : soundOf base64 message = []) :
    Playing base64 (sawAudioDone || isAudioDone message) (sawSessionEnd || isSessionEnded message)
      trace := by
  obtain ⟨earlier, looped, written, done, ended⟩ := hearing.before
  refine ⟨hearing.inLoop, ?_, ?_, ?_⟩
  · rw [written, looped, sounds_append, sounds, sounds, List.flatMap_singleton, soundless,
      List.append_nil]
  · rw [looped, List.any_append, List.any_cons, List.any_nil, Bool.or_false, done]
  · rw [looped, List.any_append, List.any_cons, List.any_nil, Bool.or_false, ended]

/-- The bytes of a chunk are written. -/
theorem Hearing.writes {sessionId : SessionId} {sequence : ℕ} {payload : TtsAudioDeltaPayload}
    {bytes : Bytes}
    (hearing : Hearing base64 sawAudioDone sawSessionEnd
      (.ttsAudioDelta sessionId sequence payload) trace)
    (decoded : base64.decode payload.audioBase64 = .ok bytes)
    (result : Except (ℕ × String) Unit) :
    Heeded base64 (trace ++ [⟨.writeAll bytes, result⟩]) ∧ (result = .ok () →
      Playing base64 sawAudioDone sawSessionEnd (trace ++ [⟨.writeAll bytes, result⟩])) := by
  obtain ⟨earlier, looped, written, done, ended⟩ := hearing.before
  have sound : soundOf base64 (.ttsAudioDelta sessionId sequence payload) = bytes := by
    rw [soundOf, decoded]
  have heard : Soundness.looped
      (trace ++ [(⟨.writeAll bytes, result⟩ : Entry commandLine)]) =
      earlier ++ [.ttsAudioDelta sessionId sequence payload] := by
    rw [looped_snoc hearing.inLoop, looped]
    exact List.append_nil _
  have sounding : sounds base64 (earlier ++ [.ttsAudioDelta sessionId sequence payload]) =
      sounds base64 earlier ++ bytes := by
    rw [sounds_append, sounds, sounds, List.flatMap_singleton, sound]
  refine ⟨Heeded.snoc ?_ nofun, ?_⟩
  · rw [heard, sounding, written_snoc, written]
    apply (List.prefix_append_right_inj _).mpr
    cases result with
    | ok _ => exact List.prefix_refl bytes
    | error error => exact List.take_prefix error.1 bytes
  · rintro rfl
    refine ⟨?_, ?_, ?_, ?_⟩
    · rw [committed_snoc, hearing.inLoop, Bool.true_or]
    · rw [heard, sounding, written_snoc, written]
      rfl
    · rw [heard, List.any_append, done]
      exact (Bool.or_false _).symm
    · rw [heard, List.any_append, ended]
      exact (Bool.or_false _).symm

theorem Hearing.kept {message : ServerMessage} {later : Trace commandLine}
    (hearing : Hearing base64 sawAudioDone sawSessionEnd message trace) (kept : Kept trace later) :
    Hearing base64 sawAudioDone sawSessionEnd message later := by
  obtain ⟨inLoop, earlier, looped, written, flags⟩ := hearing
  exact ⟨kept.committed.trans inLoop, earlier, kept.looped.trans looped,
    kept.written.trans written, flags⟩

theorem Blamed.fails (blamed : Blamed base64 trace) (error : CliError) :
    Heeds base64 (cliFailed error) trace := fun _ => blamed

/-- One message is acted upon. -/
theorem Hearing.streams {message : ServerMessage}
    (hearing : Hearing config.base64 sawAudioDone sawSessionEnd message trace) :
    Heeds config.base64 (streamMessage config client sawAudioDone sawSessionEnd message) trace := by
  have heard : message ∈ looped trace := by
    obtain ⟨earlier, looped, -⟩ := hearing.before
    rw [looped]
    exact List.mem_append_right _ List.mem_cons_self
  cases message with
  | ttsAudioDelta sessionId sequence payload =>
    rw [streamMessage]
    cases decoded : config.base64.decode payload.audioBase64 with
    | error error => exact Blamed.fails (.inr ⟨_, heard, .inr ⟨error, decoded⟩⟩) _
    | ok bytes =>
      intro result _ _
      have writes := hearing.writes decoded result
      refine ⟨writes.1, ?_⟩
      cases result with
      | error error => exact fun _ => .inl (Faulty.snoc rfl)
      | ok _ => exact (writes.2 rfl).prints _
  | ttsAudioDone sessionId sequence payload =>
    have playing : Playing _ (sawAudioDone || true) (sawSessionEnd || false) trace :=
      hearing.silent rfl
    rw [Bool.or_true, Bool.or_false] at playing
    intro flushed _ _
    have aside : Aside ⟨.flush, flushed⟩ := ⟨rfl, rfl, rfl⟩
    have flushes := playing.aside aside rfl
    refine ⟨flushes.1, ?_⟩
    cases flushed with
    | error error => exact fun _ => .inl (Faulty.snoc rfl)
    | ok _ => exact flushes.2.prints _
  | sessionEnded sessionId reason =>
    have playing : Playing _ (sawAudioDone || false) (sawSessionEnd || true) trace :=
      hearing.silent rfl
    rw [Bool.or_true, Bool.or_false] at playing
    exact playing.prints _
  | error requestId sessionId error => exact Blamed.fails (.inr ⟨_, heard, .inl rfl⟩) _
  | _ =>
    have playing : Playing _ (sawAudioDone || false) (sawSessionEnd || false) trace :=
      hearing.silent rfl
    rw [Bool.or_false, Bool.or_false] at playing
    exact playing.prints _

/-- What a round of `recv` leads to in the loop. -/
def Received (base64 : Base64) (sawAudioDone sawSessionEnd : Bool) (trace : Trace commandLine) :
    Option (Except ClientError ServerMessage) → Prop
  | none => Playing base64 sawAudioDone sawSessionEnd trace
  | some (.ok message) => Hearing base64 sawAudioDone sawSessionEnd message trace
  | some (.error _) => Faulty trace

theorem Playing.recv (playing : Playing base64 sawAudioDone sawSessionEnd trace)
    (missing : ¬(sawAudioDone && sawSessionEnd) = true) :
    SdkClient.recv.Ensures AnyStep (fun trace _ => Heeded base64 trace)
      (fun result later _ => Received base64 sawAudioDone sawSessionEnd later result) trace () := by
  intro frame _ _
  refine ⟨playing.receives missing frame, ?_⟩
  cases frame with
  | text message =>
    cases message with
    | ok message => exact playing.hears message
    | error error => exact Faulty.snoc rfl
  | ping payload =>
    intro sent _ _
    have ping : Aside ⟨.nextFrame, .ping payload⟩ := ⟨rfl, rfl, rfl⟩
    have pong : Aside ⟨.sendPong payload, sent⟩ := ⟨rfl, rfl, rfl⟩
    have ponged := (playing.kept ping.kept).aside pong rfl
    refine ⟨ponged.1, ?_⟩
    cases sent with
    | ok _ => exact ponged.2
    | error error => exact Faulty.snoc rfl
  | pong =>
    have pong : Aside ⟨.nextFrame, .pong⟩ := ⟨rfl, rfl, rfl⟩
    exact playing.kept pong.kept
  | ended => exact Faulty.snoc rfl
  | failed error => exact Faulty.snoc rfl
  | binary bytes => exact Faulty.snoc rfl
  | close => exact Faulty.snoc rfl

theorem Playing.streaming
    (playing : Playing config.base64 sawAudioDone sawSessionEnd trace) :
    Heeds config.base64 (cliStreaming config client sawAudioDone sawSessionEnd) trace := by
  unfold cliStreaming
  split_ifs with both
  · rw [Bool.and_eq_true] at both
    obtain ⟨rfl, rfl⟩ := both
    exact playing
  · refine (playing.recv both).bind ?_
    intro received later _ reached
    rcases received with _ | error | message
    · exact reached
    · exact Blamed.fails (.inl reached) _
    · exact Hearing.streams reached

/-- Every procedure of the client. -/
theorem streamTtsToSink_heeds (procedure : CliProcedure) (trace : Trace commandLine) (state : Unit)
    (reached : Streaming config.base64 procedure trace state) :
    Heeds config.base64 (streamTtsToSink config procedure) trace := by
  cases procedure with
  | connecting => exact Unheard.connecting reached
  | handshake client => exact Unheard.handshake reached
  | starting client requestId => exact Unheard.starting reached
  | streaming client sawAudioDone sawSessionEnd => exact Playing.streaming reached
  | finished result => trivial

theorem streamTtsToSink_runs {last : CliCode (Option CliProcedure)}
    (ran : Code.Serves (streamTtsToSink config) AnyStep (.done (some .connecting)) () trace last
      ()) :
    Heeded config.base64 trace ∧ Heeds config.base64 last trace := by
  have unheard : Unheard [] := ⟨rfl, rfl⟩
  have nothing : Heeded config.base64 [] := by
    refine ⟨List.nil_prefix, ?_⟩
    intro earlier entry whole
    exact absurd whole.symm (List.append_ne_nil_of_right_ne_nil earlier (List.cons_ne_nil _ _))
  exact ran.ensures streamTtsToSink_heeds nothing unheard

end Bodies

/-! ## Composition -/

/-- The messages that the streaming loop does not only print. -/
def heeds (message : ServerMessage) : Bool :=
  (deltaOf message).isSome || closes message || isErrorMessage message

/-- The messages of a session in a client's frames. -/
def streamOf (messages : List ServerMessage) : List ServerMessage := messages.filter heeds

theorem sounds_streamOf (messages : List ServerMessage) :
    sounds base64 (streamOf messages) = sounds base64 messages := by
  induction messages with
  | nil => rfl
  | cons message rest ih =>
    have first : sounds base64 (message :: rest) = soundOf base64 message ++ sounds base64 rest :=
      List.flatMap_cons
    rw [streamOf, List.filter_cons, first, ← ih]
    cases message <;> rfl

theorem mem_streamOf {messages : List ServerMessage} {message : ServerMessage} :
    message ∈ streamOf messages ↔ message ∈ messages ∧ heeds message = true := List.mem_filter

section Composition

variable {sessionId : SessionId} {inputKind : SynthesisInputKind} {events : List BridgeTtsEvent}

theorem sounds_messages (lawful : ∀ bytes, base64.decode (base64.encode bytes) = .ok bytes)
    (relay : TtsRelay) (events : List BridgeTtsEvent) :
    sounds base64 (relay.messages base64 sessionId inputKind events) = spokenBytes events := by
  induction events generalizing relay with
  | nil => rfl
  | cons event rest ih =>
    rw [TtsRelay.messages, sounds_append, ih]
    cases event with
    | audio chunk =>
      rw [spokenBytes_audio, TtsRelay.replies, sounds, List.flatMap_singleton, soundOf, lawful]
    | ended reason => rfl
    | error message => rfl

/-- An error in the stream was an error of the bridge. -/
theorem error_of_mem_messages {relay : TtsRelay} {message : ServerMessage}
    (member : message ∈ relay.messages base64 sessionId inputKind events)
    (error : isErrorMessage message = true) : ∃ text, BridgeTtsEvent.error text ∈ events := by
  obtain ⟨event, known, relay, replied⟩ := TtsRelay.mem_messages member
  cases event with
  | audio chunk =>
    rw [List.mem_singleton.mp replied] at error
    cases error
  | ended reason =>
    rcases List.mem_pair.mp replied with rfl | rfl <;> cases error
  | error text => exact ⟨text, known⟩

theorem decodable_of_mem_messages
    (lawful : ∀ bytes, base64.decode (base64.encode bytes) = .ok bytes) {relay : TtsRelay}
    {message : ServerMessage}
    (member : message ∈ relay.messages base64 sessionId inputKind events) :
    ¬ undecodable base64 message := by
  obtain ⟨event, known, relay, replied⟩ := TtsRelay.mem_messages member
  cases event with
  | audio chunk =>
    rw [List.mem_singleton.mp replied]
    rintro ⟨error, failed⟩
    rw [lawful] at failed
    cases failed
  | ended reason =>
    rcases List.mem_pair.mp replied with rfl | rfl <;> exact id
  | error text =>
    rw [List.mem_singleton.mp replied]
    exact id

/-- Nothing of a stream is missing once its last message is there. -/
theorem whole_of_ended {before stream : List ServerMessage} {done ended : ServerMessage}
    (open_ : ∀ message ∈ before, closes message = false) (first : isSessionEnded done = false)
    (reached : stream <+: before ++ [done, ended]) (last : stream.any isSessionEnded = true) :
    stream = before ++ [done, ended] := by
  rw [← List.singleton_append, ← List.append_assoc] at reached ⊢
  refine (List.prefix_concat_iff.mp reached).resolve_right ?_
  intro shorter
  obtain ⟨message, member, isEnd⟩ := List.any_eq_true.mp last
  rcases List.mem_append.mp (shorter.subset member) with earlier | other
  · have unclosing := open_ message earlier
    rw [closes, isEnd, Bool.or_true] at unclosing
    cases unclosing
  · rw [List.mem_singleton.mp other, first] at isEnd
    cases isEnd

/-- What the sink of a client gets of the events of a bridge, if the client has heard the given
messages of the session in its loop. -/
structure SinkFaithful (events : List BridgeTtsEvent) (messages : List ServerMessage)
    (played : Trace commandLine) (rest : CliCode (Option CliProcedure)) : Prop where
  sound : written played <+: spokenBytes events
  whole : rest = .done (some (.finished (.ok ()))) → written played = spokenBytes events
  unfailed : (∀ text, BridgeTtsEvent.error text ∉ events) → committed played = true →
    ¬ Faulty played → ∀ error, rest ≠ .done (some (.finished (.error error)))
  returns : (∃ reason, BridgeTtsEvent.ended reason ∈ events) →
    streamOf (looped played) = messages → ∀ next, rest ≠ .act .nextFrame next

theorem any_streamOf_isSessionEnded (messages : List ServerMessage) :
    (streamOf messages).any isSessionEnded = messages.any isSessionEnded := by
  induction messages with
  | nil => rfl
  | cons message rest ih =>
    rw [streamOf, List.filter_cons, List.any_cons, ← ih]
    cases message <;> rfl

theorem any_streamOf_isAudioDone (messages : List ServerMessage) :
    (streamOf messages).any isAudioDone = messages.any isAudioDone := by
  induction messages with
  | nil => rfl
  | cons message rest ih =>
    rw [streamOf, List.filter_cons, List.any_cons, ← ih]
    cases message <;> rfl

theorem ended_of_mem (once : EndHeardLast events) {reason : Option String}
    (ended : BridgeTtsEvent.ended reason ∈ events) :
    ∃ front, events = front ++ [.ended reason] ∧ ∀ reason, BridgeTtsEvent.ended reason ∉ front := by
  obtain ⟨front, rest, rfl⟩ := List.append_of_mem ended
  obtain rfl := once front reason rest rfl
  refine ⟨front, rfl, ?_⟩
  intro other member
  obtain ⟨first, second, rfl⟩ := List.append_of_mem member
  have nothing := once first other (second ++ [.ended reason]) (by simp)
  exact absurd nothing (List.append_ne_nil_of_right_ne_nil second (List.cons_ne_nil _ _))

/-- A client that hears the first messages for the events, and nothing else of a session, writes the
audio of the events. -/
theorem sink_faithful {config : CliConfig} {played : Trace commandLine}
    {rest : CliCode (Option CliProcedure)}
    (lawful : ∀ bytes, config.base64.decode (config.base64.encode bytes) = .ok bytes)
    (once : EndHeardLast events)
    (ran : Code.Serves (streamTtsToSink config) AnyStep (.done (some .connecting)) () played rest
      ())
    (delivered : streamOf (looped played) <+:
      TtsRelay.messages config.base64 sessionId inputKind {} events) :
    SinkFaithful events (TtsRelay.messages config.base64 sessionId inputKind {} events) played
      rest := by
  obtain ⟨heeded, exits⟩ := streamTtsToSink_runs ran
  have stream : AudioStream config.base64 sessionId inputKind 0 0 0 events
      (TtsRelay.messages config.base64 sessionId inputKind {} events) :=
    TtsRelay.stream lawful {} events
  have spoken : sounds config.base64
      (TtsRelay.messages config.base64 sessionId inputKind {} events) = spokenBytes events := sounds_messages lawful {} events
  have heard : sounds config.base64 (looped played) <+: spokenBytes events := by
    obtain ⟨missing, whole⟩ := delivered
    rw [← spoken, ← whole, sounds_append, sounds_streamOf]
    exact List.prefix_append ..
  refine ⟨heeded.sound.trans heard, ?_, ?_, ?_⟩
  · rintro rfl
    have playing : Playing config.base64 true true played := exits
    have last : (streamOf (looped played)).any isSessionEnded = true := by
      rw [any_streamOf_isSessionEnded, ← playing.sessionEnd]
    have ends : ∃ reason, BridgeTtsEvent.ended reason ∈ events := by
      by_contra open_
      obtain ⟨message, member, isEnd⟩ := List.any_eq_true.mp last
      have unclosing := stream.unclosed (not_exists.mp open_) message (delivered.subset member)
      rw [closes, isEnd, Bool.or_true] at unclosing
      cases unclosing
    obtain ⟨reason, member⟩ := ends
    obtain ⟨front, whole, open_⟩ := ended_of_mem once member
    obtain ⟨before, closed, unclosed⟩ := stream.closed front reason open_ whole
    rw [closed] at delivered
    have all := whole_of_ended unclosed rfl delivered last
    rw [← closed] at all
    rw [playing.all, ← sounds_streamOf, all, spoken]
  · rintro errorless inLoop faultless error rfl
    have blamed : committed played = true → Blamed config.base64 played := exits
    rcases blamed inLoop with faulty | ⟨message, member, blame⟩
    · exact faultless faulty
    · rcases blame with isError | broken
      · have streamed := mem_streamOf.mpr ⟨member, by rw [heeds, isError, Bool.or_true]⟩
        obtain ⟨text, known⟩ := error_of_mem_messages (delivered.subset streamed) isError
        exact errorless text known
      · have heedful : heeds message = true := by
          cases message with
          | ttsAudioDelta => rfl
          | _ => exact absurd broken id
        exact decodable_of_mem_messages lawful
          (delivered.subset (mem_streamOf.mpr ⟨member, heedful⟩)) broken
  · rintro ⟨reason, member⟩ all next rfl
    obtain ⟨front, whole, open_⟩ := ended_of_mem once member
    obtain ⟨before, closed, -⟩ := stream.closed front reason open_ whole
    have complete : Complete (looped played) := by
      refine ⟨?_, ?_⟩
      · rw [← any_streamOf_isAudioDone, all, closed, List.any_append]
        exact Bool.or_true _
      · rw [← any_streamOf_isSessionEnded, all, closed, List.any_append]
        exact Bool.or_true _
    have inLoop : committed played = true := by
      by_contra outside
      rw [looped_uncommitted (Bool.eq_false_iff.mpr outside)] at complete
      exact Bool.noConfusion complete.1
    have waits := (exits (.pong : Incoming ServerMessage) () trivial).1
    exact waits.awaited played _ rfl rfl inLoop complete

end Composition

/-- In every run of the forwarder, the events it has heard end at the first end, and it has queued
the first of their messages, which are all of them between two events unless a send was refused. A
client that hears of the session what is queued writes the audio of those events. -/
theorem audio_stream_correct (config : GatewayConfig)
    (lawful : ∀ bytes, config.base64.decode (config.base64.encode bytes) = .ok bytes)
    (task connection : ℕ) (sessionId : SessionId) (inputKind : SynthesisInputKind)
    (trace : Trace gateway) (last : Program (Option Procedure))
    (ran : Code.Serves (body config task) AnyStep
      (.done (some (.ttsForwarder connection sessionId inputKind 0 0 0))) () trace last ()) :
    EndHeardLast (ttsHeard sessionId trace) ∧ ∃ messages,
      AudioStream config.base64 sessionId inputKind 0 0 0 (ttsHeard sessionId trace) messages ∧
      queued connection trace <+: messages ∧
      (∀ next, last = .done next →
        ClientRefused connection trace ∨ queued connection trace = messages) ∧
      ∀ (client : CliConfig) (played : Trace commandLine) (rest : CliCode (Option CliProcedure)),
        client.base64 = config.base64 →
        Code.Serves (streamTtsToSink client) AnyStep (.done (some .connecting)) () played rest () →
        streamOf (looped played) <+: queued connection trace →
        SinkFaithful (ttsHeard sessionId trace) messages played rest := by
  obtain ⟨forwarded, settled⟩ := ttsForwarder_runs config task connection sessionId inputKind
    trace last ran
  refine ⟨forwarded.once, _, TtsRelay.stream lawful {} _, forwarded.queued, settled, ?_⟩
  intro client played rest same runs delivered
  rw [← same] at lawful forwarded ⊢
  exact sink_faithful lawful forwarded.once runs (delivered.trans forwarded.queued)

/-- Base64 for the two letters of "hi", and another coding beside it. -/
def greetingBase64 : Base64 where
  encode bytes :=
    if bytes = [104, 105] then "aGk="
    else String.ofList ('~' :: bytes.map fun byte => Char.ofNat byte.toNat)
  decode text :=
    if text = "aGk=" then .ok [104, 105]
    else .ok (text.toList.tail.map fun c => UInt8.ofNat c.toNat)

theorem greetingBase64_lawful (bytes : Bytes) :
    greetingBase64.decode (greetingBase64.encode bytes) = .ok bytes := by
  have byte (value : UInt8) : UInt8.ofNat (Char.ofNat value.toNat).toNat = value := by
    have small : value.toNat.isValidChar := .inl (value.toNat_lt.trans (by decide))
    rw [Char.ofNat, dif_pos small]
    exact UInt8.ofNat_toNat
  by_cases hi : bytes = [104, 105]
  · subst hi
    rfl
  · have encoded : greetingBase64.encode bytes =
        String.ofList ('~' :: bytes.map fun byte => Char.ofNat byte.toNat) := if_neg hi
    have other : greetingBase64.encode bytes ≠ "aGk=" := by
      rw [encoded]
      intro same
      have first := congrArg String.toList same
      rw [String.toList_ofList] at first
      exact absurd (List.cons.inj first).1 (by decide)
    refine (if_neg other).trans ?_
    rw [encoded, String.toList_ofList, List.tail_cons, List.map_map]
    exact congrArg Except.ok (List.map_id'' byte bytes)

/-- One chunk and an end, as the forwarder relays them. -/
def greetingRelayed : Trace gateway :=
  let sessionId : SessionId := ⟨0, 0⟩
  [⟨.tts sessionId .receiveEvent, some (.audio ⟨[104, 105], 1, true, none⟩)⟩,
    ⟨.sendClient 0 (.ttsAudioDelta sessionId 1 ⟨1, "aGk=", true, none⟩), true⟩,
    ⟨.tts sessionId .receiveEvent, some (.ended none)⟩,
    ⟨.sendClient 0 (.ttsAudioDone sessionId 2 ⟨.text, 1, 2⟩), true⟩,
    ⟨.sendClient 0 (.sessionEnded sessionId none), true⟩,
    ⟨.tts sessionId .closeEvents, ()⟩]

def greetingClient : CliConfig where
  clientName := "speechmesh-cli"
  jsonl := false
  request := ⟨{}, .text, none, {}⟩
  text := "hi"
  base64 := greetingBase64

/-- The client says "hi", and hears it. -/
def greetingPlayed : Trace commandLine :=
  let sessionId : SessionId := ⟨0, 0⟩
  let requestId : RequestId := (SdkClient.nextRequestId {}).1
  [⟨.connect, .ok ()⟩,
    ⟨.send (.hello none ⟨"v1", some "speechmesh-cli"⟩), .ok ()⟩,
    ⟨.nextFrame, .text (.ok (.helloOk none ⟨"v1", "speechmeshd", true⟩))⟩,
    ⟨.send (.ttsStart requestId greetingClient.request), .ok ()⟩,
    ⟨.nextFrame, .text (.ok (.sessionStarted (some requestId) sessionId
      ⟨.tts, "mock", none, none, none, none⟩))⟩,
    ⟨.send (.ttsInputAppend sessionId "hi"), .ok ()⟩,
    ⟨.send (.ttsCommit sessionId), .ok ()⟩,
    ⟨.nextFrame, .text (.ok (.ttsAudioDelta sessionId 1 ⟨1, "aGk=", true, none⟩))⟩,
    ⟨.writeAll [104, 105], .ok ()⟩,
    ⟨.nextFrame, .text (.ok (.ttsAudioDone sessionId 2 ⟨.text, 1, 2⟩))⟩,
    ⟨.flush, .ok ()⟩,
    ⟨.nextFrame, .text (.ok (.sessionEnded sessionId none))⟩]

theorem greetingPlayed_runs : Code.Serves (streamTtsToSink greetingClient) AnyStep
    (.done (some .connecting)) () greetingPlayed (.done (some (.finished (.ok ())))) () :=
  .enter (.answered (.answered (.enter (.answered (.answered (.enter (.answered (.answered
    (.answered (.enter (.answered (.answered (.enter (.answered (.answered (.enter (.answered
      (.enter (.stop _ _)))))))))))))))))))

theorem audio_stream_correct_greeting :
    written greetingPlayed = spokenBytes (ttsHeard ⟨0, 0⟩ greetingRelayed) := by
  let config : GatewayConfig :=
    ⟨"speechmeshd", none, ⟨[], fun _ => .ok .provider⟩, none, greetingBase64⟩
  have relayed : Code.Serves (body config 0) AnyStep
      (.done (some (.ttsForwarder 0 ⟨0, 0⟩ .text 0 0 0))) () greetingRelayed (.done none) () :=
    .enter (.answered (.answered (.enter (.answered (.answered (.answered (.answered
      (.stop _ _))))))))
  obtain ⟨-, _, -, -, -, clients⟩ := audio_stream_correct config greetingBase64_lawful 0 0 ⟨0, 0⟩
    .text greetingRelayed (.done none) relayed
  exact (clients greetingClient greetingPlayed _ rfl greetingPlayed_runs ⟨[], rfl⟩).whole rfl

end SpeechMesh.Soundness
