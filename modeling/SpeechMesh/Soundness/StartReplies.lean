import SpeechMesh.Async.Trace
import SpeechMesh.Model.Footprints

/-! # How a start is answered

The task of a client connection from an `asr.start` to the reply to it, whatever the rest of the
world answers. Whoever knows which sessions the bridge may start knows what is announced.
-/

namespace SpeechMesh.Soundness

open Async SpeechMesh.Model

variable {config : GatewayConfig} {connection : ℕ} {requestId : RequestId}
  {request : AsrStreamRequest} {trace : Trace gateway}

/-! ## What is told to the client -/

/-- The message that the action queues for the client, if it does. -/
def toldBy (connection : ℕ) (entry : Entry gateway) : Option ServerMessage :=
  match entry.action with
  | .sendClient receiver message => if receiver = connection then some message else none
  | _ => none

/-- The messages that a task tries to queue for the client, in order. -/
def told (connection : ℕ) (trace : Trace gateway) : List ServerMessage :=
  trace.filterMap (toldBy connection)

theorem told_append (connection : ℕ) (first second : Trace gateway) :
    told connection (first ++ second) = told connection first ++ told connection second :=
  List.filterMap_append ..

/-- The task gets to the end of a message. -/
def handles (entry : Entry gateway) : Bool :=
  match entry.action with
  | .mark (.clientMessageHandled _) => true
  | _ => false

def MessageHandled (trace : Trace gateway) : Prop := ∃ entry ∈ trace, handles entry = true

/-- What a client is told of a session that was started. -/
def announcement (requestId : RequestId) (session : AsrSession) : ServerMessage :=
  .sessionStarted (some requestId) session.id
    ⟨.asr, session.providerId, some session.acceptedInputFormat, none, some session.inputMode,
      some session.outputMode⟩

def IsErrorReply : ServerMessage → Prop
  | .error _ _ _ => True
  | _ => False

/-- Only sessions of a kind are announced, and the client is answered: by an announcement or by an
error. -/
structure AnswersStart (connection : ℕ) (requestId : RequestId) (admitted : AsrSession → Prop)
    (trace : Trace gateway) : Prop where
  announced : ∀ message ∈ told connection trace, message.Starts →
    ∃ session, admitted session ∧ message = announcement requestId session
  answered : MessageHandled trace → ∃ message ∈ told connection trace,
    IsErrorReply message ∨ message.Starts

/-! ## Actions that tell nothing -/

/-- Nothing of the client connection itself: no frame, no reply, no command, and the active session
stays. -/
def Backstage : Action → Prop
  | .sendClient _ _ | .mark _ | .tts _ _ | .asr _ (.sendCommand _) => False
  | .client (.startAsr _) => True
  | .client _ => False
  | _ => True

theorem toldBy_backstage {entry : Entry gateway} (backstage : Backstage entry.action) :
    toldBy connection entry = none := by
  obtain ⟨action, answer⟩ := entry
  cases action with
  | sendClient receiver message => exact backstage.elim
  | _ => rfl

theorem handles_backstage {entry : Entry gateway} (backstage : Backstage entry.action) :
    handles entry = false := by
  obtain ⟨action, answer⟩ := entry
  cases action with
  | mark mark => exact backstage.elim
  | _ => rfl

theorem told_backstage (backstage : ∀ entry ∈ trace, Backstage entry.action) :
    told connection trace = [] :=
  List.filterMap_eq_nil_iff.mpr fun entry member => toldBy_backstage (backstage entry member)

/-- Nothing was told yet, and no message was handled. -/
structure Untold (connection : ℕ) (trace : Trace gateway) : Prop where
  told : told connection trace = []
  unhandled : ¬ MessageHandled trace

theorem Untold.append {further : Trace gateway} (untold : Untold connection trace)
    (backstage : ∀ entry ∈ further, Backstage entry.action) :
    Untold connection (trace ++ further) := by
  refine ⟨by rw [told_append, untold.told, told_backstage backstage, List.append_nil], ?_⟩
  rintro ⟨entry, member, marked⟩
  rcases List.mem_append.mp member with earlier | later
  · exact untold.unhandled ⟨entry, earlier, marked⟩
  · rw [handles_backstage (backstage entry later)] at marked
    cases marked

theorem Untold.answers {admitted : AsrSession → Prop} (untold : Untold connection trace) :
    AnswersStart connection requestId admitted trace := by
  refine ⟨?_, fun handled => absurd handled untold.unhandled⟩
  intro message member
  rw [untold.told] at member
  exact absurd member List.not_mem_nil

theorem abandonSession_backstage (sessionId : SessionId) (error : BridgeError) :
    (abandonSession sessionId error).Within Backstage fun _ => True :=
  ⟨trivial, fun _ => ⟨trivial, fun _ => trivial⟩⟩

theorem tellSession_backstage (route : SessionRoute) (error : BridgeError)
    (events : List BridgeAsrEvent) :
    (tellSession route error events).Within Backstage fun _ => True := by
  unfold tellSession
  cases route.startedTx with
  | some startedTx => exact ⟨trivial, fun _ => trivial⟩
  | none => exact Code.Within.each fun _ _ => ⟨trivial, fun _ => trivial⟩

theorem failSessionStart_backstage (sessionId : SessionId) (error : BridgeError) :
    (failSessionStart sessionId error).Within Backstage fun _ => True := by
  refine ⟨trivial, fun removed => ?_⟩
  cases removed with
  | some route => exact tellSession_backstage ..
  | none => trivial

theorem startRemote_backstage (providerId : String) (request : AsrStreamRequest) :
    (startRemote providerId request).Within Backstage fun _ => True := by
  have abandoned (sessionId : SessionId) (error : BridgeError) :
      (do
        failSessionStart sessionId error
        abandonSession sessionId error).Within Backstage fun _ => True :=
    (failSessionStart_backstage ..).bind fun _ _ => abandonSession_backstage ..
  have awaits (session : AsrSession) :
      (startRemote.await session).Within Backstage fun _ => True := by
    refine ⟨trivial, fun outcome => ?_⟩
    cases outcome with
    | value result =>
      cases result with
      | ok _ => trivial
      | error error => exact abandonSession_backstage ..
    | dropped => exact abandoned ..
    | elapsed => exact abandoned ..
  have starts : (startRemote.start providerId request).Within Backstage fun _ => True := by
    refine ⟨trivial, fun selected => ?_⟩
    cases selected with
    | none => trivial
    | some agent =>
      refine ⟨trivial, fun sessionId => ⟨trivial, fun _ => ⟨trivial, fun sent => ?_⟩⟩⟩
      cases sent with
      | false => exact abandoned ..
      | true => exact ⟨trivial, fun _ => awaits _⟩
  unfold startRemote
  cases request.provider.providerId with
  | none => exact starts
  | some requested =>
    dsimp only
    split_ifs
    · exact starts
    · trivial

theorem startAsr_backstage (config : GatewayConfig) (request : AsrStreamRequest) :
    (startAsr config request).Within Backstage fun _ => True := by
  unfold startAsr
  cases config.asrBridge.route request with
  | error error => trivial
  | ok backend =>
    cases backend with
    | remoteAgent providerId => exact startRemote_backstage ..
    | provider => exact ⟨trivial, fun _ => trivial⟩

/-! ## From the frame to the reply -/

variable {step : Unit → Entry gateway → Unit → Prop} {admitted : AsrSession → Prop}

/-- What is known when a procedure is entered while the message is handled. -/
def Answering (connection : ℕ) (requestId : RequestId) (request : AsrStreamRequest)
    (admitted : AsrSession → Prop) (procedure : Procedure) (trace : Trace gateway) (_ : Unit) :
    Prop :=
  match procedure with
  | .clientMessage message => message = .asrStart requestId request ∧ Untold connection trace
  | .asrStarted owner payload outcome => owner = requestId ∧ payload = request ∧
      Untold connection trace ∧ ∀ session, outcome = .ok session → admitted session
  | .clientReply _ result => ¬ MessageHandled trace ∧ AnswersStart connection requestId admitted trace ∧
      (result = .ok () → ∃ message ∈ told connection trace, message.Starts)
  | .clientLoop => AnswersStart connection requestId admitted trace
  | _ => False

theorem told_snoc (trace : Trace gateway) (entry : Entry gateway) :
    told connection (trace ++ [entry]) = told connection trace ++ (toldBy connection entry).toList := by
  rw [told_append]
  refine congrArg (told connection trace ++ ·) ?_
  rw [told, List.filterMap_cons]
  cases toldBy connection entry <;> rfl

theorem not_handled_snoc (entry : Entry gateway) (unhandled : ¬ MessageHandled trace)
    (unmarked : handles entry = false) : ¬ MessageHandled (trace ++ [entry]) := by
  rintro ⟨other, member, marked⟩
  rcases List.mem_append.mp member with earlier | last
  · exact unhandled ⟨other, earlier, marked⟩
  · rw [List.mem_singleton.mp last, unmarked] at marked
    cases marked

/-- While nothing is handled yet, a message that may be told leaves the answer well formed. -/
theorem AnswersStart.snoc {entry : Entry gateway}
    (answers : AnswersStart connection requestId admitted trace) (unhandled : ¬ MessageHandled trace)
    (unmarked : handles entry = false)
    (permitted : ∀ message ∈ toldBy connection entry, message.Starts →
      ∃ session, admitted session ∧ message = announcement requestId session) :
    AnswersStart connection requestId admitted (trace ++ [entry]) := by
  refine ⟨fun message member starts => ?_,
    fun handled => absurd handled (not_handled_snoc entry unhandled unmarked)⟩
  rw [told_snoc] at member
  rcases List.mem_append.mp member with earlier | last
  · exact answers.announced message earlier starts
  · exact permitted message (Option.mem_toList.mp last) starts

theorem AnswersStart.quiet (entry : Entry gateway)
    (answers : AnswersStart connection requestId admitted trace) (unhandled : ¬ MessageHandled trace)
    (unmarked : handles entry = false) (silent : toldBy connection entry = none) :
    AnswersStart connection requestId admitted (trace ++ [entry]) :=
  answers.snoc unhandled unmarked fun message member => by
    rw [silent] at member
    cases member

/-- A message that was answered may be handled. -/
theorem AnswersStart.finish (entry : Entry gateway)
    (answers : AnswersStart connection requestId admitted trace)
    (silent : toldBy connection entry = none)
    (replied : ∃ message ∈ told connection trace, IsErrorReply message ∨ message.Starts) :
    AnswersStart connection requestId admitted (trace ++ [entry]) := by
  have same : told connection (trace ++ [entry]) = told connection trace := by
    rw [told_snoc, silent]
    exact List.append_nil _
  refine ⟨?_, fun _ => ?_⟩
  · rw [same]
    exact answers.announced
  · rw [same]
    exact replied

variable (step admitted) in
/-- The outcome of a start is known, and nothing was told on the way. -/
def StartsAdmitted (config : GatewayConfig) (connection : ℕ) (request : AsrStreamRequest) : Prop :=
  ∀ trace : Trace gateway, Untold connection trace →
    (startAsr config request).Ensures step (fun _ _ => True)
      (fun outcome _ _ => ∀ session, outcome = .ok session → admitted session) trace ()

section Procedures

variable (connection requestId request)

theorem clientMessage_answers (starts : StartsAdmitted step admitted config connection request)
    (untold : Untold connection trace) :
    (handleClientMessage config connection (.asrStart requestId request)).Ensures step
      (fun trace _ => AnswersStart connection requestId admitted trace)
      (Code.Exits (Answering connection requestId request admitted)
        fun _ _ => True) trace () := by
  intro active _ _
  have seen : Untold connection (trace ++ [⟨.client .activeSession, active⟩]) := by
    refine ⟨by rw [told_snoc, untold.told]; rfl, not_handled_snoc _ untold.unhandled rfl⟩
  refine ⟨seen.answers, ?_⟩
  cases active with
  | some session => exact ⟨seen.unhandled, seen.answers, nofun⟩
  | none =>
    have backstage := Code.ensures_within step (startAsr_backstage config request)
      (trace ++ [⟨.client .activeSession, none⟩]) ()
    refine (((starts _ seen).and backstage).mono ?_ fun _ _ _ holds => holds).bind ?_
    · rintro later _ ⟨_, further, rfl, each⟩
      exact (seen.append each).answers
    · rintro outcome later _ ⟨sessions, further, rfl, each⟩
      exact ⟨rfl, rfl, seen.append each, sessions⟩

theorem asrStarted_answers {outcome : Except BridgeError AsrSession}
    (untold : Untold connection trace)
    (sessions : ∀ session, outcome = .ok session → admitted session) :
    (asrStarted connection requestId request outcome).Ensures step
      (fun trace _ => AnswersStart connection requestId admitted trace)
      (Code.Exits (Answering connection requestId request admitted)
        fun _ _ => True) trace () := by
  cases outcome with
  | error error => exact ⟨untold.unhandled, untold.answers, nofun⟩
  | ok session =>
    have mayTell := sessions session rfl
    let spawning : Entry gateway := ⟨.spawn (.asrForwarder connection session.id 0 0 ""), ()⟩
    intro _ _ _
    have spawned : Untold connection (trace ++ [spawning]) := by
      refine ⟨by rw [told_snoc, untold.told]; rfl, not_handled_snoc _ untold.unhandled rfl⟩
    refine ⟨spawned.answers, ?_⟩
    intro queued _ _
    let telling : Entry gateway := ⟨.sendClient connection (announcement requestId session), queued⟩
    have tells : toldBy connection telling = some (announcement requestId session) := if_pos rfl
    have announced : AnswersStart connection requestId admitted (trace ++ [spawning] ++ [telling]) :=
      spawned.answers.snoc spawned.unhandled rfl fun message member _ => by
        rw [tells] at member
        exact ⟨session, mayTell, (Option.some.inj member).symm⟩
    have unhandled := not_handled_snoc telling spawned.unhandled rfl
    have heard : announcement requestId session ∈
        told connection (trace ++ [spawning] ++ [telling]) := by
      rw [told_snoc, tells]
      exact List.mem_append_right _ (List.mem_singleton_self _)
    refine ⟨announced, ?_⟩
    cases queued with
    | false =>
      intro _ _ _
      have dropped := announced.quiet ⟨.asr session.id .releaseCommands, ()⟩ unhandled rfl rfl
      exact ⟨dropped, not_handled_snoc _ unhandled rfl, dropped, fun ok => by cases ok⟩
    | true =>
      intro _ _ _
      have active := announced.quiet ⟨.client (.setActive (some (.asr session.id))), ()⟩ unhandled
        rfl rfl
      refine ⟨active, not_handled_snoc _ unhandled rfl, active, fun _ => ?_⟩
      refine ⟨announcement requestId session, ?_, trivial⟩
      rw [told_snoc]
      exact List.mem_append_left _ heard

theorem clientReply_answers {message : ClientMessage} {result : Except ServerError Unit}
    (unhandled : ¬ MessageHandled trace) (answers : AnswersStart connection requestId admitted trace)
    (announced : result = .ok () → ∃ message ∈ told connection trace, message.Starts) :
    (clientReply connection message result).Ensures step
      (fun trace _ => AnswersStart connection requestId admitted trace)
      (Code.Exits (Answering connection requestId request admitted)
        fun _ _ => True) trace () := by
  cases result with
  | ok _ =>
    intro _ _ _
    obtain ⟨reply, member, starts⟩ := announced rfl
    have finished := answers.finish ⟨.mark (.clientMessageHandled message), ()⟩ rfl
      ⟨reply, member, .inr starts⟩
    exact ⟨finished, finished⟩
  | error error =>
    intro active _ _
    have seen := answers.quiet ⟨.client .activeSession, active⟩ unhandled rfl rfl
    have unseen := not_handled_snoc ⟨.client .activeSession, active⟩ unhandled rfl
    refine ⟨seen, fun queued _ _ => ?_⟩
    let reply : ServerMessage := .error none (active.map ActiveSession.sessionId) error.toErrorInfo
    have telling : toldBy connection ⟨.sendClient connection reply, queued⟩ = some reply := if_pos rfl
    have refused : AnswersStart connection requestId admitted _ :=
      seen.snoc unseen rfl fun message member starts => by
        rw [telling] at member
        rw [← Option.some.inj member] at starts
        exact starts.elim
    refine ⟨refused, fun _ _ _ => ?_⟩
    have finished := refused.finish ⟨.mark (.clientMessageHandled message), ()⟩ rfl
      ⟨reply, by
        rw [told_snoc, telling]
        exact List.mem_append_right _ (List.mem_singleton_self _), .inl trivial⟩
    exact ⟨finished, finished⟩

end Procedures

/-! ## Every run that handles the message -/

/-- The next frame is not taken: the run is about one message. -/
def OneMessage (step : Unit → Entry gateway → Unit → Prop) : Prop :=
  ∀ answer, ¬ step () ⟨.client .nextFrame, answer⟩ ()

theorem body_answers (one : OneMessage step)
    (starts : StartsAdmitted step admitted config connection request) (procedure : Procedure)
    (trace : Trace gateway) (state : Unit)
    (inv : Answering connection requestId request admitted procedure trace state) :
    (body config connection procedure).Ensures step
      (fun trace _ => AnswersStart connection requestId admitted trace)
      (Code.Exits (Answering connection requestId request admitted) fun _ _ => True)
      trace state := by
  cases procedure with
  | clientMessage message =>
    obtain ⟨rfl, untold⟩ := inv
    exact clientMessage_answers connection requestId request starts untold
  | asrStarted owner payload outcome =>
    obtain ⟨rfl, rfl, untold, sessions⟩ := inv
    exact asrStarted_answers connection owner payload untold sessions
  | clientReply message result =>
    obtain ⟨unhandled, answers, announced⟩ := inv
    exact clientReply_answers connection requestId request unhandled answers announced
  | clientLoop => exact fun answer _ stepped => absurd stepped (one answer)
  | _ => exact inv.elim

/-- Wherever a run from an `asr.start` is looked at, only admitted sessions were announced, and a
handled start was answered. -/
theorem start_answered (one : OneMessage step)
    (starts : StartsAdmitted step admitted config connection request)
    {last : Program (Option Procedure)}
    (ran : Code.Serves (body config connection) step
      (.done (some (.clientMessage (.asrStart requestId request)))) () trace last ()) :
    AnswersStart connection requestId admitted trace := by
  have untold : Untold connection [] := ⟨rfl, fun ⟨_, member, _⟩ => absurd member List.not_mem_nil⟩
  exact (ran.ensures (body_answers one starts) untold.answers ⟨rfl, untold⟩).1

/-- The actions on the way to an announcement, apart from a start at a provider. -/
def Routine : Action → Prop
  | .client .activeSession | .spawn _ | .sendClient _ _ | .registry _ | .createSession
  | .sendAgent _ _ | .awaitStarted _ => True
  | _ => False

/-- An agent that is there and acknowledges: a start on it comes to a session. -/
theorem startRemote_succeeds (request : AsrStreamRequest) {providerId : String}
    (allows : ∀ entry : Entry gateway, Routine entry.action → step () entry ())
    (accepted : ∀ requested, request.provider.providerId = some requested →
      requested = providerId) :
    ∃ trace sessionId, (startRemote providerId request).Performs step () trace
      (.done (.ok ⟨sessionId, providerId, request.inputFormat, requestedInputMode request.options,
        requestedOutputMode request.options⟩)) () := by
  let agent : RegisteredAgent :=
    ({ agentId := "agent", agentName := "agent" } : AgentHelloPayload).toRegistered 0
  let sessionId : SessionId := ⟨0, 0⟩
  have started : (startRemote.start providerId request).Performs step ()
      [⟨.registry (.selectAgent providerId), some agent⟩, ⟨.createSession, sessionId⟩,
        ⟨.registry (.registerSession "agent" sessionId), ()⟩,
        ⟨.sendAgent 0 (.sessionStart sessionId request), true⟩,
        ⟨.spawn (.forwardCommandsToAgent sessionId 0), ()⟩,
        ⟨.awaitStarted sessionId, .value (.ok ())⟩]
      (.done (.ok ⟨sessionId, providerId, request.inputFormat, requestedInputMode request.options,
        requestedOutputMode request.options⟩)) () :=
    .act (allows _ trivial) (.act (allows _ trivial) (.act (allows _ trivial)
      (.act (allows _ trivial) (.act (allows _ trivial) (.act (allows _ trivial) (.stop _ _))))))
  have accepts : startRemote providerId request = startRemote.start providerId request := by
    unfold startRemote
    cases named : request.provider.providerId with
    | none => rfl
    | some requested => exact if_pos (accepted requested named)
  rw [accepts]
  exact ⟨_, sessionId, started⟩

/-- Whatever session a start can come to is announced by some run. -/
theorem start_announces (connection : ℕ) (requestId : RequestId) {session : AsrSession}
    (allows : ∀ entry : Entry gateway, Routine entry.action → step () entry ())
    (ran : (startAsr config request).Performs step () trace (.done (.ok session)) ()) :
    ∃ trace last, Code.Serves (body config connection) step
      (.done (some (.clientMessage (.asrStart requestId request)))) () trace last () ∧
        announcement requestId session ∈ told connection trace := by
  let spawning : Entry gateway := ⟨.spawn (.asrForwarder connection session.id 0 0 ""), ()⟩
  let telling : Entry gateway := ⟨.sendClient connection (announcement requestId session), true⟩
  have reached : (handleClientMessage config connection (.asrStart requestId request)).Performs
      step () (⟨.client .activeSession, none⟩ :: trace)
      (.done (some (.asrStarted requestId request (.ok session)))) () :=
    .act (allows _ trivial) ran.bind
  have announces : (body config connection (.asrStarted requestId request (.ok session))).Performs
      step () [spawning, telling] _ () :=
    .act (allows spawning trivial) (.act (allows telling trivial) (.stop _ _))
  refine ⟨_, _, .enter (reached.serves.append (.enter announces.serves)), ?_⟩
  have tells : toldBy connection telling = some (announcement requestId session) := if_pos rfl
  refine List.mem_filterMap.mpr ⟨telling, List.mem_append_right _ ?_, tells⟩
  exact List.mem_cons_of_mem _ (List.mem_singleton_self _)

end SpeechMesh.Soundness
