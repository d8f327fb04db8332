import SpeechMesh.Model.AsrBridges
import SpeechMesh.Soundness.ProviderPinning

/-! # Announced and actual ASR modes

The gateway announces the modes of an agent session from the options of the request, and the agent's
stdio bridge reads the same options again when it runs the session. The two agree on the input mode,
and on the output mode unless an explicit option contradicts the request for interim results.
-/

namespace SpeechMesh.Soundness

open Async SpeechMesh.Model

/-! ## The two readings of the options -/

theorem inputModes_agree (request : AsrStreamRequest) :
    requestedInputMode request.options = requestedAsrInputMode request := by
  unfold requestedInputMode requestedAsrInputMode parseStreamMode
  cases request.options.providerOptions.get? "input_mode" with
  | none => rfl
  | some option =>
    cases text : Json.asString? option with
    | none => simp [text]
    | some text' =>
      simp only [Option.bind_some, text, Option.map_some]
      split_ifs with buffered streaming
      · rw [streaming] at buffered
        simp at buffered
      · rfl
      · rfl
      · rfl

/-- No explicit output mode other than streaming stands against a request for interim results. -/
def OutputModesAgree (request : AsrStreamRequest) : Prop :=
  request.options.interimResults = false ∨
    request.options.providerOptions.get? "output_mode" = none ∨
    ∃ text, request.options.providerOptions.get? "output_mode" = some (.string text) ∧
      toAsciiLowercase (trim text) = "streaming"

theorem outputModes_agree_iff (request : AsrStreamRequest) :
    requestedOutputMode request.options = requestedAsrOutputMode request ↔
      OutputModesAgree request := by
  unfold requestedOutputMode requestedAsrOutputMode OutputModesAgree
  cases request.options.providerOptions.get? "output_mode" with
  | none => simp
  | some option =>
    have explicit : (some option : Option Json) ≠ none := nofun
    cases option with
    | string text =>
      simp only [Option.bind_some, Json.asString?, Option.map_some, parseStreamMode]
      by_cases streaming : toAsciiLowercase (trim text) = "streaming"
      · simp [streaming]
      · cases interim : request.options.interimResults <;> simp [streaming]
    | _ =>
      simp only [Option.bind_some, Json.asString?, Option.map_none, parseStreamMode]
      cases interim : request.options.interimResults <;> simp

/-! ## What is announced and what is asked for -/

/-- The recogniser is asked for partial results exactly if streaming output was announced. -/
def PartialsAsAnnounced (request : AsrStreamRequest) (announced : Option StreamMode) : Prop :=
  ∀ base64 sessionId commands writes session language partials onDevice format,
    BridgeFrame.start session language partials onDevice format ∈
      runBridgeWriter base64 sessionId request commands writes →
    (partials = true ↔ announced = some .streaming)

/-- The announced modes are those that the agent's stdio bridge computes. -/
structure AnnouncesModes (connection : ℕ) (request : AsrStreamRequest) (trace : Trace gateway) :
    Prop where
  announced : ∀ owner sessionId payload,
    .sessionStarted owner sessionId payload ∈ told connection trace →
      payload.inputMode = some (requestedAsrInputMode request) ∧
        payload.outputMode = some (requestedAsrOutputMode request) ∧
          PartialsAsAnnounced request payload.outputMode

/-- Everything is free but the next frame, which is not taken. -/
def OneFrame (_ : Unit) (entry : Entry gateway) (_ : Unit) : Prop :=
  match entry with
  | ⟨.client .nextFrame, _⟩ => False
  | _ => True

/-- However a start is handled, the modes that are announced are the ones that run. -/
def ModesAsAnnounced (config : GatewayConfig) (request : AsrStreamRequest) : Prop :=
  ∀ connection requestId trace last, Code.Serves (body config connection) OneFrame
    (.done (some (.clientMessage (.asrStart requestId request)))) () trace last () →
      AnnouncesModes connection request trace

theorem mem_writeFrames {frame : BridgeFrame} {frames : List BridgeFrame} {writes : ℕ → Bool}
    {count : ℕ} (written : frame ∈ runBridgeWriter.writeFrames writes frames count) :
    frame ∈ frames := by
  induction frames generalizing count with
  | nil => exact written
  | cons first rest ih =>
    unfold runBridgeWriter.writeFrames at written
    split_ifs at written
    · rcases List.mem_cons.mp written with rfl | later
      · exact List.mem_cons_self
      · exact List.mem_cons_of_mem _ (ih later)
    · exact absurd written List.not_mem_nil

/-- The only start frame of the writer reports whether streaming output is requested. -/
theorem partials_of_start {base64 : Base64} {sessionId session : SessionId}
    {request : AsrStreamRequest} {commands : List BridgeCommand} {writes : ℕ → Bool}
    {language : Option String} {partials onDevice : Bool} {format : AudioFormat}
    (written : BridgeFrame.start session language partials onDevice format ∈
      runBridgeWriter base64 sessionId request commands writes) :
    partials = (requestedAsrOutputMode request == .streaming) := by
  rcases List.mem_cons.mp (mem_writeFrames written) with same | later
  · exact (BridgeFrame.start.inj same).2.2.1
  · obtain ⟨command, _, other⟩ := List.mem_map.mp later
    cases command <;> cases other

theorem partialsAsAnnounced (request : AsrStreamRequest) :
    PartialsAsAnnounced request (some (requestedAsrOutputMode request)) := by
  intro base64 sessionId commands writes session language partials onDevice format written
  rw [partials_of_start written, beq_iff_eq, Option.some.injEq]

theorem oneFrame_routine (entry : Entry gateway) (routine : Routine entry.action) :
    OneFrame () entry () := by
  obtain ⟨action, answer⟩ := entry
  cases action with
  | client action =>
    cases action with
    | activeSession => trivial
    | _ => exact routine.elim
  | _ => trivial

section Routed

variable {config : GatewayConfig} {providerId : String} {request : AsrStreamRequest}

theorem startAsr_routed (routed : config.asrBridge.route request = .ok (.remoteAgent providerId)) :
    startAsr config request = startRemote providerId request := by
  unfold startAsr
  rw [routed]

/-- An agent that acknowledges makes the gateway announce the modes. -/
theorem outputModesAgree_of_announced
    (routed : config.asrBridge.route request = .ok (.remoteAgent providerId))
    (accepted : ∀ requested, request.provider.providerId = some requested →
      requested = providerId)
    (agree : ModesAsAnnounced config request) : OutputModesAgree request := by
  obtain ⟨started, sessionId, ran⟩ :=
    startRemote_succeeds request oneFrame_routine accepted
  rw [← startAsr_routed routed] at ran
  obtain ⟨trace, last, serves, heard⟩ := start_announces 0 ⟨""⟩ oneFrame_routine ran
  have modes := ((agree 0 ⟨""⟩ trace last serves).announced _ _ _ heard).2.1
  exact (outputModes_agree_iff request).mp (Option.some.inj modes)

/-- For a request that is routed to an agent, the announced modes are the ones that run exactly when
no explicit output mode stands against the request for interim results. -/
theorem modes_announced_iff
    (routed : config.asrBridge.route request = .ok (.remoteAgent providerId))
    (accepted : ∀ requested, request.provider.providerId = some requested →
      requested = providerId) :
    ModesAsAnnounced config request ↔ OutputModesAgree request := by
  constructor
  · exact outputModesAgree_of_announced routed accepted
  · intro agree connection requestId trace last ran
    have starts : StartsAdmitted OneFrame (RemoteSession providerId request) config connection
        request := by
      intro earlier _
      rw [startAsr_routed routed]
      exact Code.ensures_values _ (startRemote_sessions providerId request) _ _
    have answers := start_answered (fun _ stepped => stepped) starts ran
    refine ⟨fun owner sessionId payload heard => ?_⟩
    obtain ⟨session, known, same⟩ := answers.announced _ heard trivial
    obtain ⟨_, _, rfl⟩ := ServerMessage.sessionStarted.inj same
    have output : session.outputMode = requestedAsrOutputMode request := by
      rw [known.outputMode, (outputModes_agree_iff request).mpr agree]
    refine ⟨?_, congrArg some output, ?_⟩
    · change some session.inputMode = _
      rw [known.inputMode, inputModes_agree]
    · change PartialsAsAnnounced request (some session.outputMode)
      rw [output]
      exact partialsAsAnnounced request

end Routed

/-! ## A gateway with an agent -/

def agentGateway : GatewayConfig where
  serverName := "speechmeshd"
  expectedSharedSecret := none
  asrBridge := (ConfiguredAsrBridge.single (.agent "apple.asr" none)).toAsrBridge
  ttsBridge := none
  base64 := ⟨fun _ => "", fun _ => .ok []⟩

/-- Interim results are asked for, and buffered output. -/
def contradictory : AsrStreamRequest where
  provider := {}
  inputFormat := ⟨.pcmS16Le, 16000, 1⟩
  options :=
    { interimResults := true
      providerOptions := .object [("output_mode", .string "buffered")] }

theorem modes_announced_iff_interim : ModesAsAnnounced agentGateway
    { contradictory with options := { interimResults := true } } :=
  (modes_announced_iff rfl fun _ other => by cases other).mpr (.inr (.inl rfl))

theorem buffered_not_streaming : toAsciiLowercase (trim "buffered") ≠ "streaming" := by
  intro same
  have characters := congrArg String.toList same
  rw [toAsciiLowercase, String.toList_map, trim, String.toList_ofList] at characters
  exact absurd characters (by decide)

/-- Streaming output is announced for a request that the agent runs buffered. -/
theorem contradictory_misannounced : ¬ ModesAsAnnounced agentGateway contradictory := by
  intro agree
  rcases outputModesAgree_of_announced rfl (fun _ other => by cases other) agree with
    uninterested | unstated | ⟨text, stated, streaming⟩
  · cases uninterested
  · cases unstated
  · obtain rfl : "buffered" = text := Json.string.inj (Option.some.inj stated)
    exact buffered_not_streaming streaming

end SpeechMesh.Soundness
