import SpeechMesh.Model.AsrProviders
import SpeechMesh.Soundness.CompositeSelection
import SpeechMesh.Soundness.StartReplies

/-! # Which providers a start may get

A gateway with a provider file honours the selector of every `asr.start`. One with a single bridge
starts its one provider whatever the selector says, except that the agent bridge refuses the id of
another provider.
-/

namespace SpeechMesh.Soundness

open Async SpeechMesh.Model

/-! ## The environment of a configured gateway -/

/-- A bridge that serves its own sessions answers a start as its `start_stream` does; everything
else is free, and the next frame is not taken. -/
def ProviderStep (configured : ConfiguredAsrBridge) (_ : Unit) (entry : Entry gateway)
    (_ : Unit) : Prop :=
  match entry with
  | ⟨.client (.startAsr request), answer⟩ => ∃ provider opening sessionId,
      configured.target request = .ok provider ∧
        answer = provider.startStream opening sessionId request
  | ⟨.client .nextFrame, _⟩ => False
  | _ => True

/-- The session is one of a provider that the selector admits. -/
def Admitted (configured : ConfiguredAsrBridge) (selector : ProviderSelector)
    (session : AsrSession) : Prop :=
  ∃ descriptor ∈ configured.descriptors,
    descriptor.id = session.providerId ∧ Eligible selector descriptor

/-- However a start is handled, only a session of an admitted provider is announced, and without one
the client gets an error. -/
def HonoursSelector (config : GatewayConfig) (configured : ConfiguredAsrBridge)
    (request : AsrStreamRequest) : Prop :=
  ∀ connection requestId trace last, Code.Serves (body config connection)
    (ProviderStep configured) (.done (some (.clientMessage (.asrStart requestId request)))) ()
    trace last () →
      AnswersStart connection requestId (Admitted configured request.provider) trace

/-- The agent bridge refuses a request for another provider. -/
def RefusesRequest (provider : AsrProvider) (request : AsrStreamRequest) : Prop :=
  match provider with
  | .agent providerId _ => ∃ requested, request.provider.providerId = some requested ∧
      requested ≠ providerId
  | _ => False

/-! ## Sessions of a bridge -/

theorem startStream_providerId {provider : AsrProvider} {opening : AsrProvider.Opening}
    {sessionId : SessionId} {request : AsrStreamRequest} {session : AsrSession}
    (started : provider.startStream opening sessionId request = .ok session) :
    session.providerId = provider.providerId := by
  unfold AsrProvider.startStream at started
  cases opened : provider.openBridge opening with
  | error error =>
    rw [opened] at started
    cases started
  | ok _ =>
    rw [opened] at started
    obtain rfl := Except.ok.inj started
    rfl

/-- What is known of a session that was started on an agent. -/
structure RemoteSession (providerId : String) (request : AsrStreamRequest)
    (session : AsrSession) : Prop where
  provider : session.providerId = providerId
  requested : ∀ requested, request.provider.providerId = some requested → requested = providerId
  inputMode : session.inputMode = requestedInputMode request.options
  outputMode : session.outputMode = requestedOutputMode request.options

def RemoteOutcome (providerId : String) (request : AsrStreamRequest)
    (outcome : Except BridgeError AsrSession) : Prop :=
  ∀ session, outcome = .ok session → RemoteSession providerId request session

theorem startRemote_sessions (providerId : String) (request : AsrStreamRequest) :
    (startRemote providerId request).Within (fun _ => True) (RemoteOutcome providerId request) := by
  have abandoned (sessionId : SessionId) (error : BridgeError) :
      (abandonSession sessionId error).Within (fun _ => True)
        (RemoteOutcome providerId request) :=
    ⟨trivial, fun _ => ⟨trivial, fun _ _ other => by cases other⟩⟩
  have failed (sessionId : SessionId) (error : BridgeError) :
      (do
        failSessionStart sessionId error
        abandonSession sessionId error).Within (fun _ => True)
        (RemoteOutcome providerId request) :=
    ((failSessionStart_backstage sessionId error).mono (fun _ _ => trivial)
      fun _ _ => trivial).bind fun _ _ => abandoned ..
  have awaits (session : AsrSession) (remote : RemoteSession providerId request session) :
      (startRemote.await session).Within (fun _ => True)
        (RemoteOutcome providerId request) := by
    refine ⟨trivial, fun outcome => ?_⟩
    cases outcome with
    | value result =>
      cases result with
      | ok _ =>
        intro other same
        obtain rfl := Except.ok.inj same
        exact remote
      | error error => exact abandoned ..
    | dropped => exact failed ..
    | elapsed => exact failed ..
  have starts (requested : ∀ requested, request.provider.providerId = some requested →
        requested = providerId) :
      (startRemote.start providerId request).Within (fun _ => True)
        (RemoteOutcome providerId request) := by
    refine ⟨trivial, fun selected => ?_⟩
    cases selected with
    | none => exact fun _ other => by cases other
    | some agent =>
      refine ⟨trivial, fun sessionId => ⟨trivial, fun _ => ⟨trivial, fun sent => ?_⟩⟩⟩
      cases sent with
      | false => exact failed ..
      | true => exact ⟨trivial, fun _ => awaits _ ⟨rfl, requested, rfl, rfl⟩⟩
  unfold startRemote
  cases named : request.provider.providerId with
  | none =>
    refine starts fun requested other => ?_
    rw [named] at other
    cases other
  | some requested =>
    dsimp only
    split_ifs with same
    · refine starts fun other given => ?_
      rw [named] at given
      rw [← Option.some.inj given, same]
    · exact fun _ other => by cases other

/-! ## What each bridge starts -/

variable {config : GatewayConfig} {configured : ConfiguredAsrBridge} {request : AsrStreamRequest}

/-- A session of the bridge that the start ends up at. -/
def StartedAt (configured : ConfiguredAsrBridge) (request : AsrStreamRequest)
    (session : AsrSession) : Prop :=
  ∃ provider, configured.target request = .ok provider ∧
    session.providerId = provider.providerId ∧ ¬ RefusesRequest provider request

/-- The sessions that a start may come to are those of the bridge it ends up at. -/
theorem startAsr_sessions (runs : config.asrBridge = configured.toAsrBridge)
    (trace : Trace gateway) :
    (startAsr config request).Ensures (ProviderStep configured) (fun _ _ => True)
      (fun outcome _ _ => ∀ session, outcome = .ok session →
        StartedAt configured request session) trace () := by
  have route : config.asrBridge.route request =
      (configured.target request).map AsrProvider.backend := by rw [runs]; rfl
  unfold startAsr
  rw [route]
  cases ended : configured.target request with
  | error error => exact fun _ other => by cases other
  | ok provider =>
    have own (serves : ∀ providerId displayName, provider ≠ .agent providerId displayName) :
        (perform (.client (.startAsr request))).Ensures (ProviderStep configured) (fun _ _ => True)
          (fun outcome _ _ => ∀ session, outcome = .ok session →
            StartedAt configured request session) trace () := by
      rintro answer _ ⟨found, opening, sessionId, same, rfl⟩
      refine ⟨trivial, fun session started => ⟨found, same, startStream_providerId started, ?_⟩⟩
      obtain rfl := Except.ok.inj (ended.symm.trans same)
      cases provider with
      | agent providerId displayName => exact absurd rfl (serves providerId displayName)
      | _ => exact not_false
    cases provider with
    | agent providerId displayName =>
      refine (Code.ensures_values _ (startRemote_sessions providerId request) _ _).mono
        (fun _ _ _ => trivial) ?_
      intro outcome _ _ sessions session started
      obtain ⟨provider, requested, _, _⟩ := sessions session started
      refine ⟨_, ended, provider, ?_⟩
      rintro ⟨other, named, different⟩
      exact different (requested other named)
    | _ => exact own fun _ _ other => by cases other

/-- If whatever the selector ends up at may be announced, the selector is honoured. -/
theorem honours_of_target (runs : config.asrBridge = configured.toAsrBridge)
    (target : ∀ provider, configured.target request = .ok provider →
      RefusesRequest provider request ∨ provider.descriptor ∈ configured.descriptors ∧
        Eligible request.provider provider.descriptor) :
    HonoursSelector config configured request := by
  intro connection requestId trace last ran
  refine start_answered (fun _ stepped => stepped) (fun trace _ => ?_) ran
  refine (startAsr_sessions runs trace).mono (fun _ _ _ => trivial) ?_
  intro outcome _ _ sessions session started
  obtain ⟨provider, ended, same, accepts⟩ := sessions session started
  rcases target provider ended with refuses | ⟨listed, eligible⟩
  · exact absurd refuses accepts
  · exact ⟨provider.descriptor, listed, by rw [AsrProvider.descriptor_id, same], eligible⟩

/-! ## A single bridge -/

theorem providerStep_routine (entry : Entry gateway) (routine : Routine entry.action) :
    ProviderStep configured () entry () := by
  obtain ⟨action, answer⟩ := entry
  cases action with
  | client action =>
    cases action with
    | activeSession => trivial
    | _ => exact routine.elim
  | _ => trivial

/-- A single bridge starts its provider unless it refuses the request. -/
theorem single_starts {provider : AsrProvider} (runs : config.asrBridge =
    (ConfiguredAsrBridge.single provider).toAsrBridge) (accepts : ¬ RefusesRequest provider request) :
    ∃ trace session, session.providerId = provider.providerId ∧
      (startAsr config request).Performs (ProviderStep (.single provider)) () trace
        (.done (.ok session)) () := by
  have route : config.asrBridge.route request = .ok provider.backend := by rw [runs]; rfl
  unfold startAsr
  rw [route]
  have own : ∃ trace session, session.providerId = provider.providerId ∧
      (perform (.client (.startAsr request))).Performs (ProviderStep (.single provider)) () trace
        (.done (.ok session)) () := by
    let session : AsrSession := ⟨⟨0, 0⟩, provider.providerId, request.inputFormat,
      requestedAsrInputMode request, requestedAsrOutputMode request⟩
    have answered : provider.startStream .opened ⟨0, 0⟩ request = .ok session := by
      cases provider <;> rfl
    exact ⟨[⟨.client (.startAsr request), .ok session⟩], session, rfl,
      .act ⟨provider, .opened, ⟨0, 0⟩, rfl, answered.symm⟩ (.stop _ _)⟩
  cases provider with
  | agent providerId displayName =>
    obtain ⟨trace, sessionId, ran⟩ := startRemote_succeeds request providerStep_routine fun requested named => by
      by_contra different
      exact accepts ⟨requested, named, different⟩
    exact ⟨trace, _, rfl, ran⟩
  | _ => exact own

/-- A single bridge honours only the selectors that admit its provider, or that it refuses. -/
theorem eligible_of_honours {provider : AsrProvider} (runs : config.asrBridge =
    (ConfiguredAsrBridge.single provider).toAsrBridge)
    (honours : HonoursSelector config (.single provider) request) :
    RefusesRequest provider request ∨ Eligible request.provider provider.descriptor := by
  by_contra neither
  rw [not_or] at neither
  obtain ⟨_, session, same, started⟩ := single_starts runs neither.1
  let requestId : RequestId := ⟨""⟩
  obtain ⟨trace, last, ran, heard⟩ :=
    start_announces 0 requestId providerStep_routine started
  obtain ⟨other, ⟨descriptor, listed, _, eligible⟩, _⟩ :=
    (honours 0 requestId trace last ran).announced _ heard trivial
  rw [List.mem_singleton.mp listed] at eligible
  exact neither.2 eligible

/-! ## Composites -/

/-- A composite that was put together from a provider file binds each bridge to its descriptor. -/
theorem composite_descriptor {bridges : List AsrProvider} {composite : CompositeBridge AsrProvider}
    (built : CompositeAsrBridge.new (bridges.map AsrProvider.toSharedBridge) = .ok composite) :
    ∀ binding ∈ composite.bindings, binding.descriptor = binding.bridge.descriptor := by
  intro binding member
  rw [(registerAll_registered built).complete] at member
  obtain ⟨shared, bound, member⟩ := List.mem_flatMap.mp member
  obtain ⟨provider, _, rfl⟩ := List.mem_map.mp bound
  obtain ⟨descriptor, only, rfl⟩ := List.mem_map.mp member
  exact List.mem_singleton.mp only

theorem composite_honours {composite : CompositeBridge AsrProvider}
    (runs : config.asrBridge = (ConfiguredAsrBridge.composite composite).toAsrBridge)
    (described : ∀ binding ∈ composite.bindings,
      binding.descriptor = binding.bridge.descriptor) :
    HonoursSelector config (.composite composite) request := by
  refine honours_of_target runs fun provider ended => .inr ?_
  cases selected : CompositeAsrBridge.selectBinding composite request with
  | error error =>
    simp only [ConfiguredAsrBridge.target, selected] at ended
    cases ended
  | ok binding =>
    simp only [ConfiguredAsrBridge.target, selected] at ended
    obtain rfl := Except.ok.inj ended
    obtain ⟨_, chosen⟩ := selectBinding_chosen composite.distinct selected
    rw [← described binding chosen.mem]
    exact ⟨List.mem_map_of_mem chosen.mem, chosen.holds⟩

/-! ## The configurations of a gateway -/

variable {startup : Startup} {args : RunArgs}

theorem selectAsrBridgesFromConfig_composite {path : String}
    {providers : List InstalledAsrProvider}
    (selected : startup.selectAsrBridgesFromConfig path providers = .ok configured) :
    ∃ (bridges : List AsrProvider) (composite : CompositeAsrBridge AsrProvider),
      configured = .composite composite ∧
        CompositeAsrBridge.new (bridges.map AsrProvider.toSharedBridge) = .ok composite := by
  unfold Startup.selectAsrBridgesFromConfig at selected
  dsimp only at selected
  split_ifs at selected
  · cases selected
  · obtain ⟨bridges, _, selected⟩ := exists_of_bind_ok selected
    cases built : CompositeAsrBridge.new (bridges.map AsrProvider.toSharedBridge) with
    | error error =>
      rw [built] at selected
      cases selected
    | ok composite =>
      rw [built] at selected
      obtain rfl := Except.ok.inj selected
      exact ⟨bridges, composite, rfl, built⟩

/-- With a provider file the bridge is a composite, and without one it is a single bridge. -/
theorem selectAsrBridge_cases (selected : startup.selectAsrBridge args = .ok configured) :
    ((args.asrProvidersState.isSome ∨ args.asrProvidersConfig.isSome) ∧
      ∃ (bridges : List AsrProvider) (composite : CompositeAsrBridge AsrProvider),
        configured = .composite composite ∧
          CompositeAsrBridge.new (bridges.map AsrProvider.toSharedBridge) = .ok composite) ∨
    (¬ (args.asrProvidersState.isSome ∨ args.asrProvidersConfig.isSome) ∧
      ∃ provider, configured = .single provider ∧
        startup.selectSingleAsrBridge args = .ok provider) := by
  unfold Startup.selectAsrBridge at selected
  split_ifs at selected
  · cases selected
  · cases file : args.asrProvidersState.or args.asrProvidersConfig with
    | some path =>
      rw [file] at selected
      obtain ⟨providers, _, selected⟩ := exists_of_bind_ok selected
      refine .inl ⟨?_, selectAsrBridgesFromConfig_composite selected⟩
      rw [← Bool.or_eq_true, ← Option.isSome_or, file]
      rfl
    | none =>
      rw [file] at selected
      obtain ⟨provider, chosen, selected⟩ := exists_of_bind_ok selected
      obtain rfl := Except.ok.inj selected
      refine .inr ⟨?_, provider, rfl, chosen⟩
      rw [← Bool.or_eq_true, ← Option.isSome_or, file]
      exact Bool.false_ne_true

/-! ## Exactly when selectors are honoured -/

/-- A gateway honours the selector of a start exactly when it has a provider file, or its one bridge
refuses the request, or the selector admits the provider of that bridge. -/
theorem selector_honoured_iff (selected : startup.selectAsrBridge args = .ok configured)
    (runs : config.asrBridge = configured.toAsrBridge) (request : AsrStreamRequest) :
    HonoursSelector config configured request ↔
      (args.asrProvidersState.isSome ∨ args.asrProvidersConfig.isSome) ∨
      ∃ provider, startup.selectSingleAsrBridge args = .ok provider ∧
        (RefusesRequest provider request ∨ Eligible request.provider provider.descriptor) := by
  rcases selectAsrBridge_cases selected with ⟨file, bridges, composite, rfl, built⟩ |
      ⟨noFile, provider, rfl, chosen⟩
  · exact ⟨fun _ => .inl file, fun _ => composite_honours runs (composite_descriptor built)⟩
  · constructor
    · exact fun honours => .inr ⟨provider, chosen, eligible_of_honours runs honours⟩
    · rintro (file | ⟨other, same, refuses | eligible⟩)
      · exact absurd file noFile
      · obtain rfl := Except.ok.inj (chosen.symm.trans same)
        refine honours_of_target runs fun target ended => .inl ?_
        obtain rfl := Except.ok.inj ended
        exact refuses
      · obtain rfl := Except.ok.inj (chosen.symm.trans same)
        refine honours_of_target runs fun target ended => .inr ?_
        obtain rfl := Except.ok.inj ended
        exact ⟨List.mem_singleton_self _, eligible⟩

/-! ## A gateway without a provider file -/

/-- A daemon that finds no files and no keys. -/
def bareStartup : Startup where
  loadAsrProviderConfig path := .error ("failed to read ASR provider config " ++ path)
  resolveAsrMinimaxApiKey := .error "missing secret MINIMAX_API_KEY"
  resolveProviderApiKey _ := .error "missing secret MINIMAX_API_KEY"
  buildMinimaxClient := .ok ()

/-- The gateway of `speechmeshd` without arguments. -/
def mockGateway : GatewayConfig where
  serverName := "speechmeshd"
  expectedSharedSecret := none
  asrBridge := (ConfiguredAsrBridge.single (.mock "bridge.asr" none)).toAsrBridge
  ttsBridge := none
  base64 := ⟨fun _ => "", fun _ => .ok []⟩

/-- A request that is pinned to a provider. -/
def pinnedTo (providerId : String) : AsrStreamRequest where
  provider := { mode := .provider, providerId := some providerId }
  inputFormat := ⟨.pcmS16Le, 16000, 1⟩
  options := {}

theorem selector_honoured_iff_mock :
    HonoursSelector mockGateway (.single (.mock "bridge.asr" none)) (pinnedTo "bridge.asr") := by
  have selected : bareStartup.selectAsrBridge {} = .ok (.single (.mock "bridge.asr" none)) := rfl
  refine (selector_honoured_iff selected rfl _).mpr
    (.inr ⟨_, rfl, .inr ⟨fun _ => rfl, ?_, nofun⟩⟩)
  rintro providerId pinned
  exact Option.some.inj pinned

/-- The mock bridge serves a request that is pinned to another provider. -/
theorem mock_ignores_pin :
    bareStartup.selectAsrBridge {} = .ok (.single (.mock "bridge.asr" none)) ∧
      ¬ HonoursSelector mockGateway (.single (.mock "bridge.asr" none))
        (pinnedTo "sensevoice.asr") := by
  refine ⟨rfl, fun honours => ?_⟩
  rcases eligible_of_honours rfl honours with refuses | eligible
  · exact refuses
  · exact absurd (eligible.pinned "sensevoice.asr" rfl) (by decide)

end SpeechMesh.Soundness
