import SpeechMesh.Model.EndpointRouting

/-! # Routing by endpoint against a changing registry

What a call returns is the record found at the second look, which nobody compares with the snapshot
again. It is right as far as what others did to the agent since the snapshot leaves it right. A call
that finds its agents gone gives up, whoever has come meanwhile; and a call for an endpoint gives up
with the first agent of its snapshot.
-/

namespace SpeechMesh.Soundness

open Async SpeechMesh.Model

/-! ## What a call promises -/

inductive EndpointRequest where
  | endpoint (endpointId : String)
  | direction (direction : EndpointDirection)

namespace EndpointRequest

def select (deviceId : String) : EndpointRequest → Code Routing (Option RouteMatch)
  | .endpoint wanted => selectByEndpoint deviceId wanted
  | .direction wanted => selectByDirection deviceId wanted

def Fits (endpoint : AudioEndpoint) : EndpointRequest → Prop
  | .endpoint wanted => endpoint.id = wanted
  | .direction wanted => endpoint.hasDirection wanted = true

def OfferedBy (device : Device) (request : EndpointRequest) : Prop :=
  ∃ endpoint ∈ device.endpoints, request.Fits endpoint

end EndpointRequest

/-- The agent runs on the device and offers what is requested. Without a list of endpoints it
counts as offering any. -/
structure Qualifies (deviceId : String) (request : EndpointRequest) (agent : RegisteredAgent) :
    Prop where
  onDevice : agent.actualDeviceId = some deviceId
  offers : ∀ device, agent.deviceInfo = some device → request.OfferedBy device

def IsRegistered (registry : DeviceRegistry) (agent : RegisteredAgent) : Prop :=
  ∃ agentId, registry.agents.lookup agentId = some agent

def NobodyQualifies (deviceId : String) (request : EndpointRequest) (registry : DeviceRegistry) :
    Prop :=
  ∀ agent, IsRegistered registry agent → ¬ Qualifies deviceId request agent

/-- What a call does and what others do to the registry, in the order in which it happens. -/
abbrev Interleaving : Type := List (Happening Routing RegistryChange)

def registryAfter (start : DeviceRegistry) (steps : Interleaving) : DeviceRegistry :=
  stateAfter RegistryChange.apply start steps

/-- What is returned was right in one state during the call. -/
def RoutesRight (deviceId : String) (request : EndpointRequest) (start : DeviceRegistry)
    (steps : Interleaving) : Option RouteMatch → Prop
  | some found => ∃ registry, GoesThrough RegistryChange.apply start steps registry ∧
      IsRegistered registry found.agent ∧ Qualifies deviceId request found.agent
  | none => ∃ registry, GoesThrough RegistryChange.apply start steps registry ∧
      NobodyQualifies deviceId request registry

/-- A call of the router while others change the registry. -/
abbrev Routes (deviceId : String) (request : EndpointRequest) (start : DeviceRegistry)
    (steps : Interleaving) (result : Option RouteMatch) : Prop :=
  Runs RegistryChange.apply RouterAction.result (request.select deviceId) start steps result

/-! ## What others do to an agent -/

/-- What a change says about an agent id: the record it has from now on, or that it has none. -/
def RegistryChange.word? (agentId : String) : RegistryChange → Option (Option RegisteredAgent)
  | .registerAgent agent => if agent.agentId = agentId then some (some agent) else none
  | .unregisterAgent other => if other = agentId then some none else none
  | .registerTask _ _ | .removeTask _ => none

/-- The last change to an agent id. -/
def lastWord (agentId : String) : Interleaving → Option (Option RegisteredAgent)
  | [] => none
  | .own _ :: rest => lastWord agentId rest
  | .other change :: rest => (lastWord agentId rest).or (RegistryChange.word? agentId change)

/-- A registry that others have built from an empty one. -/
def BuiltUp (registry : DeviceRegistry) : Prop :=
  ∃ changes : List RegistryChange, changes.foldl RegistryChange.apply default = registry

/-! ## The second looks -/

def beforeSnapshot : Interleaving → Interleaving
  | [] => []
  | .own ⟨.snapshot _, _⟩ :: _ => []
  | step :: rest => step :: beforeSnapshot rest

def sinceSnapshot : Interleaving → Interleaving
  | [] => []
  | .own ⟨.snapshot _, _⟩ :: rest => rest
  | _ :: rest => sinceSnapshot rest

/-- After these steps since the snapshot, the call looks the agent id up again. -/
def LooksAt (steps between : Interleaving) (agentId : String) : Prop :=
  ∃ answer rest, sinceSnapshot steps = between ++ .own ⟨.getRegisteredAgent agentId, answer⟩ :: rest

/-- After these steps since the snapshot, the call looks something up for the last time. -/
def LastLook (steps between : Interleaving) : Prop :=
  ∃ entry rest, sinceSnapshot steps = between ++ .own entry :: rest ∧ ∀ step ∈ rest, step.IsOther

/-- No agent that is looked up again was last registered, since the snapshot, with a record that
does not qualify. -/
def NoneReplaced (deviceId : String) (request : EndpointRequest) (steps : Interleaving) : Prop :=
  ∀ between agentId agent, LooksAt steps between agentId →
    lastWord agentId between = some (some agent) → Qualifies deviceId request agent

/-- If all agents that are looked up again have been removed since the snapshot, then no agent was
last registered, up to the last look, with a record that qualifies; and where the call is for an
endpoint, the other agents that qualified at the snapshot did not stay as they were. -/
def NoneOverlooked (deviceId : String) (request : EndpointRequest) (start : DeviceRegistry)
    (steps : Interleaving) : Prop :=
  (∀ between agentId, LooksAt steps between agentId → lastWord agentId between = some none) →
    ∀ between, LastLook steps between →
      (∀ agentId agent, lastWord agentId between = some (some agent) →
        ¬ Qualifies deviceId request agent) ∧
      ∀ endpointId, request = .endpoint endpointId → ∀ agentId agent,
        (registryAfter start (beforeSnapshot steps)).agents.lookup agentId = some agent →
          Qualifies deviceId request agent → lastWord agentId between ≠ none

variable {deviceId endpointId agentId : String} {direction : EndpointDirection}
  {request : EndpointRequest} {agents : List RegisteredAgent} {snapshot : RegisteredAgent}
  {found : Option RegisteredAgent} {start registry : DeviceRegistry}
  {steps before between earlier later : Interleaving} {result : Option RouteMatch}

/-! ## Records and changes -/

theorem lookup_apply (registry : DeviceRegistry) (change : RegistryChange) (agentId : String) :
    (change.apply registry).agents.lookup agentId =
      (RegistryChange.word? agentId change).getD (registry.agents.lookup agentId) := by
  cases change with
  | registerAgent agent =>
    rw [RegistryChange.apply, DeviceRegistry.registerAgent_agents, RegistryChange.word?]
    by_cases same : agentId = agent.agentId
    · rw [if_pos same, if_pos same.symm]
      rfl
    · rw [if_neg same, if_neg (Ne.symm same)]
      rfl
  | unregisterAgent other =>
    rw [RegistryChange.apply, DeviceRegistry.unregisterAgent,
      DeviceRegistry.removeAgentTasks_agents, RegistryChange.word?]
    by_cases same : other = agentId
    · rw [if_pos same, same, AList.lookup_erase]
      rfl
    · rw [if_neg same, AList.lookup_erase_ne (Ne.symm same)]
      rfl
  | registerTask taskId other =>
    rw [RegistryChange.apply, DeviceRegistry.registerTask]
    split <;> rfl
  | removeTask taskId => rfl

/-- The record of an agent id is the one that was said last. -/
theorem lookup_registryAfter (start : DeviceRegistry) (steps : Interleaving) (agentId : String) :
    (registryAfter start steps).agents.lookup agentId =
      (lastWord agentId steps).getD (start.agents.lookup agentId) := by
  induction steps generalizing start with
  | nil => rfl
  | cons step rest ih =>
    cases step with
    | own entry => exact ih start
    | other change =>
      have further : (registryAfter start (.other change :: rest)).agents.lookup agentId =
          (lastWord agentId rest).getD ((change.apply start).agents.lookup agentId) := ih _
      rw [further, lookup_apply, lastWord]
      cases lastWord agentId rest <;> rfl

theorem registryAfter_append (start : DeviceRegistry) (earlier later : Interleaving) :
    registryAfter start (earlier ++ later) = registryAfter (registryAfter start earlier) later :=
  stateAfter_append start earlier later

theorem lastWord_append (agentId : String) (earlier later : Interleaving) :
    lastWord agentId (earlier ++ later) =
      (lastWord agentId later).or (lastWord agentId earlier) := by
  induction earlier with
  | nil => simp [lastWord]
  | cons step rest ih =>
    cases step with
    | own entry => exact ih
    | other change =>
      rw [List.cons_append, lastWord, ih, lastWord, Option.or_assoc]

/-- A record is stored under its own agent id. -/
def Keyed (registry : DeviceRegistry) : Prop :=
  ∀ agentId agent, registry.agents.lookup agentId = some agent → agent.agentId = agentId

theorem Keyed.apply (keyed : Keyed registry) (change : RegistryChange) :
    Keyed (change.apply registry) := by
  intro agentId agent found
  rw [lookup_apply] at found
  cases said : RegistryChange.word? agentId change with
  | none =>
    rw [said] at found
    exact keyed agentId agent found
  | some word =>
    rw [said] at found
    obtain rfl : word = some agent := found
    cases change with
    | registerAgent other =>
      rw [RegistryChange.word?] at said
      split_ifs at said with same
      obtain rfl := Option.some.inj (Option.some.inj said)
      exact same
    | unregisterAgent other =>
      rw [RegistryChange.word?] at said
      split_ifs at said
      cases Option.some.inj said
    | registerTask taskId other => cases said
    | removeTask taskId => cases said

theorem BuiltUp.keyed (built : BuiltUp registry) : Keyed registry := by
  obtain ⟨changes, rfl⟩ := built
  have kept (changes : List RegistryChange) {registry : DeviceRegistry} (keyed : Keyed registry) :
      Keyed (changes.foldl RegistryChange.apply registry) := by
    induction changes generalizing registry with
    | nil => exact keyed
    | cons change rest ih => exact ih (keyed.apply change)
  exact kept changes fun agentId agent found => nomatch found

theorem Keyed.registryAfter (keyed : Keyed start) (steps : Interleaving) :
    Keyed (registryAfter start steps) := by
  induction steps generalizing start with
  | nil => exact keyed
  | cons step rest ih =>
    cases step with
    | own entry => exact ih keyed
    | other change => exact ih (keyed.apply change)

/-! ## The two searches -/

/-- An agent of the snapshot that the call looks for again. -/
def Chosen (deviceId : String) (request : EndpointRequest) (agent : RegisteredAgent) : Prop :=
  match agent.deviceInfo with
  | some device => request.OfferedBy device
  | none => agent.device.map AgentDeviceIdentity.deviceId = some deviceId

/-- The search has looked an agent id up and got this answer. -/
def Looked (steps : Interleaving) (agentId : String) (answer : Option RegisteredAgent) : Prop :=
  .own ⟨.getRegisteredAgent agentId, answer⟩ ∈ steps

/-- What a search over the agents of the snapshot has done. A search for a direction that found
nothing has looked for every agent; one for an endpoint may have stopped at the first. -/
structure Searched (deviceId : String) (request : EndpointRequest) (agents : List RegisteredAgent)
    (steps : Interleaving) (found : Option RegisteredAgent) : Prop where
  looks : ∀ entry, .own entry ∈ steps → ∃ snapshot ∈ agents, Chosen deviceId request snapshot ∧
    ∃ answer, entry = ⟨.getRegisteredAgent snapshot.agentId, answer⟩
  decided : ∀ agentId agent, Looked steps agentId (some agent) → found = some agent
  returned : ∀ agent, found = some agent → ∃ agentId, Looked steps agentId (some agent)
  asked : found = none → ∀ snapshot ∈ agents, Chosen deviceId request snapshot →
    Looked steps snapshot.agentId none ∨
      ((∃ endpointId, request = .endpoint endpointId) ∧ ∃ agentId, Looked steps agentId none)

theorem mem_others {entry : Entry Routing} (all : ∀ step ∈ before, step.IsOther) :
    .own entry ∉ before := fun member => (all _ member).elim

/-- Before and after a search, others do what they like. -/
theorem Searched.padded (searched : Searched deviceId request agents steps found)
    (before_ : ∀ step ∈ before, step.IsOther) (after_ : ∀ step ∈ later, step.IsOther) :
    Searched deviceId request agents (before ++ steps ++ later) found := by
  have same (entry : Entry Routing) :
      .own entry ∈ before ++ steps ++ later ↔ .own entry ∈ steps := by
    rw [List.mem_append, List.mem_append, or_iff_right (mem_others before_),
      or_iff_left (mem_others after_)]
  constructor
  case looks => exact fun entry member => searched.looks entry ((same entry).mp member)
  case decided =>
    exact fun agentId agent member => searched.decided agentId agent ((same _).mp member)
  case returned =>
    intro agent known
    obtain ⟨agentId, member⟩ := searched.returned agent known
    exact ⟨agentId, (same _).mpr member⟩
  case asked =>
    intro nothing snapshot listed chosen
    rcases searched.asked nothing snapshot listed chosen with member | ⟨endpoint, agentId, member⟩
    · exact .inl ((same _).mpr member)
    · exact .inr ⟨endpoint, agentId, (same _).mpr member⟩

theorem searched_nothing (all : ∀ step ∈ steps, step.IsOther) :
    Searched deviceId request [] steps none where
  looks _ member := absurd member (mem_others all)
  decided _ _ member := absurd member (mem_others all)
  returned _ same := nomatch same
  asked _ _ listed := nomatch listed

/-- An agent that is not looked for again is passed over. -/
theorem Searched.passed (searched : Searched deviceId request agents steps found)
    (passed : ¬ Chosen deviceId request snapshot) :
    Searched deviceId request (snapshot :: agents) steps found where
  looks entry member := by
    obtain ⟨other, listed, rest⟩ := searched.looks entry member
    exact ⟨other, List.mem_cons_of_mem _ listed, rest⟩
  decided := searched.decided
  returned := searched.returned
  asked nothing other listed chosen := by
    rcases List.mem_cons.mp listed with rfl | listed
    · exact absurd chosen passed
    · exact searched.asked nothing other listed chosen

/-- An agent that is gone is passed over in a search for a direction. -/
theorem Searched.gone (searched : Searched deviceId request agents steps found)
    (chosen : Chosen deviceId request snapshot) :
    Searched deviceId request (snapshot :: agents)
      (.own ⟨.getRegisteredAgent snapshot.agentId, none⟩ :: steps) found where
  looks entry member := by
    rcases List.mem_cons.mp member with same | member
    · exact ⟨snapshot, List.mem_cons_self .., chosen, none, Happening.own.inj same⟩
    · obtain ⟨other, listed, rest⟩ := searched.looks entry member
      exact ⟨other, List.mem_cons_of_mem _ listed, rest⟩
  decided agentId agent member := by
    rcases List.mem_cons.mp member with same | member
    · cases Happening.own.inj same
    · exact searched.decided agentId agent member
  returned agent known := by
    obtain ⟨agentId, member⟩ := searched.returned agent known
    exact ⟨agentId, List.mem_cons_of_mem _ member⟩
  asked nothing other listed wanted := by
    rcases List.mem_cons.mp listed with rfl | listed
    · exact .inl (List.mem_cons_self ..)
    · rcases searched.asked nothing other listed wanted with member | ⟨endpoint, agentId, member⟩
      · exact .inl (List.mem_cons_of_mem _ member)
      · exact .inr ⟨endpoint, agentId, List.mem_cons_of_mem _ member⟩

/-- The search ends with a look. One that finds nothing ends a search for an endpoint only. -/
theorem searched_answer (chosen : Chosen deviceId request snapshot)
    (ends : found = none → ∃ endpointId, request = .endpoint endpointId) :
    Searched deviceId request (snapshot :: agents)
      [.own ⟨.getRegisteredAgent snapshot.agentId, found⟩] found where
  looks entry member := ⟨snapshot, List.mem_cons_self .., chosen, found,
    Happening.own.inj (List.mem_singleton.mp member)⟩
  decided agentId agent member := by
    cases Happening.own.inj (List.mem_singleton.mp member)
    rfl
  returned agent known := ⟨snapshot.agentId, by rw [Looked, known]; exact List.mem_cons_self ..⟩
  asked nothing _ _ _ := .inr ⟨ends nothing, snapshot.agentId, by
    rw [Looked, nothing]; exact List.mem_cons_self ..⟩

theorem chosen_endpoint_iff {device : Device} (info : snapshot.deviceInfo = some device) :
    Chosen deviceId (.endpoint endpointId) snapshot ↔
      (device.endpoint endpointId).isSome = true := by
  rw [Chosen, info, Device.endpoint, List.find?_isSome]
  simp only [EndpointRequest.OfferedBy, EndpointRequest.Fits, beq_iff_eq]

theorem chosen_direction_iff {device : Device} (info : snapshot.deviceInfo = some device) :
    Chosen deviceId (.direction direction) snapshot ↔
      (device.endpoints.find? fun endpoint => endpoint.hasDirection direction).isSome = true := by
  rw [Chosen, info, List.find?_isSome]
  rfl

theorem chosen_legacy_iff (info : snapshot.deviceInfo = none) :
    Chosen deviceId request snapshot ↔
      snapshot.device.map AgentDeviceIdentity.deviceId = some deviceId := by
  rw [Chosen, info]

section Loops

variable {value : Option RegisteredAgent}

theorem askAgent_searched (chosen : Chosen deviceId (.endpoint endpointId) snapshot)
    (runs : Runs RegistryChange.apply RouterAction.result (askAgent snapshot.agentId) registry steps
      value) : Searched deviceId (.endpoint endpointId) (snapshot :: agents) steps value := by
  obtain ⟨others, answer, rest, rfl, before_, -, runs⟩ := Runs.act_cases runs
  obtain ⟨same, after_⟩ := Runs.done_cases runs
  have ended : Searched deviceId (.endpoint endpointId) (snapshot :: agents)
      [.own ⟨.getRegisteredAgent snapshot.agentId, value⟩] value :=
    searched_answer chosen fun _ => ⟨endpointId, rfl⟩
  have padded := ended.padded before_ after_
  rw [List.append_assoc] at padded
  rw [← same]
  exact padded

theorem firstWithEndpoint_searched
    (runs : Runs RegistryChange.apply RouterAction.result
      (firstWithEndpoint deviceId (some endpointId) agents) registry steps value) :
    Searched deviceId (.endpoint endpointId) agents steps value := by
  induction agents with
  | nil =>
    obtain ⟨rfl, all⟩ := Runs.done_cases runs
    exact searched_nothing all
  | cons snapshot rest ih =>
    rw [firstWithEndpoint] at runs
    cases info : snapshot.deviceInfo with
    | some device =>
      simp only [info] at runs
      split_ifs at runs with offered
      · exact askAgent_searched ((chosen_endpoint_iff info).mpr offered) runs
      · exact (ih runs).passed (offered ∘ (chosen_endpoint_iff info).mp)
    | none =>
      simp only [info] at runs
      split_ifs at runs with same
      · exact askAgent_searched ((chosen_legacy_iff info).mpr same) runs
      · exact (ih runs).passed (same ∘ (chosen_legacy_iff info).mp)

/-- Looking again, and going on with the rest if the agent is gone. -/
theorem lookAgain_searched {rest : Code Routing (Option RouteMatch)} {endpoint : Option String}
    (chosen : Chosen deviceId (.direction direction) snapshot)
    (continues : ∀ {registry steps result},
      Runs RegistryChange.apply RouterAction.result rest registry steps result →
        Searched deviceId (.direction direction) agents steps (result.map RouteMatch.agent))
    (runs : Runs RegistryChange.apply RouterAction.result
      (do match ← askAgent snapshot.agentId with
          | some agent => return some ⟨agent, endpoint⟩
          | none => rest : Code Routing (Option RouteMatch)) registry steps result) :
    Searched deviceId (.direction direction) (snapshot :: agents) steps
      (result.map RouteMatch.agent) := by
  obtain ⟨others, answer, later, rfl, before_, -, runs⟩ := Runs.act_cases runs
  cases (answer : Option RegisteredAgent) with
  | some agent =>
    obtain ⟨rfl, after_⟩ := Runs.done_cases runs
    have ended : Searched deviceId (.direction direction) (snapshot :: agents)
        [.own ⟨.getRegisteredAgent snapshot.agentId, some agent⟩] (some agent) :=
      searched_answer chosen nofun
    have padded := ended.padded before_ after_
    rwa [List.append_assoc] at padded
  | none =>
    have padded := ((continues runs).gone chosen).padded before_ (List.forall_mem_nil _)
    rwa [List.append_nil] at padded

theorem firstByDirection_searched
    (runs : Runs RegistryChange.apply RouterAction.result
      (firstByDirection deviceId direction agents) registry steps result) :
    Searched deviceId (.direction direction) agents steps (result.map RouteMatch.agent) := by
  induction agents generalizing registry steps result with
  | nil =>
    obtain ⟨rfl, all⟩ := Runs.done_cases runs
    exact searched_nothing all
  | cons snapshot rest ih =>
    rw [firstByDirection] at runs
    cases info : snapshot.deviceInfo with
    | some device =>
      simp only [info] at runs
      cases offered : device.endpoints.find? fun endpoint => endpoint.hasDirection direction with
      | some endpoint =>
        simp only [offered] at runs
        exact lookAgain_searched ((chosen_direction_iff info).mpr (offered ▸ rfl)) ih runs
      | none =>
        simp only [offered] at runs
        refine (ih runs).passed fun chosen => ?_
        have present := (chosen_direction_iff info).mp chosen
        rw [offered] at present
        cases present
    | none =>
      simp only [info] at runs
      split_ifs at runs with same
      · exact lookAgain_searched ((chosen_legacy_iff info).mpr same) ih runs
      · exact (ih runs).passed (same ∘ (chosen_legacy_iff info).mp)

/-- A whole call: it takes a snapshot of the device's agents and searches it. -/
theorem select_cases (runs : Routes deviceId request registry steps result) :
    ∃ before agents search, steps = before ++
        .own ⟨.snapshot { deviceId := some deviceId }, agents⟩ :: search ∧
      (∀ step ∈ before, step.IsOther) ∧
      agents = (registryAfter registry before).snapshot { deviceId := some deviceId } ∧
      Searched deviceId request agents search (result.map RouteMatch.agent) := by
  cases request with
  | endpoint endpointId =>
    obtain ⟨before, agents, search, rfl, all, taken, runs⟩ := Runs.act_cases runs
    refine ⟨before, agents, search, rfl, all, taken, ?_⟩
    obtain ⟨first, later, middle, rfl, found, returns⟩ := Runs.bind_cases runs
    have searched := firstWithEndpoint_searched found
    cases middle with
    | none =>
      obtain ⟨rfl, after_⟩ := Runs.done_cases returns
      exact searched.padded (List.forall_mem_nil _) after_
    | some agent =>
      obtain ⟨rfl, after_⟩ := Runs.done_cases returns
      exact searched.padded (List.forall_mem_nil _) after_
  | direction direction =>
    obtain ⟨before, agents, search, rfl, all, taken, runs⟩ := Runs.act_cases runs
    exact ⟨before, agents, search, rfl, all, taken, firstByDirection_searched runs⟩

end Loops

/-! ## Calls -/

theorem mem_snapshot_iff {agent : RegisteredAgent} :
    agent ∈ registry.snapshot { deviceId := some deviceId } ↔
      IsRegistered registry agent ∧ agent.actualDeviceId = some deviceId := by
  rw [DeviceRegistry.snapshot, List.mem_filter, AgentSnapshotFilter.isMatch]
  refine and_congr ?_ (by simp)
  constructor
  · intro listed
    obtain ⟨⟨agentId, other⟩, member, rfl⟩ := List.mem_map.mp listed
    exact ⟨agentId, AList.mem_lookup_iff.mpr member⟩
  · rintro ⟨agentId, registered⟩
    exact List.mem_map.mpr ⟨⟨agentId, agent⟩, AList.mem_lookup_iff.mp registered, rfl⟩

/-- Among the agents of the device, those that qualify are looked for again. -/
theorem chosen_iff {agent : RegisteredAgent} (onDevice : agent.actualDeviceId = some deviceId) :
    Chosen deviceId request agent ↔ Qualifies deviceId request agent := by
  constructor
  · intro chosen
    refine ⟨onDevice, fun device info => ?_⟩
    rwa [Chosen, info] at chosen
  · intro qualifies
    cases info : agent.deviceInfo with
    | some device =>
      rw [Chosen, info]
      exact qualifies.offers device info
    | none =>
      rw [chosen_legacy_iff info, ← onDevice, RegisteredAgent.actualDeviceId, info]
      rfl

/-- A call from its snapshot on, in a registry where every record is stored under its own id. -/
structure Surveyed (deviceId : String) (request : EndpointRequest) (start : DeviceRegistry)
    (before search : Interleaving) (found : Option RegisteredAgent) : Prop where
  keyed : Keyed (registryAfter start before)
  searched : Searched deviceId request
    ((registryAfter start before).snapshot { deviceId := some deviceId }) search found
  answered : ∀ between agentId answer rest,
    search = between ++ .own ⟨.getRegisteredAgent agentId, answer⟩ :: rest →
      answer = (registryAfter (registryAfter start before) between).agents.lookup agentId

namespace Surveyed

variable {search rest : Interleaving} {answer : Option RegisteredAgent}

theorem lookup (surveyed : Surveyed deviceId request start before search found)
    (look : search = between ++ .own ⟨.getRegisteredAgent agentId, answer⟩ :: rest) :
    answer = (lastWord agentId between).getD
      ((registryAfter start before).agents.lookup agentId) := by
  rw [← lookup_registryAfter]
  exact surveyed.answered _ _ _ _ look

/-- An agent id that is looked up again had a record at the snapshot that qualified. -/
theorem known (surveyed : Surveyed deviceId request start before search found)
    (looked : Looked search agentId answer) :
    ∃ agent, (registryAfter start before).agents.lookup agentId = some agent ∧
      Qualifies deviceId request agent := by
  obtain ⟨snapshot, listed, chosen, other, same⟩ := surveyed.searched.looks _ looked
  obtain ⟨⟨key, registered⟩, onDevice⟩ := mem_snapshot_iff.mp listed
  have under : agentId = snapshot.agentId := by
    cases same
    rfl
  rw [under, surveyed.keyed key snapshot registered]
  exact ⟨snapshot, registered, (chosen_iff onDevice).mp chosen⟩

/-- An agent that is looked up in vain has been removed since the snapshot. -/
theorem removed (surveyed : Surveyed deviceId request start before search found)
    (look : search = between ++ .own ⟨.getRegisteredAgent agentId, none⟩ :: rest) :
    lastWord agentId between = some none := by
  have looked : Looked search agentId none := look ▸ List.mem_append_right _ (List.mem_cons_self ..)
  obtain ⟨agent, registered, -⟩ := surveyed.known looked
  have nothing := surveyed.lookup look
  rw [registered] at nothing
  cases said : lastWord agentId between with
  | none =>
    rw [said] at nothing
    cases nothing
  | some word =>
    rw [said] at nothing
    rw [show word = none from nothing.symm]

end Surveyed

theorem others_sinceSnapshot {agents : List RegisteredAgent} {search : Interleaving}
    {filter : AgentSnapshotFilter} (others : ∀ step ∈ before, step.IsOther) :
    beforeSnapshot (before ++ .own ⟨.snapshot filter, agents⟩ :: search) = before ∧
      sinceSnapshot (before ++ .own ⟨.snapshot filter, agents⟩ :: search) = search := by
  induction before with
  | nil => exact ⟨rfl, rfl⟩
  | cons step rest ih =>
    obtain ⟨first, further⟩ := List.forall_mem_cons.mp others
    obtain ⟨earlier, later⟩ := ih further
    cases step with
    | own entry => exact first.elim
    | other change =>
      rw [List.cons_append, beforeSnapshot, earlier, sinceSnapshot, later]
      · exact ⟨rfl, rfl⟩
      all_goals exact nofun

/-- Every call is surveyed; what it has gone through before the snapshot and after. -/
theorem surveyed_call (built : BuiltUp start)
    (routes : Routes deviceId request start steps result) :
    Surveyed deviceId request start (beforeSnapshot steps) (sinceSnapshot steps)
        (result.map RouteMatch.agent) ∧
      ∀ between rest, sinceSnapshot steps = between ++ rest →
        GoesThrough RegistryChange.apply start steps
          (registryAfter (registryAfter start (beforeSnapshot steps)) between) := by
  obtain ⟨before, agents, search, rfl, others, rfl, searched⟩ := select_cases routes
  obtain ⟨earlier, later⟩ := others_sinceSnapshot others
  rw [earlier, later]
  have whole (between rest : Interleaving) (split : search = between ++ rest) :
      before ++ .own ⟨.snapshot { deviceId := some deviceId },
          (registryAfter start before).snapshot { deviceId := some deviceId }⟩ :: search =
        (before ++ .own ⟨.snapshot { deviceId := some deviceId },
          (registryAfter start before).snapshot { deviceId := some deviceId }⟩ :: between) ++
            rest := by
    rw [split, List.append_assoc, List.cons_append]
  refine ⟨⟨built.keyed.registryAfter before, searched, ?_⟩, ?_⟩
  · intro between agentId answer rest look
    rw [whole _ _ look] at routes
    have answered := Runs.answered routes
    rw [← registryAfter, registryAfter_append] at answered
    exact answered
  · intro between rest split
    have through : GoesThrough RegistryChange.apply start _ _ :=
      GoesThrough.of_eq (whole between rest split)
    rw [← registryAfter, registryAfter_append] at through
    exact through

/-- A call that looks something up has a last look. -/
theorem exists_lastLook {search : Interleaving} (looks : ∃ entry, .own entry ∈ search) :
    ∃ between last rest, search = between ++ .own last :: rest ∧ ∀ step ∈ rest, step.IsOther := by
  induction search with
  | nil =>
    obtain ⟨entry, looks⟩ := looks
    cases looks
  | cons step rest ih =>
    by_cases further : ∃ entry, .own entry ∈ rest
    · obtain ⟨between, last, later, rfl, others⟩ := ih further
      exact ⟨step :: between, last, later, rfl, others⟩
    · obtain ⟨entry, looks⟩ := looks
      rcases List.mem_cons.mp looks with rfl | looks
      · refine ⟨[], entry, rest, rfl, ?_⟩
        intro step listed
        cases step with
        | own other => exact further ⟨other, listed⟩
        | other change => exact trivial
      · exact absurd ⟨entry, looks⟩ further

/-- No look comes after the last one. -/
theorem look_le_lastLook {first last : Entry Routing} {rest : Interleaving}
    (others : ∀ step ∈ rest, step.IsOther)
    (same : earlier ++ .own first :: later = between ++ .own last :: rest) :
    earlier <+: between := by
  rcases List.append_eq_append_iff.mp same with ⟨more, rfl, -⟩ | ⟨more, rfl, tail⟩
  · exact List.prefix_append earlier more
  · cases more with
    | nil => simp
    | cons step more =>
      obtain ⟨-, rest_⟩ := List.cons.inj tail
      have looks : Happening.own first ∈ rest := by
        rw [rest_]
        exact List.mem_append_right more (List.mem_cons_self ..)
      exact absurd looks (mem_others others)

namespace Surveyed

variable {search rest : Interleaving}

/-- A record that was found qualifies unless it came in since the snapshot. -/
theorem qualifies (surveyed : Surveyed deviceId request start before search found)
    {agent : RegisteredAgent}
    (look : search = between ++ .own ⟨.getRegisteredAgent agentId, some agent⟩ :: rest)
    (kept : lastWord agentId between = some (some agent) → Qualifies deviceId request agent) :
    Qualifies deviceId request agent := by
  have answered := surveyed.lookup look
  cases said : lastWord agentId between with
  | some word =>
    rw [said] at answered
    exact kept (said.trans (congrArg some answered.symm))
  | none =>
    obtain ⟨known, registered, qualifies⟩ :=
      surveyed.known (look ▸ List.mem_append_right _ (List.mem_cons_self ..))
    rw [said, registered] at answered
    rwa [Option.some.inj answered]

/-- The snapshot has every agent that qualified when it was taken. -/
theorem nobodyQualifies (surveyed : Surveyed deviceId request start before search none)
    (unasked : ¬ ∃ entry, .own entry ∈ search) :
    NobodyQualifies deviceId request (registryAfter start before) := by
  intro agent registered qualifies
  have listed := mem_snapshot_iff.mpr ⟨registered, qualifies.onDevice⟩
  have chosen := (chosen_iff qualifies.onDevice).mpr qualifies
  rcases surveyed.searched.asked rfl agent listed chosen with looked | ⟨-, agentId, looked⟩
  · exact unasked ⟨_, looked⟩
  · exact unasked ⟨_, looked⟩

/-- At the last look that found nothing nobody qualifies, as far as others have not brought in
an agent and an endpoint was not given up too early. -/
theorem nobodyQualifies_lastLook
    (surveyed : Surveyed deviceId request start before search none) {last : Entry Routing}
    (split : search = between ++ .own last :: rest) (others : ∀ step ∈ rest, step.IsOther)
    (noneNew : ∀ agentId agent, lastWord agentId between = some (some agent) →
      ¬ Qualifies deviceId request agent)
    (noneLeft : ∀ endpointId, request = .endpoint endpointId → ∀ agentId agent,
      (registryAfter start before).agents.lookup agentId = some agent →
        Qualifies deviceId request agent → lastWord agentId between ≠ none) :
    NobodyQualifies deviceId request (registryAfter (registryAfter start before) between) := by
  rintro agent ⟨agentId, registered⟩ qualifies
  rw [lookup_registryAfter] at registered
  cases said : lastWord agentId between with
  | some word =>
    rw [said] at registered
    exact noneNew agentId agent (said.trans (congrArg some registered)) qualifies
  | none =>
    rw [said] at registered
    have registered : (registryAfter start before).agents.lookup agentId = some agent := registered
    have listed := mem_snapshot_iff.mpr ⟨⟨agentId, registered⟩, qualifies.onDevice⟩
    have chosen := (chosen_iff qualifies.onDevice).mpr qualifies
    rcases surveyed.searched.asked rfl agent listed chosen with looked | ⟨⟨endpointId, same⟩, -⟩
    · -- the agent was looked up, so it had been removed, and it still is at the last look
      rw [surveyed.keyed agentId agent registered] at looked
      obtain ⟨earlier, later, look⟩ := List.append_of_mem looked
      obtain ⟨more, rfl⟩ := look_le_lastLook others (look.symm.trans split)
      rw [lastWord_append, surveyed.removed look] at said
      cases more : lastWord agentId more <;> simp [more] at said
    · exact noneLeft endpointId same agentId agent registered qualifies said

end Surveyed

/-- A call that returns what it promises has not been given a replaced record that does not
qualify. A call that has not, and that did not overlook an agent, returns what it promises. -/
theorem routes_right (built : BuiltUp start)
    (routes : Routes deviceId request start steps result) :
    (RoutesRight deviceId request start steps result → NoneReplaced deviceId request steps) ∧
    (NoneReplaced deviceId request steps → NoneOverlooked deviceId request start steps →
      RoutesRight deviceId request start steps result) := by
  obtain ⟨surveyed, through⟩ := surveyed_call built routes
  have looked {between agentId answer rest}
      (look : sinceSnapshot steps = between ++ .own ⟨.getRegisteredAgent agentId, answer⟩ :: rest) :
      Looked (sinceSnapshot steps) agentId answer :=
    look ▸ List.mem_append_right _ (List.mem_cons_self ..)
  constructor
  · rintro right between agentId agent ⟨answer, rest, look⟩ replaced
    have answered := surveyed.lookup look
    rw [replaced] at answered
    obtain rfl : answer = some agent := answered
    have found := surveyed.searched.decided agentId agent (looked look)
    cases result with
    | none => cases found
    | some route =>
      obtain ⟨registry, -, -, qualifies⟩ := right
      exact Option.some.inj found ▸ qualifies
  · intro noneReplaced noneOverlooked
    cases result with
    | some route =>
      obtain ⟨agentId, member⟩ := surveyed.searched.returned route.agent rfl
      obtain ⟨between, rest, look⟩ := List.append_of_mem member
      refine ⟨_, through _ _ look, ⟨agentId, (surveyed.answered _ _ _ _ look).symm⟩, ?_⟩
      exact surveyed.qualifies look fun kept =>
        noneReplaced between agentId route.agent ⟨_, rest, look⟩ kept
    | none =>
      by_cases asked : ∃ entry, .own entry ∈ sinceSnapshot steps
      · obtain ⟨between, last, rest, split, others⟩ := exists_lastLook asked
        obtain ⟨noneNew, noneLeft⟩ := noneOverlooked (by
          rintro earlier agentId ⟨answer, later, look⟩
          cases answer with
          | some agent => cases surveyed.searched.decided agentId agent (looked look)
          | none => exact surveyed.removed look) between ⟨last, rest, split, others⟩
        exact ⟨_, through _ _ split,
          surveyed.nobodyQualifies_lastLook split others noneNew noneLeft⟩
      · exact ⟨_, through [] _ rfl, surveyed.nobodyQualifies asked⟩

/-! ## A record that is replaced -/

def soundEndpoint (endpointId : String) (direction : EndpointDirection) : AudioEndpoint where
  id := endpointId
  displayName := none
  direction := direction
  capabilities := []
  supportedFormats := []

/-- The agent of the device `d1`, with one endpoint. -/
def agentWith (endpoint : AudioEndpoint) : RegisteredAgent where
  agentId := "a1"
  agentName := "pad"
  providerId := none
  capabilities := ["speaker"]
  capabilityDomains := [.tts]
  agentKind := .device
  clientVersion := none
  updateStatus := none
  device := some ⟨"d1", none, none⟩
  deviceInfo := some ⟨"d1", none, none, [endpoint]⟩
  commandTx := 0

def speakerAgent : RegisteredAgent := agentWith (soundEndpoint "spk" .output)

def microphoneAgent : RegisteredAgent := agentWith (soundEndpoint "mic" .input)

def speakerRegistry : DeviceRegistry := (DeviceRegistry.registerAgent default speakerAgent).1

theorem speakerRegistry_builtUp : BuiltUp speakerRegistry :=
  ⟨[.registerAgent speakerAgent], rfl⟩

/-- The call that asks for the speaker while its agent registers again. -/
def replacedBy (agent : RegisteredAgent) : Interleaving :=
  [.own ⟨.snapshot { deviceId := some "d1" }, [speakerAgent]⟩, .other (.registerAgent agent),
    .own ⟨.getRegisteredAgent "a1", some agent⟩]

theorem replacedBy_routes {agent : RegisteredAgent} (same : agent.agentId = "a1") :
    Routes "d1" (.endpoint "spk") speakerRegistry (replacedBy agent)
      (some ⟨agent, some "spk"⟩) := by
  have listed : [speakerAgent] = speakerRegistry.snapshot { deviceId := some "d1" } := by
    decide +kernel
  refine .acted listed (.changed (.acted ?_ (.returned _ _)))
  change some agent =
    (RegistryChange.apply speakerRegistry (.registerAgent agent)).agents.lookup "a1"
  rw [lookup_apply, RegistryChange.word?, if_pos same]
  rfl

theorem replacedBy_looksAt {agent : RegisteredAgent}
    (looks : LooksAt (replacedBy agent) between agentId) :
    between = [.other (.registerAgent agent)] ∧ agentId = "a1" := by
  obtain ⟨answer, rest, split⟩ := looks
  change [_, _] = _ at split
  rcases between with _ | ⟨first, _ | ⟨second, between⟩⟩
  · cases (List.cons.inj split).1
  · obtain ⟨rfl, left⟩ := List.cons.inj split
    have asked := congrArg Entry.action (Happening.own.inj (List.cons.inj left).1)
    exact ⟨rfl, (RouterAction.getRegisteredAgent.inj asked).symm⟩
  · have lengths := congrArg List.length split
    simp at lengths

/-- The agent registers again with a microphone beside the speaker. -/
def headsetAgent : RegisteredAgent where
  __ := speakerAgent
  deviceInfo := some ⟨"d1", none, none,
    [soundEndpoint "spk" .output, soundEndpoint "mic" .input]⟩

theorem headsetAgent_qualifies : Qualifies "d1" (.endpoint "spk") headsetAgent where
  onDevice := rfl
  offers device info := by
    cases info
    exact ⟨_, List.mem_cons_self .., rfl⟩

theorem headset_routed : RoutesRight "d1" (.endpoint "spk") speakerRegistry
    (replacedBy headsetAgent) (some ⟨headsetAgent, some "spk"⟩) := by
  refine (routes_right speakerRegistry_builtUp (replacedBy_routes rfl)).2 ?_ ?_
  · intro between agentId agent looks replaced
    obtain ⟨rfl, rfl⟩ := replacedBy_looksAt looks
    obtain rfl := Option.some.inj (Option.some.inj replaced)
    exact headsetAgent_qualifies
  · intro removed between last
    have looks : LooksAt (replacedBy headsetAgent) [.other (.registerAgent headsetAgent)] "a1" :=
      ⟨_, [], rfl⟩
    cases Option.some.inj (removed _ _ looks)

/-- The agent registers again with a microphone only, and the speaker is routed to it. -/
theorem microphone_misrouted :
    ¬ ∀ (deviceId : String) (request : EndpointRequest) (start : DeviceRegistry)
      (steps : Interleaving) (result : Option RouteMatch), BuiltUp start →
        Routes deviceId request start steps result →
          RoutesRight deviceId request start steps result := by
  intro right
  have routes : Routes "d1" (.endpoint "spk") speakerRegistry (replacedBy microphoneAgent)
      (some ⟨microphoneAgent, some "spk"⟩) := replacedBy_routes rfl
  obtain ⟨registry, -, registered, qualifies⟩ := right _ _ _ _ _ speakerRegistry_builtUp routes
  obtain ⟨endpoint, member, fits⟩ := qualifies.offers _ rfl
  rw [List.mem_singleton] at member
  have other : endpoint.id = "mic" := congrArg AudioEndpoint.id member
  exact absurd (other.symm.trans fits) (by decide)

end SpeechMesh.Soundness
