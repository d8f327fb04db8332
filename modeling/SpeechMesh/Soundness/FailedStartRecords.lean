import Mathlib.Tactic.IntervalCases
import SpeechMesh.Model.Footprints
import SpeechMesh.Soundness.Scenario

/-! # The failed starts a device remembers

`failed_play_audio_starts` silences what follows a start that could not be played, and only a
`Finish` takes a task out of it. The gateway's send loop gives up before the `Finish` when the
device's `Failed` status has already removed the route; the device then remembers the task for the
rest of its run.
-/

namespace SpeechMesh.Soundness

open Async Model

/-! ## What is on the channel -/

/-- The messages that follow the start of a task. -/
def Feeds (taskId : String) : GatewayToAgentMessage → Prop
  | .taskPlayAudioChunk other _ | .taskPlayAudioFinish other => other = taskId
  | _ => False

/-- The messages that change what a device remembers of a task. -/
def Steers (taskId : String) : GatewayToAgentMessage → Prop
  | .taskPlayAudioStart other _ | .taskPlayAudioFinish other => other = taskId
  | _ => False

/-- At this position of a command channel a request has put the start of a task. -/
def StartAt (state : State) (connection position : ℕ) (taskId : String) (origin : Option ℕ) : Prop :=
  ∃ format, (state.commanded connection)[position]? = some ⟨.taskPlayAudioStart taskId format, origin⟩

def FinishAt (state : State) (connection position : ℕ) (taskId : String) : Prop :=
  ∃ origin, (state.commanded connection)[position]? = some ⟨.taskPlayAudioFinish taskId, origin⟩

/-- The start of the task that the device has read last. -/
structure LastStart (state : State) (device connection position : ℕ) (taskId : String)
    (origin : Option ℕ) : Prop where
  read : position < (state.devices device).read
  start : StartAt state connection position taskId origin
  last : ∀ {later}, position < later → later < (state.devices device).read →
    ∀ other, ¬ StartAt state connection later taskId other

/-- The request that sent a message has not returned. -/
def Unreturned (state : State) (origin : Option ℕ) : Prop :=
  ∃ number, origin = some number ∧ state.history.unreturned number = true

/-- A chunk or the finish of the task is on the channel and has not been read by the device. -/
def FedLater (state : State) (device connection : ℕ) (taskId : String) : Prop :=
  ∃ command ∈ (state.commanded connection).drop (state.devices device).read,
    Feeds taskId command.message

/-! ## The property and the condition -/

variable {config : GatewayConfig}

/-- The device waits for its next frame, or is about to. -/
def Listening (world : World (system config)) (device : ℕ) : Prop :=
  ∃ name, (∃ next, world.tasks[device]? = some ⟨name, .act (.device .nextInput) next⟩) ∨
    world.tasks[device]? = some ⟨name, .done (some .deviceLoop)⟩

/-- A device that remembers a failed start is handling a message of the task; or the request behind
the last start has not returned, or a chunk or the finish of the task is still to be read. -/
def RemembersAwaited (world : World (system config)) (device : ℕ) : Prop :=
  ∀ ⦃connection taskId⦄, ((stateIn world).devices device).connection = some connection →
    taskId ∈ ((stateIn world).devices device).tracker.failedPlayAudioStarts →
      ((stateIn world).history.deviceHand device = some taskId ∧ ¬ Listening world device) ∨
      ∃ position origin, LastStart (stateIn world) device connection position taskId origin ∧
        (Unreturned (stateIn world) origin ∨ FedLater (stateIn world) device connection taskId)

/-- No request returns while the device remembers its start as failed, unless the `Finish` has been put
on the channel; and when the device comes to remember a start whose request has returned, its
`Finish` is on the channel. -/
def FinishSent (device index : ℕ) (_ : Procedure) (state : State) : Action → Prop
  | .mark .playAudioReturned => ∀ {connection taskId position number},
      (state.devices device).connection = some connection →
        taskId ∈ (state.devices device).tracker.failedPlayAudioStarts →
          state.history.servedNumber index = some number →
            LastStart state device connection position taskId (some number) →
              ∃ later, position < later ∧ FinishAt state connection later taskId
  | .device (.setTaskTracker tracker) => index = device → ∀ {connection taskId position origin},
      (state.devices device).connection = some connection →
        taskId ∈ tracker.failedPlayAudioStarts →
          position + 1 = (state.devices device).read →
            StartAt state connection position taskId origin →
              Unreturned state origin ∨
                ∃ later, position < later ∧ FinishAt state connection later taskId
  | _ => True

/-! ## What the device may count on -/

/-- The last start that was read has not been finished by what was read since, and its request has not
returned or its finish is on the channel. -/
def Counted (state : State) (device connection : ℕ) (taskId : String) : Prop :=
  ∃ position origin, LastStart state device connection position taskId origin ∧
    (∀ later, position < later → later < (state.devices device).read →
      ¬ FinishAt state connection later taskId) ∧
    (Unreturned state origin ∨ ∃ later, position < later ∧ FinishAt state connection later taskId)

/-- Everything the device remembers is counted on. -/
def AllCounted (device : ℕ) (state : State) : Prop :=
  ∀ ⦃connection taskId⦄, (state.devices device).connection = some connection →
    taskId ∈ (state.devices device).tracker.failedPlayAudioStarts →
      Counted state device connection taskId

variable {state after : State} {device index task fresh connection position : ℕ} {taskId : String}
  {action : Action} {answer : action.Answer}

/-- What was put on a channel stays where it is. -/
theorem commanded_stays (grown : state.commanded connection <+: after.commanded connection)
    (bound : position < (state.commanded connection).length) :
    (after.commanded connection)[position]? = (state.commanded connection)[position]? := by
  obtain ⟨more, same⟩ := grown
  rw [← same, List.getElem?_append_left bound]

theorem StartAt.bound {origin : Option ℕ} (start : StartAt state connection position taskId origin) :
    position < (state.commanded connection).length := by
  obtain ⟨format, found⟩ := start
  exact (List.getElem?_eq_some_iff.mp found).1

theorem FinishAt.bound (finish : FinishAt state connection position taskId) :
    position < (state.commanded connection).length := by
  obtain ⟨origin, found⟩ := finish
  exact (List.getElem?_eq_some_iff.mp found).1

theorem startAt_congr {origin : Option ℕ} (same :
    (after.commanded connection)[position]? = (state.commanded connection)[position]?) :
    StartAt after connection position taskId origin ↔ StartAt state connection position taskId origin := by
  simp only [StartAt, same]

theorem finishAt_congr (same :
    (after.commanded connection)[position]? = (state.commanded connection)[position]?) :
    FinishAt after connection position taskId ↔ FinishAt state connection position taskId := by
  simp only [FinishAt, same]

/-- A task is counted on as long as what is read does not steer it, and its request leaves the finish
behind. -/
theorem Counted.grows (counted : Counted state device connection taskId)
    (bounded : (state.devices device).read ≤ (state.commanded connection).length)
    (grown : state.commanded connection <+: after.commanded connection)
    (read : (state.devices device).read ≤ (after.devices device).read)
    (steady : ∀ later, (state.devices device).read ≤ later → later < (after.devices device).read →
      ∀ command, (after.commanded connection)[later]? = some command →
        ¬ Steers taskId command.message)
    (unreturned : ∀ position origin, LastStart state device connection position taskId origin →
      Unreturned state origin → Unreturned after origin ∨
        ∃ later, position < later ∧ FinishAt state connection later taskId) :
    Counted after device connection taskId := by
  obtain ⟨position, origin, start, unfinished, awaited⟩ := counted
  have old {later : ℕ} (bound : later < (state.commanded connection).length) :
      (after.commanded connection)[later]? = (state.commanded connection)[later]? :=
    commanded_stays grown bound
  have finished {later : ℕ} (finish : FinishAt state connection later taskId) :
      FinishAt after connection later taskId :=
    (finishAt_congr (old finish.bound)).mpr finish
  refine ⟨position, origin, ⟨lt_of_lt_of_le start.read read, ?_, fun {later} above below other begins => ?_⟩,
    fun later above below finish => ?_, ?_⟩
  · exact (startAt_congr (old start.start.bound)).mpr start.start
  · rcases Nat.lt_or_ge later (state.devices device).read with before | new
    · rw [startAt_congr (old (by omega))] at begins
      exact start.last above before other begins
    · obtain ⟨format, found⟩ := begins
      exact steady later new below _ found rfl
  · rcases Nat.lt_or_ge later (state.devices device).read with before | new
    · rw [finishAt_congr (old (by omega))] at finish
      exact unfinished later above before finish
    · obtain ⟨origin, found⟩ := finish
      exact steady later new below _ found rfl
  · have kept : Unreturned after origin ∨
        ∃ later, position < later ∧ FinishAt state connection later taskId := by
      rcases awaited with waits | finish
      · exact unreturned position origin start waits
      · exact .inr finish
    rcases kept with waits | ⟨later, above, finish⟩
    · exact .inl waits
    · exact .inr ⟨later, above, finished finish⟩

/-- Being counted on is a matter of the channel, of what was read, and of the requests. -/
theorem Counted.congr (counted : Counted state device connection taskId)
    (read : (after.devices device).read = (state.devices device).read)
    (commanded : after.commanded = state.commanded)
    (unreturned : after.history.unreturned = state.history.unreturned) :
    Counted after device connection taskId := by
  obtain ⟨position, origin, start, unfinished, awaited⟩ := counted
  refine ⟨position, origin, ⟨by rw [read]; exact start.read, ?_, ?_⟩, ?_, ?_⟩
  · exact (startAt_congr (by rw [commanded])).mpr start.start
  · intro later above below other begins
    rw [read] at below
    exact start.last above below other ((startAt_congr (by rw [commanded])).mp begins)
  · intro later above below finish
    rw [read] at below
    exact unfinished later above below ((finishAt_congr (by rw [commanded])).mp finish)
  · rcases awaited with ⟨number, rfl, waits⟩ | ⟨later, above, finish⟩
    · exact .inl ⟨number, rfl, by rw [unreturned, waits]⟩
    · exact .inr ⟨later, above, (finishAt_congr (by rw [commanded])).mpr finish⟩

/-- A task that is counted on is awaited. -/
theorem Counted.awaited (counted : Counted state device connection taskId) :
    ∃ position origin, LastStart state device connection position taskId origin ∧
      (Unreturned state origin ∨ FedLater state device connection taskId) := by
  obtain ⟨position, origin, start, unfinished, awaited⟩ := counted
  refine ⟨position, origin, start, ?_⟩
  rcases awaited with waits | ⟨later, above, finish⟩
  · exact .inl waits
  · -- the finish has not been read, so it is among what is left on the channel
    have unread : (state.devices device).read ≤ later := by
      by_contra read
      exact unfinished later above (by omega) finish
    obtain ⟨origin, found⟩ := finish
    refine .inr ⟨⟨.taskPlayAudioFinish taskId, origin⟩, ?_, rfl⟩
    apply List.mem_of_getElem? (i := later - (state.devices device).read)
    rw [List.getElem?_drop, Nat.add_sub_cancel' unread, found]

/-! ## The invariant -/

/-- A device remembers no task it plays; what it remembers is counted on, unless it is about the message
it has read last; and the frames of its own are no messages of the gateway. -/
structure RecordInvariant (device : ℕ) (state : State) : Prop where
  foreign : ∀ input ∈ (state.devices device).inbox, ∀ message, input ≠ .frame (.text (.ok message))
  bounded : ∀ {connection}, (state.devices device).connection = some connection →
    (state.devices device).read ≤ (state.commanded connection).length
  apart : ∀ taskId ∈ (state.devices device).tracker.failedPlayAudioStarts,
    (state.devices device).tracker.playAudioTasks.lookup taskId = none
  recorded : ∀ {connection taskId}, (state.devices device).connection = some connection →
    taskId ∈ (state.devices device).tracker.failedPlayAudioStarts →
      state.history.deviceHand device = some taskId ∨ Counted state device connection taskId

/-- What the other tasks leave to a device. -/
structure RecordRely (device : ℕ) (before after : State) : Prop where
  connection : (after.devices device).connection = (before.devices device).connection
  read : (after.devices device).read = (before.devices device).read
  tracker : (after.devices device).tracker = (before.devices device).tracker
  hand : after.history.deviceHand device = before.history.deviceHand device
  commanded : ∀ connection, before.commanded connection <+: after.commanded connection
  counted : ∀ {connection taskId}, (before.devices device).connection = some connection →
    taskId ∈ (before.devices device).tracker.failedPlayAudioStarts →
      Counted before device connection taskId → Counted after device connection taskId

theorem RecordRely.refl (device : ℕ) (state : State) : RecordRely device state state :=
  ⟨rfl, rfl, rfl, rfl, fun _ => List.prefix_rfl, fun _ _ => id⟩

theorem RecordRely.trans {first middle last : State} (one : RecordRely device first middle)
    (two : RecordRely device middle last) : RecordRely device first last where
  connection := two.connection.trans one.connection
  read := two.read.trans one.read
  tracker := two.tracker.trans one.tracker
  hand := two.hand.trans one.hand
  commanded connection := (one.commanded connection).trans (two.commanded connection)
  counted linked failed counted :=
    two.counted (one.connection.trans linked) (one.tracker ▸ failed) (one.counted linked failed counted)

theorem RecordInvariant.rely (inv : RecordInvariant device state)
    (rely : RecordRely device state after)
    (foreign : ∀ input ∈ (after.devices device).inbox, input ∈ (state.devices device).inbox ∨
      ∀ message, input ≠ .frame (.text (.ok message))) : RecordInvariant device after where
  foreign input found := by
    rcases foreign input found with before | new
    · exact inv.foreign input before
    · exact new
  bounded {connection} linked := by
    rw [rely.connection] at linked
    rw [rely.read]
    exact (inv.bounded linked).trans (rely.commanded connection).length_le
  apart := by
    rw [rely.tracker]
    exact inv.apart
  recorded linked failed := by
    rw [rely.connection] at linked
    rw [rely.tracker] at failed
    rw [rely.hand]
    exact (inv.recorded linked failed).imp_right (rely.counted linked failed)

theorem AllCounted.rely (all : AllCounted device state) (rely : RecordRely device state after) :
    AllCounted device after := by
  intro connection taskId linked failed
  rw [rely.connection] at linked
  rw [rely.tracker] at failed
  exact rely.counted linked failed (all linked failed)

/-! ## What an action leaves to a device -/

/-- A request that has not returned has not returned after an action either, unless it returns now. -/
theorem unreturned_exec {origin : Option ℕ}
    (ran : State.exec task fresh state action = some (after, answer))
    (waits : Unreturned state origin) : Unreturned after origin ∨
      action = .mark .playAudioReturned ∧
        ∃ number, origin = some number ∧ state.history.servedNumber task = some number := by
  obtain ⟨number, rfl, unreturned⟩ := waits
  have history := congrArg History.unreturned (history_exec ran)
  simp only [State.note] at history
  unfold History.unreturnedAfter at history
  split at history
  · refine .inl ⟨number, rfl, ?_⟩
    rw [history]
    by_cases same : number = state.history.requests
    · rw [same, Function.update_self]
    · rw [Function.update_of_ne same, unreturned]
  · by_cases served : state.history.servedNumber task = some number
    · exact .inr ⟨rfl, number, rfl, served⟩
    · refine .inl ⟨number, rfl, ?_⟩
      rw [history]
      simp [unreturned, served]
  · exact .inl ⟨number, rfl, by rw [history, unreturned]⟩

/-- Commands are only ever added. -/
theorem commanded_grows (ran : State.exec task fresh state action = some (after, answer))
    (connection : ℕ) : state.commanded connection <+: after.commanded connection := by
  rw [commanded_exec ran]
  cases action with
  | sendAgent other message =>
    simp only [State.commandedAfter]
    by_cases same : connection = other
    · subst same
      rw [Function.update_self]
      exact List.prefix_append ..
    · rw [Function.update_of_ne same]
  | _ => exact List.prefix_rfl

/-- The actions with which a device reads and remembers. -/
def Records (device index : ℕ) (action : Action) : Prop :=
  index = device ∧ (action = .device .nextInput ∨ ∃ tracker, action = .device (.setTaskTracker tracker))

/-- No other action touches what a device has read and remembers. -/
theorem link_exec (ran : State.exec index fresh state action = some (after, answer))
    (quiet : ¬ Records device index action) :
    (after.devices device).connection = (state.devices device).connection ∧
      (after.devices device).read = (state.devices device).read ∧
      (after.devices device).tracker = (state.devices device).tracker ∧
      (after.devices device).inbox = (state.devices device).inbox := by
  by_cases own : ∃ action', action = .device action'
  · obtain ⟨action, rfl⟩ := own
    by_cases same : index = device
    · subst same
      have does := device_exec ran
      cases action with
      | nextInput => exact absurd ⟨rfl, .inl rfl⟩ quiet
      | setTaskTracker tracker => exact absurd ⟨rfl, .inr ⟨tracker, rfl⟩⟩ quiet
      | taskTracker =>
        obtain ⟨_, same⟩ := does
        rw [same]
        exact ⟨rfl, rfl, rfl, rfl⟩
      | send message =>
        obtain ⟨_, _, same, _⟩ := does
        rw [same]
        exact ⟨rfl, rfl, rfl, rfl⟩
      | startPlayer format | writePlayer bytes | waitPlayer =>
        obtain ⟨_, _, same⟩ := does
        rw [same]
        exact ⟨rfl, rfl, rfl, rfl⟩
    · obtain ⟨core, performed, rfl⟩ := exec_cases ran
      obtain ⟨link, rfl⟩ := performDevice_cases performed
      have other : ((state.setDevice index link).devices device) = state.devices device :=
        Function.update_of_ne (Ne.symm same) ..
      simp only [other, and_self]
  · have same := devices_exec ran fun action same => own ⟨action, same⟩
    rw [same]
    exact ⟨rfl, rfl, rfl, rfl⟩

theorem deviceHand_exec (ran : State.exec index fresh state action = some (after, answer))
    (quiet : ¬ Records device index action) :
    after.history.deviceHand device = state.history.deviceHand device := by
  rw [history_exec ran]
  simp only [State.note]
  unfold History.deviceHandAfter
  split
  · by_cases same : device = index
    · exact absurd ⟨same.symm, .inl rfl⟩ quiet
    · exact Function.update_of_ne same ..
  · rfl

theorem RecordInvariant.exec_rely {name : Procedure} (inv : RecordInvariant device state)
    (sent : FinishSent device index name state action)
    (ran : State.exec index fresh state action = some (after, answer))
    (quiet : ¬ Records device index action) : RecordRely device state after := by
  obtain ⟨connection, read, tracker, _⟩ := link_exec ran quiet
  refine ⟨connection, read, tracker, deviceHand_exec ran quiet, commanded_grows ran,
    fun {connection taskId} linked failed counted => ?_⟩
  refine counted.grows (inv.bounded linked) (commanded_grows ran connection) read.ge ?_ ?_
  · intro later new below
    omega
  · intro position origin start waits
    rcases unreturned_exec ran waits with still | ⟨rfl, number, rfl, served⟩
    · exact .inl still
    · exact .inr (sent linked failed served start)

/-- Events leave a device that is there alone. -/
theorem RecordInvariant.event {event : Event} {tasks : ℕ} {spawned : List Procedure}
    (inv : RecordInvariant device state)
    (kept : (state.devices device).Kept event device (after.devices device))
    (occurred : state.occur tasks event = some (after, spawned)) :
    RecordRely device state after := by
  have undisturbed := occur_undisturbed occurred
  have commanded := occur_commanded occurred
  refine ⟨kept.connection, kept.read, kept.tracker, by rw [undisturbed.history],
    fun connection => by rw [commanded], fun {connection taskId} linked _ counted => ?_⟩
  refine counted.grows (inv.bounded linked) (by rw [commanded]) kept.read.ge ?_ ?_
  · intro later new below
    have read := kept.read
    omega
  · rintro position origin _ ⟨number, rfl, unreturned⟩
    exact .inl ⟨number, rfl, by rw [undisturbed.history, unreturned]⟩

/-- A device that has just connected remembers nothing. -/
theorem RecordInvariant.connected {connection : Option ℕ}
    (link : state.devices device = { connection }) : RecordInvariant device state where
  foreign := by simp [link]
  bounded := by simp [link]
  apart := by simp [link]
  recorded := by simp [link]

/-! ## What a device reads and remembers -/

/-- The device handles the message it has read last. What it remembers of other tasks is counted on. -/
structure HandlesMessage (device : ℕ) (message : GatewayToAgentMessage) (state : State) : Prop where
  hand : state.history.deviceHand device = message.taskId?
  latest : ∀ {connection}, (state.devices device).connection = some connection →
    ∃ position origin, position + 1 = (state.devices device).read ∧
      (state.commanded connection)[position]? = some ⟨message, origin⟩
  counted : ∀ {connection taskId}, (state.devices device).connection = some connection →
    taskId ∈ (state.devices device).tracker.failedPlayAudioStarts → ¬ Steers taskId message →
      Counted state device connection taskId

/-- What holds after a frame was read. -/
def HasRead (device : ℕ) : DeviceInput → State → Prop
  | .frame (.text (.ok message)), state => HandlesMessage device message state
  | _, state => AllCounted device state

theorem HandlesMessage.rely {message : GatewayToAgentMessage} (handles : HandlesMessage device message state)
    (rely : RecordRely device state after) : HandlesMessage device message after where
  hand := rely.hand.trans handles.hand
  latest {connection} linked := by
    rw [rely.connection] at linked
    obtain ⟨position, origin, last, found⟩ := handles.latest linked
    refine ⟨position, origin, by rw [rely.read, last], ?_⟩
    rw [commanded_stays (rely.commanded connection) (List.getElem?_eq_some_iff.mp found).1, found]
  counted linked failed other := by
    rw [rely.connection] at linked
    rw [rely.tracker] at failed
    exact rely.counted linked failed (handles.counted linked failed other)

theorem HasRead.rely {input : DeviceInput} (read : HasRead device input state)
    (rely : RecordRely device state after) : HasRead device input after := by
  match input with
  | .frame (.text (.ok message)) => exact HandlesMessage.rely read rely
  | .frame (.text (.error _)) | .frame (.failed _) | .frame (.ping _) | .frame .pong
  | .frame (.binary _) | .frame .close | .frame .ended | .heartbeat _ =>
    exact AllCounted.rely read rely

/-- A message that steers no task is done with at once. -/
theorem HandlesMessage.all {message : GatewayToAgentMessage} (handles : HandlesMessage device message state)
    (plain : ∀ taskId, ¬ Steers taskId message) : AllCounted device state :=
  fun _ _ linked failed => handles.counted linked failed (plain _)

theorem steers_taskId {message : GatewayToAgentMessage} (steers : Steers taskId message) :
    message.taskId? = some taskId := by
  cases message with
  | taskPlayAudioStart other format | taskPlayAudioFinish other => exact congrArg some steers
  | _ => exact steers.elim

/-- Reading a frame, and what the history keeps of it. -/
theorem nextInput_exec {input : DeviceInput}
    (ran : State.exec device fresh state (.device .nextInput) = some (after, input)) :
    after.commanded = state.commanded ∧
      after.history.unreturned = state.history.unreturned ∧
      after.history.deviceHand device = input.taskId? ∧
      ((∃ rest, (state.devices device).inbox = input :: rest ∧
          after.devices device = { state.devices device with inbox := rest }) ∨
        ∃ connection command, (state.devices device).connection = some connection ∧
          (state.commanded connection)[(state.devices device).read]? = some command ∧
          after.devices device = { state.devices device with read := (state.devices device).read + 1 } ∧
          input = .frame (.text (.ok command.message))) := by
  refine ⟨commanded_exec ran, by rw [history_exec ran]; rfl, ?_, ?_⟩
  · rw [history_exec ran]
    exact Function.update_self ..
  · obtain ⟨core, performed, rfl⟩ := exec_cases ran
    obtain ⟨⟨link, stamped⟩, next, same⟩ := Option.map_eq_some_iff.mp performed
    obtain ⟨rfl, rfl⟩ := Prod.mk.inj same
    simp only [State.setDevice, Function.update_self]
    rcases nextDeviceInput_cases next with
      ⟨rest, found, rfl⟩ | ⟨connection, command, linked, found, rfl, message⟩
    · exact .inl ⟨rest, found, rfl⟩
    · exact .inr ⟨connection, command, linked, found, rfl, message⟩

/-- A device that has come to count on all it remembers may read on. -/
theorem AllCounted.reads {input : DeviceInput} (all : AllCounted device state)
    (inv : RecordInvariant device state)
    (ran : State.exec device fresh state (.device .nextInput) = some (after, input)) :
    RecordInvariant device after ∧ HasRead device input after := by
  obtain ⟨commanded, unreturned, hand, read⟩ := nextInput_exec ran
  have unreturned {origin : Option ℕ} (waits : Unreturned state origin) : Unreturned after origin := by
    obtain ⟨number, rfl, waits⟩ := waits
    exact ⟨number, rfl, by rw [unreturned, waits]⟩
  rcases read with ⟨rest, inbox, link⟩ | ⟨connection, command, linked, found, link, rfl⟩
  · -- a frame of its own: nothing on the channel was read
    have counted : AllCounted device after := by
      intro connection taskId linked failed
      rw [link] at linked failed
      refine (all linked failed).grows (inv.bounded linked) (by rw [commanded]) (by rw [link]) ?_
        fun _ _ _ waits => .inl (unreturned waits)
      intro later new below
      rw [link] at below
      change later < (state.devices device).read at below
      omega
    refine ⟨⟨fun other inside => ?_, fun {connection} linked => ?_, by rw [link]; exact inv.apart,
      fun linked failed => .inr (counted linked failed)⟩, ?_⟩
    · rw [link] at inside
      exact inv.foreign other (by rw [inbox]; exact List.mem_cons_of_mem _ inside)
    · rw [link] at linked ⊢
      rw [commanded]
      exact inv.bounded linked
    · have foreign := inv.foreign input (by rw [inbox]; exact List.mem_cons_self ..)
      match input, foreign with
      | .frame (.text (.ok message)), foreign => exact absurd rfl (foreign message)
      | .frame (.text (.error _)), _ | .frame (.failed _), _ | .frame (.ping _), _
      | .frame .pong, _ | .frame (.binary _), _ | .frame .close, _ | .frame .ended, _
      | .heartbeat _, _ => exact counted
  · -- the next message of the gateway
    have counted : ∀ {other taskId}, (after.devices device).connection = some other →
        taskId ∈ (after.devices device).tracker.failedPlayAudioStarts →
          ¬ Steers taskId command.message → Counted after device other taskId := by
      intro other taskId linked' failed plain
      rw [link] at linked' failed
      obtain rfl := Option.some.inj (linked.symm.trans linked')
      refine (all linked failed).grows (inv.bounded linked) (by rw [commanded]) ?_ ?_
        fun _ _ _ waits => .inl (unreturned waits)
      · rw [link]
        exact Nat.le_succ _
      · intro later new below read known
        rw [link] at below
        change later < (state.devices device).read + 1 at below
        obtain rfl : later = (state.devices device).read := by omega
        rw [commanded, found] at known
        rwa [← Option.some.inj known]
    refine ⟨⟨by rw [link]; exact inv.foreign, fun {other} linked' => ?_, by rw [link]; exact inv.apart,
      fun {other taskId} linked' failed => ?_⟩, hand, fun {other} linked' => ?_, counted⟩
    · rw [link] at linked' ⊢
      obtain rfl := Option.some.inj (linked.symm.trans linked')
      rw [commanded]
      exact (List.getElem?_eq_some_iff.mp found).1
    · by_cases steers : Steers taskId command.message
      · exact .inl (hand.trans (steers_taskId steers))
      · exact .inr (counted linked' failed steers)
    · rw [link] at linked' ⊢
      obtain rfl := Option.some.inj (linked.symm.trans linked')
      exact ⟨_, command.origin, rfl, by rw [commanded, found]⟩

/-- Setting the tracker changes what is remembered, and nothing that it is counted by. -/
theorem setTracker_exec {tracker : TaskTracker} {done : Unit}
    (ran : State.exec device fresh state (.device (.setTaskTracker tracker)) = some (after, done)) :
    after.devices device = { state.devices device with tracker } ∧
      after.commanded = state.commanded ∧
      after.history.deviceHand device = state.history.deviceHand device ∧
      ∀ {connection taskId}, (state.devices device).connection = some connection →
        Counted state device connection taskId → Counted after device connection taskId := by
  have link : after.devices device = { state.devices device with tracker } := device_exec ran
  have commanded : after.commanded = state.commanded := commanded_exec ran
  refine ⟨link, commanded, by rw [history_exec ran]; rfl, fun _ counted => ?_⟩
  exact counted.congr (by rw [link]) commanded (by rw [history_exec ran]; rfl)

theorem RecordInvariant.set {tracker : TaskTracker} {done : Unit} (inv : RecordInvariant device state)
    (accounts : (∀ taskId ∈ tracker.failedPlayAudioStarts,
        tracker.playAudioTasks.lookup taskId = none) ∧
      ∀ {connection taskId}, (state.devices device).connection = some connection →
        taskId ∈ tracker.failedPlayAudioStarts → Counted state device connection taskId)
    (ran : State.exec device fresh state (.device (.setTaskTracker tracker)) = some (after, done)) :
    RecordInvariant device after := by
  obtain ⟨link, commanded, _, kept⟩ := setTracker_exec ran
  refine ⟨by rw [link]; exact inv.foreign, fun {connection} linked => ?_, by rw [link]; exact accounts.1,
    fun {connection taskId} linked failed => ?_⟩
  · rw [link] at linked ⊢
    rw [commanded]
    exact inv.bounded linked
  · rw [link] at linked failed
    exact .inr (kept linked (accounts.2 linked failed))

/-! ## The contract of a device -/

/-- What the procedures of a device start with. -/
def DevicePrepared (device : ℕ) : Procedure → State → Prop
  | .deviceHello _, state | .deviceWait, state =>
      (state.devices device).tracker.failedPlayAudioStarts = ∅
  | .deviceLoop, state => AllCounted device state
  | .deviceMessage message, state => HandlesMessage device message state
  | _, _ => True

/-- A device reads on when it counts on all it remembers, and comes to remember only that, or the task
of the message in hand. No task spawns a device. -/
def RecordGuar (device index : ℕ) (state : State) : Action → Prop
  | .device .nextInput => index = device → AllCounted device state
  | .device (.setTaskTracker tracker) => index = device →
      (∀ taskId ∈ tracker.failedPlayAudioStarts, tracker.playAudioTasks.lookup taskId = none) ∧
        ∀ {connection taskId}, (state.devices device).connection = some connection →
          taskId ∈ tracker.failedPlayAudioStarts → Counted state device connection taskId
  | .spawn procedure => procedure.role ≠ .device
  | _ => True

theorem DevicePrepared.rely {procedure : Procedure} (prepared : DevicePrepared device procedure state)
    (rely : RecordRely device state after) : DevicePrepared device procedure after := by
  cases procedure with
  | deviceHello hello | deviceWait =>
    change (after.devices device).tracker.failedPlayAudioStarts = ∅
    rw [rely.tracker]
    exact prepared
  | deviceLoop => exact AllCounted.rely prepared rely
  | deviceMessage message => exact HandlesMessage.rely prepared rely
  | _ => trivial

theorem DevicePrepared.bystander {procedure : Procedure} (other : procedure.role ≠ .device) :
    DevicePrepared device procedure state := by
  cases procedure with
  | deviceHello hello | deviceWait | deviceLoop | deviceMessage message => exact absurd rfl other
  | _ => trivial

def records (config : GatewayConfig) (device : ℕ) : Contract (system config) where
  allowed index name action before _ := FinishSent device index name before action
  enters _ _ _ := True
  occurs _ _ := True
  inv _ := RecordInvariant device
  rely index before after := index = device → RecordRely device before after
  pre index name state := index = device → DevicePrepared device name state
  guar index _ action before _ := RecordGuar device index before action
  rely_refl _ state _ := .refl device state
  rely_trans one two own := (one own).trans (two own)

variable {name : Procedure} {size : ℕ}

/-- What survives the other tasks is stable. -/
theorem stable_records {assertion : State → Prop}
    (stable : ∀ {before after}, assertion before → RecordRely device before after → assertion after) :
    (records config device).Stable device assertion :=
  fun _ _ _ _ holds rely _ => stable holds (rely rfl)

/-- The actions that neither read nor remember. -/
def Unrecorded : Action → Prop
  | .device .nextInput | .device (.setTaskTracker _) | .spawn _ => False
  | _ => True

theorem Unrecorded.quiet (unrecorded : Unrecorded action) : ¬ Records device index action := by
  rintro ⟨_, rfl | ⟨tracker, rfl⟩⟩ <;> exact unrecorded

theorem Unrecorded.guar (unrecorded : Unrecorded action) : RecordGuar device index state action := by
  unfold Unrecorded at unrecorded
  unfold RecordGuar
  split <;> simp_all

/-- An assertion that survives the other tasks survives the actions that neither read nor remember. -/
theorem unrecorded_keeps {α : Type} {code : Program α} {assertion : State → Prop}
    (stable : ∀ {before after}, assertion before → RecordRely device before after → assertion after)
    (unrecorded : code.Within Unrecorded fun _ => True) :
    (records config device).Triple device name assertion code fun _ => assertion := by
  refine (Contract.Triple.within unrecorded (stable_records stable) ?_).post
    fun _ _ _ _ _ holds => holds.2
  intro action unrecorded size state after answer _ inv holds allowed ran
  have sent : FinishSent device device name state action := allowed
  have rely := RecordInvariant.exec_rely inv sent (ran_exec ran) unrecorded.quiet
  exact ⟨unrecorded.guar, fun _ => stable holds rely⟩

theorem deviceSend_unrecorded (message : AgentToGatewayMessage) :
    (deviceSend message).Within Unrecorded fun _ => True := by
  refine ⟨trivial, fun sent => ?_⟩
  cases sent <;> trivial

theorem taskTracker_records {assertion : State → Prop}
    (stable : ∀ {before after}, assertion before → RecordRely device before after → assertion after) :
    (records config device).Triple device name assertion (perform (.device .taskTracker))
      fun (tracker : TaskTracker) state =>
        (state.devices device).tracker = tracker ∧ assertion state := by
  refine .perform (stable_records stable) (fun _ => stable_records fun holds rely =>
    ⟨rely.tracker.trans holds.1, stable holds.2 rely⟩) ?_
  intro size state after answer _ inv holds allowed ran
  have quiet : ¬ Records device device (.device .taskTracker) := Unrecorded.quiet trivial
  have sent : FinishSent device device name state (.device .taskTracker) := allowed
  have rely := RecordInvariant.exec_rely inv sent (ran_exec ran) quiet
  obtain ⟨same, _⟩ := device_exec (ran_exec ran)
  exact ⟨trivial, fun _ => ⟨rely.tracker.trans same.symm, stable holds rely⟩⟩

/-- Setting a tracker that remembers only what is counted on. -/
theorem setTracker_records {next : TaskTracker} {assertion : State → Prop}
    (stable : ∀ {before after}, assertion before → RecordRely device before after → assertion after)
    (accounts : ∀ {state}, RecordInvariant device state → assertion state →
      FinishSent device device name state (.device (.setTaskTracker next)) →
        (∀ taskId ∈ next.failedPlayAudioStarts, next.playAudioTasks.lookup taskId = none) ∧
          ∀ {connection taskId}, (state.devices device).connection = some connection →
            taskId ∈ next.failedPlayAudioStarts → Counted state device connection taskId) :
    (records config device).Triple device name assertion (perform (.device (.setTaskTracker next)))
      fun _ => AllCounted device := by
  refine .perform (stable_records stable) (fun _ => stable_records AllCounted.rely) ?_
  intro size state after answer _ inv holds allowed ran
  obtain ⟨apart, counted⟩ := accounts inv holds allowed
  refine ⟨fun _ => ⟨apart, counted⟩, fun _ => ?_⟩
  obtain ⟨link, _, _, kept⟩ := setTracker_exec (ran_exec ran)
  intro connection taskId linked failed
  rw [link] at linked failed
  exact kept linked (counted linked failed)

/-! ## The programs of a device -/

/-- Once everything is counted on, a device may send what it likes. -/
theorem deviceSend_records (message : AgentToGatewayMessage) :
    (records config device).Triple device name (AllCounted device) (deviceSend message)
      fun _ => AllCounted device :=
  unrecorded_keeps AllCounted.rely (deviceSend_unrecorded message)

/-- What the device knows of its tracker while it handles a message. -/
def KnowsTracker (device : ℕ) (message : GatewayToAgentMessage) (tracker : TaskTracker) (state : State) :
    Prop :=
  (state.devices device).tracker = tracker ∧ HandlesMessage device message state

theorem KnowsTracker.rely {message : GatewayToAgentMessage} {tracker : TaskTracker}
    (holding : KnowsTracker device message tracker state) (rely : RecordRely device state after) :
    KnowsTracker device message tracker after :=
  ⟨rely.tracker.trans holding.1, holding.2.rely rely⟩

/-- A start in hand is the last one that was read. -/
theorem KnowsTracker.started {format : Option AudioFormat} {tracker : TaskTracker} {next : TaskTracker}
    (holding : KnowsTracker device (.taskPlayAudioStart taskId format) tracker state)
    (sent : FinishSent device device name state (.device (.setTaskTracker next)))
    (linked : (state.devices device).connection = some connection)
    (failed : taskId ∈ next.failedPlayAudioStarts) : Counted state device connection taskId := by
  obtain ⟨position, origin, last, found⟩ := holding.2.latest linked
  refine ⟨position, origin, ⟨by omega, ⟨format, found⟩, ?_⟩, ?_, ?_⟩
  · intro later above below
    omega
  · intro later above below
    omega
  · exact sent rfl linked failed last ⟨format, found⟩

theorem deviceStart_records (taskId : String) (format : Option AudioFormat) :
    (records config device).Triple device name (HandlesMessage device (.taskPlayAudioStart taskId format))
      (deviceStart taskId format) fun _ => AllCounted device := by
  have steers {other : String} (different : other ≠ taskId) :
      ¬ Steers other (.taskPlayAudioStart taskId format) := fun same => different same.symm
  refine .bind (taskTracker_records HandlesMessage.rely) fun tracker => ?_
  cases playing : tracker.playAudioTasks.lookup taskId with
  | some task =>
    -- a task that is being played is not remembered as failed
    refine .consequence (deviceSend_records _) (fun _ state _ inv holding => ?_)
      fun _ _ _ _ _ holds => holds
    obtain ⟨same, handles⟩ := holding
    intro connection other linked failed
    refine handles.counted linked failed (steers ?_)
    rintro rfl
    have apart := RecordInvariant.apart inv other failed
    rw [same, playing] at apart
    cases apart
  | none =>
    refine .bind (unrecorded_keeps KnowsTracker.rely ⟨trivial, fun _ => trivial⟩) fun started => ?_
    match started with
    | .ok () =>
      refine .bind (setTracker_records KnowsTracker.rely ?_) fun _ => deviceSend_records _
      intro state inv holding _
      have apart := inv.apart
      rw [holding.1] at apart
      refine ⟨fun other failed => ?_, fun {connection other} linked failed => ?_⟩
      · obtain ⟨different, failed⟩ := Finset.mem_erase.mp failed
        rw [AList.lookup_insert_ne different, apart other failed]
      · obtain ⟨different, failed⟩ := Finset.mem_erase.mp failed
        exact holding.2.counted linked (holding.1 ▸ failed) (steers different)
    | .error error =>
      refine .bind (setTracker_records KnowsTracker.rely ?_) fun _ => deviceSend_records _
      intro state inv holding sent
      have apart := inv.apart
      rw [holding.1] at apart
      refine ⟨fun other failed => ?_, fun {connection other} linked failed => ?_⟩
      · rcases Finset.mem_insert.mp failed with rfl | failed
        · exact playing
        · exact apart other failed
      · by_cases same : other = taskId
        · subst same
          exact KnowsTracker.started holding sent linked failed
        · have old := (Finset.mem_insert.mp failed).resolve_left same
          exact holding.2.counted linked (holding.1 ▸ old) (steers same)

/-- Changing the tasks that are played, but for the remembered ones, changes nothing that counts. -/
theorem setTasks_records {tracker next : TaskTracker}
    (same : next.failedPlayAudioStarts = tracker.failedPlayAudioStarts)
    (apart : (∀ taskId ∈ tracker.failedPlayAudioStarts,
      tracker.playAudioTasks.lookup taskId = none) →
        ∀ taskId ∈ tracker.failedPlayAudioStarts, next.playAudioTasks.lookup taskId = none) :
    (records config device).Triple device name
      (fun state => (state.devices device).tracker = tracker ∧ AllCounted device state)
      (perform (.device (.setTaskTracker next))) fun _ => AllCounted device := by
  refine setTracker_records (fun holds rely =>
    ⟨rely.tracker.trans holds.1, AllCounted.rely holds.2 rely⟩) ?_
  rintro state inv ⟨rfl, all⟩ _
  rw [same]
  exact ⟨apart inv.apart, fun linked failed => all linked failed⟩

theorem finishFailedTask_records (tracker : TaskTracker) (taskId reason : String) :
    (records config device).Triple device name
      (fun state => (state.devices device).tracker = tracker ∧ AllCounted device state)
      (finishFailedTask tracker taskId reason) fun _ => AllCounted device := by
  refine .bind (setTasks_records rfl fun apart other failed => ?_) fun _ => deviceSend_records _
  by_cases same : other = taskId
  · subst same
    exact AList.lookup_erase ..
  · rw [AList.lookup_erase_ne same, apart other failed]

theorem deviceChunk_records (base64 : Base64) (taskId dataBase64 : String) :
    (records config device).Triple device name (AllCounted device)
      (deviceChunk base64 taskId dataBase64) fun _ => AllCounted device := by
  refine .bind (taskTracker_records AllCounted.rely) fun tracker => ?_
  have stable : ∀ {before after : State}, (before.devices device).tracker = tracker ∧
      AllCounted device before → RecordRely device before after →
        (after.devices device).tracker = tracker ∧ AllCounted device after :=
    fun holds rely => ⟨rely.tracker.trans holds.1, AllCounted.rely holds.2 rely⟩
  cases playing : tracker.playAudioTasks.lookup taskId with
  | some task =>
    cases decoded : base64.decode dataBase64 with
    | error error =>
      exact finishFailedTask_records _ _ _
    | ok bytes =>
      refine .bind (unrecorded_keeps stable ⟨trivial, fun _ => trivial⟩) fun written => ?_
      match written with
      | .error error => exact finishFailedTask_records _ _ _
      | .ok () =>
        refine .bind (setTasks_records rfl fun apart other failed => ?_) fun _ =>
          .done (stable_records AllCounted.rely) fun _ _ _ _ all => all
        have different : other ≠ taskId := by
          rintro rfl
          rw [apart other failed] at playing
          cases playing
        rw [AList.lookup_insert_ne different, apart other failed]
  | none =>
    refine .consequence (unrecorded_keeps AllCounted.rely ?_) (fun _ _ _ _ holds => holds.2)
      fun _ _ _ _ _ holds => holds
    dsimp only
    split
    · trivial
    · exact deviceSend_unrecorded _

theorem deviceFinish_records (taskId : String) :
    (records config device).Triple device name (HandlesMessage device (.taskPlayAudioFinish taskId))
      (deviceFinish taskId) fun _ => AllCounted device := by
  refine .bind (taskTracker_records HandlesMessage.rely) fun tracker => .bind
    (setTracker_records KnowsTracker.rely ?_) fun _ => unrecorded_keeps AllCounted.rely ?_
  · intro state inv holding _
    have apart := inv.apart
    rw [holding.1] at apart
    refine ⟨fun other failed => ?_, fun {connection other} linked failed => ?_⟩
    · obtain ⟨different, failed⟩ := Finset.mem_erase.mp failed
      rw [AList.lookup_erase_ne different, apart other failed]
    · obtain ⟨different, failed⟩ := Finset.mem_erase.mp failed
      exact holding.2.counted linked (holding.1 ▸ failed) fun same => different same.symm
  · split
    · refine ⟨trivial, fun exited => ?_⟩
      cases (exited : PlayerExit) with
      | succeeded => exact deviceSend_unrecorded _
      | failed failure stderr =>
        simp only [Code.bind]
        cases finishFailureMessage failure stderr with
        | some message => exact deviceSend_unrecorded _
        | none => trivial
    · split
      · trivial
      · exact deviceSend_unrecorded _

theorem handleGatewayMessage_records (base64 : Base64) (message : GatewayToAgentMessage) :
    (records config device).Triple device name (HandlesMessage device message)
      (handleGatewayMessage base64 message) fun _ => AllCounted device := by
  have settled {code : Program (Except String Unit)} (plain : ∀ taskId, ¬ Steers taskId message)
      (triple : (records config device).Triple device name (AllCounted device) code
        fun _ => AllCounted device) :
      (records config device).Triple device name (HandlesMessage device message) code
        fun _ => AllCounted device :=
    triple.consequence (fun _ _ _ _ handles => handles.all plain) fun _ _ _ _ _ holds => holds
  cases message with
  | helloOk serverName =>
    exact settled (fun _ => id) (.done (stable_records AllCounted.rely) fun _ _ _ _ all => all)
  | ping | sessionAudio sessionId dataBase64 | sessionCommit sessionId | sessionStop sessionId =>
    exact settled (fun _ => id) (deviceSend_records _)
  | sessionStart sessionId request =>
    refine settled (fun _ => id) (.bind (deviceSend_records _) fun sent => ?_)
    cases sent with
    | error error => exact .done (stable_records AllCounted.rely) fun _ _ _ _ all => all
    | ok _ => exact deviceSend_records _
  | taskPlayAudioStart taskId format => exact deviceStart_records taskId format
  | taskPlayAudioChunk taskId dataBase64 =>
    exact settled (fun _ => id) (deviceChunk_records base64 taskId dataBase64)
  | taskPlayAudioFinish taskId => exact deviceFinish_records taskId

/-- The loop may go on. -/
theorem deviceGoesOn_exits {result : Except String Unit} (all : AllCounted device state) :
    (records config device).Exits device (deviceGoesOn result) state := by
  cases result with
  | ok _ => exact fun _ => all
  | error _ => exact fun _ => trivial

/-- A program after which everything is counted on, before the loop goes on. -/
theorem goesOn_records {code : Program (Except String Unit)} {assertion : State → Prop}
    (triple : (records config device).Triple device name assertion code fun _ => AllCounted device) :
    (records config device).Triple device name assertion
      (code >>= fun result => (return deviceGoesOn result : Program (Option Procedure)))
      ((records config device).Exits device) :=
  triple.bind fun _ => .done (stable_records AllCounted.rely) fun _ _ _ _ all =>
    deviceGoesOn_exits all

theorem deviceHello_records (hello : AgentHelloPayload) :
    (records config device).Triple device name
      (fun state => (state.devices device).tracker.failedPlayAudioStarts = ∅) (deviceHello hello)
      ((records config device).Exits device) := by
  have stable : ∀ {before after : State},
      (before.devices device).tracker.failedPlayAudioStarts = ∅ → RecordRely device before after →
        (after.devices device).tracker.failedPlayAudioStarts = ∅ := by
    intro before after empty rely
    rw [rely.tracker, empty]
  refine .bind (unrecorded_keeps stable (deviceSend_unrecorded _)) fun sent => ?_
  cases sent with
  | ok _ => exact .done (stable_records stable) fun _ _ _ _ empty _ => empty
  | error _ => exact .done (stable_records stable) fun _ _ _ _ _ _ => trivial

theorem deviceWait_records :
    (records config device).Triple device name
      (fun state => (state.devices device).tracker.failedPlayAudioStarts = ∅) deviceWait
      ((records config device).Exits device) := by
  have stable : ∀ {before after : State},
      (before.devices device).tracker.failedPlayAudioStarts = ∅ → RecordRely device before after →
        (after.devices device).tracker.failedPlayAudioStarts = ∅ := by
    intro before after empty rely
    rw [rely.tracker, empty]
  have counted {state : State} (empty : (state.devices device).tracker.failedPlayAudioStarts = ∅) :
      AllCounted device state := by
    intro connection taskId _ failed
    rw [empty] at failed
    exact absurd failed (Finset.notMem_empty _)
  have ends {exit : Option Procedure} (exits : ∀ {state : State},
      (state.devices device).tracker.failedPlayAudioStarts = ∅ →
        (records config device).Exits device exit state) :
      (records config device).Triple device name
        (fun state => (state.devices device).tracker.failedPlayAudioStarts = ∅) (.done exit)
        ((records config device).Exits device) :=
    .done (stable_records stable) fun _ _ _ _ empty => exits empty
  refine .keep (stable_records stable) ?_ fun input => ?_
  · intro size state after input _ _ empty _ ran
    refine ⟨fun _ => counted empty, fun _ => ?_⟩
    obtain ⟨_, _, _, ⟨_, _, link⟩ | ⟨_, _, _, _, link, _⟩⟩ := nextInput_exec (ran_exec ran)
    · rw [link]
      exact empty
    · rw [link]
      exact empty
  · match input with
    | .frame (.text (.ok (.helloOk _))) => exact ends fun empty _ => counted empty
    | .frame (.ping _) | .frame .pong | .frame (.binary _) | .heartbeat _
    | .frame (.text (.ok (.sessionStart _ _))) | .frame (.text (.ok (.sessionAudio _ _)))
    | .frame (.text (.ok (.sessionCommit _))) | .frame (.text (.ok (.sessionStop _)))
    | .frame (.text (.ok (.taskPlayAudioStart _ _)))
    | .frame (.text (.ok (.taskPlayAudioChunk _ _)))
    | .frame (.text (.ok (.taskPlayAudioFinish _))) | .frame (.text (.ok .ping)) =>
      exact ends fun empty _ => empty
    | .frame (.text (.error _)) | .frame (.failed _) | .frame .close | .frame .ended =>
      exact ends fun _ _ => trivial

/-- In its loop a device reads once everything is counted on. -/
theorem nextInput_records :
    (records config device).Triple device name (AllCounted device) (perform (.device .nextInput))
      (HasRead device) := by
  refine .perform (stable_records AllCounted.rely) (fun input => stable_records HasRead.rely) ?_
  intro size state after input _ inv all _ ran
  exact ⟨fun _ => all, fun _ => (all.reads inv (ran_exec ran)).2⟩

theorem deviceTeardown_records :
    (records config device).Triple device name (AllCounted device) deviceTeardown
      ((records config device).Exits device) := by
  refine .bind (taskTracker_records AllCounted.rely) fun tracker => .bind
    (setTasks_records rfl fun _ _ _ => rfl) fun _ => ?_
  exact .done (stable_records AllCounted.rely) fun _ _ _ _ _ _ => trivial

theorem deviceLoop_records :
    (records config device).Triple device name (AllCounted device) deviceLoop
      ((records config device).Exits device) := by
  have ends {exit : Option Procedure} (exits : ∀ {state}, AllCounted device state →
      (records config device).Exits device exit state) :
      (records config device).Triple device name (AllCounted device) (.done exit)
        ((records config device).Exits device) :=
    .done (stable_records AllCounted.rely) fun _ _ _ _ all => exits all
  refine .bind nextInput_records fun input => ?_
  cases input with
  | frame frame =>
    cases frame with
    | text decoded =>
      cases decoded with
      | ok message =>
        exact .done (stable_records HandlesMessage.rely) fun _ _ _ _ handles _ => handles
      | error _ => exact ends fun _ _ => trivial
    | failed _ => exact ends fun _ _ => trivial
    | ping _ => exact goesOn_records (deviceSend_records _)
    | close => exact deviceTeardown_records
    | ended => exact deviceTeardown_records
    | pong => exact ends fun all _ => all
    | binary _ => exact ends fun all _ => all
  | heartbeat elapsed =>
    cases elapsed with
    | true => exact deviceTeardown_records
    | false =>
      refine .bind (deviceSend_records _) fun sent => ?_
      cases sent with
      | ok _ => exact ends fun all _ => all
      | error _ => exact deviceTeardown_records

theorem role_other {role next : Role} (other : role ≠ .device) (leads : role.Leads next) :
    next ≠ .device := by
  rintro rfl
  cases role <;> first
    | exact other rfl
    | exact leads.elim
    | (rcases leads with same | same <;> cases same)

theorem role_spawns {role : Role} {procedure : Procedure} (spawns : role.Spawns index procedure) :
    procedure.role ≠ .device := by
  unfold Role.Spawns at spawns
  split at spawns
  · nofun
  · nofun
  · nofun
  · exact spawns.elim

/-- The tasks that are no devices, and the other devices. -/
theorem bystander_records (other : index ≠ device ∨ name.role ≠ .device) :
    (records config device).Safe index name (body config index name)
      ((records config device).Exits index) state := by
  refine .within (body_plays config index name) ?_ ?_
  · intro action permitted size before after answer _ _ _ _
    cases action with
    | device action =>
      have foreign : index ≠ device := other.resolve_right fun different => different permitted
      cases action with
      | nextInput => exact fun same => absurd same foreign
      | setTaskTracker tracker => exact fun same => absurd same foreign
      | _ => trivial
    | spawn procedure => exact role_spawns permitted
    | _ => trivial
  · intro exit continues size later _ _
    cases exit with
    | none => trivial
    | some procedure =>
      intro same
      exact .bystander (role_other (other.resolve_left fun different => different same) continues)

theorem records_valid : (records config device).Valid where
  pre_stable _ pre rely _ own := (pre own).rely (rely own)
  body {index name size state} bound inv _ pre := by
    by_cases own : index = device
    · subst own
      have prepared := pre rfl
      cases name with
      | deviceHello hello => exact deviceHello_records hello size state bound inv prepared
      | deviceWait => exact deviceWait_records size state bound inv prepared
      | deviceLoop => exact deviceLoop_records size state bound inv prepared
      | deviceMessage message =>
        exact goesOn_records (handleGatewayMessage_records _ message) size state bound inv prepared
      | _ => exact bystander_records (.inr nofun)
    · exact bystander_records (.inl own)
  action {index name size state action after answer} bound inv allowed guar ran := by
    have sent : FinishSent device index name state action := allowed
    refine ⟨?_, fun other different inside => ?_, fun offset procedure spawns => ?_⟩
    · by_cases records : Records device index action
      · obtain ⟨rfl, rfl | ⟨tracker, rfl⟩⟩ := records
        · exact (AllCounted.reads (guar rfl) inv (ran_exec ran)).1
        · exact RecordInvariant.set inv (guar rfl) (ran_exec ran)
      · obtain ⟨_, _, _, inbox⟩ := link_exec (ran_exec ran) records
        refine RecordInvariant.rely inv (RecordInvariant.exec_rely inv sent (ran_exec ran) records) ?_
        intro input found
        rw [inbox] at found
        exact .inl found
    · rintro rfl
      exact RecordInvariant.exec_rely inv sent (ran_exec ran) fun records => different records.1.symm
    · cases action with
      | spawn entered =>
        obtain rfl := List.mem_singleton.mp (List.mem_of_getElem? spawns)
        exact fun _ => .bystander guar
      | _ => exact nomatch List.mem_of_getElem? spawns
  event {size state event after spawned} inv _ occurred := by
    refine ⟨?_, fun other inside => ?_, fun offset procedure entered => ?_⟩
    · rcases occur_devices occurred device with kept | ⟨hello, rfl, _, link⟩
      · exact RecordInvariant.rely inv (inv.event kept occurred) kept.inbox
      · exact RecordInvariant.connected link
    · rintro rfl
      rcases occur_devices occurred other with kept | ⟨hello, rfl, new, _⟩
      · exact inv.event kept occurred
      · omega
    · rintro rfl
      cases procedure with
      | deviceHello hello =>
        change (after.devices (size + offset)).tracker.failedPlayAudioStarts = ∅
        rw [occur_deviceHello occurred entered]
      | deviceWait | deviceLoop | deviceMessage message =>
        exact (occur_opens occurred _ (List.mem_of_getElem? entered)).elim
      | _ => trivial

/-! ## What is remembered is awaited -/

theorem records_initial : (records config device).Good (initial config) :=
  ⟨.connected rfl, fun _ _ found => nomatch found⟩

/-- A listening device counts on all it remembers: it would read on if a frame arrived. -/
theorem listening_counted {world : World (system config)} (good : (records config device).Good world)
    (listening : Listening world device) : AllCounted device (stateIn world) := by
  obtain ⟨name, ⟨next, found⟩ | found⟩ := listening
  · let link := (stateIn world).devices device
    let later := (stateIn world).setDevice device { link with inbox := link.inbox ++ [.frame .pong] }
    have arrives : (system config).occur world.tasks.length world.state
        (Event.deviceInput device (.frame .pong)) = some (later, []) := rfl
    have here : later.devices device = { link with inbox := link.inbox ++ [.frame .pong] } :=
      Function.update_self ..
    obtain ⟨inv, rely, _⟩ := records_valid.event good.inv trivial arrives
    have bound := (List.getElem?_eq_some_iff.mp found).1
    obtain ⟨result, ran⟩ : ∃ result, State.exec device world.tasks.length later (.device .nextInput) =
        some result := by
      simp only [State.exec, State.perform, State.performDevice, State.nextDeviceInput, here]
      cases link.inbox <;> exact ⟨_, rfl⟩
    obtain ⟨guar, _⟩ := good.safe device _ found world.tasks.length later bound (rely device bound) inv
      result.1 result.2 trivial ran
    intro connection taskId linked failed
    have all : AllCounted device later := guar rfl
    have counted : Counted later device connection taskId :=
      all (by rw [here]; exact linked) (by rw [here]; exact failed)
    exact counted.congr (by rw [here]) rfl rfl
  · have bound := (List.getElem?_eq_some_iff.mp found).1
    exact good.safe device _ found _ _ bound (fun _ => .refl device _) good.inv rfl

/-- Along every schedule in which the requests leave the finish of what the device fails behind, the
device remembers only what is awaited. -/
theorem failedStarts_awaited {schedule : List (Choice (system config))} {world : World (system config)}
    (sent : World.Along (World.OnAction (FinishSent device)) (initial config) schedule)
    (ran : (initial config).replay? schedule = some world) : RemembersAwaited world device := by
  have good : (records config device).Good world :=
    records_initial.replay records_valid (sent.imp fun world choice allowed =>
      ⟨allowed.effect, .always (fun _ _ _ => trivial) _ _, .always (fun _ _ => trivial) _ _⟩) ran
  intro connection taskId linked failed
  by_cases listening : Listening world device
  · exact .inr (listening_counted good listening linked failed).awaited
  · exact (RecordInvariant.recorded good.inv linked failed).imp (fun hand => ⟨hand, listening⟩)
      Counted.awaited

/-! ## A finished and an abandoned start -/

open Scenario in
/-- A device connects and greets the gateway, which greets it. -/
def deviceConnects : List (Choice (system Scenario.config)) :=
  [occurs (.connectDevice speaker)] ++ turns 2 1 ++ [occurs (.deviceWrites 1)] ++ turns 5 0 ++
    [occurs (.agentWrites 0)] ++ turns 3 1

open Scenario in
/-- A request sends as much as it gets to in so many turns, and the device cannot start its player. -/
def startFails (sends : ℕ) : List (Choice (system Scenario.config)) :=
  deviceConnects ++ routesPlayback 2 ++ turns sends 2 ++
    [occurs (.agentWrites 0), occurs (.playerDoes 1 (.spawn (.error "no player")))] ++ turns 4 1

open Scenario in
/-- The device says so, the gateway handles its status, and the request gets its answer. -/
def failureHandled : List (Choice (system Scenario.config)) :=
  turns 2 1 ++ [occurs (.deviceWrites 1)] ++ turns 7 0 ++ turns 1 2

open Scenario in
/-- The start fails when the request has sent its chunk and its finish. -/
def finishedStart : List (Choice (system Scenario.config)) :=
  startFails 7 ++ turns 1 1 ++ failureHandled ++ turns 1 2

open Scenario in
/-- The start fails before the request has looked up the route for its chunk. -/
def abandonedStart : List (Choice (system Scenario.config)) :=
  startFails 1 ++ turns 1 1 ++ failureHandled ++ turns 1 2

/-- What a request that gets through sends to the device, after its greeting. -/
def finishedCommands : List (Stamped GatewayToAgentMessage) :=
  [⟨.helloOk "gateway", none⟩, ⟨.taskPlayAudioStart "task" none, some 0⟩,
    ⟨.taskPlayAudioChunk "task" "AA==", some 0⟩, ⟨.taskPlayAudioFinish "task", some 0⟩]

theorem finishedCommands_start {origin : Option ℕ} (commanded : state.commanded connection = finishedCommands)
    (second : position < 2) (start : StartAt state connection position taskId origin) :
    position = 1 ∧ taskId = "task" ∧ origin = some 0 := by
  obtain ⟨format, found⟩ := start
  rw [commanded] at found
  interval_cases position
  · cases found
  · cases found
    exact ⟨rfl, rfl, rfl⟩

/-- The request has sent its finish before the device fails its start, and before it returns. -/
theorem finishedStart_sent : World.Along (World.OnAction (FinishSent 1)) (initial Scenario.config)
    finishedStart := by
  have fails : World.Along (World.OnAction (FinishSent 1)) (initial Scenario.config) (startFails 7) := by
    refine .step True.intro rfl (.step True.intro rfl (.step True.intro rfl ?_))
    refine .step True.intro rfl (.step True.intro rfl (.step True.intro rfl ?_))
    refine .step True.intro rfl (.step True.intro rfl (.step True.intro rfl ?_))
    refine .step True.intro rfl (.step True.intro rfl (.step True.intro rfl ?_))
    refine .step True.intro rfl (.step True.intro rfl (.step True.intro rfl ?_))
    refine .step True.intro rfl (.step True.intro rfl (.step True.intro rfl ?_))
    refine .step True.intro rfl (.step True.intro rfl (.step True.intro rfl ?_))
    refine .step True.intro rfl (.step True.intro rfl (.step True.intro rfl ?_))
    refine .step True.intro rfl (.step True.intro rfl (.step True.intro rfl ?_))
    refine .step True.intro rfl (.step True.intro rfl (.step True.intro rfl ?_))
    refine .step True.intro rfl (.step True.intro rfl (.step True.intro rfl ?_))
    exact .step True.intro rfl (.step True.intro rfl True.intro)
  have remembers : World.Along (World.OnAction (FinishSent 1)) (initial Scenario.config)
      (startFails 7 ++ Scenario.turns 1 1) := by
    refine fails.append fun middle ran => ⟨?_, fun _ _ => True.intro⟩
    have linked : ((stateIn middle).devices 1).connection = some 0 := by
      cases ran
      rfl
    have read : ((stateIn middle).devices 1).read = 2 := by
      cases ran
      rfl
    have commanded : (stateIn middle).commanded 0 = finishedCommands := by
      cases ran
      rfl
    have unreturned : (stateIn middle).history.unreturned 0 = true := by
      cases ran
      rfl
    have acts : ∃ tracker next, middle.tasks[1]? =
        some ⟨.deviceMessage (.taskPlayAudioStart "task" none),
          .act (.device (.setTaskTracker tracker)) next⟩ := by
      cases ran
      exact ⟨_, _, rfl⟩
    clear ran
    obtain ⟨tracker, next, found⟩ := acts
    simp only [World.OnAction, found]
    intro _ connection taskId position origin link _ last start
    obtain rfl := Option.some.inj (linked.symm.trans link)
    have second : position < 2 := by
      rw [read] at last
      omega
    obtain ⟨_, _, rfl⟩ := finishedCommands_start commanded second start
    exact .inl ⟨0, rfl, unreturned⟩
  have handled : World.Along (World.OnAction (FinishSent 1)) (initial Scenario.config)
      (startFails 7 ++ Scenario.turns 1 1 ++ failureHandled) := by
    refine remembers.append fun middle ran => ?_
    cases ran
    refine .step True.intro rfl (.step True.intro rfl (.step True.intro rfl ?_))
    refine .step True.intro rfl (.step True.intro rfl (.step True.intro rfl ?_))
    refine .step True.intro rfl (.step True.intro rfl (.step True.intro rfl ?_))
    exact .step True.intro rfl (.step True.intro rfl True.intro)
  refine handled.append fun middle ran => ⟨?_, fun _ _ => True.intro⟩
  have linked : ((stateIn middle).devices 1).connection = some 0 := by
    cases ran
    rfl
  have read : ((stateIn middle).devices 1).read = 2 := by
    cases ran
    rfl
  have commanded : (stateIn middle).commanded 0 = finishedCommands := by
    cases ran
    rfl
  have acts : ∃ name next, middle.tasks[2]? = some ⟨name, .act (.mark .playAudioReturned) next⟩ := by
    cases ran
    exact ⟨_, _, rfl⟩
  clear ran
  obtain ⟨name, next, found⟩ := acts
  simp only [World.OnAction, found]
  intro connection taskId position number link _ _ start
  obtain rfl := Option.some.inj (linked.symm.trans link)
  have second := start.read
  rw [read] at second
  obtain ⟨rfl, rfl, _⟩ := finishedCommands_start commanded second start.start
  exact ⟨3, by omega, some 0, by rw [commanded]; rfl⟩

/-- The device remembers the start whose finish it has yet to read. -/
theorem finishedStart_awaited : ∃ world : World (system Scenario.config),
    (initial Scenario.config).replay? finishedStart = some world ∧
      "task" ∈ ((stateIn world).devices 1).tracker.failedPlayAudioStarts ∧
        RemembersAwaited world 1 := by
  obtain ⟨world, ran⟩ : ∃ world, (initial Scenario.config).replay? finishedStart = some world :=
    ⟨_, rfl⟩
  refine ⟨world, ran, ?_, failedStarts_awaited finishedStart_sent ran⟩
  cases ran
  exact Finset.mem_insert_self ..

/-- The device remembers the start of a request that has returned without a finish. -/
theorem abandonedStart_remembered : ¬ ∀ (config : GatewayConfig)
    (schedule : List (Choice (system config))) (world : World (system config)) (device : ℕ),
      (initial config).replay? schedule = some world → RemembersAwaited world device := by
  intro always
  obtain ⟨world, ran⟩ : ∃ world, (initial Scenario.config).replay? abandonedStart = some world :=
    ⟨_, rfl⟩
  have awaited := always Scenario.config abandonedStart world 1 ran
  have linked : ((stateIn world).devices 1).connection = some 0 := by
    cases ran
    rfl
  have failed : "task" ∈ ((stateIn world).devices 1).tracker.failedPlayAudioStarts := by
    cases ran
    exact Finset.mem_insert_self ..
  have listening : Listening world 1 := by
    cases ran
    exact ⟨_, .inl ⟨_, rfl⟩⟩
  have read : ((stateIn world).devices 1).read = 2 := by
    cases ran
    rfl
  have commanded : (stateIn world).commanded 0 =
      [⟨.helloOk "gateway", none⟩, ⟨.taskPlayAudioStart "task" none, some 0⟩] := by
    cases ran
    rfl
  have returned : (stateIn world).history.unreturned 0 = false := by
    cases ran
    rfl
  clear ran
  rcases awaited linked failed with ⟨_, busy⟩ | ⟨position, origin, start, waits | ⟨command, left, _⟩⟩
  · exact busy listening
  · obtain ⟨number, rfl, unreturned⟩ := waits
    obtain ⟨format, found⟩ := start.start
    have second := start.read
    rw [read] at second
    rw [commanded] at found
    interval_cases position
    · cases found
    · cases found
      rw [returned] at unreturned
      cases unreturned
  · rw [read, commanded] at left
    cases left
end SpeechMesh.Soundness
