import SpeechMesh.Async.Solo
import SpeechMesh.Model.DeviceAgent
import SpeechMesh.Model.Effects
import SpeechMesh.Soundness.Scenario

/-! # The verdicts of a device

What a device agent says about its playbacks, as a function of the messages it is delivered and of
what its local player does. A playback that fails at a chunk is forgotten, so that what is delivered
of it afterwards is answered with another failure. A player's standard error that cannot be
summarized ends the run instead, before anything is said about the playback.
-/

namespace SpeechMesh.Soundness

open Async Model

/-! ## Delivering messages -/

/-- A message from the gateway, and what the local player does if it is asked to start, to take a
chunk, or to finish. -/
structure Delivery where
  message : GatewayToAgentMessage
  player : Except String Unit := .ok ()
  exit : PlayerExit := .succeeded

/-- Starting, writing to and awaiting the player, each with the given outcome. -/
def Delivery.outcomes (delivery : Delivery) : List PlayerOutcome :=
  match delivery.message with
  | .taskPlayAudioStart _ _ => [.spawn delivery.player]
  | .taskPlayAudioChunk _ _ => [.write delivery.player]
  | .taskPlayAudioFinish _ => [.exit delivery.exit]
  | _ => []

variable (base64 : Base64) (device : ℕ)

/-- The environment's part of a delivery: the writer has caught up, and the player is ready. -/
def attend (state : State) (delivery : Delivery) : State :=
  let link := state.devices device
  state.setDevice device
    { link with
      player := delivery.outcomes
      out := { link.out with received := link.out.sent.length } }

/-- The agent handles a message. -/
def serve (state : State) (delivery : Delivery) : Option (State × Except String Unit) :=
  (handleGatewayMessage base64 delivery.message).eval (State.exec device (device + 1))
    (attend device state delivery)

/-- The agent handles messages as long as its run goes on. -/
def serveAll (state : State) : List Delivery → Option State
  | [] => some state
  | delivery :: rest =>
      match serve base64 device state delivery with
      | some (after, .ok ()) => serveAll after rest
      | some (after, .error _) => some after
      | none => none

/-! ## What is said -/

def status (taskId : String) (state : AgentTaskState) (message : String) : AgentToGatewayMessage :=
  .taskStatus taskId ⟨state, some message⟩

/-- The text of a finished playback. -/
def finishedText (task : PlaybackTask) : String :=
  "play_audio finished (chunks=" ++ toString task.chunkCount ++ ", bytes=" ++
    toString task.byteCount ++ ")"

/-- A playback that failed is forgotten. -/
def forget (tracker : TaskTracker) (taskId : String) : TaskTracker :=
  { tracker with playAudioTasks := tracker.playAudioTasks.erase taskId }

/-- A start with what becomes of it, a chunk with what the player does with it, and a finish with
what the player comes to. -/
def startDelivery (taskId : String) (format : Option AudioFormat) (started : Except String Unit) :
    Delivery where
  message := .taskPlayAudioStart taskId format
  player := started

def chunkDelivery (taskId : String) (chunk : String × Except String Unit) : Delivery where
  message := .taskPlayAudioChunk taskId chunk.1
  player := chunk.2

def finishDelivery (taskId : String) (exit : PlayerExit) : Delivery where
  message := .taskPlayAudioFinish taskId
  exit := exit

/-- What a delivery makes of the tracker, and what the agent says to it. -/
def verdict (tracker : TaskTracker) (delivery : Delivery) :
    TaskTracker × List AgentToGatewayMessage :=
  match delivery.message with
  | .helloOk _ => (tracker, [])
  | .ping => (tracker, [.pong])
  | .sessionStart sessionId _ => (tracker,
      [.error (some sessionId) "device task handling is not implemented yet",
        .sessionEnded sessionId (some "not_implemented")])
  | .sessionAudio sessionId _ | .sessionCommit sessionId | .sessionStop sessionId => (tracker,
      [.error (some sessionId) "session command unsupported by runtime skeleton"])
  | .taskPlayAudioStart taskId _ =>
      match tracker.playAudioTasks.lookup taskId, delivery.player with
      | some _, _ => (tracker, [status taskId .failed "duplicate play_audio task.start"])
      | none, .ok () =>
          ({ playAudioTasks := tracker.playAudioTasks.insert taskId {}
             failedPlayAudioStarts := tracker.failedPlayAudioStarts.erase taskId },
            [status taskId .started "play_audio started with local default output"])
      | none, .error error =>
          ({ tracker with failedPlayAudioStarts := insert taskId tracker.failedPlayAudioStarts },
            [status taskId .failed ("failed to start local playback: " ++ error)])
  | .taskPlayAudioChunk taskId dataBase64 =>
      match tracker.playAudioTasks.lookup taskId with
      | some task =>
          match base64.decode dataBase64, delivery.player with
          | .error error, _ => (forget tracker taskId,
              [status taskId .failed ("invalid play_audio chunk base64: " ++ error)])
          | .ok _, .error error => (forget tracker taskId,
              [status taskId .failed ("failed writing audio chunk to player stdin: " ++ error)])
          | .ok bytes, .ok () =>
              ({ tracker with
                  playAudioTasks := tracker.playAudioTasks.insert taskId
                    ⟨task.chunkCount + 1, task.byteCount + bytes.length, task.written ++ bytes⟩ }, [])
      | none =>
          if taskId ∈ tracker.failedPlayAudioStarts then (tracker, [])
          else (tracker, [status taskId .failed "chunk received before task.start"])
  | .taskPlayAudioFinish taskId =>
      ({ playAudioTasks := tracker.playAudioTasks.erase taskId
         failedPlayAudioStarts := tracker.failedPlayAudioStarts.erase taskId },
        match tracker.playAudioTasks.lookup taskId with
        | some task =>
            match delivery.exit with
            | .succeeded => [status taskId .finished (finishedText task)]
            | .failed failure stderr =>
                match finishFailureMessage failure stderr with
                | some message => [status taskId .failed message]
                | none => []
        | none =>
            if taskId ∈ tracker.failedPlayAudioStarts then []
            else [status taskId .failed "finish received before task.start"])

/-- What the player comes to can be reported: the summary of its standard error does not panic. -/
def reportable : PlayerExit → Bool
  | .succeeded => true
  | .failed failure stderr => (finishFailureMessage failure stderr).isSome

/-- The finish of a task that plays ends the run where its player cannot be reported. -/
def panics (tracker : TaskTracker) (delivery : Delivery) : Bool :=
  match delivery.message with
  | .taskPlayAudioFinish taskId =>
      (tracker.playAudioTasks.lookup taskId).isSome && !reportable delivery.exit
  | _ => false

/-! ## The programs say it -/

/-- Where the agent stands: its tracker, what it has said, and what its player will do. At most
`waiting` messages wait for the writer, which is alive. -/
structure Standing (tracker : TaskTracker) (said : List AgentToGatewayMessage)
    (player : List PlayerOutcome) (waiting : ℕ) (link : DeviceLink) : Prop where
  tracker : link.tracker = tracker
  said : link.out.sent.map Stamped.message = said
  player : link.player = player
  waiting : link.out.pending.length ≤ waiting
  alive : link.out.closed = false

/-- A program of the agent run alone, with assertions about its link. -/
abbrev Says (device : ℕ) {α : Type} (before : DeviceLink → Prop) (code : Program α)
    (post : α → DeviceLink → Prop) : Prop :=
  code.Solo (State.exec device (device + 1)) (fun state => before (state.devices device))
    fun value state => post value (state.devices device)

variable {device} {tracker : TaskTracker} {said : List AgentToGatewayMessage}
  {player : List PlayerOutcome} {waiting : ℕ}

/-- An action of the agent on its own link. -/
theorem says_device {before : DeviceLink → Prop} {action : DeviceAction}
    {post : action.Answer → DeviceLink → Prop}
    (performs : ∀ state : State, before (state.devices device) → ∃ core answer,
      state.performDevice device action = some (core, answer) ∧
        post answer (core.devices device)) :
    Says device before (perform (.device action)) post := by
  have performs (state : State) (pre : before (state.devices device)) : ∃ after answer,
      State.exec device (device + 1) state (.device action) = some (after, answer) ∧
        post answer (after.devices device) := by
    obtain ⟨core, answer, performed, holds⟩ := performs state pre
    exact ⟨_, answer, exec_of_perform performed, holds⟩
  exact .act performs fun answer => .done fun _ holds => holds

theorem says_tracker :
    Says device (Standing tracker said player waiting) (perform (.device .taskTracker))
      fun answer link => answer = tracker ∧ Standing tracker said player waiting link :=
  says_device fun state standing => ⟨state, _, rfl, standing.tracker, standing⟩

theorem says_setTracker (next : TaskTracker) :
    Says device (Standing tracker said player waiting) (perform (.device (.setTaskTracker next)))
      fun _ link => Standing next said player waiting link := by
  refine says_device fun state standing => ⟨_, (), rfl, ?_⟩
  simp only [State.setDevice, Function.update_self]
  exact { standing with tracker := rfl }

theorem says_send (message : AgentToGatewayMessage) (room : waiting < 64) :
    Says device (Standing tracker said player waiting) (deviceSend message) fun result link =>
      result = .ok () ∧ Standing tracker (said ++ [message]) player (waiting + 1) link := by
  have stored : Says device (Standing tracker said player waiting)
      (perform (.device (.send message))) fun accepted link =>
        accepted = true ∧ Standing tracker (said ++ [message]) player (waiting + 1) link := by
    refine says_device fun state standing => ?_
    have free : (state.devices device).out.pending.length < 64 :=
      lt_of_le_of_lt standing.waiting room
    refine ⟨state.setDevice device
      { state.devices device with
        out :=
          { (state.devices device).out with
            sent := (state.devices device).out.sent ++ [⟨message, state.origin device⟩] } },
      true, ?_, rfl, ?_⟩
    · simp only [State.performDevice, Channel.send?, standing.alive, Bool.false_eq_true, if_false,
        free, if_true, Option.map_some]
    · simp only [State.setDevice, Function.update_self]
      refine { standing with said := ?_, waiting := ?_ }
      · simp [standing.said]
      · have before := standing.waiting
        simp only [Channel.pending, List.length_drop, List.length_append, List.length_singleton]
          at before ⊢
        omega
  refine .bind stored fun accepted => .assume (fun _ holds => holds.1) ?_
  rintro rfl
  exact .done fun _ holds => ⟨rfl, holds.2⟩

theorem says_player (action : DeviceAction) (answer : action.Answer) {outcome : PlayerOutcome}
    (takes : ∀ state : State, (state.devices device).player = [outcome] →
      state.performDevice device action = some
        (state.setDevice device { state.devices device with player := [] }, answer)) :
    Says device (Standing tracker said [outcome] waiting) (perform (.device action))
      fun result link => result = answer ∧ Standing tracker said [] waiting link := by
  refine says_device fun state standing => ⟨_, answer, takes state standing.player, rfl, ?_⟩
  simp only [State.setDevice, Function.update_self]
  exact { standing with player := rfl }

/-- The end of a handler: what was said, and what the tracker has become. -/
abbrev Said (next : TaskTracker) (said : List AgentToGatewayMessage) (result : Except String Unit)
    (link : DeviceLink) : Prop :=
  result = .ok () ∧ ∃ player waiting, Standing next said player waiting link

/-- The end of a handler that goes on, or that panics. -/
abbrev EndsHandler (panicked : Bool) (next : TaskTracker) (said : List AgentToGatewayMessage)
    (result : Except String Unit) (link : DeviceLink) : Prop :=
  result = (bif panicked then .error summaryPanic else .ok ()) ∧
    ∃ player waiting, Standing next said player waiting link

theorem says_status (taskId : String) (state : AgentTaskState) (message : String)
    (room : waiting < 64) :
    Says device (Standing tracker said player waiting) (sendTaskStatus taskId state message)
      (Said tracker (said ++ [status taskId state message])) := by
  intro before standing
  obtain ⟨after, result, ran, ok, standing⟩ := says_send (status taskId state message) room before
    standing
  exact ⟨after, result, ran, ok, _, _, standing⟩

/-- A program that does nothing more. -/
theorem says_done {result : Except String Unit} (ok : result = .ok ()) :
    Says device (Standing tracker said player waiting) (pure result)
      (Said tracker said) :=
  .done fun _ standing => ⟨ok, _, _, standing⟩

theorem deviceStart_says (taskId : String) (format : Option AudioFormat)
    (result : Except String Unit) (room : waiting < 64) :
    Says device (Standing tracker said [.spawn result] waiting) (deviceStart taskId format)
      (Said (verdict base64 tracker (startDelivery taskId format result)).1
        (said ++ (verdict base64 tracker (startDelivery taskId format result)).2)) := by
  refine .bind says_tracker fun current => .assume (fun _ holds => holds.1) ?_
  rintro rfl
  refine .consequence (fun _ holds => holds.2) ?_
  simp only [verdict, startDelivery]
  cases current.playAudioTasks.lookup taskId with
  | some task => exact says_status _ _ _ room
  | none =>
    refine .bind (says_player (.startPlayer format) result ?_) fun started => ?_
    · intro state ready
      simp only [State.performDevice, ready]
    · refine .assume (fun _ holds => holds.1) ?_
      rintro rfl
      refine .consequence (fun _ holds => holds.2) ?_
      rcases started with error | ⟨⟩
      · exact .bind (says_setTracker _) fun _ => says_status _ _ _ room
      · exact .bind (says_setTracker _) fun _ => says_status _ _ _ room

theorem finishFailedTask_says (taskId reason : String) (room : waiting < 64) :
    Says device (Standing tracker said player waiting) (finishFailedTask tracker taskId reason)
      (Said (forget tracker taskId) (said ++ [status taskId .failed reason])) :=
  .bind (says_setTracker _) fun _ => says_status _ _ _ room

theorem deviceChunk_says (taskId dataBase64 : String) (result : Except String Unit)
    (room : waiting < 64) :
    Says device (Standing tracker said [.write result] waiting)
      (deviceChunk base64 taskId dataBase64)
      (Said (verdict base64 tracker (chunkDelivery taskId (dataBase64, result))).1
        (said ++ (verdict base64 tracker (chunkDelivery taskId (dataBase64, result))).2)) := by
  refine .bind says_tracker fun current => .assume (fun _ holds => holds.1) ?_
  rintro rfl
  refine .consequence (fun _ holds => holds.2) ?_
  simp only [verdict, chunkDelivery]
  cases current.playAudioTasks.lookup taskId with
  | none =>
    dsimp only
    split_ifs
    · rw [List.append_nil]
      exact says_done rfl
    · exact says_status _ _ _ room
  | some task =>
    dsimp only
    cases base64.decode dataBase64 with
    | error error => exact finishFailedTask_says taskId _ room
    | ok bytes =>
      refine .bind (says_player (.writePlayer bytes) result ?_)
        fun written => ?_
      · intro state ready
        simp only [State.performDevice, ready]
      · refine .assume (fun _ holds => holds.1) ?_
        rintro rfl
        refine .consequence (fun _ holds => holds.2) ?_
        rcases written with error | ⟨⟩
        · exact finishFailedTask_says taskId _ room
        · rw [List.append_nil]
          exact .bind (says_setTracker _) fun _ => says_done rfl

theorem deviceFinish_says (taskId : String) (exit : PlayerExit) (room : waiting < 64) :
    Says device (Standing tracker said [.exit exit] waiting) (deviceFinish taskId)
      (EndsHandler (panics tracker (finishDelivery taskId exit))
        (verdict base64 tracker (finishDelivery taskId exit)).1
        (said ++ (verdict base64 tracker (finishDelivery taskId exit)).2)) := by
  refine .bind says_tracker fun current => .assume (fun _ holds => holds.1) ?_
  rintro rfl
  refine .consequence (fun _ holds => holds.2) (.bind (says_setTracker _) fun _ => ?_)
  simp only [verdict, panics, finishDelivery]
  cases current.playAudioTasks.lookup taskId with
  | none =>
    dsimp only
    split_ifs
    · rw [List.append_nil]
      exact says_done rfl
    · exact says_status _ _ _ room
  | some task =>
    refine .bind (says_player .waitPlayer exit ?_) fun exited => ?_
    · intro state ready
      simp only [State.performDevice, ready]
    · refine .assume (fun _ holds => holds.1) ?_
      rintro rfl
      refine .consequence (fun _ holds => holds.2) ?_
      cases (exited : PlayerExit) with
      | succeeded => exact says_status _ _ _ room
      | failed failure stderr =>
        simp only [reportable]
        cases finishFailureMessage failure stderr with
        | some message => exact says_status _ _ _ room
        | none => exact .done fun _ standing => ⟨rfl, _, _, by rwa [List.append_nil]⟩

/-- Each message is handled with the verdict on it. -/
theorem handleGatewayMessage_says (delivery : Delivery) :
    Says device (Standing tracker said delivery.outcomes 0)
      (handleGatewayMessage base64 delivery.message)
      (EndsHandler (panics tracker delivery) (verdict base64 tracker delivery).1
        (said ++ (verdict base64 tracker delivery).2)) := by
  have sends (message : AgentToGatewayMessage) : Says device (Standing tracker said [] 0)
      (deviceSend message) (Said tracker (said ++ [message])) := by
    intro before standing
    obtain ⟨after, result, ran, ok, standing⟩ := says_send message (by omega) before standing
    exact ⟨after, result, ran, ok, _, _, standing⟩
  obtain ⟨message, result, exit⟩ := delivery
  cases message with
  | helloOk serverName =>
    simp only [verdict, List.append_nil]
    exact says_done rfl
  | ping => exact sends .pong
  | sessionAudio sessionId dataBase64 | sessionCommit sessionId | sessionStop sessionId =>
    exact sends _
  | sessionStart sessionId request =>
    refine .bind (says_send _ (by omega)) fun first => .assume (fun _ holds => holds.1) ?_
    rintro rfl
    refine .consequence (fun _ holds => holds.2) ?_
    intro before standing
    obtain ⟨after, result, ran, ok, standing⟩ := says_send
      (.sessionEnded sessionId (some "not_implemented")) (by omega) before standing
    rw [List.append_assoc] at standing
    exact ⟨after, result, ran, ok, [], 2, standing⟩
  | taskPlayAudioStart taskId format => exact deviceStart_says base64 taskId format result (by omega)
  | taskPlayAudioChunk taskId dataBase64 =>
    exact deviceChunk_says base64 taskId dataBase64 result (by omega)
  | taskPlayAudioFinish taskId => exact deviceFinish_says base64 taskId exit (by omega)

/-- What the agent says to messages delivered one after the other, and what its tracker becomes. -/
def respond (tracker : TaskTracker) : List Delivery → TaskTracker × List AgentToGatewayMessage
  | [] => (tracker, [])
  | delivery :: rest =>
      let (next, said) := verdict base64 tracker delivery
      let (last, later) := respond next rest
      (last, said ++ later)

theorem respond_append (tracker : TaskTracker) (first second : List Delivery) :
    respond base64 tracker (first ++ second) =
      ((respond base64 (respond base64 tracker first).1 second).1,
        (respond base64 tracker first).2 ++
          (respond base64 (respond base64 tracker first).1 second).2) := by
  induction first generalizing tracker with
  | nil => rfl
  | cons delivery rest ih =>
    simp only [List.cons_append, respond, ih, List.append_assoc]

/-- What an agent handles of what is delivered: all of it, up to a panic. -/
def handled (tracker : TaskTracker) : List Delivery → List Delivery
  | [] => []
  | delivery :: rest =>
      delivery :: bif panics tracker delivery then []
        else handled (verdict base64 tracker delivery).1 rest

theorem serve_spec (delivery : Delivery) {state : State}
    (standing : Standing tracker said player waiting (state.devices device)) :
    ∃ after result, serve base64 device state delivery = some (after, result) ∧
      EndsHandler (panics tracker delivery) (verdict base64 tracker delivery).1
        (said ++ (verdict base64 tracker delivery).2) result (after.devices device) := by
  have attended : Standing tracker said delivery.outcomes 0
      ((attend device state delivery).devices device) := by
    simp only [attend, State.setDevice, Function.update_self]
    exact ⟨standing.tracker, standing.said, rfl, by simp [Channel.pending], standing.alive⟩
  obtain ⟨after, result, ran, ends⟩ :=
    handleGatewayMessage_says base64 delivery (attend device state delivery) attended
  exact ⟨after, result, ran, ends⟩

/-- Whatever is delivered, the agent says what it has to say to what it handles. -/
theorem serveAll_spec (deliveries : List Delivery) {state : State}
    (standing : Standing tracker said player waiting (state.devices device)) :
    ∃ after, serveAll base64 device state deliveries = some after ∧ ∃ player waiting,
      Standing (respond base64 tracker (handled base64 tracker deliveries)).1
        (said ++ (respond base64 tracker (handled base64 tracker deliveries)).2)
        player waiting (after.devices device) := by
  induction deliveries generalizing state tracker said player waiting with
  | nil => exact ⟨state, rfl, player, waiting, by simpa only [respond, handled, List.append_nil]⟩
  | cons delivery rest ih =>
    obtain ⟨next, result, served, ended, _, _, stands⟩ := serve_spec base64 delivery standing
    cases panicked : panics tracker delivery with
    | true =>
      rw [panicked, cond_true] at ended
      subst ended
      refine ⟨next, by rw [serveAll, served], ?_⟩
      simpa only [handled, panicked, cond_true, respond, List.append_nil] using ⟨_, _, stands⟩
    | false =>
      rw [panicked, cond_false] at ended
      subst ended
      obtain ⟨after, ran, ends⟩ := ih stands
      refine ⟨after, by simpa only [serveAll, served] using ran, ?_⟩
      simpa only [handled, panicked, cond_false, respond, List.append_assoc] using ends

theorem panics_cases {delivery : Delivery} (panic : panics tracker delivery = true) :
    ∃ taskId, delivery.message = .taskPlayAudioFinish taskId ∧
      (tracker.playAudioTasks.lookup taskId).isSome ∧ reportable delivery.exit = false := by
  unfold panics at panic
  split at panic
  · rename_i taskId finishes
    rw [Bool.and_eq_true, Bool.not_eq_true'] at panic
    exact ⟨taskId, finishes, panic.1, panic.2⟩
  · cases panic

/-- All is handled, or the run ends with a panic at one delivery. -/
theorem handled_cases (tracker : TaskTracker) (deliveries : List Delivery) :
    handled base64 tracker deliveries = deliveries ∨
      ∃ before delivery rest, deliveries = before ++ delivery :: rest ∧
        handled base64 tracker deliveries = before ++ [delivery] ∧
        panics (respond base64 tracker before).1 delivery = true := by
  induction deliveries generalizing tracker with
  | nil => exact .inl rfl
  | cons delivery rest ih =>
    cases panicked : panics tracker delivery with
    | true => exact .inr ⟨[], delivery, rest, rfl, by rw [handled, panicked]; rfl, panicked⟩
    | false =>
      rw [handled, panicked, cond_false]
      rcases ih (verdict base64 tracker delivery).1 with all | ⟨before, last, later, rfl, cut, panic⟩
      · exact .inl (by rw [all])
      · exact .inr ⟨delivery :: before, last, later, rfl, by rw [cut]; rfl, panic⟩

/-! ## One playback among others -/

/-- A terminal status of the task. -/
def settles (taskId : String) : AgentToGatewayMessage → Bool
  | .taskStatus id payload => id == taskId && payload.state != .started
  | _ => false

/-- What the agent says about the end of the task. -/
def verdicts (taskId : String) (said : List AgentToGatewayMessage) : List AgentToGatewayMessage :=
  said.filter (settles taskId)

@[simp] theorem verdicts_nil (taskId : String) : verdicts taskId [] = [] := rfl

@[simp] theorem verdicts_append (taskId : String) (said more : List AgentToGatewayMessage) :
    verdicts taskId (said ++ more) = verdicts taskId said ++ verdicts taskId more :=
  List.filter_append said more

@[simp] theorem verdicts_status (taskId other message : String) (state : AgentTaskState) :
    verdicts taskId [status other state message] =
      if other = taskId ∧ state ≠ .started then [status other state message] else [] := by
  by_cases same : other = taskId <;> by_cases started : state = .started <;>
    simp [verdicts, settles, status, same, started]

/-- The messages of one task. -/
def concerning (taskId : String) (deliveries : List Delivery) : List Delivery :=
  deliveries.filter fun delivery => delivery.message.taskId? = some taskId

/-- Two trackers know the same of the task. -/
structure Alike (taskId : String) (tracker other : TaskTracker) : Prop where
  playing : tracker.playAudioTasks.lookup taskId = other.playAudioTasks.lookup taskId
  silenced : taskId ∈ tracker.failedPlayAudioStarts ↔ taskId ∈ other.failedPlayAudioStarts

theorem Alike.refl (taskId : String) (tracker : TaskTracker) : Alike taskId tracker tracker :=
  ⟨rfl, .rfl⟩

/-- A message of another task changes nothing for this one. -/
theorem verdict_other {taskId : String} (tracker : TaskTracker) {delivery : Delivery}
    (other : delivery.message.taskId? ≠ some taskId) :
    Alike taskId (verdict base64 tracker delivery).1 tracker ∧
      verdicts taskId (verdict base64 tracker delivery).2 = [] := by
  obtain ⟨message, player, exit⟩ := delivery
  cases message with
  | helloOk | ping | sessionStart | sessionAudio | sessionCommit | sessionStop =>
    exact ⟨.refl taskId tracker, rfl⟩
  | taskPlayAudioStart id format =>
    have apart : taskId ≠ id := fun same => other (congrArg some same.symm)
    simp only [verdict]
    split
    · exact ⟨.refl taskId tracker, by simp [apart.symm]⟩
    · exact ⟨⟨AList.lookup_insert_ne apart, by simp [apart]⟩, by simp [apart.symm]⟩
    · exact ⟨⟨rfl, by simp [apart]⟩, by simp [apart.symm]⟩
  | taskPlayAudioChunk id dataBase64 =>
    have apart : taskId ≠ id := fun same => other (congrArg some same.symm)
    have forgotten : Alike taskId (forget tracker id) tracker :=
      ⟨AList.lookup_erase_ne apart, .rfl⟩
    simp only [verdict]
    split
    · split
      · exact ⟨forgotten, by simp [apart.symm]⟩
      · exact ⟨forgotten, by simp [apart.symm]⟩
      · exact ⟨⟨AList.lookup_insert_ne apart, .rfl⟩, rfl⟩
    · split_ifs
      · exact ⟨.refl taskId tracker, rfl⟩
      · exact ⟨.refl taskId tracker, by simp [apart.symm]⟩
  | taskPlayAudioFinish id =>
    have apart : taskId ≠ id := fun same => other (congrArg some same.symm)
    refine ⟨⟨AList.lookup_erase_ne apart, by simp [verdict, apart]⟩, ?_⟩
    simp only [verdict]
    split
    · split
      · simp [apart.symm]
      · split <;> simp [apart.symm]
    · split_ifs
      · rfl
      · simp [apart.symm]

/-- What becomes of a task depends on what is known of it. -/
theorem verdict_alike {taskId : String} {tracker other : TaskTracker} {delivery : Delivery}
    (own : delivery.message.taskId? = some taskId) (alike : Alike taskId tracker other) :
    Alike taskId (verdict base64 tracker delivery).1 (verdict base64 other delivery).1 ∧
      (verdict base64 tracker delivery).2 = (verdict base64 other delivery).2 := by
  obtain ⟨message, player, exit⟩ := delivery
  cases message with
  | helloOk | ping | sessionStart | sessionAudio | sessionCommit | sessionStop => cases own
  | taskPlayAudioStart id format =>
    obtain rfl := Option.some.inj own
    simp only [verdict, alike.playing]
    split
    · exact ⟨alike, rfl⟩
    · exact ⟨⟨by simp, by simp⟩, rfl⟩
    · exact ⟨⟨alike.playing, by simp⟩, rfl⟩
  | taskPlayAudioChunk id dataBase64 =>
    obtain rfl := Option.some.inj own
    have forgotten : Alike id (forget tracker id) (forget other id) :=
      ⟨by simp [forget], alike.silenced⟩
    simp only [verdict, alike.playing, alike.silenced]
    split
    · split
      · exact ⟨forgotten, rfl⟩
      · exact ⟨forgotten, rfl⟩
      · exact ⟨⟨by simp, alike.silenced⟩, rfl⟩
    · split_ifs
      · exact ⟨alike, rfl⟩
      · exact ⟨alike, rfl⟩
  | taskPlayAudioFinish id =>
    obtain rfl := Option.some.inj own
    refine ⟨⟨by simp [verdict], by simp [verdict]⟩, ?_⟩
    simp only [verdict, alike.playing, alike.silenced]

/-- What becomes of a task, and what the agent says about its end, depends on the messages of that
task alone. -/
theorem respond_alike {taskId : String} {tracker other : TaskTracker}
    (deliveries : List Delivery) (alike : Alike taskId tracker other) :
    Alike taskId (respond base64 tracker deliveries).1
        (respond base64 other (concerning taskId deliveries)).1 ∧
      verdicts taskId (respond base64 tracker deliveries).2 =
        verdicts taskId (respond base64 other (concerning taskId deliveries)).2 := by
  induction deliveries generalizing tracker other with
  | nil => exact ⟨alike, rfl⟩
  | cons delivery rest ih =>
    by_cases own : delivery.message.taskId? = some taskId
    · obtain ⟨kept, same⟩ := verdict_alike base64 own alike
      have split : concerning taskId (delivery :: rest) = delivery :: concerning taskId rest := by
        simp [concerning, own]
      obtain ⟨later, said⟩ := ih kept
      refine ⟨by simpa only [split, respond] using later, ?_⟩
      simp only [split, respond, verdicts_append, same, said]
    · obtain ⟨kept, quiet⟩ := verdict_other base64 tracker own
      have skipped : concerning taskId (delivery :: rest) = concerning taskId rest := by
        simp [concerning, own]
      obtain ⟨later, said⟩ := ih ⟨kept.playing.trans alike.playing, kept.silenced.trans alike.silenced⟩
      refine ⟨by simpa only [skipped, respond] using later, ?_⟩
      simp only [skipped, respond, verdicts_append, quiet, List.nil_append, said]

/-! ## The phases of a playback -/

/-- A chunk that decodes and is taken by the player. -/
def Written (chunk : String × Except String Unit) : Prop :=
  (∃ bytes, base64.decode chunk.1 = .ok bytes) ∧ chunk.2 = .ok ()

variable {base64} {taskId : String}

/-- After a start that failed nothing is said about the chunks. -/
theorem respond_silenced (chunks : List (String × Except String Unit))
    (missing : tracker.playAudioTasks.lookup taskId = none)
    (silenced : taskId ∈ tracker.failedPlayAudioStarts) :
    respond base64 tracker (chunks.map (chunkDelivery taskId)) = (tracker, []) := by
  induction chunks with
  | nil => rfl
  | cons chunk rest ih =>
    simp only [List.map_cons, respond, chunkDelivery, verdict, missing, silenced, if_true]
    rw [ih]
    rfl

/-- A task that is not known fails again with every chunk. -/
theorem respond_unknown (base64 : Base64) (chunks : List (String × Except String Unit))
    (missing : tracker.playAudioTasks.lookup taskId = none)
    (unknown : taskId ∉ tracker.failedPlayAudioStarts) :
    (respond base64 tracker (chunks.map (chunkDelivery taskId))).1 = tracker ∧
      (verdicts taskId (respond base64 tracker (chunks.map (chunkDelivery taskId))).2).length =
        chunks.length := by
  induction chunks with
  | nil => exact ⟨rfl, rfl⟩
  | cons chunk rest ih =>
    simp only [List.map_cons, respond, chunkDelivery, verdict, missing, unknown, if_false]
    refine ⟨ih.1, ?_⟩
    rw [verdicts_append, List.length_append, ih.2]
    simp [Nat.add_comm]

/-- A chunk that is written leaves the task playing, any other one ends it with a failure. -/
theorem verdict_chunk (base64 : Base64) (chunk : String × Except String Unit)
    (playing : (tracker.playAudioTasks.lookup taskId).isSome) :
    (Written base64 chunk ∧ ∃ tasks : Table String PlaybackTask, (tasks.lookup taskId).isSome ∧
      verdict base64 tracker (chunkDelivery taskId chunk) =
        ({ tracker with playAudioTasks := tasks }, [])) ∨
    (¬ Written base64 chunk ∧ ∃ reason, verdict base64 tracker (chunkDelivery taskId chunk) =
      (forget tracker taskId, [status taskId .failed reason])) := by
  obtain ⟨task, known⟩ := Option.isSome_iff_exists.mp playing
  obtain ⟨dataBase64, player⟩ := chunk
  simp only [Written, chunkDelivery, verdict, known]
  cases base64.decode dataBase64 with
  | error error => exact .inr ⟨by simp, _, rfl⟩
  | ok bytes =>
    rcases player with error | ⟨⟩
    · exact .inr ⟨by simp, _, rfl⟩
    · exact .inl ⟨⟨⟨bytes, rfl⟩, rfl⟩, _, by simp, rfl⟩

/-- As long as all chunks are written nothing is said, and the task plays on. -/
theorem respond_playing (chunks : List (String × Except String Unit))
    (playing : (tracker.playAudioTasks.lookup taskId).isSome)
    (written : ∀ chunk ∈ chunks, Written base64 chunk) :
    ∃ tasks : Table String PlaybackTask, (tasks.lookup taskId).isSome ∧
      respond base64 tracker (chunks.map (chunkDelivery taskId)) =
        ({ tracker with playAudioTasks := tasks }, []) := by
  induction chunks generalizing tracker with
  | nil => exact ⟨tracker.playAudioTasks, playing, rfl⟩
  | cons chunk rest ih =>
    rcases verdict_chunk base64 chunk playing with ⟨_, next, plays, said⟩ | ⟨lost, _⟩
    · obtain ⟨tasks, there, later⟩ := @ih { tracker with playAudioTasks := next } plays
        fun chunk member => written chunk (List.mem_cons_of_mem _ member)
      refine ⟨tasks, there, ?_⟩
      simp only [List.map_cons, respond, said, later, List.append_nil]
    · exact absurd (written chunk List.mem_cons_self) lost

/-- A chunk that is not written fails the task, and so does every message after it. -/
theorem respond_lost (chunks : List (String × Except String Unit))
    (playing : (tracker.playAudioTasks.lookup taskId).isSome)
    (started : taskId ∉ tracker.failedPlayAudioStarts)
    (lost : ∃ chunk ∈ chunks, ¬ Written base64 chunk) :
    ∃ tasks : Table String PlaybackTask, tasks.lookup taskId = none ∧
      (respond base64 tracker (chunks.map (chunkDelivery taskId))).1 =
        { tracker with playAudioTasks := tasks } ∧
      1 ≤ (verdicts taskId
        (respond base64 tracker (chunks.map (chunkDelivery taskId))).2).length := by
  induction chunks generalizing tracker with
  | nil =>
    obtain ⟨chunk, member, _⟩ := lost
    cases member
  | cons chunk rest ih =>
    rcases verdict_chunk base64 chunk playing with
      ⟨written, next, plays, said⟩ | ⟨_, reason, said⟩
    · have later : ∃ chunk ∈ rest, ¬ Written base64 chunk := by
        obtain ⟨other, member, missed⟩ := lost
        rcases List.mem_cons.mp member with rfl | member
        · exact absurd written missed
        · exact ⟨other, member, missed⟩
      obtain ⟨tasks, gone, last, failed⟩ :=
        @ih { tracker with playAudioTasks := next } plays started later
      refine ⟨tasks, gone, ?_⟩
      simp only [List.map_cons, respond, said, last, List.nil_append, failed, and_self]
    · have gone : (forget tracker taskId).playAudioTasks.lookup taskId = none := by simp [forget]
      obtain ⟨kept, _⟩ := respond_unknown base64 rest gone started
      refine ⟨_, gone, ?_⟩
      simp only [List.map_cons, respond, said, kept, verdicts_append, List.length_append]
      refine ⟨rfl, ?_⟩
      simp

/-- The finish of a task that plays ends it with one status, if its player can be reported. -/
theorem verdict_finish (base64 : Base64) (exit : PlayerExit)
    (playing : (tracker.playAudioTasks.lookup taskId).isSome) :
    (verdicts taskId (verdict base64 tracker (finishDelivery taskId exit)).2).length =
      bif reportable exit then 1 else 0 := by
  obtain ⟨task, known⟩ := Option.isSome_iff_exists.mp playing
  simp only [verdict, finishDelivery, known]
  cases exit with
  | succeeded => simp [reportable]
  | failed failure stderr =>
    simp only [reportable]
    cases finishFailureMessage failure stderr with
    | some message => simp
    | none => rfl

/-! ## One terminal status -/

/-- A playback: how its start and its chunks go, and what its player comes to. -/
structure Playback where
  format : Option AudioFormat := none
  started : Except String Unit
  chunks : List (String × Except String Unit)
  exit : PlayerExit

/-- The messages of a playback up to its finish. -/
def playbackOpening (taskId : String) (playback : Playback) : List Delivery :=
  startDelivery taskId playback.format playback.started ::
    playback.chunks.map (chunkDelivery taskId)

/-- A playback as the gateway sends it: the start, the chunks and the finish. -/
def playbackOf (taskId : String) (playback : Playback) : List Delivery :=
  playbackOpening taskId playback ++ [finishDelivery taskId playback.exit]

/-- A start that fails, or a playback whose chunks are all written and whose player can be reported. -/
def Playback.EndsWell (base64 : Base64) (playback : Playback) : Prop :=
  (∃ error, playback.started = .error error) ∨
    ((∀ chunk ∈ playback.chunks, Written base64 chunk) ∧ reportable playback.exit = true)

/-- A playback whose start fails has failed once and for all. -/
theorem playbackOpening_unstarted {playback : Playback} {error : String}
    (failed : playback.started = .error error) :
    respond base64 {} (playbackOpening taskId playback) =
      ({ failedPlayAudioStarts := insert taskId ∅ },
        [status taskId .failed ("failed to start local playback: " ++ error)]) := by
  have begun : verdict base64 {} (startDelivery taskId playback.format playback.started) =
        ({ failedPlayAudioStarts := insert taskId ∅ },
          [status taskId .failed ("failed to start local playback: " ++ error)]) := by
    rw [failed]
    rfl
  have quiet : respond base64 { failedPlayAudioStarts := insert taskId ∅ }
      (playback.chunks.map (chunkDelivery taskId)) =
        ({ failedPlayAudioStarts := insert taskId ∅ }, []) :=
    respond_silenced playback.chunks rfl (Finset.mem_insert_self taskId ∅)
  simp only [playbackOpening, respond, begun, quiet, List.append_nil]

/-- A playback that is started plays on until its finish, or one of its chunks is lost. -/
theorem playbackOpening_started (base64 : Base64) (taskId : String) {playback : Playback}
    (started : playback.started = .ok ()) :
    ((∀ chunk ∈ playback.chunks, Written base64 chunk) ∧
      ((respond base64 {} (playbackOpening taskId playback)).1.playAudioTasks.lookup taskId).isSome ∧
      verdicts taskId (respond base64 {} (playbackOpening taskId playback)).2 = []) ∨
    ((∃ chunk ∈ playback.chunks, ¬ Written base64 chunk) ∧
      (respond base64 {} (playbackOpening taskId playback)).1.playAudioTasks.lookup taskId = none ∧
      taskId ∉ (respond base64 {} (playbackOpening taskId playback)).1.failedPlayAudioStarts ∧
      1 ≤ (verdicts taskId (respond base64 {} (playbackOpening taskId playback)).2).length) := by
  have begun : verdict base64 {} (startDelivery taskId playback.format playback.started) =
        ({ playAudioTasks := AList.insert taskId {} ∅ },
          [status taskId .started "play_audio started with local default output"]) := by
    rw [started]
    rfl
  have playing : ((AList.insert taskId ({} : PlaybackTask) ∅ :
      Table String PlaybackTask).lookup taskId).isSome := by
    rw [AList.lookup_insert]
    rfl
  simp only [playbackOpening, respond, begun, verdicts_append, verdicts_status, List.length_append]
  by_cases written : ∀ chunk ∈ playback.chunks, Written base64 chunk
  · obtain ⟨tasks, plays, said⟩ := @respond_playing base64
      { playAudioTasks := AList.insert taskId {} ∅ } taskId playback.chunks playing written
    refine .inl ⟨written, ?_⟩
    rw [said]
    exact ⟨plays, by simp⟩
  · have lost : ∃ chunk ∈ playback.chunks, ¬ Written base64 chunk := by simpa using written
    obtain ⟨tasks, gone, last, failed⟩ := @respond_lost base64
      { playAudioTasks := AList.insert taskId {} ∅ } taskId playback.chunks playing (by simp) lost
    refine .inr ⟨lost, ?_⟩
    rw [last]
    exact ⟨gone, by simp, by omega⟩

/-- Handled to its end, a playback is settled once exactly when it ends well. -/
theorem verdicts_playback (playback : Playback) :
    (verdicts taskId (respond base64 {} (playbackOf taskId playback)).2).length = 1 ↔
      playback.EndsWell base64 := by
  simp only [playbackOf, respond_append, respond, verdicts_append, List.length_append,
    List.append_nil, Playback.EndsWell]
  cases start : playback.started with
  | error error =>
    rw [playbackOpening_unstarted start]
    simp [verdict, finishDelivery]
  | ok done =>
    rcases playbackOpening_started base64 taskId start with
      ⟨written, playing, quiet⟩ | ⟨lost, gone, unknown, failed⟩
    · rw [verdict_finish base64 playback.exit playing, quiet]
      cases reported : reportable playback.exit with
      | true => simpa using written
      | false => simp
    · have again : (verdicts taskId (verdict base64 (respond base64 {} (playbackOpening taskId playback)).1
          (finishDelivery taskId playback.exit)).2).length = 1 := by
        simp [verdict, finishDelivery, gone, unknown]
      obtain ⟨chunk, member, missed⟩ := lost
      rw [again]
      constructor
      · intro once
        omega
      · rintro (⟨_, failed⟩ | ⟨written, _⟩)
        · cases failed
        · exact absurd (written chunk member) missed

/-- The only finish among the messages of a playback is the last. -/
theorem playbackOf_split {playback : Playback} {before rest : List Delivery} {delivery : Delivery}
    (finishes : delivery.message = .taskPlayAudioFinish taskId)
    (split : playbackOf taskId playback = before ++ delivery :: rest) :
    before = playbackOpening taskId playback ∧ delivery = finishDelivery taskId playback.exit := by
  have others : delivery ∉ playbackOpening taskId playback := by
    intro member
    rcases List.mem_cons.mp member with rfl | member
    · cases finishes
    · obtain ⟨chunk, _, rfl⟩ := List.mem_map.mp member
      cases finishes
  rcases List.append_eq_append_iff.mp split with ⟨more, rfl, same⟩ | ⟨more, same, tail⟩
  · cases more with
    | nil => exact ⟨(List.append_nil _), (List.cons.inj same).1.symm⟩
    | cons head more => simp at same
  · cases more with
    | nil => exact ⟨by rw [same, List.append_nil], (List.cons.inj tail).1⟩
    | cons head more =>
      obtain ⟨rfl, _⟩ := List.cons.inj tail
      exact absurd (by rw [same]; simp) others

/-- A task that still plays has been started, and nothing has been said about its end. -/
theorem started_of_playing {playback : Playback}
    (playing : ((respond base64 {} (playbackOpening taskId playback)).1.playAudioTasks.lookup
      taskId).isSome) :
    playback.started = .ok () ∧
      verdicts taskId (respond base64 {} (playbackOpening taskId playback)).2 = [] := by
  cases start : playback.started with
  | error error =>
    rw [playbackOpening_unstarted start] at playing
    cases playing
  | ok done =>
    rcases playbackOpening_started base64 taskId start with ⟨_, _, quiet⟩ | ⟨_, gone, _⟩
    · exact ⟨rfl, quiet⟩
    · rw [gone] at playing
      cases playing

/-- Where a run ends with a panic, a task that has started is left without a verdict, since its
player cannot be reported. -/
theorem handled_or_unsettled (base64 : Base64) {playbacks : String → Option Playback}
    {deliveries : List Delivery}
    (delivered : ∀ taskId, concerning taskId deliveries =
      (playbacks taskId).elim [] (playbackOf taskId)) :
    handled base64 {} deliveries = deliveries ∨
      ∃ taskId playback, playbacks taskId = some playback ∧ ¬ playback.EndsWell base64 ∧
        verdicts taskId (respond base64 {} (handled base64 {} deliveries)).2 = [] := by
  rcases handled_cases base64 {} deliveries with all | ⟨before, delivery, rest, rfl, cut, panic⟩
  · exact .inl all
  obtain ⟨taskId, finishes, playing, lost⟩ := panics_cases panic
  have own : delivery.message.taskId? = some taskId := by rw [finishes]; rfl
  have concerned : concerning taskId (before ++ delivery :: rest) =
      concerning taskId before ++ delivery :: concerning taskId rest := by
    simp [concerning, own]
  have whole := delivered taskId
  rw [concerned] at whole
  cases known : playbacks taskId with
  | none =>
    rw [known] at whole
    simp at whole
  | some playback =>
    rw [known] at whole
    obtain ⟨opened, rfl⟩ := playbackOf_split finishes whole.symm
    obtain ⟨alike, _⟩ := respond_alike base64 before (.refl taskId {})
    rw [opened] at alike
    rw [alike.playing] at playing
    obtain ⟨started, quiet⟩ := started_of_playing playing
    refine .inr ⟨taskId, playback, known, ?_, ?_⟩
    · rintro (⟨error, failed⟩ | ⟨_, reported⟩)
      · rw [started] at failed
        cases failed
      · exact absurd (reported.symm.trans lost) (by decide)
    · have settled := verdict_finish base64 playback.exit playing
      have lost : reportable playback.exit = false := lost
      have kept : concerning taskId (before ++ [finishDelivery taskId playback.exit]) =
          playbackOpening taskId playback ++ [finishDelivery taskId playback.exit] := by
        rw [← opened]
        simp [concerning, finishDelivery, GatewayToAgentMessage.taskId?]
      rw [cut, (respond_alike base64 _ (.refl taskId {})).2, kept, respond_append, verdicts_append,
        quiet, List.nil_append]
      rw [lost, cond_false] at settled
      simpa only [respond, List.append_nil] using List.length_eq_zero_iff.mp settled

/-- An agent that has just connected, and whose connection stays up, sends exactly one terminal
status for each of the playbacks that it is delivered, in any interleaving and with any other messages
in between, if and only if each of them ends well. -/
theorem one_verdict_iff (base64 : Base64) (device : ℕ) (state : State)
    (connected : Standing {} [] [] 0 (state.devices device)) (deliveries : List Delivery)
    (playbacks : String → Option Playback)
    (delivered : ∀ taskId, concerning taskId deliveries =
      (playbacks taskId).elim [] (playbackOf taskId)) :
    ∃ last, serveAll base64 device state deliveries = some last ∧
      ((∀ taskId playback, playbacks taskId = some playback →
          (verdicts taskId ((last.devices device).out.sent.map Stamped.message)).length = 1) ↔
        ∀ taskId playback, playbacks taskId = some playback → playback.EndsWell base64) := by
  obtain ⟨last, served, _, _, standing⟩ := serveAll_spec base64 deliveries connected
  refine ⟨last, served, ?_⟩
  rw [standing.said, List.nil_append]
  rcases handled_or_unsettled base64 delivered with
    all | ⟨taskId, playback, known, unwell, none⟩
  · rw [all]
    have settled {taskId : String} {playback : Playback} (known : playbacks taskId = some playback) :
        (verdicts taskId (respond base64 {} deliveries).2).length = 1 ↔ playback.EndsWell base64 := by
      rw [(respond_alike base64 deliveries (.refl taskId {})).2, delivered, known]
      exact verdicts_playback playback
    exact forall₃_congr fun taskId playback known => settled known
  · refine iff_of_false (fun once => ?_) fun ends => unwell (ends taskId playback known)
    have settled := once taskId playback known
    rw [none] at settled
    cases settled

theorem connected_initially (device : ℕ) : Standing {} [] [] 0 (({} : State).devices device) :=
  ⟨rfl, rfl, rfl, by simp [Channel.pending], rfl⟩

/-- A player that takes its chunk and then fails, and one that cannot be started. -/
def tone : Playback where
  started := .ok ()
  chunks := [("AA==", .ok ())]
  exit := .failed (.exited "1") (.read [0x6F, 0x75, 0x74])

def bell : Playback where
  started := .error "no player"
  chunks := [("?", .ok ())]
  exit := .succeeded

def tones : String → Option Playback := fun taskId =>
  if taskId = "tone" then some tone else if taskId = "bell" then some bell else none

/-- The two interleaved, with a ping. -/
def interleaved : List Delivery :=
  [startDelivery "tone" none tone.started, { message := .ping },
    startDelivery "bell" none bell.started,
    chunkDelivery "tone" ("AA==", .ok ()), chunkDelivery "bell" ("?", .ok ()),
    finishDelivery "tone" tone.exit, finishDelivery "bell" bell.exit]

theorem interleaved_settled : ∃ last, serveAll Scenario.base64 0 {} interleaved = some last ∧
    ∀ taskId playback, tones taskId = some playback →
      (verdicts taskId ((last.devices 0).out.sent.map Stamped.message)).length = 1 := by
  have delivered (taskId : String) : concerning taskId interleaved =
      (tones taskId).elim [] (playbackOf taskId) := by
    by_cases isTone : taskId = "tone"
    · subst isTone
      rfl
    · by_cases isBell : taskId = "bell"
      · subst isBell
        rfl
      · simp [concerning, interleaved, tones, isTone, isBell, startDelivery, chunkDelivery, finishDelivery,
          GatewayToAgentMessage.taskId?, Ne.symm isTone, Ne.symm isBell]
  obtain ⟨last, served, settled⟩ := one_verdict_iff Scenario.base64 0 {} (connected_initially 0)
    interleaved tones delivered
  refine ⟨last, served, settled.mpr fun taskId playback known => ?_⟩
  unfold tones at known
  split_ifs at known
  · cases known
    refine .inr ⟨fun chunk member => ?_, by decide⟩
    rw [List.mem_singleton.mp member]
    exact ⟨⟨[0], rfl⟩, rfl⟩
  · cases known
    exact .inl ⟨_, rfl⟩

/-- A chunk that does not decode fails the task, and the finish fails it again. -/
theorem undecodable_chunk_fails_twice :
    ∃ last, serveAll Scenario.base64 0 {}
        (playbackOf "tone" { tone with chunks := [("?", .ok ())] }) = some last ∧
      verdicts "tone" ((last.devices 0).out.sent.map Stamped.message) =
        [status "tone" .failed "invalid play_audio chunk base64: Invalid symbol",
          status "tone" .failed "finish received before task.start"] := by
  obtain ⟨last, served, _, _, standing⟩ := serveAll_spec Scenario.base64
    (playbackOf "tone" { tone with chunks := [("?", .ok ())] }) (connected_initially 0)
  refine ⟨last, served, ?_⟩
  rw [standing.said]
  rfl

end SpeechMesh.Soundness
