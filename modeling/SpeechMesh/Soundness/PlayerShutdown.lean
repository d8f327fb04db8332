import Mathlib.Data.Finset.Option
import Mathlib.Data.Set.Insert
import Mathlib.Data.Set.Lattice
import SpeechMesh.Model.DevicePlayers
import SpeechMesh.Model.TtsBridges

/-! # Players and the connection they belong to

Which tasks are open on a connection can be told from the messages that were read on it and from
what the host answered. A run that breaks out of its loop stops the players of all open tasks; one
that leaves through `?` drops its tracker, and then nobody stops them any more. A run whose summary
of what a player complained about panics does not return, and is none of these.
-/

namespace SpeechMesh.Soundness

open Async Async.Code Model.DevicePlayers
open Model (AgentToGatewayMessage GatewayToAgentMessage AgentHelloPayload AudioFormat Base64
  base64Standard)

/-! ## Stopped players -/

/-- The player was told to terminate, or its input was shut down and its end awaited. -/
def Stopped (player : Player) : Prop :=
  player.killed = true ∨ (player.stdinShut = true ∧ player.waited = true)

instance (player : Player) : Decidable (Stopped player) := inferInstanceAs (Decidable (_ ∨ _))

def NothingPlays (host : Host) : Prop := ∀ player ∈ host, Stopped player

def StillPlaying (host : Host) : Set ℕ :=
  {index | ∃ player, host[index]? = some player ∧ ¬ Stopped player}

/-- The answers after which `?` or `bail!` leaves a connection that was made. -/
def Fails : Entry AgentHost → Prop
  | ⟨.nextFrame, .ended⟩ | ⟨.nextFrame, .close⟩ => True
  | ⟨.nextFrame, .failed _⟩ | ⟨.nextFrame, .text (.error _)⟩ => True
  | ⟨.nextInput, .frame (.failed _)⟩ | ⟨.nextInput, .frame (.text (.error _))⟩ => True
  | ⟨.send _, false⟩ => True
  | _ => False

/-! ## Open tasks -/

/-- The task that the last message was about, and the open tasks of the connection: a player was
started for them, no Finish was read since, and no chunk that could not be decoded or written. -/
structure Playbacks where
  handled : Option String := none
  tasks : Finset String := ∅

def Playbacks.read (base64 : Base64) (playbacks : Playbacks) : GatewayToAgentMessage → Playbacks
  | .taskPlayAudioStart taskId _ => { playbacks with handled := some taskId }
  | .taskPlayAudioChunk taskId dataBase64 =>
      match base64.decode dataBase64 with
      | .ok _ => { playbacks with handled := some taskId }
      | .error _ => ⟨some taskId, playbacks.tasks.erase taskId⟩
  | .taskPlayAudioFinish taskId => ⟨some taskId, playbacks.tasks.erase taskId⟩
  | _ => playbacks

def Playbacks.after (base64 : Base64) (playbacks : Playbacks) : Entry AgentHost → Playbacks
  | ⟨.connect, _⟩ => {}
  | ⟨.nextInput, .frame (.text (.ok message))⟩ => playbacks.read base64 message
  | ⟨.spawn _, .ok _⟩ =>
      { playbacks with tasks := playbacks.tasks ∪ playbacks.handled.toFinset }
  | ⟨.writeAll _ _, .error _⟩ =>
      { playbacks with tasks := playbacks.tasks \ playbacks.handled.toFinset }
  | _ => playbacks

def hostAfter (trace : Trace AgentHost) : Host := trace.foldl Host.after []

def playbacksAfter (base64 : Base64) (trace : Trace AgentHost) : Playbacks :=
  trace.foldl (Playbacks.after base64) {}

/-- No connection was left through an error while a task was open on it. -/
def NeverAbandons (base64 : Base64) (trace : Trace AgentHost) : Prop :=
  ∀ earlier entry later, trace = earlier ++ entry :: later → Fails entry →
    (playbacksAfter base64 earlier).tasks = ∅

variable {host after : Host} {trace : Trace AgentHost} {entry : Entry AgentHost} {index : ℕ}
  {loose held : Set ℕ} {base64 : Base64} {playbacks : Playbacks}

theorem nothingPlays_iff : NothingPlays host ↔ StillPlaying host = ∅ := by
  rw [Set.eq_empty_iff_forall_notMem]
  constructor
  · rintro stopped index ⟨player, found, plays⟩
    exact plays (stopped player (List.mem_of_getElem? found))
  · intro none player member
    obtain ⟨index, found⟩ := List.mem_iff_getElem?.mp member
    by_contra plays
    exact none index ⟨player, found, plays⟩

theorem hostAfter_append (trace : Trace AgentHost) (entry : Entry AgentHost) :
    hostAfter (trace ++ [entry]) = (hostAfter trace).after entry := by
  rw [hostAfter, List.foldl_append]
  rfl

theorem playbacksAfter_append (base64 : Base64) (trace : Trace AgentHost)
    (entry : Entry AgentHost) :
    playbacksAfter base64 (trace ++ [entry]) = (playbacksAfter base64 trace).after base64 entry := by
  rw [playbacksAfter, List.foldl_append]
  rfl

theorem neverAbandons_nil : NeverAbandons base64 [] := by
  intro earlier entry later split
  simp at split

theorem neverAbandons_append : NeverAbandons base64 (trace ++ [entry]) ↔
    NeverAbandons base64 trace ∧ (Fails entry → (playbacksAfter base64 trace).tasks = ∅) := by
  constructor
  · intro never
    refine ⟨fun earlier other later split => never earlier other (later ++ [entry]) ?_, ?_⟩
    · rw [split, List.append_assoc, List.cons_append]
    · exact never trace entry [] rfl
  · rintro ⟨never, now⟩ earlier other later split
    rcases List.eq_nil_or_concat later with rfl | ⟨rest, last, rfl⟩
    · obtain ⟨rfl, same⟩ := List.append_inj' split rfl
      rw [← List.head_eq_of_cons_eq same]
      exact now
    · rw [List.concat_eq_append, ← List.cons_append, ← List.append_assoc] at split
      exact never earlier other rest (List.append_inj' split rfl).1

theorem neverAbandons_passes (passes : ¬ Fails entry) :
    NeverAbandons base64 (trace ++ [entry]) ↔ NeverAbandons base64 trace := by
  rw [neverAbandons_append, and_iff_left fun fails => absurd fails passes]

/-! ## Where the players are -/

/-- What is known of the players outside of `loose`: they play exactly when they are held by the
tracker or were lost with an earlier one, and there are lost ones as soon as a connection was left
through an error while a task was open. -/
def PlayersAccounted (base64 : Base64) (playbacks : Playbacks) (loose held : Set ℕ)
    (trace : Trace AgentHost) (host : Host) : Prop :=
  host = hostAfter trace ∧ playbacks = playbacksAfter base64 trace ∧ ∃ lost : Set ℕ,
    (∀ index, index ∉ loose → (index ∈ StillPlaying host ↔ index ∈ lost ∨ index ∈ held)) ∧
    (∀ index ∈ lost, index ∉ held ∧ index ∉ loose) ∧ (lost = ∅ ↔ NeverAbandons base64 trace)

theorem accounted_nil : PlayersAccounted base64 {} ∅ ∅ [] [] := by
  refine ⟨rfl, rfl, ∅, fun index _ => ?_, nofun, iff_of_true rfl neverAbandons_nil⟩
  simp [StillPlaying]

/-- An action that touches no player and does not fail. -/
theorem PlayersAccounted.quiet (accounted : PlayersAccounted base64 playbacks loose held trace host)
    (same : host.after entry = host) (passes : ¬ Fails entry) :
    PlayersAccounted base64 (playbacks.after base64 entry) loose held (trace ++ [entry]) host := by
  obtain ⟨host_eq, playbacks_eq, lost, playing, apart, empty⟩ := accounted
  refine ⟨?_, ?_, lost, playing, apart, ?_⟩
  · rw [hostAfter_append, ← host_eq, same]
  · rw [playbacksAfter_append, playbacks_eq]
  · rw [neverAbandons_passes passes, empty]

/-- The tracker is dropped, and what it held is lost. It held something if a task was open. -/
theorem PlayersAccounted.fails (accounted : PlayersAccounted base64 playbacks ∅ held trace host)
    (same : host.after entry = host) (fails : Fails entry)
    (opened : held = ∅ ↔ playbacks.tasks = ∅) :
    PlayersAccounted base64 (playbacks.after base64 entry) ∅ ∅ (trace ++ [entry]) host := by
  obtain ⟨host_eq, rfl, lost, playing, apart, empty⟩ := accounted
  refine ⟨?_, (playbacksAfter_append ..).symm, lost ∪ held, fun index outside => ?_,
    fun index _ => ?_, ?_⟩
  · rw [hostAfter_append, ← host_eq, same]
  · rw [playing index outside]
    simp
  · exact ⟨Set.notMem_empty _, Set.notMem_empty _⟩
  · rw [neverAbandons_append, ← empty, Set.union_empty_iff, opened]
    exact and_congr_right fun _ => (imp_iff_right fails).symm

theorem PlayersAccounted.bounded (accounted : PlayersAccounted base64 playbacks ∅ held trace host)
    (member : index ∈ held) :
    index < host.length := by
  obtain ⟨-, -, lost, playing, -, -⟩ := accounted
  obtain ⟨player, found, -⟩ := (playing index (Set.notMem_empty _)).mpr (.inr member)
  exact (List.getElem?_eq_some_iff.mp found).1

/-- A player that is started is held. -/
theorem PlayersAccounted.spawned (accounted : PlayersAccounted base64 playbacks ∅ held trace host)
    (command : List String) :
    PlayersAccounted base64 (playbacks.after base64 ⟨.spawn command, .ok host.length⟩) ∅
      (insert host.length held) (trace ++ [⟨.spawn command, .ok host.length⟩])
      (host ++ [({} : Player)]) := by
  obtain ⟨host_eq, playbacks_eq, lost, playing, apart, empty⟩ := accounted
  have fresh : host.length ∉ StillPlaying host := by
    rintro ⟨player, found, -⟩
    simp at found
  have unlost : host.length ∉ lost := fun member =>
    fresh ((playing _ (Set.notMem_empty _)).mpr (.inl member))
  refine ⟨?_, ?_, lost, fun index _ => ?_, fun index member => ⟨?_, Set.notMem_empty _⟩, ?_⟩
  · rw [hostAfter_append, ← host_eq]
    rfl
  · rw [playbacksAfter_append, playbacks_eq]
  · rw [Set.mem_insert_iff, or_left_comm, ← playing index (Set.notMem_empty _)]
    rcases lt_trichotomy index host.length with inside | rfl | outside
    · have same : (host ++ [({} : Player)])[index]? = host[index]? :=
        List.getElem?_append_left inside
      simp only [StillPlaying, Set.mem_ofPred_eq, same]
      exact (or_iff_right inside.ne).symm
    · refine iff_of_true ⟨({} : Player), by simp, by decide⟩ (.inl rfl)
    · have gone : (host ++ [({} : Player)])[index]? = none := by
        simp
        omega
      have goneToo : host[index]? = none := by simp; omega
      simp only [StillPlaying, Set.mem_ofPred_eq, gone, goneToo]
      simp [outside.ne']
  · rw [Set.mem_insert_iff]
    rintro (rfl | inside)
    · exact unlost member
    · exact (apart index member).1 inside
  · rw [neverAbandons_passes id, empty]

/-- The entry changes one player only, and opens and ends no task. -/
def Touches (index : ℕ) (entry : Entry AgentHost) : Prop :=
  (¬ Fails entry ∧ ∀ base64 playbacks, Playbacks.after base64 playbacks entry = playbacks) ∧
    ∃ change : Player → Player, ∀ host : Host, host.after entry = host.modify index change

theorem mem_stillPlaying_touched {other : ℕ} (touches : Touches index entry)
    (apart : other ≠ index) :
    other ∈ StillPlaying (host.after entry) ↔ other ∈ StillPlaying host := by
  obtain ⟨-, change, changes⟩ := touches
  rw [changes]
  simp only [StillPlaying, Set.mem_ofPred_eq, List.getElem?_modify_ne change host apart.symm]

/-- A player that something is done about is in hand. -/
theorem PlayersAccounted.touched
    (accounted : PlayersAccounted base64 playbacks loose held trace host)
    (touches : Touches index entry) (inHand : loose ⊆ {index})
    (mine : index ∈ loose ∨ index ∈ held) :
    PlayersAccounted base64 playbacks {index} (held \ {index}) (trace ++ [entry])
      (host.after entry) := by
  obtain ⟨host_eq, playbacks_eq, lost, playing, apart, empty⟩ := accounted
  refine ⟨?_, ?_, lost, fun other outside => ?_, fun other member => ?_, ?_⟩
  · rw [hostAfter_append, ← host_eq]
  · rw [playbacksAfter_append, touches.1.2, playbacks_eq]
  · have different : other ≠ index := outside
    rw [mem_stillPlaying_touched touches different,
      playing other fun member => outside (inHand member)]
    simp [different]
  · have different : other ≠ index := by
      rintro rfl
      rcases mine with mine | mine
      · exact (apart other member).2 mine
      · exact (apart other member).1 mine
    exact ⟨fun kept => (apart other member).1 kept.1, different⟩
  · rw [neverAbandons_passes touches.1.1, empty]

/-- A player in hand that is stopped is done with. -/
theorem PlayersAccounted.settled
    (accounted : PlayersAccounted base64 playbacks {index} held trace host)
    (stopped : ∀ player, host[index]? = some player → Stopped player) (unheld : index ∉ held) :
    PlayersAccounted base64 playbacks ∅ held trace host := by
  obtain ⟨host_eq, playbacks_eq, lost, playing, apart, empty⟩ := accounted
  refine ⟨host_eq, playbacks_eq, lost, fun other _ => ?_, fun other member =>
    ⟨(apart other member).1, Set.notMem_empty _⟩, empty⟩
  by_cases same : other = index
  · subst same
    refine iff_of_false ?_ ?_
    · rintro ⟨player, found, plays⟩
      exact plays (stopped player found)
    · rintro (member | member)
      · exact (apart other member).2 rfl
      · exact unheld member
  · exact playing other same

/-! ## Trackers -/

def heldPlayers (tasks : Table String PlaybackTask) : Set ℕ :=
  {index | ∃ taskId task, tasks.lookup taskId = some task ∧ task.player = index}

def OnePlayerEach (tasks : Table String PlaybackTask) : Prop :=
  ∀ ⦃taskId otherId : String⦄ ⦃task other : PlaybackTask⦄, tasks.lookup taskId = some task →
    tasks.lookup otherId = some other → task.player = other.player → taskId = otherId

section Trackers

variable {tasks : Table String PlaybackTask} {taskId : String} {task written : PlaybackTask}

theorem mem_heldPlayers (found : tasks.lookup taskId = some task) :
    task.player ∈ heldPlayers tasks := ⟨taskId, task, found, rfl⟩

theorem heldPlayers_eq_empty : heldPlayers tasks = ∅ ↔ ∀ taskId, taskId ∉ tasks := by
  rw [Set.eq_empty_iff_forall_notMem]
  constructor
  · intro none taskId member
    obtain ⟨task, found⟩ := Option.isSome_iff_exists.mp (AList.lookup_isSome.mpr member)
    exact none _ (mem_heldPlayers found)
  · rintro none index ⟨taskId, task, found, -⟩
    exact none taskId (AList.lookup_isSome.mp (found ▸ rfl))

theorem heldPlayers_empty : heldPlayers ∅ = ∅ :=
  heldPlayers_eq_empty.mpr AList.notMem_empty

theorem onePlayerEach_empty : OnePlayerEach ∅ := by
  intro taskId otherId task other found
  rw [AList.lookup_empty] at found
  cases found

theorem heldPlayers_insert_new (absent : tasks.lookup taskId = none) :
    heldPlayers (tasks.insert taskId task) = insert task.player (heldPlayers tasks) := by
  ext index
  rw [Set.mem_insert_iff]
  constructor
  · rintro ⟨otherId, other, found, rfl⟩
    by_cases same : otherId = taskId
    · rw [same, AList.lookup_insert] at found
      rw [Option.some.inj found]
      exact .inl rfl
    · rw [AList.lookup_insert_ne same] at found
      exact .inr (mem_heldPlayers found)
  · rintro (rfl | ⟨otherId, other, found, rfl⟩)
    · exact mem_heldPlayers (AList.lookup_insert tasks)
    · have apart : otherId ≠ taskId := by
        rintro rfl
        rw [absent] at found
        cases found
      exact mem_heldPlayers ((AList.lookup_insert_ne apart).trans found)

theorem OnePlayerEach.insert_new (distinct : OnePlayerEach tasks)
    (fresh : task.player ∉ heldPlayers tasks) : OnePlayerEach (tasks.insert taskId task) := by
  intro firstId otherId first other found foundToo same
  by_cases here : firstId = taskId
  · by_cases hereToo : otherId = taskId
    · rw [here, hereToo]
    · rw [here, AList.lookup_insert] at found
      rw [AList.lookup_insert_ne hereToo] at foundToo
      obtain rfl := Option.some.inj found
      exact absurd (same ▸ mem_heldPlayers foundToo) fresh
  · rw [AList.lookup_insert_ne here] at found
    by_cases hereToo : otherId = taskId
    · rw [hereToo, AList.lookup_insert] at foundToo
      obtain rfl := Option.some.inj foundToo
      exact absurd (same ▸ mem_heldPlayers found) fresh
    · rw [AList.lookup_insert_ne hereToo] at foundToo
      exact distinct found foundToo same

/-- Where a task is looked up after its counters have changed, there was one before. -/
theorem lookup_insert_same {otherId : String} {other : PlaybackTask}
    (listed : tasks.lookup taskId = some task) (same : written.player = task.player)
    (found : (tasks.insert taskId written).lookup otherId = some other) :
    ∃ before, tasks.lookup otherId = some before ∧ before.player = other.player := by
  by_cases here : otherId = taskId
  · rw [here, AList.lookup_insert] at found
    obtain rfl := Option.some.inj found
    exact ⟨task, here ▸ listed, same.symm⟩
  · rw [AList.lookup_insert_ne here] at found
    exact ⟨other, found, rfl⟩

theorem heldPlayers_insert_same (listed : tasks.lookup taskId = some task)
    (same : written.player = task.player) :
    heldPlayers (tasks.insert taskId written) = heldPlayers tasks := by
  ext index
  constructor
  · rintro ⟨otherId, other, found, rfl⟩
    obtain ⟨before, found, player⟩ := lookup_insert_same listed same found
    exact player ▸ mem_heldPlayers found
  · rintro ⟨otherId, other, found, rfl⟩
    by_cases here : otherId = taskId
    · subst here
      obtain rfl := Option.some.inj (listed.symm.trans found)
      exact same ▸ mem_heldPlayers (AList.lookup_insert tasks)
    · exact mem_heldPlayers ((AList.lookup_insert_ne here).trans found)

theorem OnePlayerEach.insert_same (distinct : OnePlayerEach tasks)
    (listed : tasks.lookup taskId = some task) (same : written.player = task.player) :
    OnePlayerEach (tasks.insert taskId written) := by
  intro firstId otherId first other found foundToo equal
  obtain ⟨before, found, player⟩ := lookup_insert_same listed same found
  obtain ⟨beforeToo, foundToo, playerToo⟩ := lookup_insert_same listed same foundToo
  exact distinct found foundToo (player.trans (equal.trans playerToo.symm))

theorem lookup_erase_some {otherId : String} {other : PlaybackTask}
    (found : (tasks.erase taskId).lookup otherId = some other) :
    otherId ≠ taskId ∧ tasks.lookup otherId = some other := by
  by_cases here : otherId = taskId
  · rw [here, AList.lookup_erase] at found
    cases found
  · rw [AList.lookup_erase_ne here] at found
    exact ⟨here, found⟩

theorem heldPlayers_erase (distinct : OnePlayerEach tasks)
    (listed : tasks.lookup taskId = some task) :
    heldPlayers (tasks.erase taskId) = heldPlayers tasks \ {task.player} := by
  ext index
  constructor
  · rintro ⟨otherId, other, found, rfl⟩
    obtain ⟨apart, found⟩ := lookup_erase_some found
    exact ⟨mem_heldPlayers found, fun same => apart (distinct found listed same)⟩
  · rintro ⟨⟨otherId, other, found, rfl⟩, different⟩
    have apart : otherId ≠ taskId := by
      rintro rfl
      exact different (congrArg PlaybackTask.player (Option.some.inj (found.symm.trans listed)))
    exact mem_heldPlayers ((AList.lookup_erase_ne apart).trans found)

theorem OnePlayerEach.erase (distinct : OnePlayerEach tasks) :
    OnePlayerEach (tasks.erase taskId) := fun _ _ _ _ found foundToo same =>
  distinct (lookup_erase_some found).2 (lookup_erase_some foundToo).2 same

/-- The tasks that are tracked are the open ones. -/
def Opened (playbacks : Playbacks) (tasks : Table String PlaybackTask) : Prop :=
  ∀ taskId, taskId ∈ playbacks.tasks ↔ taskId ∈ tasks

theorem Opened.heldPlayers_eq_empty (opened : Opened playbacks tasks) :
    heldPlayers tasks = ∅ ↔ playbacks.tasks = ∅ := by
  rw [Soundness.heldPlayers_eq_empty, Finset.eq_empty_iff_forall_notMem]
  exact forall_congr' fun taskId => not_congr (opened taskId).symm

theorem Opened.erase {handled : Option String} (opened : Opened playbacks tasks)
    (taskId : String) : Opened ⟨handled, playbacks.tasks.erase taskId⟩ (tasks.erase taskId) := by
  intro otherId
  rw [AList.mem_erase, Finset.mem_erase, opened otherId]

theorem heldPlayers_erase_absent (absent : tasks.lookup taskId = none) :
    heldPlayers (tasks.erase taskId) = heldPlayers tasks := by
  ext index
  constructor
  · rintro ⟨otherId, other, found, rfl⟩
    exact mem_heldPlayers (lookup_erase_some found).2
  · rintro ⟨otherId, other, found, rfl⟩
    have apart : otherId ≠ taskId := by
      rintro rfl
      rw [absent] at found
      cases found
    exact mem_heldPlayers ((AList.lookup_erase_ne apart).trans found)

end Trackers

/-! ## Handlers -/

structure Tracked (base64 : Base64) (playbacks : Playbacks) (tracker : TaskTracker)
    (trace : Trace AgentHost) (host : Host) : Prop where
  distinct : OnePlayerEach tracker.playAudioTasks
  opened : Opened playbacks tracker.playAudioTasks
  accounted : PlayersAccounted base64 playbacks ∅ (heldPlayers tracker.playAudioTasks) trace host

/-- The tracker is gone, and no player is held any more. -/
def Dropped (base64 : Base64) (trace : Trace AgentHost) (host : Host) : Prop :=
  ∃ playbacks, PlayersAccounted base64 playbacks ∅ ∅ trace host

/-- After a message was handled: the tracker goes on, or is dropped. -/
def Handles (base64 : Base64) : Handled → Trace AgentHost → Host → Prop
  | .ok tracker, trace, host => ∃ playbacks, Tracked base64 playbacks tracker trace host
  | .error _, trace, host => Dropped base64 trace host

/-- Nothing is asked of the states between the actions. -/
def Anywhere (_ : Trace AgentHost) (_ : Host) : Prop := True

section Handlers

variable {tracker : TaskTracker} {task : PlaybackTask} {taskId : String}

theorem reply_handles (tracked : Tracked base64 playbacks tracker trace host)
    (message : AgentToGatewayMessage) (context : String) :
    (reply tracker message context).Ensures HostStep Anywhere (Handles base64) trace host := by
  rintro (sent : Bool) after ⟨-, rfl⟩
  refine ⟨trivial, ?_⟩
  cases sent with
  | true => exact ⟨playbacks, tracked.distinct, tracked.opened, tracked.accounted.quiet rfl id⟩
  | false => exact ⟨playbacks, tracked.accounted.fails rfl trivial tracked.opened.heldPlayers_eq_empty⟩

/-- An action on one player. -/
theorem touches_shutdown (index : ℕ) : Touches index ⟨.shutdownStdin index, ()⟩ :=
  ⟨⟨id, fun _ _ => rfl⟩, _, fun _ => rfl⟩

theorem touches_kill (index : ℕ) : Touches index ⟨.startKill index, ()⟩ :=
  ⟨⟨id, fun _ _ => rfl⟩, _, fun _ => rfl⟩

theorem killed_stopped {player : Player}
    (found : (host.after ⟨.startKill index, ()⟩)[index]? = some player) : Stopped player := by
  have found : (host.modify index fun old => { old with killed := true })[index]? = some player :=
    found
  rw [List.getElem?_modify_eq] at found
  obtain ⟨old, -, rfl⟩ := Option.map_eq_some_iff.mp found
  exact .inl rfl

/-- A player in hand is told to terminate. -/
theorem kill_settles (accounted : PlayersAccounted base64 playbacks {index} held trace host)
    (unheld : index ∉ held) :
    PlayersAccounted base64 playbacks ∅ held (trace ++ [⟨.startKill index, ()⟩])
      (host.after ⟨.startKill index, ()⟩) := by
  have touched := accounted.touched (touches_kill index) subset_rfl (.inl rfl)
  rw [Set.sdiff_singleton_eq_self unheld] at touched
  exact touched.settled (fun _ found => killed_stopped found) unheld

theorem stopTask_settles (accounted : PlayersAccounted base64 playbacks ∅ held trace host)
    (mine : task.player ∈ held) :
    (stopTask task).Ensures HostStep Anywhere (fun _ trace host =>
      PlayersAccounted base64 playbacks ∅ (held \ {task.player}) trace host) trace host := by
  rintro _ after ⟨-, rfl⟩
  refine ⟨trivial, ?_⟩
  rintro _ after ⟨-, rfl⟩
  refine ⟨trivial, kill_settles ?_ fun member => member.2 rfl⟩
  exact accounted.touched (touches_shutdown _) (Set.empty_subset _) (.inr mine)

/-- A task that is given up is not open any more when its player is stopped. -/
theorem finishFailedTask_handles (distinct : OnePlayerEach tracker.playAudioTasks)
    (opened : Opened playbacks (tracker.playAudioTasks.erase taskId))
    (accounted : PlayersAccounted base64 playbacks ∅ (heldPlayers tracker.playAudioTasks) trace host)
    (found : tracker.playAudioTasks.lookup taskId = some task) (reason : String) :
    (finishFailedTask tracker taskId reason).Ensures HostStep Anywhere (Handles base64) trace
      host := by
  rw [finishFailedTask, found]
  refine (stopTask_settles accounted (mem_heldPlayers found)).bind ?_
  intro _ trace host accounted
  refine reply_handles ⟨distinct.erase, opened, ?_⟩ _ _
  rwa [heldPlayers_erase distinct found]

/-- An action that touches no player, opens and ends no task and never fails. -/
def Looks (action : AgentAction) : Prop :=
  ∀ answer : action.Answer, ¬ Fails ⟨action, answer⟩ ∧
    (∀ base64 playbacks, Playbacks.after base64 playbacks ⟨action, answer⟩ = playbacks) ∧
      ∀ host : Host, host.after ⟨action, answer⟩ = host

theorem look_keeps {action : AgentAction}
    (accounted : PlayersAccounted base64 playbacks loose held trace host) (looks : Looks action) :
    (act action).Ensures HostStep Anywhere
      (fun _ trace host => PlayersAccounted base64 playbacks loose held trace host) trace host := by
  rintro answer after ⟨-, rfl⟩
  obtain ⟨passes, kept, same⟩ := looks answer
  refine ⟨trivial, ?_⟩
  have quiet := accounted.quiet (same host) passes
  rw [kept] at quiet
  rw [same host]
  exact quiet

theorem looks_collectStderr (index : ℕ) : Looks (.collectStderr index) :=
  fun _ => ⟨id, fun _ _ => rfl, fun _ => rfl⟩

theorem looks_resolvePlaybackLauncher : Looks .resolvePlaybackLauncher :=
  fun _ => ⟨id, fun _ _ => rfl, fun _ => rfl⟩

/-- The player has ended, or is told to terminate when it does not end in time. -/
theorem finishTask_settles (accounted : PlayersAccounted base64 playbacks ∅ held trace host)
    (mine : task.player ∈ held) :
    (finishTask task).Ensures HostStep Anywhere (fun _ trace host =>
      PlayersAccounted base64 playbacks ∅ (held \ {task.player}) trace host) trace host := by
  have unheld : task.player ∉ held \ {task.player} := fun member => member.2 rfl
  rintro _ shut ⟨-, rfl⟩
  refine ⟨trivial, ?_⟩
  have inHand := accounted.touched (touches_shutdown _) (Set.empty_subset _) (.inr mine)
  rintro (waited : Waited) after ⟨-, rfl⟩
  refine ⟨trivial, ?_⟩
  have ended (ends : ∀ host : Host, host.after ⟨.wait task.player, waited⟩ =
      host.modify task.player fun old => { old with waited := true }) :
      PlayersAccounted base64 playbacks ∅ (held \ {task.player})
        (trace ++ [⟨.shutdownStdin task.player, ()⟩] ++ [⟨.wait task.player, waited⟩])
        ((host.after ⟨.shutdownStdin task.player, ()⟩).after ⟨.wait task.player, waited⟩) := by
    have touched := inHand.touched ⟨⟨id, fun _ _ => rfl⟩, _, ends⟩ subset_rfl (.inl rfl)
    rw [Set.sdiff_singleton_eq_self unheld] at touched
    refine touched.settled (fun player found => ?_) unheld
    rw [ends] at found
    have found : ((host.modify task.player fun old => { old with stdinShut := true }).modify
        task.player fun old => { old with waited := true })[task.player]? = some player := found
    rw [List.getElem?_modify_eq, List.getElem?_modify_eq] at found
    obtain ⟨shut, known, rfl⟩ := Option.map_eq_some_iff.mp found
    obtain ⟨old, -, rfl⟩ := Option.map_eq_some_iff.mp known
    exact .inr ⟨rfl, rfl⟩
  have look_ends {β : Type} {trace : Trace AgentHost} {host : Host} {result : String → β}
      (accounted : PlayersAccounted base64 playbacks ∅ (held \ {task.player}) trace host) :
      (act (.collectStderr task.player) >>= fun stderr => .done (result stderr)).Ensures HostStep
        Anywhere (fun _ trace host =>
          PlayersAccounted base64 playbacks ∅ (held \ {task.player}) trace host) trace host :=
    (look_keeps accounted (looks_collectStderr _)).bind fun _ _ _ kept => kept
  cases waited with
  | exited success status =>
    cases success with
    | true => exact ended fun _ => rfl
    | false => exact look_ends (ended fun _ => rfl)
  | failed error => exact look_ends (ended fun _ => rfl)
  | timedOut =>
    rintro _ killed ⟨-, rfl⟩
    refine ⟨trivial, ?_⟩
    have timedOut : ¬ Fails ⟨.wait task.player, Waited.timedOut⟩ := id
    have settled := kill_settles (inHand.quiet rfl timedOut) unheld
    rintro _ reaped ⟨-, rfl⟩
    exact ⟨trivial, look_ends (settled.quiet rfl id)⟩

/-- The message was read, and touched no player. -/
theorem PlayersAccounted.reads
    (accounted : PlayersAccounted base64 playbacks ∅ held trace host)
    (message : GatewayToAgentMessage) :
    PlayersAccounted base64 (playbacks.read base64 message) ∅ held
      (trace ++ [⟨.nextInput, .frame (.text (.ok message))⟩]) host :=
  accounted.quiet rfl id

theorem taskFinish_handles (tracked : Tracked base64 playbacks tracker trace host)
    (taskId : String) :
    (taskFinish tracker taskId).Ensures HostStep Anywhere (Handles base64)
      (trace ++ [⟨.nextInput, .frame (.text (.ok (.taskPlayAudioFinish taskId)))⟩]) host := by
  have accounted := tracked.accounted.reads (.taskPlayAudioFinish taskId)
  rw [taskFinish]
  cases found : tracker.playAudioTasks.lookup taskId with
  | some task =>
    refine (finishTask_settles accounted (mem_heldPlayers found)).bind ?_
    intro outcome trace host settled
    rw [← heldPlayers_erase tracked.distinct found] at settled
    have removed : Tracked base64 (playbacks.read base64 (.taskPlayAudioFinish taskId))
        ⟨tracker.playAudioTasks.erase taskId, tracker.failedPlayAudioStarts.erase taskId⟩ trace
        host := ⟨tracked.distinct.erase, tracked.opened.erase taskId, settled⟩
    exact reply_handles removed _ _
  | none =>
    have removed : Tracked base64 (playbacks.read base64 (.taskPlayAudioFinish taskId))
        ⟨tracker.playAudioTasks.erase taskId, tracker.failedPlayAudioStarts.erase taskId⟩
        (trace ++ [⟨.nextInput, .frame (.text (.ok (.taskPlayAudioFinish taskId)))⟩]) host := by
      refine ⟨tracked.distinct.erase, tracked.opened.erase taskId, ?_⟩
      rw [heldPlayers_erase_absent found]
      exact accounted
    dsimp only
    split_ifs
    · exact ⟨_, removed⟩
    · exact reply_handles removed _ _

/-- A player that is started is tracked under its own task, and the task is open. -/
theorem startPlaybackTask_starts (tracked : Tracked base64 playbacks tracker trace host)
    (absent : tracker.playAudioTasks.lookup taskId = none)
    (handled : playbacks.handled = some taskId) (format : Option AudioFormat) :
    (startPlaybackTask format).Ensures HostStep Anywhere
      (fun started trace host => ∃ playbacks, match started with
        | .ok task => Tracked base64 playbacks ⟨tracker.playAudioTasks.insert taskId task,
            tracker.failedPlayAudioStarts.erase taskId⟩ trace host
        | .error _ => Tracked base64 playbacks tracker trace host) trace host := by
  refine (look_keeps tracked.accounted looks_resolvePlaybackLauncher).bind ?_
  intro (launcher : PlaybackLauncher) trace host accounted
  split
  · exact ⟨playbacks, tracked.distinct, tracked.opened, accounted⟩
  · rename_i command built
    rintro (started : Except String ℕ) after ⟨fresh, rfl⟩
    refine ⟨trivial, ?_⟩
    cases started with
    | error error => exact ⟨playbacks, tracked.distinct, tracked.opened, accounted.quiet rfl id⟩
    | ok player =>
      have fresh : player = host.length := fresh
      subst fresh
      refine ⟨playbacks.after base64 ⟨.spawn command, .ok host.length⟩,
        tracked.distinct.insert_new fun member => ?_, fun otherId => ?_, ?_⟩
      · exact absurd (accounted.bounded member) (lt_irrefl _)
      · change otherId ∈ playbacks.tasks ∪ playbacks.handled.toFinset ↔
          otherId ∈ tracker.playAudioTasks.insert taskId _
        rw [Finset.mem_union, Option.mem_toFinset, handled, Option.mem_some_iff, AList.mem_insert,
          tracked.opened otherId, or_comm, eq_comm]
      · rw [heldPlayers_insert_new absent]
        exact accounted.spawned command

theorem taskStart_handles (tracked : Tracked base64 playbacks tracker trace host) (taskId : String)
    (format : Option AudioFormat) :
    (taskStart tracker taskId format).Ensures HostStep Anywhere (Handles base64)
      (trace ++ [⟨.nextInput, .frame (.text (.ok (.taskPlayAudioStart taskId format)))⟩]) host := by
  have read : Tracked base64 (playbacks.read base64 (.taskPlayAudioStart taskId format)) tracker
      (trace ++ [⟨.nextInput, .frame (.text (.ok (.taskPlayAudioStart taskId format)))⟩]) host :=
    ⟨tracked.distinct, tracked.opened, tracked.accounted.reads _⟩
  rw [taskStart]
  cases found : tracker.playAudioTasks.lookup taskId with
  | some task => exact reply_handles read _ _
  | none =>
    refine (startPlaybackTask_starts read found rfl format).bind ?_
    rintro started trace host ⟨playbacks, outcome⟩
    cases started with
    | ok task => exact reply_handles outcome _ _
    | error error =>
      have kept : Tracked base64 playbacks
          ⟨tracker.playAudioTasks, insert taskId tracker.failedPlayAudioStarts⟩ trace host :=
        ⟨outcome.distinct, outcome.opened, outcome.accounted⟩
      exact reply_handles kept _ _

theorem taskChunk_handles (tracked : Tracked base64 playbacks tracker trace host)
    (taskId dataBase64 : String) :
    (taskChunk base64 tracker taskId dataBase64).Ensures HostStep Anywhere (Handles base64)
      (trace ++ [⟨.nextInput, .frame (.text (.ok (.taskPlayAudioChunk taskId dataBase64)))⟩])
      host := by
  have accounted := tracked.accounted.reads (.taskPlayAudioChunk taskId dataBase64)
  rw [Playbacks.read] at accounted
  rw [taskChunk]
  cases found : tracker.playAudioTasks.lookup taskId with
  | some task =>
    cases decoded : base64.decode dataBase64 with
    | error error =>
      rw [decoded] at accounted
      exact finishFailedTask_handles tracked.distinct (tracked.opened.erase taskId) accounted found _
    | ok bytes =>
      rw [decoded] at accounted
      rintro (written : Except String Unit) after ⟨-, rfl⟩
      refine ⟨trivial, ?_⟩
      have passes : ¬ Fails ⟨.writeAll task.player bytes, written⟩ := id
      have wrote := accounted.quiet rfl passes
      cases written with
      | error error =>
        refine finishFailedTask_handles tracked.distinct (fun otherId => ?_) wrote found _
        change otherId ∈ playbacks.tasks \ Option.toFinset (some taskId) ↔ _
        rw [Finset.mem_sdiff, Option.toFinset_some, Finset.mem_singleton, AList.mem_erase,
          tracked.opened otherId, and_comm]
      | ok _ =>
        let written : PlaybackTask :=
          ⟨task.player, task.chunkCount + 1, task.byteCount + bytes.length⟩
        have same : written.player = task.player := rfl
        have present : taskId ∈ tracker.playAudioTasks := AList.lookup_isSome.mp (found ▸ rfl)
        refine ⟨⟨some taskId, playbacks.tasks⟩, tracked.distinct.insert_same found same,
          fun otherId => ?_, ?_⟩
        · rw [AList.mem_insert, tracked.opened otherId]
          exact (or_iff_right_of_imp fun same => same ▸ present).symm
        · change PlayersAccounted base64 _ ∅
            (heldPlayers (tracker.playAudioTasks.insert taskId written)) _ _
          rw [heldPlayers_insert_same found same]
          exact wrote
  | none =>
    have absent : taskId ∉ playbacks.tasks := fun member =>
      AList.lookup_eq_none.mp found ((tracked.opened taskId).mp member)
    have unopened : (playbacks.read base64 (.taskPlayAudioChunk taskId dataBase64)).tasks =
        playbacks.tasks := by
      rw [Playbacks.read]
      cases base64.decode dataBase64 with
      | ok bytes => rfl
      | error error => exact Finset.erase_eq_of_notMem absent
    have read : Tracked base64 (playbacks.read base64 (.taskPlayAudioChunk taskId dataBase64))
        tracker _ host :=
      ⟨tracked.distinct, fun otherId => unopened ▸ tracked.opened otherId, accounted⟩
    dsimp only
    split_ifs
    · exact ⟨_, read⟩
    · exact reply_handles read _ _

/-- A message that is not about a playback task. -/
theorem Tracked.reads (tracked : Tracked base64 playbacks tracker trace host)
    {message : GatewayToAgentMessage} (apart : playbacks.read base64 message = playbacks) :
    Tracked base64 playbacks tracker
      (trace ++ [⟨.nextInput, .frame (.text (.ok message))⟩]) host := by
  have accounted := tracked.accounted.reads message
  rw [apart] at accounted
  exact ⟨tracked.distinct, tracked.opened, accounted⟩

theorem handleGatewayMessage_handles (tracked : Tracked base64 playbacks tracker trace host)
    (message : GatewayToAgentMessage) :
    (handleGatewayMessage base64 tracker message).Ensures HostStep Anywhere (Handles base64)
      (trace ++ [⟨.nextInput, .frame (.text (.ok message))⟩]) host := by
  cases message with
  | helloOk serverName => exact ⟨playbacks, tracked.reads rfl⟩
  | ping => exact reply_handles (tracked.reads rfl) _ _
  | sessionStart sessionId request =>
    refine (reply_handles (tracked.reads rfl) _ _).bind ?_
    intro handled trace host kept
    cases handled with
    | error error => exact kept
    | ok tracker =>
      obtain ⟨playbacks, kept⟩ := kept
      exact reply_handles kept _ _
  | sessionAudio sessionId dataBase64 => exact reply_handles (tracked.reads rfl) _ _
  | sessionCommit sessionId => exact reply_handles (tracked.reads rfl) _ _
  | sessionStop sessionId => exact reply_handles (tracked.reads rfl) _ _
  | taskPlayAudioStart taskId format => exact taskStart_handles tracked taskId format
  | taskPlayAudioChunk taskId dataBase64 => exact taskChunk_handles tracked taskId dataBase64
  | taskPlayAudioFinish taskId => exact taskFinish_handles tracked taskId

end Handlers

/-! ## The cleanup -/

theorem abortTasks_settles {taskIds : List String} {tasks : Table String PlaybackTask}
    (distinct : OnePlayerEach tasks)
    (listed : ∀ taskId, tasks.lookup taskId ≠ none → taskId ∈ taskIds)
    (accounted : PlayersAccounted base64 playbacks ∅ (heldPlayers tasks) trace host) :
    (abortTasks taskIds tasks).Ensures HostStep Anywhere
      (fun _ trace host => PlayersAccounted base64 playbacks ∅ ∅ trace host) trace host := by
  induction taskIds generalizing tasks trace host with
  | nil =>
    have none : heldPlayers tasks = ∅ := by
      rw [Set.eq_empty_iff_forall_notMem]
      rintro index ⟨taskId, task, found, -⟩
      exact List.not_mem_nil (listed taskId (by simp [found]))
    rw [none] at accounted
    exact accounted
  | cons taskId rest ih =>
    rw [abortTasks]
    cases found : tasks.lookup taskId with
    | some task =>
      refine (stopTask_settles accounted (mem_heldPlayers found)).bind ?_
      intro _ trace host settled
      rw [← heldPlayers_erase distinct found] at settled
      refine ih distinct.erase (fun otherId kept => ?_) settled
      obtain ⟨other, present⟩ := Option.ne_none_iff_exists'.mp kept
      obtain ⟨apart, present⟩ := lookup_erase_some present
      exact (List.mem_cons.mp (listed otherId (by simp [present]))).resolve_left apart
    | none =>
      refine ih distinct (fun otherId kept => ?_) accounted
      refine (List.mem_cons.mp (listed otherId kept)).resolve_left ?_
      rintro rfl
      exact kept found

/-! ## Runs -/

/-- What is known when a procedure is entered. -/
def PlaybackAt (base64 : Base64) : Procedure → Trace AgentHost → Host → Prop
  | .loop tracker, trace, host => ∃ playbacks, Tracked base64 playbacks tracker trace host
  | .waitHelloOk, trace, host =>
      ∃ playbacks : Playbacks, playbacks.tasks = ∅ ∧
        PlayersAccounted base64 playbacks ∅ ∅ trace host
  | .runOnce, trace, host | .returned _, trace, host => Dropped base64 trace host

def Never (_ : Trace AgentHost) (_ : Host) : Prop := False

section Procedures

variable {tracker : TaskTracker}

theorem abortAll_exits (tracked : Tracked base64 playbacks tracker trace host) :
    (abortAllPlaybackTasks tracker).Ensures HostStep Anywhere (Exits (PlaybackAt base64) Never)
      trace host := by
  refine (abortTasks_settles tracked.distinct (fun taskId kept => ?_) tracked.accounted).bind ?_
  · rw [← AList.mem_keys]
    by_contra absent
    exact kept (AList.lookup_eq_none.mpr absent)
  · exact fun _ _ _ settled => ⟨playbacks, settled⟩

theorem afterHandling_exits {handled : Handled} (handles : Handles base64 handled trace host) :
    (Code.done (some (afterHandling handled)) : Program (Option Procedure)).Ensures HostStep
      Anywhere (Exits (PlaybackAt base64) Never) trace host := by
  cases handled with
  | ok tracker => exact handles
  | error error => exact handles

/-- The input that the loop goes on from was read, and touched no player. -/
theorem Tracked.read {input : Model.DeviceInput}
    (tracked : Tracked base64 playbacks tracker trace host) (passes : ¬ Fails ⟨.nextInput, input⟩)
    (apart : playbacks.after base64 ⟨.nextInput, input⟩ = playbacks) :
    Tracked base64 playbacks tracker (trace ++ [⟨.nextInput, input⟩]) host := by
  have accounted := tracked.accounted.quiet rfl passes
  rw [apart] at accounted
  exact ⟨tracked.distinct, tracked.opened, accounted⟩

theorem loop_exits (tracked : Tracked base64 playbacks tracker trace host) :
    (loop base64 tracker).Ensures HostStep Anywhere (Exits (PlaybackAt base64) Never) trace
      host := by
  rintro (input : Model.DeviceInput) after ⟨-, rfl⟩
  refine ⟨trivial, ?_⟩
  cases input with
  | frame frame =>
    cases frame with
    | ended => exact abortAll_exits (tracked.read id rfl)
    | close => exact abortAll_exits (tracked.read id rfl)
    | failed error =>
      exact ⟨_, tracked.accounted.fails rfl trivial tracked.opened.heldPlayers_eq_empty⟩
    | text message =>
      cases message with
      | error error =>
        exact ⟨_, tracked.accounted.fails rfl trivial tracked.opened.heldPlayers_eq_empty⟩
      | ok message =>
        exact (handleGatewayMessage_handles tracked message).bind
          fun _ _ _ handles => afterHandling_exits handles
    | ping payload =>
      exact (reply_handles (tracked.read id rfl) _ _).bind
        fun _ _ _ handles => afterHandling_exits handles
    | binary bytes => exact ⟨playbacks, tracked.read id rfl⟩
    | pong => exact ⟨playbacks, tracked.read id rfl⟩
  | heartbeat elapsed =>
    cases elapsed with
    | true => exact abortAll_exits (tracked.read id rfl)
    | false =>
      rintro (sent : Bool) after ⟨-, rfl⟩
      refine ⟨trivial, ?_⟩
      have due : ¬ Fails ⟨.nextInput, .heartbeat false⟩ := id
      have beaten : ¬ Fails ⟨.sendHeartbeat, sent⟩ := id
      have accounted := (tracked.read due rfl).accounted.quiet rfl beaten
      cases sent with
      | true => exact ⟨playbacks, tracked.distinct, tracked.opened, accounted⟩
      | false => exact abortAll_exits ⟨tracked.distinct, tracked.opened, accounted⟩

/-- Where no task is open, nothing is lost with the connection. -/
theorem PlayersAccounted.fails_early (accounted : PlayersAccounted base64 playbacks ∅ ∅ trace host)
    (closed : playbacks.tasks = ∅) (same : host.after entry = host) (fails : Fails entry) :
    Dropped base64 (trace ++ [entry]) host :=
  ⟨_, accounted.fails same fails (iff_of_true rfl closed)⟩

theorem runOnce_exits (hello : AgentHelloPayload) (dropped : Dropped base64 trace host) :
    (runOnce hello).Ensures HostStep Anywhere (Exits (PlaybackAt base64) Never) trace host := by
  obtain ⟨playbacks, accounted⟩ := dropped
  rintro (connected : Except String Unit) after ⟨-, rfl⟩
  refine ⟨trivial, ?_⟩
  have passes : ¬ Fails ⟨.connect, connected⟩ := id
  have begun := accounted.quiet rfl passes
  cases connected with
  | error error => exact ⟨_, begun⟩
  | ok _ =>
    rintro (sent : Bool) after ⟨-, rfl⟩
    refine ⟨trivial, ?_⟩
    cases sent with
    | true => exact ⟨{}, rfl, begun.quiet rfl id⟩
    | false => exact begun.fails_early rfl rfl trivial

theorem waitHelloOk_exits (accounted : PlayersAccounted base64 playbacks ∅ ∅ trace host)
    (closed : playbacks.tasks = ∅) :
    waitHelloOk.Ensures HostStep Anywhere (Exits (PlaybackAt base64) Never) trace host := by
  rintro (frame : Model.Incoming GatewayToAgentMessage) after ⟨-, rfl⟩
  refine ⟨trivial, ?_⟩
  cases frame with
  | text message =>
    cases message with
    | error error => exact accounted.fails_early closed rfl trivial
    | ok message =>
      have read : ¬ Fails ⟨.nextFrame, .text (.ok message)⟩ := id
      cases message with
      | helloOk serverName =>
        refine ⟨playbacks, onePlayerEach_empty, fun taskId => ?_, ?_⟩
        · rw [closed]
          exact iff_of_false (Finset.notMem_empty _) (AList.notMem_empty _)
        · rw [heldPlayers_empty]
          exact accounted.quiet rfl read
      | _ => exact ⟨playbacks, closed, accounted.quiet rfl read⟩
  | failed error => exact accounted.fails_early closed rfl trivial
  | close => exact accounted.fails_early closed rfl trivial
  | ended => exact accounted.fails_early closed rfl trivial
  | ping payload => exact ⟨playbacks, closed, accounted.quiet rfl id⟩
  | pong => exact ⟨playbacks, closed, accounted.quiet rfl id⟩
  | binary bytes => exact ⟨playbacks, closed, accounted.quiet rfl id⟩

theorem body_exits (base64 : Base64) (hello : AgentHelloPayload) (procedure : Procedure)
    (entered : PlaybackAt base64 procedure trace host) :
    (body base64 hello procedure).Ensures HostStep Anywhere (Exits (PlaybackAt base64) Never) trace
      host := by
  cases procedure with
  | runOnce => exact runOnce_exits hello entered
  | waitHelloOk =>
    obtain ⟨playbacks, closed, accounted⟩ := entered
    exact waitHelloOk_exits accounted closed
  | loop tracker =>
    obtain ⟨playbacks, tracked⟩ := entered
    exact loop_exits tracked
  | returned result =>
    obtain ⟨playbacks, accounted⟩ := entered
    rintro _ after ⟨-, rfl⟩
    exact ⟨trivial, playbacks, accounted.quiet rfl id⟩

end Procedures

/-- `run_forever` from its start until `run_once` has just returned. -/
def Returns (base64 : Base64) (hello : AgentHelloPayload) (trace : Trace AgentHost)
    (result : Except String Unit) (host : Host) : Prop :=
  Serves (body base64 hello) HostStep (.done (some .runOnce)) [] trace
    (.done (some (.returned result))) host

/-- Whenever `run_once` returns, however often the agent connected, no player that was started
plays on exactly if no connection was left through an error while a task was open on it. -/
theorem nothingPlays_iff_neverAbandons {base64 : Base64} {hello : AgentHelloPayload}
    {result : Except String Unit} (returns : Returns base64 hello trace result host) :
    NothingPlays host ↔ NeverAbandons base64 trace := by
  have start : (Code.done (some .runOnce) : Program (Option Procedure)).Ensures HostStep Anywhere
      (Exits (PlaybackAt base64) Never) [] [] := ⟨{}, accounted_nil⟩
  have reached := Serves.ensures (fun procedure _ _ => body_exits base64 hello procedure) returns
    (trivial : Anywhere [] []) start
  rw [List.nil_append] at reached
  obtain ⟨-, playbacks, -, -, lost, playing, -, empty⟩ := reached
  rw [nothingPlays_iff, ← empty]
  have all : StillPlaying host = lost := Set.ext fun index => by
    simpa using playing index (Set.notMem_empty _)
  rw [all]

/-! ## Two runs -/

def padHello : AgentHelloPayload where
  agentId := "pad-agent"
  agentName := "pad"
  agentKind := .device

/-- The agent connects and starts to play a task. -/
def startsToPlay : Trace AgentHost :=
  [⟨.connect, .ok ()⟩, ⟨.send (.hello padHello), true⟩,
    ⟨.nextFrame, .text (.ok (.helloOk "speechmeshd"))⟩,
    ⟨.nextInput, .frame (.text (.ok (.taskPlayAudioStart "t1" none)))⟩,
    ⟨.resolvePlaybackLauncher, .shellCommand "player"⟩, ⟨.spawn ["sh", "-lc", "player"], .ok 0⟩,
    ⟨.send (.taskStatus "t1" ⟨.started, some "play_audio started with local default output"⟩),
      true⟩]

def playingTracker : TaskTracker := ⟨AList.insert "t1" ⟨0, 0, 0⟩ ∅, ∅⟩

/-- The run is then at its loop, with the task in its tracker. -/
theorem startsToPlay_loops (base64 : Base64) {further : Trace AgentHost} {last : Host}
    {code : Program (Option Procedure)}
    (rest : Serves (body base64 padHello) HostStep (loop base64 playingTracker) [{}] further
      code last) :
    Serves (body base64 padHello) HostStep (.done (some .runOnce)) [] (startsToPlay ++ further)
      code last := by
  refine .enter (.act ⟨trivial, rfl⟩ (.act ⟨trivial, rfl⟩ (.enter ?_)))
  refine .act ⟨trivial, rfl⟩ (.enter ?_)
  refine .act ⟨trivial, rfl⟩ (.act ⟨trivial, rfl⟩ (.act ⟨rfl, rfl⟩ (.act ⟨trivial, rfl⟩ ?_)))
  exact .enter rest

/-- The task is finished, and the connection breaks when the player has ended. -/
def finishesFirst : Trace AgentHost :=
  [⟨.nextInput, .frame (.text (.ok (.taskPlayAudioFinish "t1")))⟩, ⟨.shutdownStdin 0, ()⟩,
    ⟨.wait 0, .exited true "exit status: 0"⟩,
    ⟨.send (.taskStatus "t1" ⟨.finished, some "play_audio finished (chunks=0, bytes=0)"⟩), true⟩,
    ⟨.nextInput, .frame (.failed "connection reset")⟩]

theorem finishesFirst_returns (base64 : Base64) : Returns base64 padHello
    (startsToPlay ++ finishesFirst) (.error "failed reading gateway frame")
    [⟨true, true, false⟩] := by
  refine startsToPlay_loops base64 (.act ⟨trivial, rfl⟩ (.act ⟨trivial, rfl⟩ ?_))
  refine .act ⟨trivial, rfl⟩ (.act ⟨trivial, rfl⟩ (.enter ?_))
  exact .act ⟨trivial, rfl⟩ (.stop _ _)

theorem finishesFirst_neverAbandons :
    NeverAbandons base64Standard (startsToPlay ++ finishesFirst) := by
  apply (nothingPlays_iff_neverAbandons (finishesFirst_returns base64Standard)).mp
  unfold NothingPlays
  decide

/-- The connection breaks: `?` leaves the run, and the player plays on. -/
theorem broken_playsOn :
    ¬ ∀ (base64 : Base64) (hello : AgentHelloPayload) (trace : Trace AgentHost)
      (result : Except String Unit) (host : Host),
      Returns base64 hello trace result host → NothingPlays host := by
  intro stops
  have broken (base64 : Base64) : Returns base64 padHello
      (startsToPlay ++ [⟨.nextInput, .frame (.failed "connection reset")⟩])
      (.error "failed reading gateway frame") [{}] :=
    startsToPlay_loops base64 (.act ⟨trivial, rfl⟩ (.stop _ _))
  have stopped := stops _ _ _ _ _ (broken base64Standard)
  exact absurd (stopped {} (List.mem_singleton_self _)) (by decide)

end SpeechMesh.Soundness
