import SpeechMesh.Async.Contract
import SpeechMesh.Model.AppleBridge

/-! # How a session of the Apple bridge ends

The guard of `end` lets one call through, so that the end is written once. Nothing checks the guard
before a callback is written for, and a callback that waits while the end is written, or comes after
it, is written for behind the end.
-/

namespace SpeechMesh.Soundness

open Async Model.AppleBridge

/-! ## The frames of an ended session -/

def EndWritten (frames : List Frame) : Prop := ∃ frame ∈ frames, frame.isEnd = true

/-- Nothing that the recogniser reports, and no second end, follows an end. -/
def NothingAfterEnd (frames : List Frame) : Prop :=
  frames.Pairwise fun earlier later =>
    earlier.isEnd = true → later.isEnd = false ∧ later.isOutcome = false

/-- A call of `end` that got past its guard has come to its end: then the session has ended. -/
structure EndsOnceAndLast (state : SessionState) : Prop where
  once : state.closed = true → state.frames.countP Frame.isEnd = 1
  last : NothingAfterEnd state.frames

variable {frames : List Frame} {frame : Frame}

theorem endWritten_append : EndWritten (frames ++ [frame]) ↔
    EndWritten frames ∨ frame.isEnd = true := by
  simp only [EndWritten, List.mem_append, List.mem_singleton, or_and_right, exists_or,
    exists_eq_left]

theorem nothingAfterEnd_append : NothingAfterEnd (frames ++ [frame]) ↔ NothingAfterEnd frames ∧
    (EndWritten frames → frame.isEnd = false ∧ frame.isOutcome = false) := by
  rw [NothingAfterEnd, List.pairwise_append]
  constructor
  · rintro ⟨before, -, across⟩
    exact ⟨before, fun ⟨last, member, ends⟩ => across last member frame
      (List.mem_singleton_self _) ends⟩
  · rintro ⟨before, after⟩
    refine ⟨before, List.pairwise_singleton _ _, fun last member other same ends => ?_⟩
    rw [List.mem_singleton.mp same]
    exact after ⟨last, member, ends⟩

theorem NothingAfterEnd.countP_le (last : NothingAfterEnd frames) :
    frames.countP Frame.isEnd ≤ 1 := by
  induction frames with
  | nil => exact Nat.zero_le _
  | cons first rest ih =>
    obtain ⟨after, before⟩ := List.pairwise_cons.mp last
    rw [List.countP_cons]
    split
    · rename_i ends
      have none : rest.countP Frame.isEnd = 0 :=
        List.countP_eq_zero.mpr fun later member => by simp [(after later member ends).1]
      omega
    · exact ih before

theorem NothingAfterEnd.countP_eq (last : NothingAfterEnd frames) (written : EndWritten frames) :
    frames.countP Frame.isEnd = 1 := by
  have bound := last.countP_le
  have positive : 0 < frames.countP Frame.isEnd := List.countP_pos_iff.mpr written
  omega

/-! ## The steps that are in time -/

/-- When the end is written, every callback has been written for. -/
def WritesInTime (state : SessionState) : BridgeAction → Prop
  | .write frame => frame.isEnd = true → state.pending = ∅
  | _ => True

/-- A callback that something is written for comes before the end is written. -/
def CallsInTime (state : SessionState) : SessionState.Event → Prop
  | .callback callback => callback.hasOutcome = true → ¬ EndWritten state.frames
  | _ => True

def InTime {sessionId : String} (world : World (bridge sessionId))
    (choice : Choice (bridge sessionId)) : Prop :=
  world.OnAction (fun _ _ state action => WritesInTime state action) choice ∧
    world.OnEvent CallsInTime choice

/-! ## Steps of the state -/

variable {sessionId : String} {state after : SessionState} {task size index : ℕ}
  {action : BridgeAction} {answer : action.Answer} {event : SessionState.Event}
  {spawned : List Procedure}

/-- What a task may be about to write. -/
def BridgeGuar (task : ℕ) (state : SessionState) : BridgeAction → Prop
  | .write frame => (frame.isOutcome = true → task ∈ state.pending) ∧
      (frame.isEnd = true → state.ender = some task ∧ ¬ EndWritten state.frames)
  | .onEnd => EndWritten state.frames
  | _ => True

structure BridgeInvariant (state : SessionState) : Prop where
  last : NothingAfterEnd state.frames
  settled : EndWritten state.frames → state.pending = ∅
  claimed : EndWritten state.frames → state.ended = true
  owned : state.ender.isSome = true → state.ended = true
  closed : state.closed = true → EndWritten state.frames

/-- What a task relies on: it stays accounted for until it has written, and nobody ends the session
in its place. -/
def BridgeRely (index : ℕ) (before after : SessionState) : Prop :=
  (index ∈ before.pending → index ∈ after.pending) ∧
    (before.ender = some index → after.ender = some index ∧
      (EndWritten after.frames ↔ EndWritten before.frames))

/-- The frames written, the tasks that are still to end the session and its flags stay as they are. -/
structure KeepsSession (before after : SessionState) : Prop where
  frames : after.frames = before.frames
  pending : after.pending = before.pending
  ended : after.ended = before.ended
  ender : after.ender = before.ender
  closed : after.closed = before.closed

/-- Past the guard, before the end is written. -/
def Claimed (index : ℕ) (state : SessionState) : Prop :=
  state.ender = some index ∧ ¬ EndWritten state.frames

def Ended (index : ℕ) (state : SessionState) : Prop :=
  state.ender = some index ∧ EndWritten state.frames

theorem claim_cases (state : SessionState) (task : ℕ) :
    (state.ended = true ∧ state.claim task = (state, false)) ∨
    (state.ended = false ∧
      state.claim task = ({ state with ended := true, ender := some task }, true)) := by
  rw [SessionState.claim]
  cases ended : state.ended with
  | true => exact .inl ⟨rfl, rfl⟩
  | false => exact .inr ⟨rfl, rfl⟩

/-- Everything an action can do to the session. -/
theorem session_cases (ran : state.exec task action = some (after, answer)) :
    (∃ frame, action = .write frame ∧ after = state.written task frame) ∨
    (action = .onEnd ∧ after = { state with registered := false, closed := true }) ∨
    after = (state.claim task).1 ∨ KeepsSession state after := by
  cases action with
  | write frame =>
    cases ran
    exact .inl ⟨frame, rfl, rfl⟩
  | onEnd =>
    cases ran
    exact .inr (.inl ⟨rfl, rfl⟩)
  | claimEnd => exact .inr (.inr (.inl (congrArg Prod.fst (Option.some.inj ran)).symm))
  | stopSession =>
    simp only [SessionState.exec] at ran
    split at ran
    · exact .inr (.inr (.inl (congrArg Prod.fst (Option.some.inj ran)).symm))
    · cases ran
      exact .inr (.inr (.inr ⟨rfl, rfl, rfl, rfl, rfl⟩))
  | nextLine =>
    simp only [SessionState.exec] at ran
    split at ran <;> split at ran <;> cases ran <;>
      exact .inr (.inr (.inr ⟨rfl, rfl, rfl, rfl, rfl⟩))
  | nextSequence | commitSession | removeSession | beginShutdown =>
    cases ran
    exact .inr (.inr (.inr ⟨rfl, rfl, rfl, rfl, rfl⟩))

theorem BridgeInvariant.unclaimed (inv : BridgeInvariant state) (running : state.ended = false) :
    ¬ EndWritten state.frames ∧ state.ender = none := by
  constructor
  · intro written
    exact absurd (inv.claimed written) (by simp [running])
  · cases owner : state.ender with
    | none => rfl
    | some task => exact absurd (inv.owned (by rw [owner]; rfl)) (by simp [running])

/-- Getting past the guard. -/
theorem BridgeInvariant.claimed_of (inv : BridgeInvariant state)
    (ran : state.claim task = (after, true)) : Claimed task after := by
  rcases claim_cases state task with ⟨-, same⟩ | ⟨running, same⟩
  · cases same.symm.trans ran
  · cases same.symm.trans ran
    exact ⟨rfl, (inv.unclaimed running).1⟩

theorem BridgeInvariant.claim (inv : BridgeInvariant state) (task : ℕ) :
    BridgeInvariant (state.claim task).1 := by
  rcases claim_cases state task with ⟨-, same⟩ | ⟨running, same⟩
  · rw [same]
    exact inv
  · rw [same]
    exact ⟨inv.last, inv.settled, fun _ => rfl, fun _ => rfl, inv.closed⟩

theorem BridgeInvariant.written (inv : BridgeInvariant state) {frame : Frame}
    (inTime : frame.isEnd = true → state.pending = ∅)
    (guar : BridgeGuar task state (.write frame)) :
    BridgeInvariant (state.written task frame) := by
  obtain ⟨accounted, owns⟩ := guar
  have outcome_or_end : ¬ (frame.isOutcome = true ∧ frame.isEnd = true) := by
    cases frame <;> simp [Frame.isOutcome, Frame.isEnd]
  constructor
  case last =>
    refine nothingAfterEnd_append.mpr ⟨inv.last, fun written => ⟨?_, ?_⟩⟩
    · by_contra ends
      exact (owns (by simpa using ends)).2 written
    · by_contra outcome
      have waiting := accounted (by simpa using outcome)
      rw [inv.settled written] at waiting
      exact absurd waiting (Finset.notMem_empty _)
  case settled =>
    intro written
    have empty : state.pending = ∅ := by
      rcases endWritten_append.mp written with before | ends
      · exact inv.settled before
      · exact inTime ends
    simp [SessionState.written, empty]
  case claimed =>
    intro written
    rcases endWritten_append.mp written with before | ends
    · exact inv.claimed before
    · exact inv.owned (by rw [(owns ends).1]; rfl)
  case owned => exact inv.owned
  case closed => exact fun closed => endWritten_append.mpr (.inl (inv.closed closed))

theorem BridgeInvariant.kept (inv : BridgeInvariant state) (kept : KeepsSession state after) :
    BridgeInvariant after := by
  constructor
  case last => rw [kept.frames]; exact inv.last
  case settled => rw [kept.frames, kept.pending]; exact inv.settled
  case claimed => rw [kept.frames, kept.ended]; exact inv.claimed
  case owned => rw [kept.ender, kept.ended]; exact inv.owned
  case closed => rw [kept.closed, kept.frames]; exact inv.closed

theorem BridgeInvariant.exec (inv : BridgeInvariant state)
    (inTime : WritesInTime state action) (guar : BridgeGuar task state action)
    (ran : state.exec task action = some (after, answer)) : BridgeInvariant after := by
  rcases session_cases ran with ⟨frame, rfl, rfl⟩ | ⟨rfl, rfl⟩ | rfl | kept
  · exact inv.written inTime guar
  · exact ⟨inv.last, inv.settled, inv.claimed, inv.owned, fun _ => guar⟩
  · exact inv.claim task
  · exact inv.kept kept

theorem BridgeInvariant.occur (inv : BridgeInvariant state) (inTime : CallsInTime state event)
    (occurred : state.occur size event = some (after, spawned)) : BridgeInvariant after := by
  cases event with
  | callback callback =>
    cases occurred
    refine ⟨inv.last, fun written => ?_, inv.claimed, inv.owned, inv.closed⟩
    dsimp only
    split_ifs with outcome
    · exact absurd written (inTime outcome)
    · exact inv.settled written
  | line command =>
    cases occurred
    exact ⟨inv.last, inv.settled, inv.claimed, inv.owned, inv.closed⟩
  | closeInput =>
    cases occurred
    exact ⟨inv.last, inv.settled, inv.claimed, inv.owned, inv.closed⟩

/-! ## What the other tasks rely on -/

theorem KeepsSession.rely (kept : KeepsSession state after) : BridgeRely index state after := by
  rw [BridgeRely, kept.pending, kept.ender, kept.frames]
  exact ⟨id, fun owner => ⟨owner, Iff.rfl⟩⟩

theorem BridgeInvariant.rely (inv : BridgeInvariant state) (guar : BridgeGuar task state action)
    (ran : state.exec task action = some (after, answer)) (other : index ≠ task) :
    BridgeRely index state after := by
  rcases session_cases ran with ⟨frame, rfl, rfl⟩ | ⟨rfl, rfl⟩ | rfl | kept
  · constructor
    · intro waiting
      simp only [SessionState.written]
      split_ifs
      · exact Finset.mem_erase.mpr ⟨other, waiting⟩
      · exact waiting
    · intro owner
      refine ⟨owner, endWritten_append.trans (or_iff_left ?_)⟩
      intro ends
      exact other (Option.some.inj (owner.symm.trans (guar.2 ends).1))
  · exact ⟨id, fun owner => ⟨owner, Iff.rfl⟩⟩
  · rcases claim_cases state task with ⟨-, same⟩ | ⟨running, same⟩
    · rw [same]
      exact ⟨id, fun owner => ⟨owner, Iff.rfl⟩⟩
    · rw [same]
      refine ⟨id, fun owner => ?_⟩
      rw [(inv.unclaimed running).2] at owner
      cases owner
  · exact kept.rely

theorem bridgeRely_occur (occurred : state.occur size event = some (after, spawned)) :
    BridgeRely index state after := by
  cases event with
  | callback callback =>
    cases occurred
    refine ⟨fun waiting => ?_, fun owner => ⟨owner, Iff.rfl⟩⟩
    dsimp only
    split_ifs
    · exact Finset.mem_insert_of_mem waiting
    · exact waiting
  | line command | closeInput =>
    cases occurred
    exact ⟨id, fun owner => ⟨owner, Iff.rfl⟩⟩

/-! ## The contract -/

/-- A callback that something is written for is accounted for when it begins. -/
def BridgePre (index : ℕ) : Procedure → SessionState → Prop
  | .callback callback, state => callback.hasOutcome = true → index ∈ state.pending
  | _, _ => True

def sessionContract (sessionId : String) : Contract (bridge sessionId) where
  allowed _ _ action before _ := WritesInTime before action
  enters _ _ _ := True
  occurs := CallsInTime
  inv _ := BridgeInvariant
  rely := BridgeRely
  pre := BridgePre
  guar index _ action before _ := BridgeGuar index before action
  rely_refl _ _ := ⟨id, fun owner => ⟨owner, Iff.rfl⟩⟩
  rely_trans := by
    rintro index first middle last ⟨waits, owns⟩ ⟨waits', owns'⟩
    refine ⟨waits' ∘ waits, fun owner => ?_⟩
    obtain ⟨owner, same⟩ := owns owner
    obtain ⟨owner, same'⟩ := owns' owner
    exact ⟨owner, same'.trans same⟩

section Programs

variable {name : Procedure} {β : Type}

theorem stable_true : (sessionContract sessionId).Stable index fun _ => True :=
  fun _ _ _ _ _ _ _ => trivial

theorem stable_claimed : (sessionContract sessionId).Stable index (Claimed index) := by
  rintro size state later bound ⟨owner, unwritten⟩ ⟨-, owns⟩ inv
  obtain ⟨owner, same⟩ := owns owner
  exact ⟨owner, fun written => unwritten (same.mp written)⟩

theorem stable_ended : (sessionContract sessionId).Stable index (Ended index) := by
  rintro size state later bound ⟨owner, written⟩ ⟨-, owns⟩ inv
  obtain ⟨owner, same⟩ := owns owner
  exact ⟨owner, same.mpr written⟩

theorem stable_pending :
    (sessionContract sessionId).Stable index fun state => index ∈ state.pending :=
  fun _ _ _ _ waiting rely _ => rely.1 waiting

/-- Steps that nothing is claimed of. -/
def Untracked : BridgeAction → Prop
  | .write frame => frame.isOutcome = false ∧ frame.isEnd = false
  | .onEnd => False
  | _ => True

theorem untracked_guar {action : BridgeAction} (untracked : Untracked action)
    (state : SessionState) :
    BridgeGuar index state action := by
  cases action with
  | write frame => simp [BridgeGuar, untracked.1, untracked.2]
  | onEnd => exact untracked.elim
  | _ => trivial

theorem untracked_triple {code : Program β} (untracked : code.Within Untracked fun _ => True) :
    (sessionContract sessionId).Triple index name (fun _ => True) code fun _ _ => True :=
  (Contract.Triple.within untracked stable_true fun _ untracked _ state _ _ _ _ _ _ _ =>
    ⟨untracked_guar untracked state, fun _ => trivial⟩).post fun _ _ _ _ _ _ => trivial

/-- Whoever gets past the guard has to write the end. -/
theorem claimEnd_triple : (sessionContract sessionId).Triple index name (fun _ => True)
    (act .claimEnd) fun claimed state => claimed = true → Claimed index state := by
  refine Contract.Triple.perform stable_true ?_ ?_
  · rintro claimed size state later bound holds rely inv rfl
    exact stable_claimed size state later bound (holds rfl) rely inv
  · rintro size state after claimed bound inv - - ran
    refine ⟨trivial, fun _ owner => ?_⟩
    have ran : state.claim index = (after, claimed) := Option.some.inj ran
    rw [owner] at ran
    exact inv.claimed_of ran

theorem writeEnd_triple (reason : String) : (sessionContract sessionId).Triple index name
    (Claimed index) (act (.write (.ended reason))) fun _ => Ended index := by
  refine Contract.Triple.perform stable_claimed (fun _ => stable_ended) ?_
  rintro size state after _ bound inv ⟨owner, unwritten⟩ - ran
  cases ran
  exact ⟨⟨nofun, fun _ => ⟨owner, unwritten⟩⟩, fun _ => ⟨owner, endWritten_append.mpr (.inr rfl)⟩⟩

theorem onEnd_triple : (sessionContract sessionId).Triple index name (Ended index) (act .onEnd)
    fun _ _ => True := by
  refine Contract.Triple.perform stable_ended (fun _ => stable_true) ?_
  rintro size state after _ bound inv ⟨owner, written⟩ - ran
  exact ⟨written, fun _ => trivial⟩

theorem endSession_triple (reason : String) (claimed : Bool) :
    (sessionContract sessionId).Triple index name
      (fun state => claimed = true → Claimed index state)
      (endSession reason claimed) fun _ _ => True := by
  cases claimed with
  | false =>
    have done : (endSession reason false).Within Untracked fun _ => True := trivial
    exact (untracked_triple done).consequence (fun _ _ _ _ _ => trivial)
      fun _ _ _ _ _ holds => holds
  | true =>
    have written : (sessionContract sessionId).Triple index name (Claimed index)
        (endSession reason true) fun _ _ => True :=
      (writeEnd_triple reason).bind fun _ => onEnd_triple
    exact written.consequence (fun _ _ _ _ claimed => claimed rfl) fun _ _ _ _ _ holds => holds

/-- The guard and what follows it. -/
theorem ends_triple (reason : String) : (sessionContract sessionId).Triple index name
    (fun _ => True) (do
      let claimed : Bool ← act .claimEnd
      endSession reason claimed) fun _ _ => True :=
  claimEnd_triple.bind fun claimed => endSession_triple reason claimed

theorem writeOutcome_triple (frame : Frame) (notEnd : frame.isEnd = false) :
    (sessionContract sessionId).Triple index name
      (fun state => index ∈ state.pending) (act (.write frame)) fun _ _ => True := by
  refine Contract.Triple.perform stable_pending (fun _ => stable_true) ?_
  rintro size state after _ bound inv waiting - ran
  refine ⟨⟨fun _ => waiting, fun ends => ?_⟩, fun _ => trivial⟩
  rw [notEnd] at ends
  cases ends

theorem nextSequence_triple : (sessionContract sessionId).Triple index name
    (fun state => index ∈ state.pending) (act .nextSequence) fun _ state =>
      index ∈ state.pending := by
  refine Contract.Triple.perform stable_pending (fun _ => stable_pending) ?_
  rintro size state after _ bound inv waiting - ran
  cases ran
  exact ⟨trivial, fun _ => waiting⟩

theorem handleRecognition_triple (callback : Callback) :
    (sessionContract sessionId).Triple index name (BridgePre index (.callback callback))
      (handleRecognition callback) fun _ _ => True := by
  obtain ⟨result, error⟩ := callback
  cases error with
  | some error =>
    refine Contract.Triple.consequence ?_ (fun _ _ _ _ waiting => waiting rfl)
      fun _ _ _ _ _ holds => holds
    exact (writeOutcome_triple (.error error) rfl).bind fun _ => ends_triple "error"
  | none =>
    cases result with
    | none =>
      have done : (handleRecognition ⟨none, none⟩).Within Untracked fun _ => True := trivial
      exact (untracked_triple done).consequence (fun _ _ _ _ _ => trivial)
        fun _ _ _ _ _ holds => holds
    | some result =>
      obtain ⟨text, isFinal⟩ := result
      refine Contract.Triple.consequence ?_ (fun _ _ _ _ waiting => waiting rfl)
        fun _ _ _ _ _ holds => holds
      refine nextSequence_triple.bind fun (sequence : ℕ) => ?_
      cases isFinal with
      | true =>
        exact (writeOutcome_triple (.finalText text sequence) rfl).bind fun _ => ends_triple "final"
      | false => exact writeOutcome_triple (.partialText text sequence) rfl

/-! ## Commands -/

theorem stopSession_triple : (sessionContract sessionId).Triple index name (fun _ => True)
    (act .stopSession) fun claimed state => claimed = some true → Claimed index state := by
  refine Contract.Triple.perform stable_true ?_ ?_
  · rintro claimed size state later bound holds rely inv rfl
    exact stable_claimed size state later bound (holds rfl) rely inv
  · rintro size state after claimed bound inv - - ran
    refine ⟨trivial, fun _ (owner : claimed = some true) => ?_⟩
    subst owner
    have ran : (if state.registered then some ((state.claim index).1, some (state.claim index).2)
      else some (state, none)) = some (after, some true) := ran
    split_ifs at ran
    · obtain ⟨rfl, got⟩ := Prod.mk.inj (Option.some.inj ran)
      exact inv.claimed_of (Prod.ext rfl (Option.some.inj got))
    · cases (Prod.mk.inj (Option.some.inj ran)).2

theorem asrStop_triple : (sessionContract sessionId).Triple index name (fun _ => True)
    (asrStop sessionId) fun _ _ => True := by
  refine stopSession_triple.bind fun (claimed : Option Bool) => ?_
  cases claimed with
  | none =>
    refine Contract.Triple.consequence (untracked_triple ?_) (fun _ _ _ _ _ => trivial)
      fun _ _ _ _ _ holds => holds
    exact ⟨⟨rfl, rfl⟩, fun _ => trivial⟩
  | some claimed =>
    refine Contract.Triple.bind ?_ fun _ => untracked_triple ⟨trivial, fun _ => trivial⟩
    refine (endSession_triple "stopped" claimed).consequence ?_ fun _ _ _ _ _ holds => holds
    exact fun _ _ _ _ holds same => holds (congrArg some same)

theorem cancelRunning_triple (running : Bool) : (sessionContract sessionId).Triple index name
    (fun _ => True) (cancelRunning running) fun _ _ => True := by
  cases running with
  | false => exact untracked_triple trivial
  | true => exact ends_triple "shutdown"

theorem handle_triple (command : Command) : (sessionContract sessionId).Triple index name
    (fun _ => True) (handle sessionId command) fun _ _ => True := by
  cases command with
  | commit =>
    refine untracked_triple ⟨trivial, fun (found : Bool) => ?_⟩
    cases found <;> exact ⟨⟨rfl, rfl⟩, fun _ => trivial⟩
  | stop => exact asrStop_triple
  | shutdown =>
    refine Contract.Triple.bind (untracked_triple ⟨trivial, fun _ => trivial⟩) fun running => ?_
    refine (cancelRunning_triple running).bind fun _ => untracked_triple ?_
    exact ⟨trivial, fun _ => ⟨⟨rfl, rfl⟩, fun _ => trivial⟩⟩

/-- A task ends, or goes on with the next command. -/
theorem exits_triple {next : Option Procedure} (goesOn : next = none ∨ next = some .commands) :
    (sessionContract sessionId).Triple index name (fun _ => True)
      (.done next) ((sessionContract sessionId).Exits index) := by
  refine Contract.Triple.done stable_true fun _ _ _ _ _ => ?_
  rcases goesOn with rfl | rfl
  · trivial
  · trivial

theorem runCommands_triple : (sessionContract sessionId).Triple index name (fun _ => True)
    (runCommands sessionId) ((sessionContract sessionId).Exits index) := by
  refine Contract.Triple.bind (untracked_triple ⟨trivial, fun _ => trivial⟩)
    fun (line : Option Command) => ?_
  cases line with
  | none => exact exits_triple (.inl rfl)
  | some command => exact (handle_triple command).bind fun _ => exits_triple (.inr rfl)

theorem body_triple (procedure : Procedure) : (sessionContract sessionId).Triple index name
    (BridgePre index procedure) (body sessionId procedure)
    ((sessionContract sessionId).Exits index) := by
  cases procedure with
  | started =>
    refine Contract.Triple.bind (untracked_triple ?_) fun _ => exits_triple (.inr rfl)
    exact ⟨⟨rfl, rfl⟩, fun _ => trivial⟩
  | commands => exact runCommands_triple
  | callback callback =>
    exact (handleRecognition_triple callback).bind fun _ => exits_triple (.inl rfl)

end Programs

theorem sessionContract_valid (sessionId : String) : (sessionContract sessionId).Valid where
  pre_stable := by
    rintro index name size state later bound pre rely inv
    cases name with
    | callback callback => exact fun outcome => rely.1 (pre outcome)
    | started | commands => trivial
  body := fun {_ name size state} bound inv _ pre => body_triple name size state bound inv pre
  action := by
    rintro index name size state action after answer bound inv inTime guar ran
    refine ⟨inv.exec inTime guar ran, fun other apart _ => inv.rely guar ran apart, ?_⟩
    exact fun _ _ spawned => nomatch spawned
  event := by
    rintro size state event after spawned inv inTime occurred
    refine ⟨inv.occur inTime occurred, fun other _ => bridgeRely_occur occurred, ?_⟩
    rintro offset entered launched
    cases event with
    | callback callback =>
      obtain ⟨rfl, rfl⟩ := Prod.mk.inj (Option.some.inj occurred)
      obtain ⟨rfl, rfl⟩ : offset = 0 ∧ entered = .callback callback := by
        cases offset with
        | zero => exact ⟨rfl, (Option.some.inj launched).symm⟩
        | succ offset => cases launched
      intro outcome
      simp [outcome]
    | line command | closeInput =>
      obtain ⟨-, rfl⟩ := Prod.mk.inj (Option.some.inj occurred)
      cases launched

/-! ## Runs -/

theorem started_good (sessionId : String) :
    (sessionContract sessionId).Good (started sessionId) where
  inv := by
    constructor
    case last => exact List.Pairwise.nil
    case settled => exact fun ⟨_, member, _⟩ => absurd member List.not_mem_nil
    case claimed => exact fun ⟨_, member, _⟩ => absurd member List.not_mem_nil
    case owned => nofun
    case closed => nofun
  safe := by
    intro index task found
    obtain ⟨rfl, rfl⟩ : index = 0 ∧ task = (bridge sessionId).launch .started := by
      cases index with
      | zero => exact ⟨rfl, (Option.some.inj found).symm⟩
      | succ index => cases found
    exact Contract.Safe.launch (sessionContract_valid sessionId) trivial

theorem BridgeInvariant.endsOnceAndLast (inv : BridgeInvariant state) : EndsOnceAndLast state :=
  ⟨fun closed => inv.last.countP_eq (inv.closed closed), inv.last⟩

/-- In a run whose steps are all in time, a session ends once and last in every state. -/
theorem endsOnceAndLast_of_inTime {schedule : List (Choice (bridge sessionId))}
    {last : World (bridge sessionId)} (ran : (started sessionId).replay? schedule = some last)
    (inTime : World.Along InTime (started sessionId) schedule) : EndsOnceAndLast last.state := by
  have meets : World.Along (sessionContract sessionId).Meets (started sessionId) schedule :=
    inTime.imp fun world choice holds =>
      ⟨holds.1.effect, .always (fun _ _ _ => trivial) world choice, holds.2⟩
  have good := (started_good sessionId).replay (sessionContract_valid sessionId) meets ran
  exact good.inv.endsOnceAndLast

/-! ## Steps that come late -/

/-- The end has been written, and something is written behind it or is going to be. -/
def Late (state : SessionState) : Prop :=
  EndWritten state.frames ∧ (NothingAfterEnd state.frames → state.pending ≠ ∅)

theorem Late.exec (late : Late state) (ran : state.exec task action = some (after, answer)) :
    Late after := by
  obtain ⟨written, waiting⟩ := late
  rcases session_cases ran with ⟨frame, rfl, rfl⟩ | ⟨rfl, rfl⟩ | rfl | kept
  · refine ⟨endWritten_append.mpr (.inl written), fun endsLast => ?_⟩
    obtain ⟨before, behind⟩ := nothingAfterEnd_append.mp endsLast
    rw [SessionState.written]
    simp only [(behind written).2, Bool.false_eq_true, if_false]
    exact waiting before
  · exact ⟨written, waiting⟩
  · rcases claim_cases state task with ⟨-, same⟩ | ⟨-, same⟩
    · rw [same]
      exact ⟨written, waiting⟩
    · rw [same]
      exact ⟨written, waiting⟩
  · rw [Late, kept.frames, kept.pending]
    exact ⟨written, waiting⟩

theorem Late.occur (late : Late state)
    (occurred : state.occur size event = some (after, spawned)) : Late after := by
  obtain ⟨written, waiting⟩ := late
  cases event with
  | callback callback =>
    cases occurred
    refine ⟨written, fun endsLast => ?_⟩
    dsimp only
    split_ifs
    · exact Finset.insert_ne_empty _ _
    · exact waiting endsLast
  | line command | closeInput =>
    cases occurred
    exact ⟨written, waiting⟩

theorem Late.not_endsOnceAndLast (late : Late state) (handled : state.pending = ∅) :
    ¬ EndsOnceAndLast state :=
  fun ends => late.2 ends.last handled

/-- A step that is not in time makes the session late. -/
theorem late_of_step {world next : World (bridge sessionId)} {choice : Choice (bridge sessionId)}
    (stepped : world.step? choice = some next) (untimely : ¬ InTime world choice) :
    Late next.state := by
  rcases World.step?_cases stepped with
    ⟨index, name, entered, rfl, found, rfl⟩ |
    ⟨index, name, action, rest, state, answer, rfl, found, ran, rfl⟩ |
    ⟨event, state, spawned, rfl, occurred, rfl⟩
  · exact absurd ⟨by simp only [World.OnAction, found], trivial⟩ untimely
  · have late : ¬ WritesInTime world.state action := fun inTime =>
      untimely ⟨by simpa only [World.OnAction, found] using inTime, trivial⟩
    cases action with
    | write frame =>
      have ran : some (world.state.written index frame, ()) = some (state, answer) := ran
      cases ran
      obtain ⟨ends, waiting⟩ : frame.isEnd = true ∧ world.state.pending ≠ ∅ := by
        simpa only [WritesInTime, Classical.not_imp] using late
      refine ⟨endWritten_append.mpr (.inr ends), fun _ => ?_⟩
      have silent : frame.isOutcome = false := by
        cases frame <;> simp_all [Frame.isEnd, Frame.isOutcome]
      simpa only [SessionState.written, silent, Bool.false_eq_true, if_false] using waiting
    | _ => exact absurd trivial late
  · have late : ¬ CallsInTime world.state event := fun inTime => untimely ⟨trivial, inTime⟩
    cases event with
    | callback callback =>
      obtain ⟨outcome, written⟩ : callback.hasOutcome = true ∧ EndWritten world.state.frames := by
        simpa only [CallsInTime, Classical.not_imp, not_not] using late
      cases occurred
      refine ⟨written, fun _ => ?_⟩
      simp [outcome]
    | _ => exact absurd trivial late

/-- A run in which something comes late is late from then on. -/
theorem inTime_of_endsOnceAndLast {world last : World (bridge sessionId)}
    {schedule : List (Choice (bridge sessionId))} (ran : world.replay? schedule = some last)
    (handled : last.state.pending = ∅) (ends : EndsOnceAndLast last.state) :
    World.Along InTime world schedule := by
  induction schedule generalizing world with
  | nil => trivial
  | cons choice rest ih =>
    obtain ⟨next, stepped, ran⟩ := Option.bind_eq_some_iff.mp ran
    refine .step ?_ stepped (ih ran)
    by_contra untimely
    have late : Late last.state := World.replay?_state
      (fun late performed => Late.exec late performed)
      (fun late occurred => Late.occur late occurred)
      (late_of_step stepped untimely) ran
    exact late.not_endsOnceAndLast handled ends

/-- In every run, a session ends once and last if every step is in time; and once all its callbacks
have been handled, only then. -/
theorem endsOnceAndLast_iff {schedule : List (Choice (bridge sessionId))}
    {last : World (bridge sessionId)} (ran : (started sessionId).replay? schedule = some last) :
    (World.Along InTime (started sessionId) schedule → EndsOnceAndLast last.state) ∧
    (last.state.pending = ∅ →
      (EndsOnceAndLast last.state ↔ World.Along InTime (started sessionId) schedule)) :=
  ⟨endsOnceAndLast_of_inTime ran, fun handled =>
    ⟨inTime_of_endsOnceAndLast ran handled, endsOnceAndLast_of_inTime ran⟩⟩

/-! ## Two sessions -/

/-- The recogniser reports a partial and a final text, and the session ends with the latter. -/
def recognised : List (Choice (bridge "s1")) :=
  [.task 0, .task 0, .task 0, .event (.callback ⟨some ⟨"hel", false⟩, none⟩),
    .event (.callback ⟨some ⟨"hello", true⟩, none⟩), .task 1, .task 1, .task 1,
    .task 2, .task 2, .task 2, .task 2, .task 2, .task 2]

theorem recognised_endsOnceAndLast : ∃ last,
    (started "s1").replay? recognised = some last ∧ EndsOnceAndLast last.state := by
  obtain ⟨last, ran⟩ : ∃ last, (started "s1").replay? recognised = some last := ⟨_, rfl⟩
  refine ⟨last, ran, (endsOnceAndLast_iff ran).1 ?_⟩
  refine .step ⟨trivial, trivial⟩ rfl (.step ⟨nofun, trivial⟩ rfl (.step ⟨trivial, trivial⟩ rfl ?_))
  -- both callbacks come before the end
  have unended : ¬ EndWritten [Frame.started] := by simp [EndWritten, Frame.isEnd]
  refine .step ⟨trivial, fun _ => unended⟩ rfl (.step ⟨trivial, fun _ => unended⟩ rfl ?_)
  refine .step ⟨trivial, trivial⟩ rfl (.step ⟨trivial, trivial⟩ rfl ?_)
  refine .step ⟨nofun, trivial⟩ rfl ?_
  refine .step ⟨trivial, trivial⟩ rfl (.step ⟨trivial, trivial⟩ rfl ?_)
  refine .step ⟨nofun, trivial⟩ rfl (.step ⟨trivial, trivial⟩ rfl ?_)
  -- and have been written for when it is written
  exact .step ⟨fun _ => by rfl, trivial⟩ rfl (.step ⟨trivial, trivial⟩ rfl trivial)

/-- The session starts, and `asr.stop` gets past the guard. -/
def stopBegins : List (Choice (bridge "s1")) :=
  [.task 0, .task 0, .task 0, .event (.line .stop), .task 0, .task 0]

/-- Cancelling the recogniser makes it call back while `asr.stop` waits for the writer. -/
def cancelReported : List (Choice (bridge "s1")) :=
  stopBegins ++ [.event (.callback ⟨none, some "recognition cancelled"⟩), .task 0, .task 1, .task 1]

theorem cancelReported_frames :
    ((started "s1").replay? cancelReported).map (fun world => world.state.frames) =
      some [.started, .ended "stopped", .error "recognition cancelled"] := rfl

/-- The error of the cancelled recogniser is written behind the end. -/
theorem cancelReported_afterEnd :
    ¬ ∀ (sessionId : String) (schedule : List (Choice (bridge sessionId)))
      (last : World (bridge sessionId)),
      (started sessionId).replay? schedule = some last → EndsOnceAndLast last.state := by
  intro ends
  obtain ⟨last, ran, frames⟩ := Option.map_eq_some_iff.mp cancelReported_frames
  have endsLast := (ends "s1" cancelReported last ran).last
  rw [frames] at endsLast
  simp [NothingAfterEnd, Frame.isEnd, Frame.isOutcome] at endsLast

end SpeechMesh.Soundness
