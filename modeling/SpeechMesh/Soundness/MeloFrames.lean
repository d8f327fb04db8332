import SpeechMesh.Model.MeloBridge

/-! # Frames that the MeloTTS bridge cannot handle

A frame that cannot be handled should be answered by an error and change nothing. One that cannot be
decoded ends the connection instead, and the text of a commit stays in the buffer when the synthesis
fails, where a second attempt says it twice.
-/

namespace SpeechMesh.Soundness

open Async Model Model.MeloBridge

variable {floats : Floats}

/-! ## The buffer of a session -/

/-- The parts of a buffer are words. -/
def Stripped (session : SessionState floats) : Prop :=
  ∀ part ∈ session.textParts, Text.Solid isSpace part.toList

theorem strip_eq_empty_iff {text : String} :
    strip text = "" ↔ Text.strip isSpace text.toList = [] := by
  rw [strip]
  constructor
  · intro nothing
    simpa using congrArg String.toList nothing
  · intro nothing
    rw [nothing]

theorem appendText_silent {text : String} (silent : strip text = "")
    (session : SessionState floats) : session.appendText text = session := by
  rw [SessionState.appendText]
  exact if_pos silent

theorem appendText_spoken {text : String} (spoken : strip text ≠ "")
    (session : SessionState floats) :
    session.appendText text = { session with textParts := session.textParts ++ [strip text] } := by
  rw [SessionState.appendText]
  exact if_neg spoken

@[simp] theorem appendText_sessionId (session : SessionState floats) (text : String) :
    (session.appendText text).sessionId = session.sessionId := by
  rw [SessionState.appendText]
  split <;> rfl

@[simp] theorem appendText_speed (session : SessionState floats) (text : String) :
    (session.appendText text).speed = session.speed := by
  rw [SessionState.appendText]
  split <;> rfl

theorem stripped_appendText {session : SessionState floats} (stripped : Stripped session)
    (text : String) : Stripped (session.appendText text) := by
  by_cases spoken : strip text = ""
  · rwa [appendText_silent spoken]
  · rw [appendText_spoken spoken]
    intro part member
    rcases List.mem_append.mp member with before | new
    · exact stripped part before
    · obtain rfl := List.mem_singleton.mp new
      rw [strip, String.toList_ofList]
      exact Text.solid_strip fun nothing => spoken (strip_eq_empty_iff.mpr nothing)

/-- The text of a buffer is its words with spaces between them. -/
theorem toList_fullText {session : SessionState floats} (stripped : Stripped session) :
    session.fullText.toList = [' '].intercalate (session.textParts.map String.toList) := by
  rw [SessionState.fullText, strip, String.toList_ofList, String.toList_intercalate]
  cases parts : session.textParts with
  | nil => rfl
  | cons part rest =>
    rw [List.map_cons]
    apply Text.strip_solid
    apply Text.solid_intercalate
    intro word member
    rw [← List.map_cons, ← parts] at member
    obtain ⟨other, among, rfl⟩ := List.mem_map.mp member
    exact stripped other among

/-- A text in which there is anything makes the text of the buffer longer. -/
theorem length_fullText_lt {session : SessionState floats} (stripped : Stripped session)
    {text : String} (spoken : strip text ≠ "") :
    session.fullText.length < (session.appendText text).fullText.length := by
  have word : (strip text).toList ≠ [] := by
    intro nothing
    apply spoken
    rw [← String.ofList_toList (s := strip text), nothing]
  rw [← String.length_toList, ← String.length_toList, toList_fullText stripped,
    toList_fullText (stripped_appendText stripped text), appendText_spoken spoken, List.map_append]
  exact Text.length_intercalate_concat word _

/-! ## The sessions of a connection -/

/-- The sessions stand under their ids, and their buffers hold words. -/
def WellFormed (sessions : Table String (SessionState floats)) : Prop :=
  ∀ id session, sessions.lookup id = some session → session.sessionId = id ∧ Stripped session

theorem wellFormed_empty : WellFormed (∅ : Table String (SessionState floats)) := by
  intro id session found
  rw [AList.lookup_empty] at found
  cases found

theorem wellFormed_insert {sessions : Table String (SessionState floats)}
    (wellFormed : WellFormed sessions) {session : SessionState floats}
    (stripped : Stripped session) : WellFormed (sessions.insert session.sessionId session) := by
  intro id other found
  by_cases same : id = session.sessionId
  · subst same
    rw [AList.lookup_insert] at found
    obtain rfl := Option.some.inj found
    exact ⟨rfl, stripped⟩
  · rw [AList.lookup_insert_ne same] at found
    exact wellFormed id other found

theorem wellFormed_erase {sessions : Table String (SessionState floats)}
    (wellFormed : WellFormed sessions) (erased : String) : WellFormed (sessions.erase erased) := by
  intro id session found
  by_cases same : id = erased
  · subst same
    rw [AList.lookup_erase] at found
    cases found
  · rw [AList.lookup_erase_ne same] at found
    exact wellFormed id session found

/-- A session that is resolved is the one that stands under its id. -/
theorem lookup_of_resolveSession {sessions : Table String (SessionState floats)}
    (wellFormed : WellFormed sessions) {payload : Json} {session : SessionState floats}
    (resolved : resolveSession payload sessions = .ok session) :
    sessions.lookup session.sessionId = some session ∧ Stripped session := by
  rw [resolveSession] at resolved
  split at resolved
  case h_1 sessionId _ =>
    split_ifs at resolved
    split at resolved
    case h_1 found found_eq =>
      obtain rfl := Except.ok.inj resolved
      obtain ⟨same, stripped⟩ := wellFormed sessionId found found_eq
      rw [same]
      exact ⟨found_eq, stripped⟩
    case h_2 => cases resolved
  case h_2 => cases resolved

theorem stripped_createSession {config : BridgeConfig floats} {freshId : String} {payload : Json}
    {session : SessionState floats}
    (created : createSession config freshId payload = .ok session) : Stripped session := by
  rw [createSession] at created
  obtain ⟨speed, _, made⟩ := exists_of_bind_ok created
  obtain rfl := Except.ok.inj made
  apply stripped_appendText
  intro part member
  cases member

/-! ## One message -/

theorem handleMessage_commit (config : BridgeConfig floats)
    (sessions : Table String (SessionState floats)) (input : Input floats)
    {message : DecodedMessage} (commit : isCommit message = true) :
    handleMessage config sessions input message = handleCommit sessions input message := by
  have types : message.messageType = "tts.commit" ∨ message.messageType = "tts.flush" := by
    simpa [isCommit] using commit
  have noAppend : isAppend message = false := by
    rcases types with type | type <;> simp [isAppend, type]
  have others : message.messageType ≠ "hello" ∧ message.messageType ≠ "tts.voices" ∧
      message.messageType ≠ "tts.start" := by
    rcases types with type | type <;> simp [type]
  rw [handleMessage, if_neg others.1, if_neg others.2.1, if_neg others.2.2, noAppend, commit]
  rfl

/-- Apart from a commit, a message that cannot be handled changes no session. -/
theorem sessions_of_raised {config : BridgeConfig floats}
    {sessions : Table String (SessionState floats)} {input : Input floats} {message : DecodedMessage}
    (other : isCommit message = false)
    (raised : (handleMessage config sessions input message).raised ≠ none) :
    (handleMessage config sessions input message).sessions = sessions := by
  revert raised
  rw [handleMessage, other]
  split_ifs
  · exact fun raised => absurd rfl raised
  · exact fun raised => absurd rfl raised
  · rw [handleStart]
    cases createSession config input.freshId message.payload with
    | error error => exact fun _ => rfl
    | ok session => exact fun raised => absurd rfl raised
  · rw [handleAppend]
    cases resolveSession message.payload sessions with
    | error error => exact fun _ => rfl
    | ok session => exact fun raised => absurd rfl raised
  · contradiction
  · rw [handleStop]
    cases resolveSession message.payload sessions with
    | error error => exact fun _ => rfl
    | ok session => exact fun raised => absurd rfl raised
  · exact fun _ => rfl

/-- The commit of a text that the MeloTTS server then does not speak. -/
def LeavesText (sessions : Table String (SessionState floats)) (input : Input floats)
    (message : DecodedMessage) : Prop :=
  isCommit message = true ∧ ∃ session, resolveSession message.payload sessions = .ok session ∧
    strip (extractText message.payload) ≠ "" ∧
    ∃ error, input.synthesize (session.appendText (extractText message.payload)).fullText
      session.speed = .error error

/-- What is in the buffers. -/
def buffered (sessions : Table String (SessionState floats)) (id : String) : Option String :=
  (sessions.lookup id).map SessionState.fullText

/-- A message that cannot be handled changes no buffer unless it is such a commit. -/
theorem buffered_of_raised_iff {config : BridgeConfig floats}
    {sessions : Table String (SessionState floats)} (wellFormed : WellFormed sessions)
    {input : Input floats} {message : DecodedMessage}
    (raised : (handleMessage config sessions input message).raised ≠ none) :
    buffered (handleMessage config sessions input message).sessions = buffered sessions ↔
      ¬ LeavesText sessions input message := by
  by_cases commit : isCommit message = true
  case neg =>
    rw [sessions_of_raised (Bool.not_eq_true _ ▸ commit) raised]
    exact iff_of_true rfl fun leaves => commit leaves.1
  rw [handleMessage_commit config sessions input commit] at raised ⊢
  rw [handleCommit] at raised ⊢
  cases resolved : resolveSession message.payload sessions with
  | error error =>
    refine iff_of_true rfl ?_
    rintro ⟨_, session, found, _⟩
    rw [resolved] at found
    cases found
  | ok session =>
    obtain ⟨stands, stripped⟩ := lookup_of_resolveSession wellFormed resolved
    rw [resolved] at raised
    dsimp only at raised ⊢
    by_cases spoken : strip (extractText message.payload) = ""
    case pos =>
      -- the session is put back as it was
      have same : buffered (sessions.insert session.sessionId session) = buffered sessions := by
        funext id
        by_cases here : id = session.sessionId
        · subst here
          rw [buffered, buffered, AList.lookup_insert, stands]
        · rw [buffered, buffered, AList.lookup_insert_ne here]
      refine iff_of_true ?_ fun leaves => ?_
      · rw [appendText_silent spoken] at raised ⊢
        revert raised
        split_ifs
        · exact fun _ => same
        · cases input.synthesize session.fullText session.speed with
          | error error => exact fun _ => same
          | ok result => exact fun raised => absurd rfl raised
      · obtain ⟨_, _, _, audible, _⟩ := leaves
        exact audible spoken
    case neg =>
      have longer := length_fullText_lt stripped spoken
      have nonempty : (session.appendText (extractText message.payload)).fullText ≠ "" := by
        intro nothing
        rw [nothing] at longer
        exact Nat.not_lt_zero _ longer
      rw [if_neg nonempty] at raised ⊢
      cases spoke : input.synthesize (session.appendText (extractText message.payload)).fullText
          (session.appendText (extractText message.payload)).speed with
      | ok result =>
        rw [spoke] at raised
        exact absurd rfl raised
      | error error =>
        rw [appendText_speed] at spoke
        refine iff_of_false (fun same => ?_) (not_not_intro ⟨commit, session, resolved, spoken,
          error, spoke⟩)
        have here := congrFun same session.sessionId
        rw [buffered, buffered, appendText_sessionId, AList.lookup_insert, stands] at here
        rw [Option.some.inj here] at longer
        exact Nat.lt_irrefl _ longer

theorem wellFormed_handleMessage (config : BridgeConfig floats)
    {sessions : Table String (SessionState floats)} (wellFormed : WellFormed sessions)
    (input : Input floats) (message : DecodedMessage) :
    WellFormed (handleMessage config sessions input message).sessions := by
  rw [handleMessage]
  split_ifs
  · exact wellFormed
  · exact wellFormed
  · rw [handleStart]
    cases created : createSession config input.freshId message.payload with
    | error error => exact wellFormed
    | ok session => exact wellFormed_insert wellFormed (stripped_createSession created)
  · rw [handleAppend]
    cases resolved : resolveSession message.payload sessions with
    | error error => exact wellFormed
    | ok session =>
      have stripped := (lookup_of_resolveSession wellFormed resolved).2
      exact wellFormed_insert wellFormed (stripped_appendText stripped _)
  · rw [handleCommit]
    cases resolved : resolveSession message.payload sessions with
    | error error => exact wellFormed
    | ok session =>
      have stripped := (lookup_of_resolveSession wellFormed resolved).2
      have extended := wellFormed_insert wellFormed
        (stripped_appendText stripped (extractText message.payload))
      dsimp only
      split_ifs
      · exact extended
      · cases input.synthesize _ _ with
        | error error => exact extended
        | ok result => exact wellFormed_erase extended _
  · rw [handleStop]
    cases resolveSession message.payload sessions with
    | error error => exact wellFormed
    | ok session => exact wellFormed_erase wellFormed _
  · exact wellFormed

/-! ## Runs of a connection -/

/-- The sessions of a connection that is open are well formed. -/
def SoundConnection (connection : Connection floats) : Prop :=
  ∀ sessions, connection = .usable sessions → WellFormed sessions

theorem sound_step (config : BridgeConfig floats) {connection : Connection floats}
    (sound : SoundConnection connection) (input : Input floats) :
    SoundConnection (connection.step config input).1 := by
  cases connection with
  | closed => nofun
  | usable sessions =>
    rw [Connection.step]
    cases decodeClientMessage input.loaded with
    | error error => nofun
    | ok message =>
      intro sessions' same
      obtain rfl := Connection.usable.inj same
      exact wellFormed_handleMessage config (sound sessions rfl) input message

theorem sound_run (config : BridgeConfig floats) {connection : Connection floats}
    (sound : SoundConnection connection) (inputs : List (Input floats)) :
    SoundConnection (connection.run config inputs) := by
  induction inputs generalizing connection with
  | nil => exact sound
  | cons input rest ih => exact ih (sound_step config sound input)

theorem sound_accepted : SoundConnection (accepted : Connection floats) := by
  intro sessions same
  obtain rfl := Connection.usable.inj same
  exact wellFormed_empty

/-- A frame that cannot be handled. -/
def FailsToHandle (config : BridgeConfig floats) (sessions : Table String (SessionState floats))
    (input : Input floats) : Prop :=
  match decodeClientMessage input.loaded with
  | .error _ => True
  | .ok message => (handleMessage config sessions input message).raised ≠ none

/-- A frame that cannot be handled is answered by an error, and the connection goes on with the same
texts in its buffers. -/
def StaysUsable (config : BridgeConfig floats) (sessions : Table String (SessionState floats))
    (input : Input floats) : Prop :=
  FailsToHandle config sessions input →
    ∃ sessions' sent, (Connection.usable sessions).step config input = (.usable sessions', sent) ∧
      (∃ requestId sessionId message, .error requestId sessionId message ∈ sent) ∧
      buffered sessions' = buffered sessions

/-- A frame that can be decoded, and is no commit of a text that then is not spoken. -/
def Survivable (sessions : Table String (SessionState floats)) (input : Input floats) : Prop :=
  ∃ message, decodeClientMessage input.loaded = .ok message ∧
    ¬ LeavesText sessions input message

theorem raised_of_leavesText {config : BridgeConfig floats}
    {sessions : Table String (SessionState floats)} {input : Input floats}
    {message : DecodedMessage} (leaves : LeavesText sessions input message) :
    (handleMessage config sessions input message).raised ≠ none := by
  obtain ⟨commit, session, resolved, _, error, failed⟩ := leaves
  rw [handleMessage_commit config sessions input commit, handleCommit, resolved]
  dsimp only
  split_ifs
  · nofun
  · rw [appendText_speed, failed]
    nofun

theorem survives_iff (config : BridgeConfig floats) {sessions : Table String (SessionState floats)}
    (wellFormed : WellFormed sessions) (input : Input floats) :
    StaysUsable config sessions input ↔ Survivable sessions input := by
  rw [StaysUsable, FailsToHandle, Survivable, Connection.step]
  cases decoded : decodeClientMessage input.loaded with
  | error error =>
    refine iff_of_false (fun survives => ?_) nofun
    obtain ⟨_, _, same, _⟩ := survives trivial
    cases same
  | ok message =>
    have kept (raised : (handleMessage config sessions input message).raised ≠ none) :=
      buffered_of_raised_iff wellFormed raised
    constructor
    · intro survives
      refine ⟨message, rfl, fun leaves => ?_⟩
      have raised : (handleMessage config sessions input message).raised ≠ none :=
        raised_of_leavesText leaves
      obtain ⟨sessions', sent, same, _, unchanged⟩ := survives raised
      obtain rfl : (handleMessage config sessions input message).sessions = sessions' := by
        simpa using congrArg Prod.fst same
      exact (kept raised).mp unchanged leaves
    · rintro ⟨_, same, stays⟩ raised
      obtain rfl := Except.ok.inj same
      refine ⟨_, _, rfl, ?_, (kept raised).mpr stays⟩
      obtain ⟨error, failed⟩ := Option.ne_none_iff_exists'.mp raised
      rw [Turn.answered, failed]
      exact ⟨_, _, _, List.mem_append_right _ List.mem_cons_self⟩

/-- Every frame that reaches the bridge survives. -/
def KeepsBuffers (config : BridgeConfig floats) (inputs : List (Input floats)) : Prop :=
  ∀ earlier input later, inputs = earlier ++ input :: later →
    ∀ sessions, accepted.run config earlier = .usable sessions → StaysUsable config sessions input

/-- The bridge answers the frames that it cannot handle and keeps its buffers exactly if each frame
can be decoded and no commit brings a text that is then not spoken. -/
theorem keepsBuffers_iff (config : BridgeConfig floats) (inputs : List (Input floats)) :
    KeepsBuffers config inputs ↔
      ∀ earlier input later, inputs = earlier ++ input :: later →
        ∀ sessions, accepted.run config earlier = .usable sessions →
          Survivable sessions input := by
  have each (earlier : List (Input floats)) (input : Input floats)
      (sessions : Table String (SessionState floats))
      (reached : accepted.run config earlier = .usable sessions) :
      StaysUsable config sessions input ↔ Survivable sessions input :=
    survives_iff config (sound_run config sound_accepted earlier sessions reached) input
  constructor
  · intro keeps earlier input later same sessions reached
    exact (each earlier input sessions reached).mp (keeps earlier input later same sessions reached)
  · intro survivable earlier input later same sessions reached
    exact (each earlier input sessions reached).mpr
      (survivable earlier input later same sessions reached)

/-- Speeds that do not matter. -/
def unitSpeeds : Floats := ⟨Unit, fun _ => .ok ()⟩

def plainBridge : BridgeConfig unitSpeeds := ⟨"melotts.local", (), 16384⟩

/-- A frame that is no JSON. -/
def brokenFrame : Input unitSpeeds :=
  { loaded := .error "Expecting value: line 1 column 1 (char 0)"
    freshId := ""
    synthesize := fun _ _ => .error "" }

theorem brokenFrame_not_kept : ¬ KeepsBuffers plainBridge [brokenFrame] := by
  intro keeps
  obtain ⟨_, _, same, _⟩ := keeps [] brokenFrame [] rfl ∅ rfl trivial
  cases same

end SpeechMesh.Soundness
