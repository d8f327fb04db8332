import SpeechMesh.Soundness.MeloFrames

/-! # The text that the MeloTTS bridge has spoken

The provider of the gateway speaks what it was given, without the whitespace at its ends. The bridge
strips each piece by itself and puts a space between every two. Both have the same text spoken only
if there was a single space between the pieces in the first place.
-/

namespace SpeechMesh.Soundness

open Async Model Model.MeloBridge

variable {floats : Floats}

/-! ## The pieces of a session -/

/-- The pieces of text that one frame adds to those of a session. -/
def recordStep (config : BridgeConfig floats) (id : String) (connection : Connection floats)
    (input : Input floats) (pieces : List String) : List String :=
  match connection with
  | .closed => pieces
  | .usable sessions =>
      match decodeClientMessage input.loaded with
      | .error _ => pieces
      | .ok message =>
          if message.messageType = "tts.start" then
            match createSession config input.freshId message.payload with
            | .ok session =>
                if session.sessionId = id then [extractText message.payload] else pieces
            | .error _ => pieces
          else if isAppend message || isCommit message then
            match resolveSession message.payload sessions with
            | .ok session =>
                if session.sessionId = id then pieces ++ [extractText message.payload] else pieces
            | .error _ => pieces
          else pieces

/-- The pieces of text that were appended to a session, the one of its start first. -/
def recorded (config : BridgeConfig floats) (id : String) :
    Connection floats → List (Input floats) → List String → List String
  | _, [], pieces => pieces
  | connection, input :: rest, pieces =>
      recorded config id (connection.step config input).1 rest
        (recordStep config id connection input pieces)

/-- What the pieces leave in a buffer. -/
def partsOf (pieces : List String) : List String := (pieces.map strip).filter (· ≠ "")

theorem partsOf_concat (pieces : List String) (text : String) :
    partsOf (pieces ++ [text]) = partsOf pieces ++ partsOf [text] := by
  rw [partsOf, List.map_append, List.filter_append]
  rfl

theorem textParts_appendText (session : SessionState floats) (text : String) :
    (session.appendText text).textParts = session.textParts ++ partsOf [text] := by
  by_cases spoken : strip text = ""
  · rw [appendText_silent spoken]
    simp [partsOf, spoken]
  · rw [appendText_spoken spoken]
    simp [partsOf, spoken]

/-- The buffer of a session holds what its pieces leave there. -/
def Holds (id : String) (connection : Connection floats) (pieces : List String) : Prop :=
  ∀ sessions, connection = .usable sessions →
    ∀ session, sessions.lookup id = some session → session.textParts = partsOf pieces

theorem createSession_spec {config : BridgeConfig floats} {freshId : String} {payload : Json}
    {session : SessionState floats} (created : createSession config freshId payload = .ok session) :
    session.textParts = partsOf [extractText payload] := by
  rw [createSession] at created
  obtain ⟨speed, _, made⟩ := exists_of_bind_ok created
  obtain rfl := Except.ok.inj made
  rw [textParts_appendText, List.nil_append]

/-- After a session is put under its id, the buffers are those of before and its own. -/
theorem holds_insert {id : String} {sessions : Table String (SessionState floats)}
    {session : SessionState floats} {pieces pieces' : List String}
    (holds : Holds id (.usable sessions) pieces)
    (own : session.sessionId = id → session.textParts = partsOf pieces')
    (others : session.sessionId ≠ id → pieces' = pieces) :
    Holds id (.usable (sessions.insert session.sessionId session)) pieces' := by
  intro _ same other found
  obtain rfl := Connection.usable.inj same
  by_cases here : session.sessionId = id
  · rw [← here, AList.lookup_insert] at found
    obtain rfl := Option.some.inj found
    exact own here
  · rw [AList.lookup_insert_ne (Ne.symm here)] at found
    rw [others here]
    exact holds sessions rfl other found

theorem holds_erase {id erased : String} {sessions : Table String (SessionState floats)}
    {pieces : List String} (holds : Holds id (.usable sessions) pieces) :
    Holds id (.usable (sessions.erase erased)) pieces := by
  intro _ same session found
  obtain rfl := Connection.usable.inj same
  by_cases here : id = erased
  · rw [here, AList.lookup_erase] at found
    cases found
  · rw [AList.lookup_erase_ne here] at found
    exact holds sessions rfl session found

/-- What a session that is resolved holds after another piece. -/
theorem holds_append {id : String} {sessions : Table String (SessionState floats)}
    (wellFormed : WellFormed sessions) {pieces : List String}
    (holds : Holds id (.usable sessions) pieces) {payload : Json} {session : SessionState floats}
    (resolved : resolveSession payload sessions = .ok session) (text : String) :
    Holds id (.usable (sessions.insert session.sessionId (session.appendText text)))
      (if session.sessionId = id then pieces ++ [text] else pieces) := by
  have stands := (lookup_of_resolveSession wellFormed resolved).1
  rw [← appendText_sessionId session text]
  apply holds_insert holds
  · intro here
    rw [if_pos here, textParts_appendText, partsOf_concat]
    rw [appendText_sessionId] at here
    rw [here] at stands
    rw [holds sessions rfl session stands]
  · intro elsewhere
    rw [if_neg elsewhere]

theorem holds_step (config : BridgeConfig floats) {id : String} {connection : Connection floats}
    (sound : SoundConnection connection) {pieces : List String}
    (holds : Holds id connection pieces) (input : Input floats) :
    Holds id (connection.step config input).1 (recordStep config id connection input pieces) := by
  have ended : Holds id (.closed : Connection floats) pieces := by
    intro sessions same
    cases same
  cases connection with
  | closed => exact ended
  | usable sessions =>
    have wellFormed := sound sessions rfl
    rw [Connection.step, recordStep]
    dsimp only
    cases decodeClientMessage input.loaded with
    | error error => exact ended
    | ok message =>
      dsimp only
      rw [handleMessage]
      by_cases hello : message.messageType = "hello"
      case pos =>
        rw [if_pos hello, if_neg (by simp [hello]), if_neg (by simp [hello, isAppend, isCommit])]
        exact holds
      rw [if_neg hello]
      by_cases voices : message.messageType = "tts.voices"
      case pos =>
        rw [if_pos voices, if_neg (by simp [voices]), if_neg (by simp [voices, isAppend, isCommit])]
        exact holds
      rw [if_neg voices]
      by_cases start : message.messageType = "tts.start"
      case pos =>
        rw [if_pos start, if_pos start, handleStart]
        cases created : createSession config input.freshId message.payload with
        | error error => exact holds
        | ok session =>
          dsimp only
          apply holds_insert holds
          · intro here
            rw [if_pos here]
            exact createSession_spec created
          · intro elsewhere
            rw [if_neg elsewhere]
      rw [if_neg start, if_neg start]
      by_cases append : isAppend message = true
      case pos =>
        rw [if_pos append, if_pos (by simp [append]), handleAppend]
        cases resolved : resolveSession message.payload sessions with
        | error error => exact holds
        | ok session =>
          dsimp only
          rw [appendText_sessionId]
          exact holds_append wellFormed holds resolved _
      rw [if_neg append]
      by_cases commit : isCommit message = true
      case pos =>
        rw [if_pos commit, if_pos (by simp [commit]), handleCommit]
        cases resolved : resolveSession message.payload sessions with
        | error error => exact holds
        | ok session =>
          have extended := holds_append wellFormed holds resolved (extractText message.payload)
          dsimp only
          rw [appendText_sessionId]
          split
          · exact extended
          · cases input.synthesize _ _ with
            | error error => exact extended
            | ok result => exact holds_erase extended
      have neither : ¬ (isAppend message || isCommit message) = true := by simp [append, commit]
      rw [if_neg commit, if_neg neither]
      split
      · rw [handleStop]
        cases resolveSession message.payload sessions with
        | error error => exact holds
        | ok session => exact holds_erase holds
      · exact holds

theorem holds_run (config : BridgeConfig floats) {id : String} {connection : Connection floats}
    (sound : SoundConnection connection) {pieces : List String}
    (holds : Holds id connection pieces) (inputs : List (Input floats)) :
    Holds id (connection.run config inputs) (recorded config id connection inputs pieces) := by
  induction inputs generalizing connection pieces with
  | nil => exact holds
  | cons input rest ih =>
    exact ih (sound_step config sound input) (holds_step config sound holds input)

/-- The pieces of a session of a connection, from the beginning. -/
def piecesOf (config : BridgeConfig floats) (id : String) (inputs : List (Input floats)) :
    List String :=
  recorded config id accepted inputs []

theorem textParts_run (config : BridgeConfig floats) (inputs : List (Input floats))
    {sessions : Table String (SessionState floats)}
    (reached : accepted.run config inputs = .usable sessions) {id : String}
    {session : SessionState floats} (found : sessions.lookup id = some session) :
    session.textParts = partsOf (piecesOf config id inputs) := by
  have start : Holds id (accepted : Connection floats) [] := by
    intro sessions same session found
    obtain rfl := Connection.usable.inj same
    rw [AList.lookup_empty] at found
    cases found
  exact holds_run config sound_accepted start inputs sessions reached session found

/-! ## What is spoken -/

/-- The commands that bring the same pieces to the provider of the gateway. -/
def commandsOf (pieces : List String) : List BridgeTtsCommand :=
  pieces.map .appendInput ++ [.commit]

/-- What has to be spoken, if there is anything. -/
def nonempty? (text : String) : Option String := if text = "" then none else some text

theorem nonempty?_inj {text text' : String} : nonempty? text = nonempty? text' ↔ text = text' := by
  rw [nonempty?, nonempty?]
  constructor
  · intro same
    split_ifs at same with empty empty'
    · rw [empty, empty']
    · exact Option.some.inj same
  · rintro rfl
    rfl

/-- The provider of the gateway has the pieces spoken together. -/
theorem meloRequested_commandsOf (pieces : List String) (buffer : String) :
    meloRequested (commandsOf pieces) buffer =
      nonempty? (trim (buffer ++ String.join pieces)) := by
  induction pieces generalizing buffer with
  | nil =>
    rw [String.join_nil, String.append_empty]
    rfl
  | cons piece rest ih =>
    rw [commandsOf, List.map_cons, List.cons_append, meloRequested, ← commandsOf, ih,
      String.join_cons, String.append_assoc]

/-- The task of the provider calls the MeloTTS server exactly for that text. -/
theorem bufferedTask_of_meloRequested {synthesis : Except BridgeError Bytes}
    {spoken : Bytes → Outbox BridgeTtsEvent → Outbox BridgeTtsEvent}
    {commands : List BridgeTtsCommand} {buffer text : String}
    (requested : meloRequested commands buffer = some text) (outbox : Outbox BridgeTtsEvent) :
    bufferedTask (commitText synthesis spoken) commands buffer outbox =
      match synthesis with
      | .ok audio => spoken audio outbox
      | .error error => outbox.sendAll [.error error.toText, .ended (some "provider_error")] := by
  induction commands generalizing buffer with
  | nil => cases requested
  | cons command rest ih =>
    cases command with
    | appendInput delta => exact ih requested
    | commit =>
      rw [meloRequested] at requested
      split_ifs at requested with silent
      rw [bufferedTask]
      unfold commitText
      cases synthesis with
      | ok audio => exact if_neg silent
      | error error => exact if_neg silent
    | stop => cases requested

theorem requested_handleCommit {sessions : Table String (SessionState floats)}
    {input : Input floats} {message : DecodedMessage} {session : SessionState floats}
    (resolved : resolveSession message.payload sessions = .ok session) :
    (handleCommit sessions input message).requested =
      nonempty? (session.appendText (extractText message.payload)).fullText := by
  rw [handleCommit, resolved, nonempty?]
  dsimp only
  split_ifs
  · rfl
  · cases input.synthesize _ _ with
    | error error => rfl
    | ok result => rfl

theorem toList_partsOf (pieces : List String) :
    (partsOf pieces).map String.toList = Text.words isSpace (pieces.map String.toList) := by
  induction pieces with
  | nil => rfl
  | cons piece rest ih =>
    have one : partsOf (piece :: rest) =
        if strip piece = "" then partsOf rest else strip piece :: partsOf rest := by
      rw [partsOf, List.map_cons, List.filter_cons]
      split <;> simp_all [partsOf]
    rw [one, List.map_cons]
    by_cases silent : strip piece = ""
    · rw [if_pos silent, ih, Text.words_cons_silent (strip_eq_empty_iff.mp silent)]
    · have spoken : Text.strip isSpace piece.toList ≠ [] := fun nothing =>
        silent (strip_eq_empty_iff.mpr nothing)
      rw [if_neg silent, List.map_cons, ih, Text.words_cons_spoken spoken, strip,
        String.toList_ofList]

/-- Between the pieces there is a single space, and at the ends there is none of the separators that
only Python takes for whitespace. -/
def SingleSpaces (pieces : List String) : Prop :=
  Text.Gaps isSpace isWhitespace ' ' [] (pieces.map String.toList)

theorem fullText_eq_iff {session : SessionState floats} (stripped : Stripped session)
    {pieces : List String} (parts : session.textParts = partsOf pieces) :
    session.fullText = trim (String.join pieces) ↔ SingleSpaces pieces := by
  have joined : session.fullText.toList =
      [' '].intercalate (Text.words isSpace (pieces.map String.toList)) := by
    rw [toList_fullText stripped, parts, toList_partsOf]
  have trimmed : (trim (String.join pieces)).toList =
      Text.strip isWhitespace ([] ++ (pieces.map String.toList).flatten) := by
    rw [trim, String.toList_ofList, String.toList_join]
    rfl
  rw [← String.toList_inj, joined, trimmed, eq_comm]
  apply Text.strip_flatten_eq_iff
  · decide
  · intro c blank
    rw [isSpace, blank]
    rfl
  · intro c member
    cases member

/-- The commit of a session has the text spoken that the provider of the gateway would have spoken
for the same pieces. -/
def SpeaksSameText (config : BridgeConfig floats) (earlier : List (Input floats))
    (input : Input floats) : Prop :=
  ∀ sessions, accepted.run config earlier = .usable sessions →
    ∀ message, decodeClientMessage input.loaded = .ok message → isCommit message = true →
      ∀ session, resolveSession message.payload sessions = .ok session →
        (handleMessage config sessions input message).requested =
          meloRequested (commandsOf (piecesOf config session.sessionId earlier ++
            [extractText message.payload])) ""

/-- There is a single space between the pieces of the session that is committed. -/
def CommitsSingleSpaces (config : BridgeConfig floats) (earlier : List (Input floats))
    (input : Input floats) : Prop :=
  ∀ sessions, accepted.run config earlier = .usable sessions →
    ∀ message, decodeClientMessage input.loaded = .ok message → isCommit message = true →
      ∀ session, resolveSession message.payload sessions = .ok session →
        SingleSpaces (piecesOf config session.sessionId earlier ++ [extractText message.payload])

/-- The bridge has the same text spoken as the gateway exactly if there is a single space between the
pieces. -/
theorem speaksSameText_iff (config : BridgeConfig floats) (earlier : List (Input floats))
    (input : Input floats) :
    SpeaksSameText config earlier input ↔ CommitsSingleSpaces config earlier input := by
  have each (sessions : Table String (SessionState floats))
      (reached : accepted.run config earlier = .usable sessions) (message : DecodedMessage)
      (commit : isCommit message = true) (session : SessionState floats)
      (resolved : resolveSession message.payload sessions = .ok session) :
      (handleMessage config sessions input message).requested =
          meloRequested (commandsOf (piecesOf config session.sessionId earlier ++
            [extractText message.payload])) "" ↔
        SingleSpaces (piecesOf config session.sessionId earlier ++
          [extractText message.payload]) := by
    have wellFormed := sound_run config sound_accepted earlier sessions reached
    obtain ⟨stands, stripped⟩ := lookup_of_resolveSession wellFormed resolved
    rw [handleMessage_commit config sessions input commit, requested_handleCommit resolved,
      meloRequested_commandsOf, nonempty?_inj, String.empty_append]
    apply fullText_eq_iff (stripped_appendText stripped _)
    rw [textParts_appendText, textParts_run config earlier reached stands, partsOf_concat]
  constructor
  · intro same sessions reached message decoded commit session resolved
    exact (each sessions reached message commit session resolved).mp
      (same sessions reached message decoded commit session resolved)
  · intro spaced sessions reached message decoded commit session resolved
    exact (each sessions reached message commit session resolved).mpr
      (spaced sessions reached message decoded commit session resolved)

def meloFrame (type : String) (payload : List (String × Json)) : Input unitSpeeds :=
  { loaded := .ok (.object [("type", .string type), ("payload", .object payload)])
    freshId := "s"
    synthesize := fun _ _ => .error "MeloTTS upstream unavailable" }

/-- A word that is split between the start of a session and its commit. -/
def splitStart : Input unitSpeeds := meloFrame "tts.start" [("text", .string "hel")]

def splitCommit : Input unitSpeeds :=
  meloFrame "tts.commit" [("session_id", .string "s"), ("text", .string "lo")]

theorem splitWord_not_same : ¬ SpeaksSameText plainBridge [splitStart] splitCommit := by
  intro same
  have requested := same _ rfl _ rfl (by decide +kernel) _ rfl
  revert requested
  decide +kernel

end SpeechMesh.Soundness
