import SpeechMesh.Encoding.Lossy
import SpeechMesh.Model.Protocol

/-! # How the device reports a failed player

What the player wrote to its standard error goes into the status of the task, shortened. Where the
code panics, the definitions here are `none`.
-/

namespace SpeechMesh.Model

open Encoding

/-- `str::split_whitespace`. -/
def splitWhitespace (text : List Char) : List (List Char) :=
  (text.splitOnP isWhitespace).filter (· ≠ [])

/-- `from_utf8_lossy`, with every run of whitespace as one space and none at the ends. -/
def normalizedStderr (bytes : Bytes) : List Char :=
  List.intercalate [' '] (splitWhitespace (lossy bytes))

/-- The length of a text in bytes. -/
def byteLength (text : List Char) : ℕ := (text.map Char.utf8Size).sum

/-- The slice of a text up to a byte index, which panics within a character and past the end. -/
def sliceTo : ℕ → List Char → Option (List Char)
  | 0, _ => some []
  | _ + 1, [] => none
  | index + 1, c :: rest =>
      if c.utf8Size ≤ index + 1 then (sliceTo (index + 1 - c.utf8Size) rest).map (c :: ·) else none

def maxStderrLength : ℕ := 240

/-- `summarize_stderr`. -/
def summarizeStderr (bytes : Bytes) : Option String :=
  if bytes = [] then some "(empty)"
  else
    let normalized := normalizedStderr bytes
    if normalized = [] then some "(empty)"
    else if maxStderrLength < byteLength normalized then
      (sliceTo maxStderrLength normalized).map fun kept => String.ofList kept ++ "..."
    else some (String.ofList normalized)

/-- What reading the standard error of the player comes to. -/
inductive StderrRead where
  | unavailable
  | read (bytes : Bytes)
  | failed (error : String)
  | timedOut

/-- `collect_child_stderr`. -/
def collectChildStderr : StderrRead → Option String
  | .unavailable => some "stderr unavailable"
  | .read bytes => summarizeStderr bytes
  | .failed error => some ("failed to read stderr: " ++ error)
  | .timedOut => some "stderr read timed out"

/-- How a player can fail to finish. -/
inductive PlayerFailure where
  | exited (status : String)
  | waitFailed (error : String)
  | timedOut (limit : String)

/-- What waiting for a player comes to. -/
inductive PlayerExit where
  | succeeded
  | failed (failure : PlayerFailure) (stderr : StderrRead)

/-- The message of the failed status that answers a Finish. -/
def finishFailureMessage (failure : PlayerFailure) (stderr : StderrRead) : Option String := do
  let summary ← collectChildStderr stderr
  return match failure with
    | .exited status =>
        "local playback process exited with status " ++ status ++ "; stderr: " ++ summary
    | .waitFailed error =>
        "failed waiting for local playback process: " ++ error ++ "; stderr: " ++ summary
    | .timedOut limit => "local playback timed out after " ++ limit ++ "; stderr: " ++ summary

/-- The status message that the device sends, if it gets that far. -/
def finishFailureStatus (taskId : String) (failure : PlayerFailure) (stderr : StderrRead) :
    Option AgentToGatewayMessage :=
  (finishFailureMessage failure stderr).map fun message =>
    .taskStatus taskId ⟨.failed, some message⟩

end SpeechMesh.Model
