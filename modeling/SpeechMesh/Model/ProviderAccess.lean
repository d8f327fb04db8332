import SpeechMesh.Async.Gradual
import SpeechMesh.Model.ProviderCommands

/-! # How the state file is read and written

`fs::write` opens and truncates the file, and then writes the text piece by piece, each piece where
the one before it ended. `fs::read_to_string` opens the file and reads it piece by piece, up to where
nothing more comes. Nothing keeps two processes from being in the middle of such calls at once.
-/

namespace SpeechMesh.Model.ProviderStore

open Async

/-- A call of `fs::write`, by what it has written and what is left. -/
inductive WriteStage where
  | opening
  | writing (written rest : Bytes)

/-- A call of `fs::read_to_string`, by what it has read. -/
inductive ReadStage where
  | opening
  | reading (raw : Bytes)

/-- The other actions do not touch the file. -/
def AccessStage : StoreAction → Type
  | .readState _ => ReadStage
  | .writeState _ _ => WriteStage
  | .readCatalog _ | .createDirAll _ | .nowUnixSecs => Unit

def AccessStage.start : (action : StoreAction) → AccessStage action
  | .readState _ => ReadStage.opening
  | .writeState _ _ => WriteStage.opening
  | .readCatalog _ | .createDirAll _ | .nowUnixSecs => ()

/-- A piece is written over what is there. A file that was truncated meanwhile is filled up with
zeros. -/
def overwrite (content : Bytes) (offset : ℕ) (piece : Bytes) : Bytes :=
  content.take offset ++ List.replicate (offset - content.length) 0 ++ piece ++
    content.drop (offset + piece.length)

inductive WriteMoves (bytes : Bytes) :
    WriteStage → Option Bytes → WriteStage → Option Bytes → Prop where
  | opened (file : Option Bytes) : WriteMoves bytes .opening file (.writing [] bytes) (some [])
  | wrote (content written piece rest : Bytes) (nonempty : piece ≠ []) :
      WriteMoves bytes (.writing written (piece ++ rest)) (some content)
        (.writing (written ++ piece) rest) (some (overwrite content written.length piece))

inductive ReadMoves : ReadStage → Option Bytes → ReadStage → Option Bytes → Prop where
  | opened (content : Bytes) : ReadMoves .opening (some content) (.reading []) (some content)
  | read (content raw piece : Bytes) (nonempty : piece ≠ [])
      (next : piece <+: content.drop raw.length) :
      ReadMoves (.reading raw) (some content) (.reading (raw ++ piece)) (some content)

def AccessMoves : {action : StoreAction} → AccessStage action → Option Bytes →
    AccessStage action → Option Bytes → Prop
  | .readState _ => ReadMoves
  | .writeState _ bytes => WriteMoves bytes
  | .readCatalog _ | .createDirAll _ | .nowUnixSecs => fun _ _ _ _ => False

/-- A call can fail in any stage. -/
inductive WriteEnds : WriteStage → Except String Unit → Prop where
  | written (written : Bytes) : WriteEnds (.writing written []) (.ok ())
  | failed (stage : WriteStage) (error : String) : WriteEnds stage (.error error)

inductive ReadEnds : ReadStage → Option Bytes → Except ReadError Bytes → Prop where
  | missing : ReadEnds .opening none (.error .notFound)
  | read (content raw : Bytes) (all : content.length ≤ raw.length) :
      ReadEnds (.reading raw) (some content) (.ok raw)
  | failed (stage : ReadStage) (file : Option Bytes) (text : String) :
      ReadEnds stage file (.error (.other text))

def AccessEnds : {action : StoreAction} → AccessStage action → Option Bytes → action.Answer → Prop
  | .readState _ => ReadEnds
  | .writeState _ _ => fun stage _ => WriteEnds stage
  | .readCatalog _ | .createDirAll _ | .nowUnixSecs => fun _ _ _ => True

/-- The state file as the processes access it. -/
def fileAccess : Gradual providerStore (Option Bytes) where
  Stage := AccessStage
  start := AccessStage.start
  Moves := AccessMoves
  Ends := AccessEnds

end SpeechMesh.Model.ProviderStore
