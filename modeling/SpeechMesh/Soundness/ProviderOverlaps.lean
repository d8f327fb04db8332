import SpeechMesh.Model.ProviderAccess

/-! # Reads and writes that do not overlap

Two processes that access the state file piece by piece come to the same as if every access were one
action, as long as no access of one of them overlaps a write of the other.
-/

namespace SpeechMesh.Soundness

open Async Model.ProviderStore
open Model (Bytes)

variable {α β : Type}

/-- The process is within a call of `fs::write`. -/
def Writes : Thread fileAccess α → Prop
  | .busy (.writeState _ _) _ _ => True
  | _ => False

/-- The process is within a call that reads or writes the file. -/
def Accesses : Thread fileAccess α → Prop
  | .busy (.readState _) _ _ | .busy (.writeState _ _) _ _ => True
  | _ => False

/-- While one of the processes writes the file, the other one does not access it. -/
def Exclusive (left : Thread fileAccess α) (right : Thread fileAccess β) : Prop :=
  (Writes left → ¬ Accesses right) ∧ (Writes right → ¬ Accesses left)

/-- What a call has done so far: a read has read the beginning of the file, a write has written all
that is in it. `origin` is the file before a write. -/
def Progress (origin file : Option Bytes) : Thread fileAccess α → Prop
  | .busy (.readState _) (.reading raw : ReadStage) _ =>
      ∃ content, file = some content ∧ raw <+: content
  | .busy (.writeState _ _) (.opening : WriteStage) _ => file = origin
  | .busy (.writeState _ bytes) (.writing written rest : WriteStage) _ =>
      bytes = written ++ rest ∧ file = some written
  | _ => True

/-- The file is as it was, unless one of the processes is writing it. -/
structure Midway (origin : Option Bytes) (left : Thread fileAccess α)
    (right : Thread fileAccess β) (file : Option Bytes) : Prop where
  first : Progress origin file left
  second : Progress origin file right
  still : ¬ Writes left → ¬ Writes right → file = origin
  exclusive : Exclusive left right

variable {left next : Thread fileAccess α} {right : Thread fileAccess β}
  {origin file before after : Option Bytes}

theorem Writes.accesses {thread : Thread fileAccess α} (writes : Writes thread) :
    Accesses thread := by
  cases thread with
  | idle code => exact writes
  | busy action stage next => cases action <;> trivial

theorem Exclusive.symm (exclusive : Exclusive left right) : Exclusive right left :=
  ⟨exclusive.2, exclusive.1⟩

theorem Midway.symm (midway : Midway origin left right file) : Midway origin right left file :=
  ⟨midway.second, midway.first, fun quiet other => midway.still other quiet, midway.exclusive.symm⟩

/-- A process that does not access the file has nothing to find there. -/
theorem progress_of_aside {thread : Thread fileAccess α} (quiet : ¬ Accesses thread) :
    Progress origin file thread := by
  cases thread with
  | idle code => trivial
  | busy action stage next =>
    cases action with
    | readState path | writeState path bytes => exact absurd trivial quiet
    | readCatalog path | createDirAll path | nowUnixSecs => trivial

/-- A piece that is written at the end is put there. -/
theorem overwrite_end (content piece : Bytes) :
    overwrite content content.length piece = content ++ piece := by
  simp [overwrite]

/-- A process moves while the other one stays out of its way. -/
theorem Midway.moves (midway : Midway origin left right before)
    (moves : left.Moves before next after) (meets : Exclusive next right) :
    Midway origin next right after := by
  cases moves with
  | begins action code state =>
    refine ⟨?_, midway.second, fun _ quiet => midway.still id quiet, meets⟩
    cases action with
    | readState path | readCatalog path | createDirAll path | nowUnixSecs => trivial
    | writeState path bytes =>
      exact midway.still id fun writes => meets.1 trivial writes.accesses
  | @moves action stage later code before after moved =>
    cases action with
    | readCatalog path | createDirAll path | nowUnixSecs => exact moved.elim
    | readState path =>
      cases moved with
      | opened content => exact ⟨⟨content, rfl, List.nil_prefix⟩, midway.second, midway.still, meets⟩
      | read content raw piece _ follows =>
        refine ⟨⟨content, rfl, ?_⟩, midway.second, midway.still, meets⟩
        obtain ⟨known, found, rest, split⟩ := midway.first
        obtain rfl := Option.some.inj found
        obtain ⟨later, same⟩ := follows
        rw [← split, List.drop_left] at same
        exact ⟨later, by rw [← split, List.append_assoc, same]⟩
    | writeState path bytes =>
      have aside {file : Option Bytes} : Progress origin file right :=
        progress_of_aside (midway.exclusive.1 trivial)
      cases moved with
      | opened file => exact ⟨⟨rfl, rfl⟩, aside, fun quiet => absurd trivial quiet, meets⟩
      | wrote content written piece rest _ =>
        obtain ⟨whole, found⟩ := midway.first
        obtain rfl := Option.some.inj found
        refine ⟨⟨?_, ?_⟩, aside, fun quiet => absurd trivial quiet, meets⟩
        · rw [whole, List.append_assoc]
        · rw [overwrite_end]

/-- What a process ends has been a whole action on the file. -/
theorem Midway.ends {entry : Entry providerStore} (midway : Midway origin left right file)
    (ends : left.Ends file entry next) (meets : Exclusive next right) :
    ∃ after, StoreStep origin entry after ∧ Midway after next right file := by
  cases ends with
  | @ends action stage code state answer ended =>
    cases action with
    | readCatalog path | createDirAll path | nowUnixSecs =>
      exact ⟨origin, rfl, trivial, midway.second, midway.still, meets⟩
    | readState path =>
      have quiet : ¬ Writes right := fun writes => midway.exclusive.2 writes trivial
      obtain rfl := midway.still id quiet
      refine ⟨file, ?_, trivial, midway.second, fun _ _ => rfl, meets⟩
      cases ended with
      | missing => exact ⟨rfl, rfl⟩
      | failed stage file text => exact rfl
      | read content raw all =>
        obtain ⟨known, found, start⟩ := midway.first
        obtain rfl := Option.some.inj found
        exact ⟨rfl, congrArg some (start.eq_of_length_le all).symm⟩
    | writeState path bytes =>
      have aside : Progress file file right := progress_of_aside (midway.exclusive.1 trivial)
      refine ⟨file, ?_, trivial, aside, fun _ _ => rfl, meets⟩
      cases ended with
      | written written =>
        obtain ⟨whole, found⟩ := midway.first
        rw [List.append_nil] at whole
        exact whole ▸ found
      | failed stage error =>
        cases (stage : WriteStage) with
        | opening => exact .inl midway.first
        | writing written rest =>
          obtain ⟨whole, found⟩ := midway.first
          exact .inr ⟨written, ⟨rest, whole.symm⟩, found⟩

theorem midway_whole : PerformsWhole StoreStep (@Exclusive α β) Midway where
  leftMoves midway moves meets := midway.moves moves meets
  leftEnds midway ends meets := midway.ends ends meets
  rightMoves midway moves meets := (midway.symm.moves moves meets.symm).symm
  rightEnds midway ends meets := by
    obtain ⟨after, stepped, kept⟩ := midway.symm.ends ends meets.symm
    exact ⟨after, stepped, kept.symm⟩

/-- Accesses that exclude each other are whole actions. -/
theorem accesses_whole {left leftLast : StoreCode α} {right rightLast : StoreCode β}
    {trace : List (Entry providerStore ⊕ Entry providerStore)}
    (ran : Overlapped fileAccess Exclusive (.idle left) (.idle right) before trace (.idle leftLast)
      (.idle rightLast) after) :
    Interleaved StoreStep left right before trace leftLast rightLast after := by
  have begun : Midway before (.idle left) (.idle right) before :=
    ⟨trivial, trivial, fun _ _ => rfl, nofun, nofun⟩
  obtain ⟨last, interleaved, midway⟩ := ran.interleaved midway_whole begun
  rwa [midway.still id id]

/-! ## Accesses one after the other -/

/-- What is written of a text, up to where the write ends or fails. -/
theorem write_carries {path : Model.Path} {bytes part rest : Bytes} {answer : Except String Unit}
    (whole : bytes = part ++ rest) (ends : WriteEnds (.writing part rest) answer) :
    @Gradual.Carries _ _ fileAccess (.writeState path bytes) WriteStage.opening file answer
      (some part) := by
  subst whole
  refine .moves (WriteMoves.opened file) ?_
  by_cases empty : part = []
  · subst empty
    exact .ends ends
  · refine .moves (WriteMoves.wrote [] [] part rest empty) ?_
    rw [show overwrite [] ([] : Bytes).length part = part from overwrite_end [] part]
    exact .ends ends

theorem storeStep_carried {action : StoreAction} {answer : action.Answer}
    (stepped : StoreStep before ⟨action, answer⟩ after) :
    fileAccess.Carries (fileAccess.start action) before answer after := by
  cases action with
  | readCatalog path | createDirAll path | nowUnixSecs =>
    obtain rfl : after = before := stepped
    exact .ends trivial
  | readState path =>
    cases (answer : Except ReadError Bytes) with
    | ok raw =>
      obtain ⟨rfl, rfl⟩ := stepped
      refine .moves (ReadMoves.opened raw) ?_
      by_cases empty : raw = []
      · subst empty
        exact .ends (.read [] [] le_rfl)
      · exact .moves (ReadMoves.read raw [] raw empty List.prefix_rfl) (.ends (.read raw raw le_rfl))
    | error error =>
      cases error with
      | notFound =>
        obtain ⟨rfl, rfl⟩ := stepped
        exact .ends .missing
      | other text =>
        obtain rfl : after = before := stepped
        exact .ends (.failed _ _ text)
  | writeState path bytes =>
    cases (answer : Except String Unit) with
    | ok done =>
      obtain rfl : after = some bytes := stepped
      exact write_carries (List.append_nil bytes).symm (.written bytes)
    | error error =>
      rcases stepped with rfl | ⟨part, ⟨rest, whole⟩, rfl⟩
      · exact .ends (.failed _ error)
      · exact write_carries whole.symm (.failed _ error)

/-- Whole actions are accesses that exclude each other. -/
theorem whole_accesses {left leftLast : StoreCode α} {right rightLast : StoreCode β}
    {trace : List (Entry providerStore ⊕ Entry providerStore)}
    (ran : Interleaved StoreStep left right before trace leftLast rightLast after) :
    Overlapped fileAccess Exclusive (.idle left) (.idle right) before trace (.idle leftLast)
      (.idle rightLast) after :=
  ran.overlapped Exclusive storeStep_carried (fun _ _ => ⟨fun _ => id, nofun⟩) fun _ _ => ⟨nofun, fun _ => id⟩

end SpeechMesh.Soundness
