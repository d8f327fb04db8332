import SpeechMesh.Model.SelfUpdate

/-! # Replacing the binary can be recovered from

Whatever operation of `replace_binary` fails, and wherever it is cut off, the old or the new binary
is stored as a whole at the target or at its backup path.
-/

namespace SpeechMesh.Soundness

open Async Model

/-! ## The paths beside the target -/

/-- The path of the backup, if the target has a directory and a file name. -/
def backupOf (target : Path) : Option Path := do
  let dir ← target.parent
  let fileName ← target.fileName
  return prevPath dir fileName

/-- The three paths of a replacement differ from each other. -/
structure Beside (target temp backup : Path) : Prop where
  temp_ne_target : temp ≠ target
  backup_ne_target : backup ≠ target
  temp_ne_backup : temp ≠ backup

theorem components_of_file {target dir : Path} {fileName : FileName}
    (parent : target.parent = some dir) (file : target.fileName = some fileName) :
    target.components = dir.components ++ [.normal fileName] := by
  rw [Path.fileName] at file
  split at file
  · rename_i name found
    obtain rfl := Option.some.inj file
    rw [Path.parent, found] at parent
    obtain rfl := Option.some.inj parent
    exact (List.dropLast_append_getLast? _ found).symm
  · cases file

/-- The last component of a path beside the target. -/
private theorem join_eq_iff {dir : Path} {fileName : FileName} {target : Path} {name : String}
    (parent : target.parent = some dir) (file : target.fileName = some fileName) :
    dir.join name = target ↔ fileName = .utf8 name := by
  have whole := components_of_file parent file
  obtain ⟨components⟩ := target
  dsimp only at whole
  rw [Path.join, whole, Model.Path.mk.injEq]
  simp [eq_comm]

private theorem decorated_length (text suffix : String) :
    ("." ++ text ++ suffix).length = 1 + text.length + suffix.length := by
  rw [String.length_append, String.length_append]
  rfl

/-- A name between a dot and a suffix is another name. -/
private theorem decorated_ne {fileName : FileName} {suffix : String} :
    fileName ≠ .utf8 ("." ++ fileName.toStringLossy ++ suffix) := by
  cases fileName with
  | utf8 text =>
    intro same
    have lengths := congrArg String.length (FileName.utf8.inj same)
    rw [FileName.toStringLossy, decorated_length] at lengths
    omega
  | other bytes lossy => simp

theorem beside {target dir : Path} {fileName : FileName} (parent : target.parent = some dir)
    (file : target.fileName = some fileName) :
    Beside target (updatePath dir fileName) (prevPath dir fileName) where
  temp_ne_target := fun same => decorated_ne ((join_eq_iff parent file).mp same)
  backup_ne_target := fun same => decorated_ne ((join_eq_iff parent file).mp same)
  temp_ne_backup := by
    intro same
    have names := congrArg Path.components same
    simp only [updatePath, prevPath, Path.join, List.append_cancel_left_eq, List.cons.injEq,
      PathComponent.normal.injEq, FileName.utf8.injEq, and_true] at names
    have lengths := congrArg String.length names
    rw [decorated_length, decorated_length, Nat.add_left_cancel_iff] at lengths
    exact absurd lengths (by decide)

/-! ## What is stored -/

/-- The old or the new binary is stored as a whole where it is looked for. -/
def Recoverable (target : Path) (old new : Bytes) (files : Files Path UInt8) : Prop :=
  ∃ path, (path = target ∨ backupOf target = some path) ∧
    (files path = some old ∨ files path = some new)

/-- The old binary is kept as the backup. -/
def Replaced (target : Path) (old new : Bytes) (files : Files Path UInt8) : Prop :=
  files target = some new ∧ ∃ backup, backupOf target = some backup ∧ files backup = some old

/-- The rename that was to put the old binary back failed. -/
def RollbackFailed (target : Path) (trace : Trace updater) : Prop :=
  ∃ backup error, backupOf target = some backup ∧
    (⟨.file (.rename backup target), Except.error error⟩ : Entry updater) ∈ trace

/-- What is claimed of a replacement that has ended. -/
def ReplacementEnded (target : Path) (old new : Bytes) (result : Except String Unit)
    (trace : Trace updater) (files : Files Path UInt8) : Prop :=
  match result with
  | .ok () => Replaced target old new files
  | .error _ => files target = some old ∨ RollbackFailed target trace

/-! ## How often the target was replaced -/

/-- A new binary was moved to the target. -/
def replaces (target : Path) : Entry updater → Bool
  | ⟨.file (.rename source destination), .ok ()⟩ =>
      destination == target && some source != backupOf target
  | _ => false

def replacements (target : Path) (trace : Trace updater) : ℕ := trace.countP (replaces target)

theorem replacements_append (target : Path) (trace : Trace updater) (entry : Entry updater) :
    replacements target (trace ++ [entry]) =
      replacements target trace + if replaces target entry then 1 else 0 := by
  rw [replacements, List.countP_append, List.countP_singleton, replacements]

theorem replacements_quiet {target : Path} (trace : Trace updater) {entry : Entry updater}
    (quiet : replaces target entry = false) :
    replacements target (trace ++ [entry]) = replacements target trace := by
  rw [replacements_append, quiet, if_neg Bool.false_ne_true, Nat.add_zero]

/-- An operation that leaves the target alone does not replace it. -/
theorem not_replaces_of_untouched {target : Path} {action : FileAction Path UInt8}
    (untouched : target ∉ Files.touched action) (answer : action.Answer) :
    replaces target ⟨.file action, answer⟩ = false := by
  cases action with
  | rename source destination =>
    have apart : destination ≠ target := fun same => untouched (by simp [Files.touched, same])
    cases answer with
    | ok _ => simp [replaces, apart]
    | error _ => rfl
  | _ => rfl

/-- Where a replacement stands, from the old binary at the target to the new one. The target was
replaced a number of times before. -/
inductive Swapping (target : Path) (old new : Bytes) (times : ℕ) (trace : Trace updater)
    (files : Files Path UInt8) : Prop where
  | before (stored : files target = some old) (counted : replacements target trace = times)
  | between {backup : Path} (gone : files target = none) (found : backupOf target = some backup)
      (kept : files backup = some old) (counted : replacements target trace = times)
  | after (replaced : Replaced target old new files)
      (counted : replacements target trace = times + 1)

theorem Swapping.recoverable {target : Path} {old new : Bytes} {times : ℕ} {trace : Trace updater}
    {files : Files Path UInt8} (swapping : Swapping target old new times trace files) :
    Recoverable target old new files := by
  cases swapping with
  | before stored => exact ⟨target, .inl rfl, .inl stored⟩
  | between _ found kept => exact ⟨_, .inr found, .inl kept⟩
  | after replaced =>
    obtain ⟨_, backup, found, kept⟩ := replaced
    exact ⟨backup, .inr found, .inl kept⟩

/-- A replacement that has ended, with its result. -/
structure Swapped (target : Path) (old new : Bytes) (times : ℕ) (result : Except String Unit)
    (trace : Trace updater) (files : Files Path UInt8) : Prop where
  swapping : Swapping target old new times trace files
  ended : ReplacementEnded target old new result trace files
  counted : replacements target trace = times + if result = .ok () then 1 else 0

/-! ## Every moment of a replacement -/

variable {target temp backup dir : Path} {fileName : FileName} {old new : Bytes} {times : ℕ}
  {files : Files Path UInt8} {trace : Trace updater}

/-- A replacement that is given up before the target is touched. -/
theorem swapped_of_stored (error : String) (stored : files target = some old)
    (counted : replacements target trace = times) :
    Swapped target old new times (.error error) trace files :=
  ⟨.before stored counted, .inl stored, counted⟩

/-- An operation that leaves the target alone, as part of a replacement. -/
theorem onFile_keeps {action : FileAction Path UInt8} (untouched : target ∉ Files.touched action)
    (stored : files target = some old) (counted : replacements target trace = times) :
    (onFile action).Ensures UpdateStep (Swapping target old new times)
      (fun answer trace after => files.Step action answer after ∧ after target = some old ∧
        replacements target trace = times) trace files := by
  intro answer after stepped
  have kept : after target = some old := by rw [stepped.frame untouched, stored]
  have still := counted
  rw [← replacements_quiet trace (not_replaces_of_untouched untouched answer)] at still
  exact ⟨.before kept still, stepped, kept, still⟩

theorem orContext_ensures {σ α : Type} {step : σ → Entry updater → σ → Prop} {state : σ}
    {always : Trace updater → σ → Prop} {post : Except String α → Trace updater → σ → Prop}
    {context : String} {result : Except String Unit} {next : UpdateCode (Except String α)}
    (failed : ∀ error, result = .error error →
      post (.error (context ++ ": " ++ error)) trace state)
    (succeeded : result = .ok () → next.Ensures step always post trace state) :
    (orContext context result next).Ensures step always post trace state := by
  cases result with
  | ok _ => exact succeeded rfl
  | error error => exact failed error rfl

theorem copyPermissions_ensures {source destination : Path} (stored : files target = some old)
    (counted : replacements target trace = times) :
    (copyPermissions source destination).Ensures UpdateStep (Swapping target old new times)
      (fun _ trace after => after = files ∧ replacements target trace = times) trace files := by
  refine (onFile_keeps (by simp [Files.touched]) stored counted).bind ?_
  rintro read trace after ⟨stepped, kept, counted⟩
  refine orContext_ensures ?_ ?_
  · rintro error rfl
    exact ⟨stepped, counted⟩
  · rintro rfl
    obtain ⟨rfl, _⟩ := stepped
    refine (onFile_keeps (by simp [Files.touched]) kept counted).bind ?_
    rintro applied trace after ⟨stepped, _, counted⟩
    refine orContext_ensures ?_ ?_
    · rintro error rfl
      exact ⟨stepped, counted⟩
    · rintro rfl
      exact ⟨stepped.1, counted⟩

theorem swapBinary_ensures (apart : Beside target temp backup)
    (found : backupOf target = some backup) (stored : files target = some old)
    (prepared : files temp = some new) (counted : replacements target trace = times) :
    (swapBinary target temp backup).Ensures UpdateStep (Swapping target old new times)
      (Swapped target old new times) trace files := by
  intro backedUp after stepped
  have moved : replaces target ⟨.file (.rename target backup), backedUp⟩ = false := by
    cases backedUp with
    | ok _ => simp [replaces, apart.backup_ne_target]
    | error _ => rfl
  have still := (replacements_quiet trace moved).trans counted
  cases backedUp with
  | error error =>
    obtain rfl : after = files := stepped
    exact ⟨.before stored still, swapped_of_stored _ stored still⟩
  | ok _ =>
    obtain ⟨rfl, _⟩ : after = files.rename target backup ∧ _ := stepped
    have gone : files.rename target backup target = none :=
      Files.rename_source apart.backup_ne_target.symm
    have kept : files.rename target backup backup = some old := by
      rw [Files.rename_target, stored]
    refine ⟨.between gone found kept still, ?_⟩
    intro replaced last stepped
    cases replaced with
    | ok _ =>
      -- the new binary is in place
      obtain ⟨rfl, _⟩ : last = (files.rename target backup).rename temp target ∧ _ := stepped
      have backupKept : (files.rename target backup).rename temp target backup = some old := by
        rw [Files.rename_of_ne apart.temp_ne_backup.symm apart.backup_ne_target, kept]
      have swapped : (files.rename target backup).rename temp target target = some new := by
        rw [Files.rename_target, Files.rename_of_ne apart.temp_ne_target apart.temp_ne_backup,
          prepared]
      have done : Replaced target old new ((files.rename target backup).rename temp target) :=
        ⟨swapped, backup, found, backupKept⟩
      have counts : replaces target ⟨.file (.rename temp target), .ok ()⟩ = true := by
        simp [replaces, found, apart.temp_ne_backup]
      have once := replacements_append target
        (trace ++ [⟨.file (.rename target backup), .ok ()⟩])
        ⟨.file (.rename temp target), .ok ()⟩
      rw [counts, if_pos rfl, still] at once
      exact ⟨.after done once, .after done once, done, once⟩
    | error error =>
      -- the old binary is put back, or stays where it is
      obtain rfl : last = files.rename target backup := stepped
      have unmoved : replaces target ⟨.file (.rename temp target), .error error⟩ = false := rfl
      have failed := (replacements_quiet
        (trace ++ [⟨.file (.rename target backup), .ok ()⟩]) unmoved).trans still
      refine ⟨.between gone found kept failed, ?_⟩
      intro restored final stepped
      have rolledBack : replaces target ⟨.file (.rename backup target), restored⟩ = false := by
        cases restored with
        | ok _ => simp [replaces, found]
        | error _ => rfl
      have last := (replacements_quiet (trace ++ [⟨.file (.rename target backup), .ok ()⟩] ++
        [⟨.file (.rename temp target), .error error⟩]) rolledBack).trans failed
      cases restored with
      | ok _ =>
        obtain ⟨rfl, _⟩ : final = (files.rename target backup).rename backup target ∧ _ := stepped
        have back : (files.rename target backup).rename backup target target = some old := by
          rw [Files.rename_target, kept]
        exact ⟨.before back last, swapped_of_stored _ back last⟩
      | error reason =>
        obtain rfl : final = files.rename target backup := stepped
        refine ⟨.between gone found kept last, .between gone found kept last,
          .inr ⟨backup, reason, found, ?_⟩, last⟩
        exact List.mem_append_right _ (List.mem_singleton_self _)

theorem replaceBinary_ensures (stored : files target = some old)
    (counted : replacements target trace = times) :
    (replaceBinary target new).Ensures UpdateStep (Swapping target old new times)
      (Swapped target old new times) trace files := by
  rw [replaceBinary]
  cases parent : target.parent with
  | none => exact swapped_of_stored _ stored counted
  | some dir =>
    cases file : target.fileName with
    | none => exact swapped_of_stored _ stored counted
    | some fileName =>
      have apart := beside parent file
      have found : backupOf target = some (prevPath dir fileName) := by
        rw [backupOf, parent, file]
        rfl
      have tempUntouched : target ∉ Files.touched (.write (updatePath dir fileName) new) := by
        simp [Files.touched, apart.temp_ne_target.symm]
      refine (onFile_keeps tempUntouched stored counted).bind ?_
      rintro written trace after ⟨stepped, kept, counted⟩
      refine orContext_ensures (fun _ _ => swapped_of_stored _ kept counted) ?_
      rintro rfl
      have prepared : after (updatePath dir fileName) = some new := by
        rw [show after = files.write (updatePath dir fileName) new from stepped, Files.write_self]
      refine (copyPermissions_ensures kept counted).bind ?_
      rintro copied trace _ ⟨rfl, counted⟩
      cases copied with
      | error error => exact swapped_of_stored _ kept counted
      | ok _ =>
        refine (onFile_keeps (by simp [Files.touched]) kept counted).bind ?_
        rintro there trace after ⟨⟨rfl, _⟩, _, counted⟩
        cases there with
        | false => exact swapBinary_ensures apart found kept prepared counted
        | true =>
          have backupUntouched :
              target ∉ Files.touched (β := UInt8) (.removeFile (prevPath dir fileName)) := by
            simp [Files.touched, apart.backup_ne_target.symm]
          refine (onFile_keeps backupUntouched kept counted).bind ?_
          rintro removed trace cleared ⟨stepped, kept, counted⟩
          refine orContext_ensures (fun _ _ => swapped_of_stored _ kept counted) ?_
          rintro rfl
          have stillPrepared : cleared (updatePath dir fileName) = some new := by
            rw [stepped.1, Files.remove_of_ne apart.temp_ne_backup, prepared]
          exact swapBinary_ensures apart found kept stillPrepared counted

/-- A target that is not there stays so. -/
structure StillAbsent (target : Path) (times : ℕ) (trace : Trace updater)
    (files : Files Path UInt8) : Prop where
  absent : files target = none
  counted : replacements target trace = times

/-- A target that is not there is not replaced. -/
theorem replaceBinary_absent (still : StillAbsent target times trace files) :
    (replaceBinary target new).Ensures UpdateStep (StillAbsent target times)
      (fun result trace after => StillAbsent target times trace after ∧ result ≠ .ok ())
      trace files := by
  rw [replaceBinary]
  cases parent : target.parent with
  | none => exact ⟨still, fun same => by cases same⟩
  | some dir =>
    cases file : target.fileName with
    | none => exact ⟨still, fun same => by cases same⟩
    | some fileName =>
      intro written after stepped
      have untouched : target ∉ Files.touched (.write (updatePath dir fileName) new) := by
        simp [Files.touched, (beside parent file).temp_ne_target.symm]
      have counted := (replacements_quiet trace
        (not_replaces_of_untouched untouched written)).trans still.counted
      have absent : after target = none := by
        rw [Files.Step.frame stepped untouched, still.absent]
      refine ⟨⟨absent, counted⟩, orContext_ensures
        (fun _ _ => ⟨⟨absent, counted⟩, fun same => by cases same⟩) fun _ => ?_⟩
      intro read last stepped
      cases read with
      | ok _ =>
        obtain ⟨_, there⟩ : last = after ∧ (after target).isSome := stepped
        rw [absent] at there
        cases there
      | error error =>
        obtain rfl : last = after := stepped
        have stays : StillAbsent target times
            (trace ++ [⟨.file (.write (updatePath dir fileName) new), written⟩] ++
              [⟨.file (.metadata target), .error error⟩]) last :=
          ⟨absent, (replacements_quiet _ rfl).trans counted⟩
        exact ⟨stays, stays, fun same => by cases same⟩

/-! ## Every run of a replacement -/

/-- Wherever a replacement is looked at, it can be recovered from; when it has ended, the target
holds what its result says, unless putting the old binary back failed. -/
theorem replacement_recoverable {after : Files Path UInt8} {last : UpdateCode (Except String Unit)}
    (stored : files target = some old)
    (ran : (replaceBinary target new).Performs UpdateStep files trace last after) :
    Recoverable target old new after ∧
      ∀ result, last = .done result → ReplacementEnded target old new result trace after := by
  have start : Swapping target old new 0 [] files := .before stored rfl
  obtain ⟨swapping, further⟩ := ran.ensures start (replaceBinary_ensures stored rfl)
  refine ⟨swapping.recoverable, ?_⟩
  rintro result rfl
  exact Swapped.ended further

/-! ## An environment in which everything works -/

/-- Every file operation succeeds that can, and every request and command does. -/
def obliging (envelope : UpdateManifestEnvelope) (binary : Bytes) (_ : Trace updater)
    (files : Files Path UInt8) : (action : UpdateAction) → Files Path UInt8 × action.Answer
  | .getManifest _ => (files, .body (.ok envelope))
  | .getBinary _ => (files, .body (.ok binary))
  | .file action => files.comply action
  | .createDirAll _ => (files, .ok ())
  | .command _ _ => (files, .ok ⟨true, "exit status: 0", .ok "501"⟩)
  | .nowUnixTimeSecs => (files, (0 : UInt64))
  | .printReport _ => (files, .ok ())
  | .warn _ => (files, ())
  | .sleep _ => (files, ())

theorem obliging_step (envelope : UpdateManifestEnvelope) (binary : Bytes)
    (trace : Trace updater) (files : Files Path UInt8) (action : UpdateAction) :
    UpdateStep files ⟨action, (obliging envelope binary trace files action).2⟩
      (obliging envelope binary trace files action).1 := by
  cases action with
  | file action => exact files.comply_step action
  | _ => rfl

/-- A binary to update, in the directory the process runs in. -/
def speechmesh : Path := ⟨[.normal (.utf8 "speechmesh")]⟩

/-- The binary stands beside what an earlier update left. -/
def leftover : Files Path UInt8 := fun path =>
  if path = speechmesh then some [1]
  else if path = Path.join ⟨[]⟩ ".speechmesh.prev" then some [0]
  else if path = Path.join ⟨[]⟩ ".speechmesh.update" then some [7, 7]
  else none

theorem replacement_recoverable_leftover :
    Replaced speechmesh [1] [2] ((replaceBinary speechmesh [2]).simulate
      (obliging (.legacy ⟨"", "", ""⟩) []) [] leftover).2.1 := by
  obtain ⟨trace, _, ran⟩ := Code.simulate_performs (obliging_step (.legacy ⟨"", "", ""⟩) [])
    (replaceBinary speechmesh [2]) [] leftover
  exact (replacement_recoverable (by decide) ran).2 (.ok ()) (by rfl)

end SpeechMesh.Soundness
