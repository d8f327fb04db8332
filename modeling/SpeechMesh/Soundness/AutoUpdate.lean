import SpeechMesh.Soundness.UpdateSafety

/-! # What the auto-update loop reports

A cycle that replaced the binary says so, and then the loop ends, if the service can be restarted.
If it cannot, the loop goes on with the new binary in place, replaces it again, and loses the old
one.
-/

namespace SpeechMesh.Soundness

open Async Model

/-! ## Rounds -/

/-- What was done between two reports, with the report at its end. -/
structure RoundLog where
  rounds : List (Trace updater × AutoUpdateCycleReport) := []
  current : Trace updater := []

def RoundLog.add (log : RoundLog) (entry : Entry updater) : RoundLog :=
  match entry with
  | ⟨.printReport report, _⟩ => ⟨log.rounds ++ [(log.current, report)], []⟩
  | _ => { log with current := log.current ++ [entry] }

def roundLog (trace : Trace updater) : RoundLog := trace.foldl RoundLog.add {}

def NotPrint : UpdateAction → Prop
  | .printReport _ => False
  | _ => True

theorem roundLog_append_quiet (trace : Trace updater) {further : Trace updater}
    (quiet : ∀ entry ∈ further, NotPrint entry.action) :
    roundLog (trace ++ further) =
      ⟨(roundLog trace).rounds, (roundLog trace).current ++ further⟩ := by
  induction further generalizing trace with
  | nil => rw [List.append_nil, List.append_nil]
  | cons entry rest ih =>
    obtain ⟨first, others⟩ := List.forall_mem_cons.mp quiet
    have added : roundLog (trace ++ [entry]) =
        ⟨(roundLog trace).rounds, (roundLog trace).current ++ [entry]⟩ := by
      rw [roundLog, List.foldl_append]
      obtain ⟨action, answer⟩ := entry
      cases action with
      | printReport report => exact first.elim
      | _ => rfl
    rw [List.append_cons, ih _ others, added]
    simp only [List.append_assoc, List.singleton_append]

theorem roundLog_printed (trace : Trace updater) (report : AutoUpdateCycleReport)
    (answer : UpdateAction.Answer (.printReport report)) :
    roundLog (trace ++ [⟨.printReport report, answer⟩]) =
      ⟨(roundLog trace).rounds ++ [((roundLog trace).current, report)], []⟩ := by
  rw [roundLog, List.foldl_append]
  rfl

/-! ## Truthful reports -/

/-- The report says that an update was applied if and only if the round replaced the target. -/
def ReportHolds (target : Path) (round : Trace updater × AutoUpdateCycleReport) : Prop :=
  round.2.applied = true ↔ 0 < replacements target round.1

def ReportsHold (target : Path) (trace : Trace updater) : Prop :=
  ∀ round ∈ (roundLog trace).rounds, ReportHolds target round

/-- The target was replaced at most once, and then its backup is the binary that it was. -/
structure KeepsBackup (target : Path) (old : Option Bytes) (trace : Trace updater)
    (files : Files Path UInt8) : Prop where
  once : replacements target trace ≤ 1
  backup : replacements target trace = 1 →
    ∃ backup, backupOf target = some backup ∧ files backup = old
  unreplaced : replacements target trace = 0 → files target = old ∨ files target = none

/-- Every report so far holds, the target was replaced at most once, and then its backup is the
binary that was running. -/
structure TruthfulRun (target : Path) (old : Option Bytes) (trace : Trace updater)
    (files : Files Path UInt8) : Prop where
  reports : ReportsHold target trace
  once : replacements target trace ≤ 1
  backup : replacements target trace = 1 →
    ∃ backup, backupOf target = some backup ∧ files backup = old

/-! ## Programs that leave the binary alone -/

/-- Neither the target nor its backup is changed. -/
def Apart (target : Path) : UpdateAction → Prop
  | .file operation => target ∉ Files.touched operation ∧
      ∀ backup, backupOf target = some backup → backup ∉ Files.touched operation
  | _ => True

variable {target : Path} {old : Option Bytes} {trace : Trace updater} {files : Files Path UInt8}

theorem Apart.step {entry : Entry updater} {after : Files Path UInt8}
    (stepped : UpdateStep files entry after) (apart : Apart target entry.action)
    (kept : KeepsBackup target old trace files) :
    KeepsBackup target old (trace ++ [entry]) after ∧
      replacements target (trace ++ [entry]) = replacements target trace := by
  obtain ⟨action, answer⟩ := entry
  cases action with
  | file operation =>
    have counted := replacements_quiet trace (not_replaces_of_untouched apart.1 answer)
    refine ⟨⟨?_, ?_, ?_⟩, counted⟩
    · rw [counted]
      exact kept.once
    · intro replaced
      obtain ⟨backup, found, stored⟩ := kept.backup (counted ▸ replaced)
      exact ⟨backup, found, by rw [Files.Step.frame stepped (apart.2 backup found), stored]⟩
    · intro unreplaced
      rw [Files.Step.frame stepped apart.1]
      exact kept.unreplaced (counted ▸ unreplaced)
  | _ =>
    obtain rfl : after = files := stepped
    have counted : replacements target (trace ++ [⟨_, answer⟩]) = replacements target trace :=
      replacements_quiet trace rfl
    refine ⟨⟨?_, ?_, ?_⟩, counted⟩
    · rw [counted]
      exact kept.once
    · rw [counted]
      exact kept.backup
    · rw [counted]
      exact kept.unreplaced

theorem apart_ensures {α : Type} {code : UpdateCode α}
    (apart : code.Within (Apart target) fun _ => True)
    (kept : KeepsBackup target old trace files) :
    code.Ensures UpdateStep (KeepsBackup target old)
      (fun _ later after => KeepsBackup target old later after ∧
        replacements target later = replacements target trace) trace files := by
  induction code generalizing trace files with
  | done value => exact ⟨kept, rfl⟩
  | act action next ih =>
    intro answer after stepped
    obtain ⟨still, counted⟩ := Apart.step stepped apart.1 kept
    refine ⟨still, (ih answer (apart.2 answer) still).mono (fun _ _ kept => kept) ?_⟩
    rintro value later last ⟨further, same⟩
    exact ⟨further, same.trans counted⟩

theorem IsRequest.apart {action : UpdateAction} (request : IsRequest action) :
    Apart target action := by
  cases action with
  | file operation => exact request.elim
  | _ => trivial

theorem request_ensures {α : Type} {code : UpdateCode α}
    (requests : code.Within IsRequest fun _ => True)
    (kept : KeepsBackup target old trace files) :
    code.Ensures UpdateStep (KeepsBackup target old)
      (fun _ later after => KeepsBackup target old later after ∧
        replacements target later = replacements target trace) trace files :=
  apart_ensures (requests.mono (fun _ => IsRequest.apart) fun _ _ => trivial) kept

/-! ## The restart of the service -/

/-- The commands that restart the service work. -/
def RestartWorks : Entry updater → Prop
  | ⟨.command program _, answer⟩ =>
      if program = "id" then ∃ output uid, answer = .ok output ∧ output.stdout = .ok uid
      else ∃ output, answer = .ok output ∧ output.success = true
  | _ => True

/-- The service that is to be restarted has a name. -/
def Restartable (args : AutoUpdateArgs) : Prop :=
  args.restartMode = .none ∨ args.serviceName.isSome

/-- The steps of an updater whose service can be restarted. -/
def WorkingStep (before : Files Path UInt8) (entry : Entry updater) (after : Files Path UInt8) :
    Prop := UpdateStep before entry after ∧ RestartWorks entry

theorem WorkingStep.update (before : Files Path UInt8) (entry : Entry updater)
    (after : Files Path UInt8) (stepped : WorkingStep before entry after) :
    UpdateStep before entry after := stepped.1

theorem restartWith_works {program failed unsuccessful : String} {args : List String}
    (other : program ≠ "id") :
    (restartWith program args failed unsuccessful).Ensures WorkingStep (fun _ _ => True)
      (fun result _ _ => result = .ok ()) trace files := by
  rintro _ after ⟨_, works⟩
  rw [RestartWorks, if_neg other] at works
  obtain ⟨output, rfl, success⟩ := works
  refine ⟨trivial, ?_⟩
  change (if output.success then _ else _ : UpdateCode _).Ensures _ _ _ _ _
  rw [if_pos success]
  rfl

theorem restartManagedService_works {mode : RestartMode} {serviceName : Option String}
    (named : mode = .none ∨ serviceName.isSome) :
    (restartManagedService mode serviceName).Ensures WorkingStep (fun _ _ => True)
      (fun result _ _ => result = .ok ()) trace files := by
  cases mode with
  | none => rfl
  | systemdUser =>
    cases serviceName with
    | none => simp at named
    | some service => exact restartWith_works (by decide)
  | launchd =>
    cases serviceName with
    | none => simp at named
    | some label =>
      rintro _ after ⟨_, works⟩
      rw [RestartWorks, if_pos rfl] at works
      obtain ⟨⟨success, status, stdout⟩, uid, rfl, decoded⟩ := works
      obtain rfl : stdout = .ok uid := decoded
      exact ⟨trivial, restartWith_works (by decide)⟩

theorem restartIfManaged_works {mode : RestartMode} {serviceName : Option String}
    (named : mode = .none ∨ serviceName.isSome) :
    (restartIfManaged mode serviceName).Ensures WorkingStep (fun _ _ => True)
      (fun result _ _ => ∃ performed, result = .ok performed) trace files := by
  rw [restartIfManaged]
  split_ifs with unmanaged
  · exact ⟨false, rfl⟩
  · refine (restartManagedService_works named).bind ?_
    rintro _ later after rfl
    exact ⟨true, rfl⟩

/-! ## Every moment of a cycle -/

/-- The target was replaced if and only if the flag is set. -/
def Counts (target : Path) (applied : Bool) (trace : Trace updater) : Prop :=
  replacements target trace = if applied then 1 else 0

def succeeded {α : Type} : Except String α → Bool
  | .ok _ => true
  | .error _ => false

theorem keepsBackup_of_swapping {binary new : Bytes}
    (swapping : Swapping target binary new 0 trace files) :
    KeepsBackup target (some binary) trace files := by
  cases swapping with
  | before stored counted => exact ⟨by omega, by omega, fun _ => .inl stored⟩
  | between gone found kept counted => exact ⟨by omega, by omega, fun _ => .inr gone⟩
  | after replaced counted => exact ⟨by omega, fun _ => replaced.2, by omega⟩

theorem keepsBackup_of_absent (still : StillAbsent target 0 trace files) :
    KeepsBackup target old trace files :=
  have counted := still.counted
  ⟨by omega, by omega, fun _ => .inr still.absent⟩

theorem replaceBinary_keeps {bytes : Bytes} (kept : KeepsBackup target old trace files)
    (unreplaced : replacements target trace = 0) :
    (replaceBinary target bytes).Ensures UpdateStep (KeepsBackup target old)
      (fun result later after => KeepsBackup target old later after ∧
        Counts target (succeeded result) later) trace files := by
  cases stored : files target with
  | none =>
    refine (replaceBinary_absent ⟨stored, unreplaced⟩).mono ?_ ?_
    · exact fun later after still => keepsBackup_of_absent still
    · rintro result later after ⟨still, failed⟩
      refine ⟨keepsBackup_of_absent still, ?_⟩
      cases result with
      | ok _ => exact absurd rfl failed
      | error error => exact still.counted
  | some binary =>
    obtain rfl : old = some binary := by
      rcases kept.unreplaced unreplaced with same | gone
      · rw [← same, stored]
      · rw [stored] at gone
        cases gone
    refine (replaceBinary_ensures stored unreplaced).mono ?_ ?_
    · exact fun later after swapping => keepsBackup_of_swapping swapping
    · intro result later after swapped
      refine ⟨keepsBackup_of_swapping swapped.swapping, ?_⟩
      have counted := swapped.counted
      rw [Nat.zero_add] at counted
      cases result with
      | ok _ => exact counted
      | error error => exact counted

theorem applyUpdate_keeps {args : AutoUpdateArgs} {bytes : Bytes}
    (restartable : Restartable args) (kept : KeepsBackup target old trace files)
    (unreplaced : replacements target trace = 0) :
    (applyUpdate (buildAutoUpdateSelfUpdateArgs args) target bytes).Ensures WorkingStep
      (KeepsBackup target old)
      (fun result later after => KeepsBackup target old later after ∧
        Counts target (succeeded result) later) trace files := by
  refine ((replaceBinary_keeps kept unreplaced).fewer WorkingStep.update).bind ?_
  rintro result later after ⟨kept, counted⟩
  cases result with
  | error error => exact ⟨kept, counted⟩
  | ok _ =>
    have quiet := (request_ensures
      (restartIfManaged_quiet args.restartMode args.serviceName) kept).fewer WorkingStep.update
    refine (quiet.and (restartIfManaged_works restartable)).mono (fun _ _ holds => holds.1) ?_
    rintro _ last final ⟨⟨still, same⟩, performed, rfl⟩
    exact ⟨still, same.trans counted⟩

section

variable {Version : Type} [LinearOrder Version] {install : Installation Version}

/-- The report of a self-update counts the replacement. -/
def ReportCounts (target : Path) (result : Except String SelfUpdateReport)
    (trace : Trace updater) : Prop :=
  match result with
  | .ok report => Counts target report.applied trace
  | .error _ => Counts target false trace

omit [LinearOrder Version] in
theorem fetchManifest_quiet {url : String} :
    (fetchManifest url).Within IsRequest fun _ => True :=
  ⟨trivial, fun _ => trivial⟩

theorem resolveManifestRelease_quiet {url channel : String} {client : ClientTarget} :
    (resolveManifestRelease install url channel client).Within IsRequest fun _ => True := by
  refine fetchManifest_quiet.bind fun result _ => ?_
  cases result with
  | error error => trivial
  | ok envelope => trivial

theorem downloadBinary_quiet (url : String) :
    (downloadBinary url).Within IsRequest fun _ => True :=
  ⟨trivial, fun _ => trivial⟩

theorem installRelease_keeps {args : AutoUpdateArgs} {release : ResolvedUpdate}
    (restartable : Restartable args) (kept : KeepsBackup target old trace files)
    (unreplaced : replacements target trace = 0) :
    (installRelease install (buildAutoUpdateSelfUpdateArgs args) release target).Ensures
      WorkingStep (KeepsBackup target old)
      (fun result later after => KeepsBackup target old later after ∧
        ReportCounts target result later) trace files := by
  have unforced : (buildAutoUpdateSelfUpdateArgs args).force = false := rfl
  rw [installRelease, unforced, if_neg Bool.false_ne_true]
  cases refuseUpdate install (compareVersions install install.appVersion release.version)
      release.version with
  | some reason => exact ⟨kept, unreplaced⟩
  | none =>
    refine ((request_ensures (downloadBinary_quiet _) kept).fewer WorkingStep.update).bind ?_
    rintro result later after ⟨kept, same⟩
    have unreplaced := same.trans unreplaced
    cases result with
    | error error => exact ⟨kept, unreplaced⟩
    | ok bytes =>
      change (if _ then _ else _ : UpdateCode _).Ensures _ _ _ _ _
      split_ifs with checksum
      · refine (applyUpdate_keeps restartable kept unreplaced).bind ?_
        rintro result last final ⟨kept, counted⟩
        cases result with
        | error error => exact ⟨kept, counted⟩
        | ok performed => exact ⟨kept, counted⟩
      · exact ⟨kept, unreplaced⟩

theorem executeSelfUpdate_keeps {args : AutoUpdateArgs}
    (named : targetOf install args.binaryPath = some target) (restartable : Restartable args)
    (kept : KeepsBackup target old trace files) (unreplaced : replacements target trace = 0) :
    (executeSelfUpdate install (buildAutoUpdateSelfUpdateArgs args)).Ensures WorkingStep
      (KeepsBackup target old)
      (fun result later after => KeepsBackup target old later after ∧
        ReportCounts target result later) trace files := by
  refine ((request_ensures resolveManifestRelease_quiet kept).fewer WorkingStep.update).bind ?_
  rintro result later after ⟨kept, same⟩
  have unreplaced := same.trans unreplaced
  cases result with
  | error error => exact ⟨kept, unreplaced⟩
  | ok release =>
    cases running : install.currentExe with
    | error error => exact ⟨kept, unreplaced⟩
    | ok currentExe =>
      change (installRelease install (buildAutoUpdateSelfUpdateArgs args) release
        (args.binaryPath.getD currentExe)).Ensures _ _ _ _ _
      rw [getD_eq_of_targetOf running named]
      exact installRelease_keeps restartable kept unreplaced

theorem runAutoUpdateCycle_keeps {args : AutoUpdateArgs}
    (named : targetOf install args.binaryPath = some target) (restartable : Restartable args)
    (kept : KeepsBackup target old trace files) (unreplaced : replacements target trace = 0) :
    (runAutoUpdateCycle install args).Ensures WorkingStep (KeepsBackup target old)
      (fun report later after => KeepsBackup target old later after ∧
        Counts target report.applied later) trace files := by
  intro now after stepped
  have clock : Apart target .nowUnixTimeSecs := trivial
  obtain ⟨kept, same⟩ := Apart.step stepped.1 clock kept
  have unreplaced := same.trans unreplaced
  refine ⟨kept, ?_⟩
  refine ((request_ensures resolveManifestRelease_quiet kept).fewer WorkingStep.update).bind ?_
  rintro result later after ⟨kept, same⟩
  have unreplaced := same.trans unreplaced
  cases result with
  | error error => exact ⟨kept, unreplaced⟩
  | ok release =>
    change (if _ then _ else _ : UpdateCode _).Ensures _ _ _ _ _
    split_ifs with available
    · refine (executeSelfUpdate_keeps named restartable kept unreplaced).bind ?_
      rintro result last final ⟨kept, counted⟩
      cases result with
      | error error => exact ⟨kept, counted⟩
      | ok report => exact ⟨kept, counted⟩
    · exact ⟨kept, unreplaced⟩

/-! ## A cycle prints nothing -/

theorem IsRequest.notPrint {action : UpdateAction} (request : IsRequest action) :
    NotPrint action := by
  cases action with
  | printReport report => exact request.elim
  | _ => trivial

theorem orContext_within {α : Type} {actions : UpdateAction → Prop} {context : String}
    {result : Except String Unit} {next : UpdateCode (Except String α)}
    (within : next.Within actions fun _ => True) :
    (orContext context result next).Within actions fun _ => True := by
  cases result with
  | ok _ => exact within
  | error error => trivial

theorem copyPermissions_notPrint {source destination : Path} :
    (copyPermissions source destination).Within NotPrint fun _ => True :=
  ⟨trivial, fun _ => orContext_within ⟨trivial, fun _ => orContext_within trivial⟩⟩

theorem swapBinary_notPrint {path temp backup : Path} :
    (swapBinary path temp backup).Within NotPrint fun _ => True := by
  refine ⟨trivial, fun _ => orContext_within ⟨trivial, fun replaced => ?_⟩⟩
  cases replaced with
  | ok _ => trivial
  | error error => exact ⟨trivial, fun _ => trivial⟩

theorem replaceBinary_notPrint {path : Path} {bytes : Bytes} :
    (replaceBinary path bytes).Within NotPrint fun _ => True := by
  rw [replaceBinary]
  cases path.parent with
  | none => trivial
  | some dir =>
    cases path.fileName with
    | none => trivial
    | some fileName =>
      refine ⟨trivial, fun _ => orContext_within ?_⟩
      refine copyPermissions_notPrint.bind fun result _ => ?_
      cases result with
      | error error => trivial
      | ok _ =>
        refine ⟨trivial, fun there => ?_⟩
        cases there with
        | false => exact swapBinary_notPrint
        | true => exact ⟨trivial, fun _ => orContext_within swapBinary_notPrint⟩

theorem applyUpdate_notPrint {args : SelfUpdateArgs} {path : Path} {bytes : Bytes} :
    (applyUpdate args path bytes).Within NotPrint fun _ => True := by
  rw [applyUpdate]
  split_ifs
  · trivial
  · refine replaceBinary_notPrint.bind fun result _ => ?_
    cases result with
    | error error => trivial
    | ok _ =>
      exact (restartIfManaged_quiet ..).mono (fun _ => IsRequest.notPrint) fun _ _ => trivial

theorem installRelease_notPrint {args : SelfUpdateArgs} {release : ResolvedUpdate} {path : Path} :
    (installRelease install args release path).Within NotPrint fun _ => True := by
  rw [installRelease]
  cases if args.force = true then none
      else refuseUpdate install (compareVersions install install.appVersion release.version)
        release.version with
  | some reason => trivial
  | none =>
    have silent := (downloadBinary_quiet release.url).mono
      (fun _ => IsRequest.notPrint) fun _ _ => trivial
    refine silent.bind fun result _ => ?_
    cases result with
    | error error => trivial
    | ok bytes =>
      change (if _ then _ else _ : UpdateCode _).Within _ _
      split_ifs
      · refine applyUpdate_notPrint.bind fun result _ => ?_
        cases result with
        | error error => trivial
        | ok performed => trivial
      · trivial

theorem resolveManifestRelease_notPrint {url channel : String} {client : ClientTarget} :
    (resolveManifestRelease install url channel client).Within NotPrint fun _ => True :=
  resolveManifestRelease_quiet.mono (fun _ => IsRequest.notPrint) fun _ _ => trivial

theorem executeSelfUpdate_notPrint {args : AutoUpdateArgs} :
    (executeSelfUpdate install (buildAutoUpdateSelfUpdateArgs args)).Within NotPrint
      fun _ => True := by
  refine resolveManifestRelease_notPrint.bind fun result _ => ?_
  cases result with
  | error error => trivial
  | ok release =>
    cases install.currentExe with
    | error error => trivial
    | ok currentExe => exact installRelease_notPrint

theorem runAutoUpdateCycle_notPrint (install : Installation Version) (args : AutoUpdateArgs) :
    (runAutoUpdateCycle install args).Within NotPrint fun _ => True := by
  refine ⟨trivial, fun now => resolveManifestRelease_notPrint.bind fun result _ => ?_⟩
  cases result with
  | error error => trivial
  | ok release =>
    change (if _ then _ else _ : UpdateCode _).Within _ _
    split_ifs
    · exact executeSelfUpdate_notPrint.bind fun result _ => trivial
    · trivial

/-! ## The status file -/

/-- Neither the status file nor its temporary file is the target or its backup. -/
def StatusApart (args : AutoUpdateArgs) (target : Path) : Prop :=
  ∀ path ∈ args.statusFile, ∀ written ∈ [path, statusTempPath path],
    written ≠ target ∧ ∀ backup, backupOf target = some backup → written ≠ backup

/-- What the loop does after a report. -/
def IsAfterReport (target : Path) (action : UpdateAction) : Prop :=
  Apart target action ∧ NotPrint action

omit [LinearOrder Version] in
theorem storeAutoUpdateState_within {path : Path} {report : AutoUpdateCycleReport}
    (apart : ∀ written ∈ [path, statusTempPath path],
      written ≠ target ∧ ∀ backup, backupOf target = some backup → written ≠ backup) :
    (storeAutoUpdateState install path report).Within (IsAfterReport target) fun _ => True := by
  obtain ⟨pathTarget, pathBackup⟩ := apart path (by simp)
  obtain ⟨tempTarget, tempBackup⟩ := apart (statusTempPath path) (by simp)
  refine ⟨⟨⟨?_, ?_⟩, trivial⟩, fun _ => orContext_within ⟨⟨⟨?_, ?_⟩, trivial⟩, fun _ => ?_⟩⟩
  · simp [Files.touched, tempTarget.symm]
  · intro backup found
    simp [Files.touched, (tempBackup backup found).symm]
  · simp [Files.touched, tempTarget.symm, pathTarget.symm]
  · intro backup found
    simp [Files.touched, (tempBackup backup found).symm, (pathBackup backup found).symm]
  · exact orContext_within trivial

omit [LinearOrder Version] in
theorem writeAutoUpdateState_within {path : Path} {report : AutoUpdateCycleReport}
    (apart : ∀ written ∈ [path, statusTempPath path],
      written ≠ target ∧ ∀ backup, backupOf target = some backup → written ≠ backup) :
    (writeAutoUpdateState install path report).Within (IsAfterReport target) fun _ => True := by
  rw [writeAutoUpdateState]
  cases path.parent with
  | none => exact storeAutoUpdateState_within apart
  | some parent =>
    change (if _ then _ else _ : UpdateCode _).Within _ _
    split_ifs
    · exact storeAutoUpdateState_within apart
    · exact ⟨⟨trivial, trivial⟩, fun _ => orContext_within (storeAutoUpdateState_within apart)⟩

omit [LinearOrder Version] in
theorem saveStatus_within {args : AutoUpdateArgs} {report : AutoUpdateCycleReport}
    (apart : StatusApart args target) :
    (saveStatus install args report).Within (IsAfterReport target) fun _ => True := by
  rw [saveStatus]
  cases file : args.statusFile with
  | none => trivial
  | some path =>
    refine (writeAutoUpdateState_within (apart path file)).bind fun result _ => ?_
    cases result with
    | ok _ => trivial
    | error error =>
      change (if _ then _ else _ : UpdateCode _).Within _ _
      split_ifs
      · trivial
      · exact ⟨⟨trivial, trivial⟩, fun _ => trivial⟩

/-! ## The loop -/

/-- Where the loop stands: before a cycle nothing was replaced, and after it the report counts. -/
def LoopInvariant (target : Path) (old : Option Bytes) (name : UpdateLoop)
    (trace : Trace updater) (files : Files Path UInt8) : Prop :=
  ReportsHold target trace ∧ KeepsBackup target old trace files ∧
    match name with
    | .cycle => replacements target trace = 0 ∧
        replacements target (roundLog trace).current = 0
    | .reported report => Counts target report.applied trace ∧
        replacements target (roundLog trace).current = replacements target trace
    | .returned _ => True

/-- At every moment the reports hold and the backup is kept. -/
def LoopAlways (target : Path) (old : Option Bytes) (trace : Trace updater)
    (files : Files Path UInt8) : Prop :=
  ReportsHold target trace ∧ KeepsBackup target old trace files

theorem ReportsHold.quiet {further : Trace updater} (reports : ReportsHold target trace)
    (quiet : ∀ entry ∈ further, NotPrint entry.action) :
    ReportsHold target (trace ++ further) := by
  rw [ReportsHold, roundLog_append_quiet trace quiet]
  exact reports

theorem replacements_add (first second : Trace updater) :
    replacements target (first ++ second) =
      replacements target first + replacements target second := List.countP_append

variable {args : AutoUpdateArgs}

theorem cycle_ensures (named : targetOf install args.binaryPath = some target)
    (restartable : Restartable args) (inv : LoopInvariant target old .cycle trace files) :
    (autoUpdateLoop install args .cycle).Ensures WorkingStep (LoopAlways target old)
      (Code.Exits (LoopInvariant target old) (LoopAlways target old)) trace files := by
  obtain ⟨reports, kept, unreplaced, current⟩ := inv
  have silent := Code.ensures_within WorkingStep (runAutoUpdateCycle_notPrint install args)
    trace files
  refine Code.Ensures.bind
    (((runAutoUpdateCycle_keeps named restartable kept unreplaced).and silent).mono ?_
      fun _ _ _ holds => holds) ?_
  · rintro later after ⟨kept, further, rfl, quiet⟩
    exact ⟨reports.quiet quiet, kept⟩
  · rintro report later after ⟨⟨kept, counted⟩, further, rfl, quiet⟩
    refine ⟨reports.quiet quiet, kept, counted, ?_⟩
    rw [roundLog_append_quiet trace quiet, replacements_add, replacements_add, current, unreplaced]

/-- What is done after a report adds no replacement to the next round. -/
theorem afterReport_ensures {α : Type} {code : UpdateCode α}
    (within : code.Within (IsAfterReport target) fun _ => True)
    (inv : LoopAlways target old trace files)
    (fresh : replacements target (roundLog trace).current = 0) :
    code.Ensures WorkingStep (LoopAlways target old)
      (fun _ later after => LoopAlways target old later after ∧
        replacements target later = replacements target trace ∧
        replacements target (roundLog later).current = 0) trace files := by
  obtain ⟨reports, kept⟩ := inv
  have apart := (apart_ensures (within.mono (fun _ => And.left) fun _ _ => trivial) kept).fewer
    WorkingStep.update
  have silent := Code.ensures_within WorkingStep
    (within.mono (fun _ => And.right) fun _ _ => trivial) trace files
  refine (apart.and silent).mono ?_ ?_
  · rintro later after ⟨kept, further, rfl, quiet⟩
    exact ⟨reports.quiet quiet, kept⟩
  · rintro value later after ⟨⟨kept, same⟩, further, rfl, quiet⟩
    refine ⟨⟨reports.quiet quiet, kept⟩, same, ?_⟩
    rw [replacements_add] at same
    rw [roundLog_append_quiet trace quiet, replacements_add, fresh]
    omega

theorem endRound_ensures {report : AutoUpdateCycleReport} (inv : LoopAlways target old trace files)
    (counted : Counts target report.applied trace)
    (fresh : replacements target (roundLog trace).current = 0) :
    (endRound args report).Ensures WorkingStep (LoopAlways target old)
      (Code.Exits (LoopInvariant target old) (LoopAlways target old)) trace files := by
  rw [endRound]
  split_ifs with once applied
  · cases report.error with
    | none => exact ⟨inv.1, inv.2, trivial⟩
    | some error => exact ⟨inv.1, inv.2, trivial⟩
  · exact ⟨inv.1, inv.2, trivial⟩
  · rw [Counts, if_neg applied] at counted
    have sleeps : (ask (.sleep args.intervalSecs)).Within (IsAfterReport target) fun _ => True :=
      ⟨⟨trivial, trivial⟩, fun _ => trivial⟩
    refine (afterReport_ensures sleeps inv fresh).bind ?_
    rintro _ later after ⟨⟨reports, kept⟩, same, fresh⟩
    exact ⟨reports, kept, same.trans counted, fresh⟩

omit [LinearOrder Version] in
theorem saveStatus_ensures {report : AutoUpdateCycleReport} (apart : StatusApart args target)
    (inv : LoopAlways target old trace files) (counted : Counts target report.applied trace)
    (fresh : replacements target (roundLog trace).current = 0) :
    (saveStatus install args report >>= fun result =>
      match result with
      | .error error => return some (.returned (.error error))
      | .ok () => endRound args report).Ensures WorkingStep (LoopAlways target old)
        (Code.Exits (LoopInvariant target old) (LoopAlways target old)) trace files := by
  refine (afterReport_ensures (saveStatus_within apart) inv fresh).bind ?_
  rintro result later after ⟨inv, same, fresh⟩
  cases result with
  | error error => exact ⟨inv.1, inv.2, trivial⟩
  | ok _ => exact endRound_ensures inv (same.trans counted) fresh

theorem reported_ensures {report : AutoUpdateCycleReport} (apart : StatusApart args target)
    (inv : LoopInvariant target old (.reported report) trace files) :
    (autoUpdateLoop install args (.reported report)).Ensures WorkingStep (LoopAlways target old)
      (Code.Exits (LoopInvariant target old) (LoopAlways target old)) trace files := by
  obtain ⟨reports, kept, counted, current⟩ := inv
  intro printed after stepped
  have quiet : Apart target (.printReport report) := trivial
  obtain ⟨kept, same⟩ := Apart.step stepped.1 quiet kept
  have told : ReportsHold target (trace ++ [⟨.printReport report, printed⟩]) := by
    rw [ReportsHold, roundLog_printed]
    intro round member
    rcases List.mem_append.mp member with earlier | last
    · exact reports round earlier
    · obtain rfl := List.mem_singleton.mp last
      rw [ReportHolds, current, counted]
      cases report.applied with
      | true => simp
      | false => simp
  have fresh : replacements target
      (roundLog (trace ++ [⟨.printReport report, printed⟩])).current = 0 := by
    rw [roundLog_printed]
    rfl
  refine ⟨⟨told, kept⟩, ?_⟩
  cases printed with
  | error error => exact ⟨told, kept, trivial⟩
  | ok _ => exact saveStatus_ensures apart ⟨told, kept⟩ (same.trans counted) fresh

theorem autoUpdateLoop_ensures (named : targetOf install args.binaryPath = some target)
    (restartable : Restartable args) (apart : StatusApart args target) (name : UpdateLoop)
    (trace : Trace updater) (files : Files Path UInt8)
    (inv : LoopInvariant target old name trace files) :
    (autoUpdateLoop install args name).Ensures WorkingStep (LoopAlways target old)
      (Code.Exits (LoopInvariant target old) (LoopAlways target old)) trace files := by
  cases name with
  | cycle => exact cycle_ensures named restartable inv
  | reported report => exact reported_ensures apart inv
  | returned result => exact ⟨inv.1, inv.2.1⟩

/-- In a run of the loop whose service can be restarted, and whose status file is another file, the
reports tell what was done to the binary, and the binary that was running is kept. -/
theorem auto_update_truthful (named : targetOf install args.binaryPath = some target)
    (restartable : Restartable args) (apart : StatusApart args target)
    {last : UpdateCode (Option UpdateLoop)} {after : Files Path UInt8}
    (works : ∀ entry ∈ trace, RestartWorks entry)
    (ran : Code.Serves (autoUpdateLoop install args) UpdateStep (.done (some .cycle)) files trace
      last after) :
    TruthfulRun target (files target) trace after := by
  have start : LoopInvariant target (files target) .cycle [] files :=
    ⟨nofun, ⟨Nat.zero_le 1, nofun, fun _ => .inl rfl⟩, rfl, rfl⟩
  have always : LoopAlways target (files target) [] files := ⟨start.1, start.2.1⟩
  obtain ⟨reports, kept⟩ := ((ran.restrict works).ensures
    (autoUpdateLoop_ensures named restartable apart) always start).1
  exact ⟨reports, kept.once, kept.backup⟩

end

/-! ## A service without a name -/

/-- The loop with the given service, in an environment in which everything works. -/
def updateRun (serviceName : Option String) (rounds : ℕ) :=
  Code.simulateTask (obliging offering [2])
    (autoUpdateLoop installed
      { manifestUrl := "", channel := "stable", restartMode := .systemdUser, serviceName })
    rounds (some .cycle) [] leftover

theorem obliging_works (trace : Trace updater) (files : Files Path UInt8)
    (action : UpdateAction) :
    WorkingStep files ⟨action, (obliging offering [2] trace files action).2⟩
      (obliging offering [2] trace files action).1 := by
  refine ⟨obliging_step offering [2] trace files action, ?_⟩
  cases action with
  | command program args =>
    rw [RestartWorks]
    split_ifs
    · exact ⟨_, "501", rfl, rfl⟩
    · exact ⟨_, rfl, rfl⟩
  | _ => trivial

theorem updateRun_serves (serviceName : Option String) (rounds : ℕ) :
    Code.Serves (autoUpdateLoop installed
        { manifestUrl := "", channel := "stable", restartMode := .systemdUser, serviceName })
      UpdateStep (.done (some .cycle)) leftover (updateRun serviceName rounds).1
      (.done (updateRun serviceName rounds).2.2) (updateRun serviceName rounds).2.1 ∧
    ∀ entry ∈ (updateRun serviceName rounds).1, RestartWorks entry := by
  obtain ⟨trace, whole, ran⟩ := Code.simulateTask_serves
    (autoUpdateLoop installed
      { manifestUrl := "", channel := "stable", restartMode := .systemdUser, serviceName })
    obliging_works rounds (some .cycle) [] leftover
  obtain rfl : (updateRun serviceName rounds).1 = trace := whole
  exact ran.relax

theorem auto_update_truthful_named :
    TruthfulRun speechmesh (some [1]) (updateRun (some "speechmesh") 3).1
      (updateRun (some "speechmesh") 3).2.1 := by
  obtain ⟨ran, works⟩ := updateRun_serves (some "speechmesh") 3
  refine auto_update_truthful rfl (.inr rfl) ?_ works ran
  intro path file
  cases file

/-- Without the name of the service, each cycle replaces the binary and reports that it did not. -/
theorem auto_update_replaces_again :
    Code.Serves (autoUpdateLoop installed
        { manifestUrl := "", channel := "stable", restartMode := .systemdUser })
      UpdateStep (.done (some .cycle)) leftover (updateRun none 4).1
      (.done (updateRun none 4).2.2) (updateRun none 4).2.1 ∧
    ¬ TruthfulRun speechmesh (leftover speechmesh) (updateRun none 4).1
      (updateRun none 4).2.1 := by
  refine ⟨(updateRun_serves none 4).1, fun truthful => ?_⟩
  have twice : replacements speechmesh (updateRun none 4).1 = 2 := by rfl
  have once := truthful.once
  omega

end SpeechMesh.Soundness
