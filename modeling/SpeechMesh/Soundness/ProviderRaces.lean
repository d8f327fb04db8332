import SpeechMesh.Soundness.ProviderMap
import SpeechMesh.Soundness.ProviderOverlaps

/-! # Two provider commands at once

Nothing keeps two commands apart. They come to the same as one after the other, unless both of them
read the state file before either wrote it: then the update of one of them is lost. And two saves
that overlap can leave a file that neither of the commands would write.
-/

namespace SpeechMesh.Soundness

open Async Model.ProviderStore
open Model (Bytes Path)

section Races

variable (json : JsonText) (statePath : Path)

/-- The first command runs to its end before the second one begins. -/
def OneAfterOther (first : ProviderCommand) (firstOutcome : Except String InstalledAsrProvider)
    (second : ProviderCommand) (secondOutcome : Except String InstalledAsrProvider)
    (before after : Option Bytes) : Prop :=
  ∃ firstTrace secondTrace middle,
    Code.Performs StoreStep (first.run json statePath) before firstTrace (.done firstOutcome)
      middle ∧
    Code.Performs StoreStep (second.run json statePath) middle secondTrace (.done secondOutcome)
      after

/-- What a command alone makes of the file. -/
def Alone (command : ProviderCommand) (outcome : Except String InstalledAsrProvider)
    (before after : Option Bytes) : Prop :=
  ∃ trace, Code.Performs StoreStep (command.run json statePath) before trace (.done outcome) after

end Races

/-- Both commands read the file before it was written. -/
def BothReadFirst (trace : List (Entry providerStore ⊕ Entry providerStore)) : Prop :=
  ∃ earlier later, trace = earlier ++ later ∧ Unwritten (merged earlier) ∧
    readings (lefts earlier) ≠ [] ∧ readings (rights earlier) ≠ []

variable {json : JsonText} {statePath : Path} {command : ProviderCommand}
  {trace first second : Trace providerStore} {before middle after : Option Bytes}

/-! ## Traces without a write -/

theorem Unwritten.of_subset (unwritten : Unwritten trace) (subset : first ⊆ trace) :
    Unwritten first :=
  fun entry member => unwritten entry (subset member)

theorem Unwritten.append (firstUnwritten : Unwritten first) (secondUnwritten : Unwritten second) :
    Unwritten (first ++ second) := by
  intro entry member
  rcases List.mem_append.mp member with earlier | later
  · exact firstUnwritten entry earlier
  · exact secondUnwritten entry later

theorem readings_subset (subset : first ⊆ trace) : readings first ⊆ readings trace :=
  List.filterMap_subset _ subset

theorem readings_cons (entry : Entry providerStore) (trace : Trace providerStore) :
    readings (entry :: trace) = readings [entry] ++ readings trace :=
  readings_append [entry] trace

theorem passes_unwritten (passes : Passes StoreStep before trace after)
    (unwritten : Unwritten trace) :
    after = before ∧ ∀ read ∈ readings trace, ReadsAs before read := by
  induction passes with
  | none file => exact ⟨rfl, fun _ member => absurd member List.not_mem_nil⟩
  | @next first middle final entry trace stepped rest ih =>
    obtain ⟨rfl, read⟩ := storeStep_unwritten stepped (unwritten _ List.mem_cons_self)
    obtain ⟨rfl, later⟩ := ih (unwritten.of_subset (List.subset_cons_self entry trace))
    refine ⟨rfl, fun reading member => ?_⟩
    rw [readings_cons] at member
    rcases List.mem_append.mp member with here | there
    · exact read reading here
    · exact later reading there

/-- An action that is no write is possible where what it reads agrees with the file. -/
theorem unwritten_step {entry : Entry providerStore}
    (unwritten : ∀ path bytes, entry.action ≠ .writeState path bytes)
    (agrees : ∀ read ∈ readings [entry], ReadsAs before read) : StoreStep before entry before := by
  obtain ⟨action, answer⟩ := entry
  cases action with
  | writeState path bytes => exact absurd rfl (unwritten path bytes)
  | readCatalog path => exact rfl
  | createDirAll path => exact rfl
  | nowUnixSecs => exact rfl
  | readState path =>
    have read : ReadsAs before answer := agrees answer List.mem_cons_self
    cases answer with
    | ok raw => exact ⟨rfl, read⟩
    | error error =>
      cases error with
      | notFound => exact ⟨rfl, read⟩
      | other text => exact rfl

theorem unwritten_passes (unwritten : Unwritten trace)
    (agrees : ∀ read ∈ readings trace, ReadsAs before read) :
    Passes StoreStep before trace before := by
  induction trace with
  | nil => exact .none before
  | cons entry trace ih =>
    rw [readings_cons] at agrees
    have stepped := unwritten_step (unwritten entry List.mem_cons_self) fun read member =>
      agrees read (List.mem_append_left _ member)
    apply Passes.next stepped
    apply ih (unwritten.of_subset (List.subset_cons_self entry trace))
    exact fun read member => agrees read (List.mem_append_right _ member)

/-- A trace that neither reads nor writes the file is possible in any state. -/
theorem unread_passes (unwritten : Unwritten trace) (unread : readings trace = []) :
    Passes StoreStep before trace before := by
  apply unwritten_passes unwritten
  intro read member
  rw [unread] at member
  cases member

/-! ## The first write -/

variable {interleaved earlier later : List (Entry providerStore ⊕ Entry providerStore)}

theorem Unwritten.lefts (unwritten : Unwritten (merged interleaved)) :
    Unwritten (lefts interleaved) :=
  unwritten.of_subset (lefts_subset interleaved)

theorem Unwritten.rights (unwritten : Unwritten (merged interleaved)) :
    Unwritten (rights interleaved) :=
  unwritten.of_subset (rights_subset interleaved)

/-- A trace of two commands has a first write, or none. -/
theorem first_write (interleaved : List (Entry providerStore ⊕ Entry providerStore)) :
    Unwritten (merged interleaved) ∨ ∃ earlier origin later,
      interleaved = earlier ++ origin :: later ∧ Unwritten (merged earlier) ∧
      ∃ path bytes, (origin.elim id id).action = .writeState path bytes := by
  induction interleaved with
  | nil => exact .inl fun _ member => absurd member List.not_mem_nil
  | cons origin rest ih =>
    by_cases writes : ∃ path bytes, (origin.elim id id).action = .writeState path bytes
    · exact .inr ⟨[], origin, rest, rfl, fun _ member => absurd member List.not_mem_nil, writes⟩
    · have apart : Unwritten [origin.elim id id] := by
        intro entry member path bytes same
        obtain rfl := List.mem_singleton.mp member
        exact writes ⟨path, bytes, same⟩
      rcases ih with none | ⟨earlier, wrote, later, rfl, none, write⟩
      · exact .inl (apart.append none)
      · exact .inr ⟨origin :: earlier, wrote, later, rfl, apart.append none, write⟩

/-- A write that follows no other one is the last action of its command. -/
theorem CommandTrace.at_write {entry : Entry providerStore} {path : Path} {bytes : Bytes}
    (done : CommandTrace json statePath command (first ++ entry :: second))
    (writes : entry.action = .writeState path bytes) :
    second = [] ∧ ∃ changed record answer, Prepared json statePath command first changed record ∧
      entry = saving json statePath changed answer := by
  generalize whole : first ++ entry :: second = trace at done
  have member : entry ∈ trace := by
    rw [← whole]
    exact List.mem_append_right first List.mem_cons_self
  cases done with
  | unwritten none once => exact absurd writes (none entry member path bytes)
  | @wrote earlier changed record prepared answer =>
    rcases List.eq_nil_or_concat second with rfl | ⟨rest, last, rfl⟩
    · obtain ⟨rfl, same⟩ := List.append_inj' whole rfl
      exact ⟨rfl, changed, record, answer, prepared, (List.cons.inj same).1⟩
    · rw [List.concat_eq_append, ← List.cons_append, ← List.append_assoc] at whole
      obtain ⟨rfl, -⟩ := List.append_inj' whole rfl
      have within : entry ∈ first ++ entry :: rest := List.mem_append_right first List.mem_cons_self
      exact absurd writes (prepared.unwritten entry within path bytes)

/-! ## Two commands -/

variable {left right : ProviderCommand}
  {leftOutcome rightOutcome : Except String InstalledAsrProvider}

theorem Interleaved.commandTraces
    (ran : Interleaved StoreStep (left.run json statePath) (right.run json statePath) before
      interleaved (.done leftOutcome) (.done rightOutcome) after) :
    CommandTrace json statePath left (lefts interleaved) ∧
      CommandTrace json statePath right (rights interleaved) := by
  have nothing : ∀ command, CommandTrace json statePath command [] := fun command =>
    .unwritten (fun _ member => absurd member List.not_mem_nil) (Nat.zero_le 1)
  have leftDone := ran.lefts.ensures (nothing left) (command_ensures json statePath left _ ())
  have rightDone := ran.rights.ensures (nothing right) (command_ensures json statePath right _ ())
  exact ⟨leftDone.1, rightDone.1⟩

/-- Commands that write nothing can run in either order. -/
theorem unwritten_serial
    (ran : Interleaved StoreStep (left.run json statePath) (right.run json statePath) before
      interleaved (.done leftOutcome) (.done rightOutcome) after)
    (unwritten : Unwritten (merged interleaved)) :
    OneAfterOther json statePath left leftOutcome right rightOutcome before after := by
  obtain ⟨rfl, agrees⟩ := passes_unwritten ran.passes unwritten
  refine ⟨lefts interleaved, rights interleaved, after, ?_, ?_⟩
  · apply Passes.performs (unwritten_passes unwritten.lefts _) ran.lefts
    exact fun read member => agrees read (readings_subset (lefts_subset interleaved) member)
  · apply Passes.performs (unwritten_passes unwritten.rights _) ran.rights
    exact fun read member => agrees read (readings_subset (rights_subset interleaved) member)

/-- A write leaves the file as it was, or does not depend on what it was. -/
theorem write_forgets {changed : InstalledAsrProvidersConfig} {answer : Except String Unit}
    (stepped : StoreStep before (saving json statePath changed answer) after) :
    after = before ∨ ∀ other, StoreStep other (saving json statePath changed answer) after := by
  cases answer with
  | ok _ => exact .inr fun _ => stepped
  | error reason =>
    rcases stepped with same | part
    · exact .inl same
    · exact .inr fun _ => .inr part

theorem CommandTrace.once (done : CommandTrace json statePath command trace) :
    (readings trace).length ≤ 1 := by
  cases done with
  | unwritten _ once => exact once
  | @wrote earlier changed record prepared answer =>
    have aside : readings [saving json statePath changed answer] = [] := rfl
    rw [readings_append, aside, List.append_nil]
    exact prepared.once

/-- A command that has read the file does not read it again. -/
theorem CommandTrace.read_once
    (done : CommandTrace json statePath command (first ++ second)) (read : readings first ≠ []) :
    readings second = [] := by
  have once := done.once
  rw [readings_append, List.length_append] at once
  have some := List.length_pos_iff.mpr read
  apply List.length_eq_zero_iff.mp
  omega

/-- In what is left of a command only the last action can be the write. -/
theorem CommandTrace.write_later
    (done : CommandTrace json statePath command (first ++ second)) :
    Unwritten second ∨ ∃ rest changed answer,
      second = rest ++ [saving json statePath changed answer] ∧ Unwritten rest := by
  generalize whole : first ++ second = trace at done
  cases done with
  | unwritten none once =>
    rw [← whole] at none
    exact .inl (none.of_subset (List.subset_append_right first second))
  | @wrote earlier changed record prepared answer =>
    rcases List.eq_nil_or_concat second with rfl | ⟨rest, last, rfl⟩
    · exact .inl fun _ member => absurd member List.not_mem_nil
    · rw [List.concat_eq_append, ← List.append_assoc] at whole
      obtain ⟨rfl, same⟩ := List.append_inj' whole rfl
      refine .inr ⟨rest, changed, answer, ?_, ?_⟩
      · rw [List.concat_eq_append, same]
      · exact prepared.unwritten.of_subset (List.subset_append_right first rest)

/-- The left command is the first to write. -/
theorem first_writer {entry : Entry providerStore}
    (ran : Interleaved StoreStep (left.run json statePath) (right.run json statePath) before
      (earlier ++ .inl entry :: later) (.done leftOutcome) (.done rightOutcome) after)
    (unwritten : Unwritten (merged earlier)) {path : Path} {bytes : Bytes}
    (writes : entry.action = .writeState path bytes) :
    OneAfterOther json statePath left leftOutcome right rightOutcome before after ∨
      OneAfterOther json statePath right rightOutcome left leftOutcome before after ∨
      BothReadFirst (earlier ++ .inl entry :: later) ∧
        (Alone json statePath left leftOutcome before after ∨
          Alone json statePath right rightOutcome before after) := by
  obtain ⟨leftDone, rightDone⟩ := Interleaved.commandTraces ran
  have leftRan := ran.lefts
  have rightRan := ran.rights
  have leftTrace : lefts (earlier ++ .inl entry :: later) = lefts earlier ++ entry :: lefts later :=
    lefts_append ..
  have rightTrace : rights (earlier ++ .inl entry :: later) = rights earlier ++ rights later :=
    rights_append ..
  rw [leftTrace] at leftDone leftRan
  rw [rightTrace] at rightDone rightRan
  obtain ⟨silent, changed, record, answer, prepared, rfl⟩ := leftDone.at_write writes
  rw [silent] at leftRan
  -- the file through the trace: `before` up to the write, then what the right command makes of it
  have passes := ran.passes
  rw [merged_append] at passes
  obtain ⟨reached, passed, further⟩ := passes.split
  obtain ⟨rfl, agrees⟩ := passes_unwritten passed unwritten
  obtain ⟨written, stepped, rest⟩ : ∃ written,
      StoreStep reached (saving json statePath changed answer) written ∧
        Passes StoreStep written (rights later) after := by
    cases further with
    | next stepped rest => exact ⟨_, stepped, merged_of_lefts_nil silent ▸ rest⟩
  have leftEarlier : Passes StoreStep reached (lefts earlier) reached :=
    unwritten_passes unwritten.lefts fun read member =>
      agrees read (readings_subset (lefts_subset earlier) member)
  have rightEarlier : Passes StoreStep reached (rights earlier) reached :=
    unwritten_passes unwritten.rights fun read member =>
      agrees read (readings_subset (rights_subset earlier) member)
  have leftAlone := (leftEarlier.append (.next stepped (.none written))).performs leftRan
  by_cases unread : readings (rights earlier) = []
  · -- the right command reads what the left one wrote
    have quiet : Passes StoreStep written (rights earlier) written :=
      unread_passes unwritten.rights unread
    exact .inl ⟨_, _, written, leftAlone, (quiet.append rest).performs rightRan⟩
  · have readBefore := rightDone.read_once unread
    rcases rightDone.write_later with none | found
    · obtain ⟨rfl, -⟩ := passes_unwritten rest none
      have rightAlone := (rightEarlier.append (unread_passes none readBefore)).performs rightRan
      exact .inr (.inl ⟨_, _, reached, rightAlone, leftAlone⟩)
    · obtain ⟨actions, saved, outcome, split, none⟩ := found
      refine .inr (.inr ⟨⟨earlier, _, rfl, unwritten, ?_, unread⟩, ?_⟩)
      · obtain ⟨read, state, once, -⟩ := prepared.known
        rw [once]
        exact List.cons_ne_nil read []
      · rw [split] at rest readBefore rightRan
        obtain ⟨middle, same, last⟩ := rest.split
        obtain ⟨rfl, -⟩ := passes_unwritten same none
        rw [readings_append] at readBefore
        have quiet : Passes StoreStep reached actions reached :=
          unread_passes none (List.append_eq_nil_iff.mp readBefore).1
        rcases write_forgets last.single with rfl | anywhere
        · exact .inl ⟨_, leftAlone⟩
        · right
          exact ⟨_, (rightEarlier.append
            (quiet.append (.next (anywhere reached) (.none after)))).performs rightRan⟩

theorem BothReadFirst.swap (both : BothReadFirst interleaved) :
    BothReadFirst (interleaved.map Sum.swap) := by
  obtain ⟨earlier, later, rfl, unwritten, left, right⟩ := both
  refine ⟨earlier.map Sum.swap, later.map Sum.swap, List.map_append, ?_, ?_, ?_⟩
  · rwa [merged_swap]
  · rwa [lefts_swap]
  · rwa [rights_swap]

/-- Two commands whose accesses are whole come to the same as one after the other, unless both read
the file before it was written. Then the file is what one of them alone makes of it. -/
theorem interleaved_commands
    (ran : Interleaved StoreStep (left.run json statePath) (right.run json statePath) before
      interleaved (.done leftOutcome) (.done rightOutcome) after) :
    OneAfterOther json statePath left leftOutcome right rightOutcome before after ∨
      OneAfterOther json statePath right rightOutcome left leftOutcome before after ∨
      BothReadFirst interleaved ∧
        (Alone json statePath left leftOutcome before after ∨
          Alone json statePath right rightOutcome before after) := by
  rcases first_write interleaved with none | found
  · exact .inl (unwritten_serial ran none)
  · obtain ⟨earlier, origin, later, rfl, unwritten, path, bytes, writes⟩ := found
    cases origin with
    | inl entry => exact first_writer ran unwritten writes
    | inr entry =>
      have swapped := ran.swap
      rw [List.map_append, List.map_cons, Sum.swap_inr] at swapped
      rw [← merged_swap] at unwritten
      rcases first_writer swapped unwritten writes with serial | serial | ⟨both, alone⟩
      · exact .inr (.inl serial)
      · exact .inl serial
      · refine .inr (.inr ⟨?_, alone.symm⟩)
        have back := both.swap
        rw [List.map_append, List.map_map, List.map_cons, List.map_map, Sum.swap_inl] at back
        simpa [Function.comp_def] using back

/-- Two commands at once, whose accesses to the file do not overlap a write, come to the same as one
after the other, unless both read the file before it was written. Then the file is what one of them
alone makes of it. -/
theorem concurrent_commands
    (ran : Overlapped fileAccess Exclusive (.idle (left.run json statePath))
      (.idle (right.run json statePath)) before interleaved (.idle (.done leftOutcome))
      (.idle (.done rightOutcome)) after) :
    OneAfterOther json statePath left leftOutcome right rightOutcome before after ∨
      OneAfterOther json statePath right rightOutcome left leftOutcome before after ∨
      BothReadFirst interleaved ∧
        (Alone json statePath left leftOutcome before after ∨
          Alone json statePath right rightOutcome before after) :=
  interleaved_commands (accesses_whole ran)

/-! ## Saves that overlap -/

/-- A text is written in one piece. -/
theorem wrote_whole {bytes : Bytes} (nonempty : bytes ≠ []) (content : Bytes) :
    WriteMoves bytes (.writing [] bytes) (some content) (.writing bytes [])
      (some (bytes ++ content.drop bytes.length)) := by
  have wrote : WriteMoves bytes _ _ _ _ := .wrote content [] bytes [] nonempty
  simpa [overwrite] using wrote

/-- Two writes that are both opened before either is made: the text that is written last covers the
beginning of the other one. -/
theorem writes_overlap {α β : Type} {path : Path} {shorter longer : Bytes}
    {left : Except String Unit → StoreCode α} {right : Except String Unit → StoreCode β}
    (first : shorter ≠ []) (second : longer ≠ []) (file : Option Bytes) :
    Overlapped fileAccess Anyhow (.idle (.act (.writeState path shorter) left))
      (.idle (.act (.writeState path longer) right)) file
      [.inr ⟨.writeState path longer, .ok ()⟩, .inl ⟨.writeState path shorter, .ok ()⟩]
      (.idle (left (.ok ()))) (.idle (right (.ok ())))
      (some (shorter ++ longer.drop shorter.length)) := by
  have alone := wrote_whole second []
  rw [List.drop_nil, List.append_nil] at alone
  refine .leftMoves (.begins (G := fileAccess) (.writeState path shorter) left file) trivial ?_
  refine .leftMoves (.moves (WriteMoves.opened file)) trivial ?_
  refine .rightMoves (.begins (G := fileAccess) (.writeState path longer) right _) trivial ?_
  refine .rightMoves (.moves (WriteMoves.opened _)) trivial ?_
  refine .rightMoves (.moves alone) trivial (.rightEnds (.ends (WriteEnds.written longer)) trivial ?_)
  refine .leftMoves (.moves (wrote_whole first longer)) trivial ?_
  exact .leftEnds (.ends (WriteEnds.written shorter)) trivial (.stop _ _ _)

/-- A save gets to its write. -/
theorem saveThen_begins {α : Type} (json : JsonText) (statePath : Path)
    (changed : InstalledAsrProvidersConfig) (result : α) (file : Option Bytes) :
    ∃ next, Code.Performs StoreStep (saveThen json statePath changed result) file
        (creating statePath)
        (.act (.writeState statePath (stateText json (sortedState changed))) next) file ∧
      next (.ok ()) = .done (.ok result) := by
  rw [saveThen, saveAsrProviderState, writeJson, bind_assoc]
  exact ⟨_, (createParent_performs statePath file).bind, rfl⟩

/-! ## Removing and enabling a provider -/

/-- What a command that succeeds makes of a file that loads. -/
theorem saved_change {record : InstalledAsrProvider} {state : InstalledAsrProvidersConfig}
    (ran : Code.Performs StoreStep (command.run json statePath) before trace (.done (.ok record))
      after) (loads : parseState json statePath (contents before) = .ok state) :
    ∃ earlier changed, Changes json command earlier state changed record ∧
      after = some (stateText json (sortedState changed)) := by
  have ended := ran.ended (.unwritten (fun _ member => absurd member List.not_mem_nil)
    (Nat.zero_le 1)) (command_ensures json statePath command StoreStep before)
  rw [List.nil_append] at ended
  cases ended with
  | @saved earlier changed record prepared =>
    obtain ⟨middle, between, unwritten, written⟩ := ran.last_step
    obtain ⟨rfl, agrees⟩ := performs_unwritten unwritten prepared.unwritten
    obtain ⟨read, found, once, parsed, changes⟩ := prepared.known
    have agreed : ReadsAs between read := agrees read (by rw [once]; exact List.mem_cons_self)
    obtain rfl := parseState_contents agreed parsed
    obtain rfl : state = found := Except.ok.inj (loads.symm.trans parsed)
    exact ⟨earlier, changed, changes, written⟩

/-- The state file with the mock provider. -/
noncomputable def mockFile : Option Bytes :=
  some (stateText (tabled mockEntries) (mockState 1700000000))

noncomputable def emptyFile : Option Bytes := some (stateText (tabled mockEntries) emptyState)

theorem emptyState_loads :
    parseState (tabled mockEntries) providersJson (contents emptyFile) = .ok emptyState := by
  apply parseState_stateText rfl
  rw [emptyState_text]
  exact mockEntries_separate.reads (.inr rfl) mockEntries_empty

theorem mockFile_ne_emptyFile : mockFile ≠ emptyFile := by
  intro same
  have loaded := emptyState_loads
  rw [← same, mockFile, mockState_loads] at loaded
  cases loaded

theorem mockState_installed : find (mockState 1700000000) "mock.asr" =
    some (mockTemplate.toInstalled none 1700000000) := Keyed.lookup_cons_self rfl

theorem mockState_enabled :
    (changeFirst (mockState 1700000000) "mock.asr" fun provider =>
      { provider with enabled := true }) = mockState 1700000000 := by
  have first : Keyed.modifyFirst InstalledAsrProvider.providerId "mock.asr"
      (fun provider => { provider with enabled := true })
      [mockTemplate.toInstalled none 1700000000] = [mockTemplate.toInstalled none 1700000000] :=
    if_pos rfl
  rw [changeFirst, mockState, first]

/-- The record of the mock provider. -/
def mockRecord : InstalledAsrProvider := mockTemplate.toInstalled none 1700000000

theorem uninstall_reads : Code.Performs StoreStep
    ((ProviderCommand.uninstall "mock.asr").run (tabled mockEntries) providersJson) mockFile
    [⟨.readState providersJson, contents mockFile⟩]
    (saveThen (tabled mockEntries) providersJson emptyState mockRecord) mockFile := by
  rw [← mockState_removed]
  exact withInstalled_reads mockState_loads mockState_installed fun state removed =>
    saveThen (tabled mockEntries) providersJson (withoutFirst state "mock.asr") removed

/-- The rest of enabling the provider once the file was read: it is saved as it is. -/
noncomputable def enableSaves : StoreCode (Except String InstalledAsrProvider) := do
  let result ← saveThen (tabled mockEntries) providersJson (mockState 1700000000) (false, mockRecord)
  return result.map Prod.snd

theorem enable_reads : Code.Performs StoreStep
    ((ProviderCommand.enable "mock.asr").run (tabled mockEntries) providersJson) mockFile
    [⟨.readState providersJson, contents mockFile⟩] enableSaves mockFile := by
  have reads := (withInstalled_reads mockState_loads mockState_installed
    fun state provider => saveThen (tabled mockEntries) providersJson
      (changeFirst state "mock.asr" fun provider => { provider with enabled := true })
      (provider.enabled != true, { provider with enabled := true })).before_rest
        fun result => (return result.map Prod.snd : StoreCode (Except String InstalledAsrProvider))
  rw [mockState_enabled] at reads
  exact reads

/-- Both commands read the file with the provider, then one removes it and the other one saves it
again. -/
noncomputable def racingTrace : List (Entry providerStore ⊕ Entry providerStore) :=
  [.inl ⟨.readState providersJson, contents mockFile⟩,
    .inr ⟨.readState providersJson, contents mockFile⟩,
    .inl ⟨.createDirAll ⟨[]⟩, .ok ()⟩,
    .inl (saving (tabled mockEntries) providersJson emptyState (.ok ())),
    .inr ⟨.createDirAll ⟨[]⟩, .ok ()⟩,
    .inr (saving (tabled mockEntries) providersJson (mockState 1700000000) (.ok ()))]

theorem racing : Overlapped fileAccess Exclusive
    (.idle ((ProviderCommand.uninstall "mock.asr").run (tabled mockEntries) providersJson))
    (.idle ((ProviderCommand.enable "mock.asr").run (tabled mockEntries) providersJson)) mockFile
    racingTrace (.idle (.done (.ok mockRecord))) (.idle (.done (.ok mockRecord))) mockFile := by
  have uninstalled := saveThen_performs (tabled mockEntries) providersJson emptyState mockRecord
    mockFile
  have enabled := (saveThen_performs (tabled mockEntries) providersJson (mockState 1700000000)
    (false, mockRecord) emptyFile).before_rest
      fun result => (return result.map Prod.snd : StoreCode (Except String InstalledAsrProvider))
  exact whole_accesses (.left_first uninstall_reads (.right_first enable_reads
    (.left_first uninstalled (.right_first enabled (.stop _ _ mockFile)))))

theorem racing_outcome :
    OneAfterOther (tabled mockEntries) providersJson (.uninstall "mock.asr") (.ok mockRecord)
        (.enable "mock.asr") (.ok mockRecord) mockFile mockFile ∨
      OneAfterOther (tabled mockEntries) providersJson (.enable "mock.asr") (.ok mockRecord)
        (.uninstall "mock.asr") (.ok mockRecord) mockFile mockFile ∨
      BothReadFirst racingTrace ∧
        (Alone (tabled mockEntries) providersJson (.uninstall "mock.asr") (.ok mockRecord) mockFile
            mockFile ∨
          Alone (tabled mockEntries) providersJson (.enable "mock.asr") (.ok mockRecord) mockFile
            mockFile) :=
  concurrent_commands racing

/-- Whatever the order, two commands that succeed leave a file without the provider. -/
theorem serial_removes {after : Option Bytes}
    (serial : OneAfterOther (tabled mockEntries) providersJson (.uninstall "mock.asr")
        (.ok mockRecord) (.enable "mock.asr") (.ok mockRecord) mockFile after ∨
      OneAfterOther (tabled mockEntries) providersJson (.enable "mock.asr") (.ok mockRecord)
        (.uninstall "mock.asr") (.ok mockRecord) mockFile after) : after = emptyFile := by
  rcases serial with ⟨_, _, middle, removing, enabling⟩ | ⟨_, _, middle, enabling, removing⟩
  · -- the provider that was removed cannot be enabled
    obtain ⟨_, changed, ⟨installed, rfl⟩, rfl⟩ := saved_change removing mockState_loads
    rw [mockState_removed] at enabling
    obtain ⟨_, changed, ⟨existing, installed, -⟩, -⟩ := saved_change enabling emptyState_loads
    cases installed
  · obtain ⟨_, changed, ⟨existing, installed, -, rfl⟩, rfl⟩ :=
      saved_change enabling mockState_loads
    rw [mockState_enabled] at removing
    obtain ⟨_, changed, ⟨installed, rfl⟩, same⟩ := saved_change removing mockState_loads
    rwa [mockState_removed] at same

/-- The text without the provider, and what sticks out behind it of the text with the provider. -/
def mixedText : Bytes :=
  (emptyStateText ++ [10]) ++ (mockStateText ++ [10]).drop (emptyStateText ++ [10]).length

theorem mixedText_ne_mock : mixedText ≠ mockStateText ++ [10] := by
  simp [mixedText, mockStateText, emptyStateText, utf8_newline, utf8_bracket]

theorem mixedText_ne_empty : mixedText ≠ emptyStateText ++ [10] := by
  intro same
  have nothing := List.append_right_eq_self.mp same
  rw [List.drop_eq_nil_iff] at nothing
  exact absurd nothing (by decide +kernel)

/-- Both saves are opened before either is made. -/
theorem saves_overlap : ∃ trace, Overlapped fileAccess Anyhow
    (.idle ((ProviderCommand.uninstall "mock.asr").run (tabled mockEntries) providersJson))
    (.idle ((ProviderCommand.enable "mock.asr").run (tabled mockEntries) providersJson)) mockFile
    trace (.idle (.done (.ok mockRecord))) (.idle (.done (.ok mockRecord))) (some mixedText) := by
  obtain ⟨left, removing, removed⟩ := saveThen_begins (tabled mockEntries) providersJson emptyState
    mockRecord mockFile
  obtain ⟨right, saving, saved⟩ := saveThen_begins (tabled mockEntries) providersJson
    (mockState 1700000000) (false, mockRecord) mockFile
  have emptyText : stateText (tabled mockEntries) (sortedState emptyState) = emptyStateText ++ [10] :=
    emptyState_text
  have mockText : stateText (tabled mockEntries) (sortedState (mockState 1700000000)) =
      mockStateText ++ [10] := mockState_text
  rw [emptyText] at removing
  rw [mockText] at saving
  have enabling := saving.before_rest
    fun result => (return result.map Prod.snd : StoreCode (Except String InstalledAsrProvider))
  have begun := Interleaved.overlapped (G := fileAccess) Anyhow storeStep_carried
    (fun _ _ => trivial) (fun _ _ => trivial) (.left_first uninstall_reads (.right_first enable_reads
      (.left_first removing (.right_first enabling (.stop _ _ mockFile)))))
  have overlapped := begun.append (writes_overlap (by simp) (by simp) mockFile)
  rw [removed, saved] at overlapped
  exact ⟨_, overlapped⟩

/-- Two commands that succeed leave what is left by no order of the two: the provider is back, or the
file is a mixture, which neither of them alone would write. -/
theorem updates_lost :
    (Overlapped fileAccess Exclusive
        (.idle ((ProviderCommand.uninstall "mock.asr").run (tabled mockEntries) providersJson))
        (.idle ((ProviderCommand.enable "mock.asr").run (tabled mockEntries) providersJson)) mockFile
        racingTrace (.idle (.done (.ok mockRecord))) (.idle (.done (.ok mockRecord))) mockFile ∧
      ¬ (OneAfterOther (tabled mockEntries) providersJson (.uninstall "mock.asr") (.ok mockRecord)
          (.enable "mock.asr") (.ok mockRecord) mockFile mockFile ∨
        OneAfterOther (tabled mockEntries) providersJson (.enable "mock.asr") (.ok mockRecord)
          (.uninstall "mock.asr") (.ok mockRecord) mockFile mockFile)) ∧
    (∃ trace, Overlapped fileAccess Anyhow
        (.idle ((ProviderCommand.uninstall "mock.asr").run (tabled mockEntries) providersJson))
        (.idle ((ProviderCommand.enable "mock.asr").run (tabled mockEntries) providersJson)) mockFile
        trace (.idle (.done (.ok mockRecord))) (.idle (.done (.ok mockRecord))) (some mixedText)) ∧
      ¬ (OneAfterOther (tabled mockEntries) providersJson (.uninstall "mock.asr") (.ok mockRecord)
          (.enable "mock.asr") (.ok mockRecord) mockFile (some mixedText) ∨
        OneAfterOther (tabled mockEntries) providersJson (.enable "mock.asr") (.ok mockRecord)
          (.uninstall "mock.asr") (.ok mockRecord) mockFile (some mixedText)) ∧
      ¬ (Alone (tabled mockEntries) providersJson (.uninstall "mock.asr") (.ok mockRecord) mockFile
          (some mixedText) ∨
        Alone (tabled mockEntries) providersJson (.enable "mock.asr") (.ok mockRecord) mockFile
          (some mixedText)) := by
  have mixed : some mixedText ≠ emptyFile := by
    rw [emptyFile, emptyState_text]
    exact fun same => mixedText_ne_empty (Option.some.inj same)
  refine ⟨⟨racing, fun serial => mockFile_ne_emptyFile (serial_removes serial)⟩, saves_overlap,
    fun serial => mixed (serial_removes serial), ?_⟩
  rintro (⟨_, removing⟩ | ⟨_, enabling⟩)
  · obtain ⟨_, changed, ⟨installed, rfl⟩, same⟩ := saved_change removing mockState_loads
    rw [mockState_removed] at same
    exact mixed same
  · obtain ⟨_, changed, ⟨existing, installed, -, rfl⟩, same⟩ := saved_change enabling mockState_loads
    rw [mockState_enabled] at same
    exact mixedText_ne_mock ((Option.some.inj same).trans mockState_text)

end SpeechMesh.Soundness
