import SpeechMesh.Soundness.ProviderMap

/-! # Saves that are cut off

The state file is truncated and written in place. A save that stops in between leaves a file that
does not load, unless it stops before the truncation or after the last brace.
-/

namespace SpeechMesh.Soundness

open Async Model.ProviderStore
open Model (Bytes Path)

/-- The text of a state reads as the state, with its newline and without, and no shorter part of it
is a JSON text. -/
structure TextLaws (json : JsonText) (config : InstalledAsrProvidersConfig) : Prop where
  reads : json.fromStr (stateText json config) = some (encodeConfig config)
  bare : json.fromStr (json.toStringPretty (encodeConfig config)) = some (encodeConfig config)
  cut : ∀ part, part <+: json.toStringPretty (encodeConfig config) →
    part ≠ json.toStringPretty (encodeConfig config) → json.fromStr part = none

section Crashes

variable (json : JsonText) (statePath : Path) (command : ProviderCommand)

/-- The file loads as the state before the command, or as the one it was to save. -/
def Survives (previous : InstalledAsrProvidersConfig) (trace : Trace providerStore)
    (after : Option Bytes) : Prop :=
  parseState json statePath (contents after) = .ok previous ∨
    ∃ earlier changed record, Prepared json statePath command earlier changed record ∧
      (∃ answer, trace = earlier ++ [saving json statePath changed answer]) ∧
      parseState json statePath (contents after) = .ok (sortedState changed)

/-- The file is untouched, or holds all that was to be written but at most the last byte. -/
def StoppedAtEnds (before : Option Bytes) (trace : Trace providerStore) (after : Option Bytes) :
    Prop :=
  after = before ∨ ∃ bytes answer part,
    (⟨.writeState statePath bytes, answer⟩ : Entry providerStore) ∈ trace ∧
      part <+: bytes ∧ bytes.length ≤ part.length + 1 ∧ after = some part

end Crashes

variable {json : JsonText} {statePath : Path} {command : ProviderCommand}
  {previous changed config : InstalledAsrProvidersConfig} {record : InstalledAsrProvider}
  {trace : Trace providerStore} {after : Option Bytes} {part : Bytes}

/-- A part of the text of a state is the text, the text without its newline, or is cut short. -/
theorem stateText_parts (cutOff : part <+: stateText json config) :
    part = stateText json config ∨ part = json.toStringPretty (encodeConfig config) ∨
      part <+: json.toStringPretty (encodeConfig config) ∧
        part ≠ json.toStringPretty (encodeConfig config) := by
  rcases List.prefix_concat_iff.mp cutOff with whole | shorter
  · exact .inl whole
  · by_cases same : part = json.toStringPretty (encodeConfig config)
    · exact .inr (.inl same)
    · exact .inr (.inr ⟨shorter, same⟩)

theorem parseState_bare (laws : TextLaws json config)
    (format : config.format = some asrProviderStateFormat) :
    parseState json statePath (.ok (json.toStringPretty (encodeConfig config))) = .ok config := by
  rw [parseState, laws.bare, Option.bind_some, decodeConfig_encodeConfig]
  simp [format, validateFormat]

/-- A text that is cut short does not load. -/
theorem parseState_cut (statePath : Path) (laws : TextLaws json config)
    (shorter : part <+: json.toStringPretty (encodeConfig config))
    (proper : part ≠ json.toStringPretty (encodeConfig config))
    (state : InstalledAsrProvidersConfig) : parseState json statePath (.ok part) ≠ .ok state := by
  intro loaded
  rw [parseState, laws.cut part shorter proper] at loaded
  cases loaded

/-- The only write of a command is its last action. -/
theorem Unwritten.saving_bytes {answer written : Except String Unit} {bytes : Bytes}
    (unwritten : Unwritten trace)
    (member : (⟨.writeState statePath bytes, written⟩ : Entry providerStore) ∈
      trace ++ [saving json statePath changed answer]) :
    bytes = stateText json (sortedState changed) := by
  rcases List.mem_append.mp member with earlier | last
  · exact absurd rfl (unwritten _ earlier statePath bytes)
  · have same := List.mem_singleton.mp last
    cases same
    rfl

/-- A save survives being cut off exactly when it stops before it touches the file, or when nothing
but the last byte is missing. -/
theorem save_survives_iff {last : StoreCode (Except String InstalledAsrProvider)}
    (format : previous.format = some asrProviderStateFormat) (laws : TextLaws json previous)
    (written : ∀ config answer, (⟨.writeState statePath (stateText json config), answer⟩ :
      Entry providerStore) ∈ trace → TextLaws json config)
    (ran : Code.Performs StoreStep (command.run json statePath) (some (stateText json previous))
      trace last after) :
    Survives json statePath command previous trace after ↔
      StoppedAtEnds statePath (some (stateText json previous)) trace after := by
  have before : parseState json statePath (contents (some (stateText json previous))) =
      .ok previous := parseState_stateText format laws.reads
  have done := (ran.ensures (.unwritten (fun _ member => absurd member List.not_mem_nil)
    (Nat.zero_le 1)) (command_ensures json statePath command StoreStep _)).1
  rw [List.nil_append] at done
  cases done with
  | unwritten unwritten once =>
    obtain ⟨rfl, -⟩ := performs_unwritten ran unwritten
    exact ⟨fun _ => .inl rfl, fun _ => .inl before⟩
  | @wrote earlier changed record prepared answer =>
    obtain ⟨middle, between, unwritten, wrote⟩ := ran.last_step
    obtain ⟨rfl, -⟩ := performs_unwritten unwritten prepared.unwritten
    have member : saving json statePath changed answer ∈
        earlier ++ [saving json statePath changed answer] :=
      List.mem_append_right earlier List.mem_cons_self
    have laws := written (sortedState changed) answer member
    -- what the file holds: nothing new, or a part of the text
    have cases : after = some (stateText json previous) ∨
        ∃ part, part <+: stateText json (sortedState changed) ∧ after = some part := by
      cases answer with
      | ok _ => exact .inr ⟨_, List.prefix_refl _, wrote⟩
      | error reason => exact wrote
    rcases cases with rfl | ⟨part, cutOff, rfl⟩
    · exact ⟨fun _ => .inl rfl, fun _ => .inl before⟩
    · rcases stateText_parts cutOff with rfl | rfl | ⟨shorter, proper⟩
      · constructor
        · intro _
          exact .inr ⟨_, answer, _, member, List.prefix_refl _, Nat.le_succ _, rfl⟩
        · intro _
          exact .inr ⟨earlier, changed, record, prepared, ⟨answer, rfl⟩,
            parseState_stateText rfl laws.reads⟩
      · constructor
        · intro _
          refine .inr ⟨_, answer, _, member, cutOff, ?_, rfl⟩
          rw [stateText, List.length_append]
          exact le_rfl
        · intro _
          exact .inr ⟨earlier, changed, record, prepared, ⟨answer, rfl⟩, parseState_bare laws rfl⟩
      · have unloadable := parseState_cut statePath laws shorter proper
        constructor
        · rintro (loaded | ⟨_, changed, _, _, _, loaded⟩)
          · exact absurd loaded (unloadable previous)
          · exact absurd loaded (unloadable (sortedState changed))
        · rintro (same | ⟨bytes, _, whole, wrote, _, long, same⟩)
          · rw [same]
            exact .inl before
          · obtain rfl := Option.some.inj same
            obtain rfl := prepared.unwritten.saving_bytes wrote
            rw [stateText, List.length_append] at long
            have full : (json.toStringPretty (encodeConfig (sortedState changed))).length ≤
                part.length := Nat.le_of_succ_le_succ long
            exact absurd (shorter.eq_of_length_le full) proper

/-! ## A save that is killed -/

theorem mockEntries_prefixFree : ∀ text ∈ mockEntries.map Prod.snd,
    ∀ other ∈ mockEntries.map Prod.snd, text <+: other → text = other := by
  simp [mockEntries, mockCatalogText, mockStateText, emptyStateText, stateHead, utf8_quote,
    utf8_newline, utf8_bracket, List.prefix_append_right_inj]

theorem mockState_laws : TextLaws (tabled mockEntries) (mockState 1700000000) where
  reads := by
    rw [mockState_text]
    exact mockEntries_separate.reads (.inr rfl) mockEntries_state
  bare := by
    have reads := mockEntries_separate.reads (.inl rfl) mockEntries_state
    rwa [List.append_nil, ← mockEntries_separate.writes mockEntries_state] at reads
  cut part shorter proper := by
    rw [mockEntries_separate.writes mockEntries_state] at shorter proper
    exact tabled_cut mockEntries_prefixFree mockEntries_state shorter proper

theorem emptyState_laws : TextLaws (tabled mockEntries) emptyState where
  reads := by
    rw [emptyState_text]
    exact mockEntries_separate.reads (.inr rfl) mockEntries_empty
  bare := by
    have reads := mockEntries_separate.reads (.inl rfl) mockEntries_empty
    rwa [List.append_nil, ← mockEntries_separate.writes mockEntries_empty] at reads
  cut part shorter proper := by
    rw [mockEntries_separate.writes mockEntries_empty] at shorter proper
    exact tabled_cut mockEntries_prefixFree mockEntries_empty shorter proper

/-- Removing the mock provider is killed when the file was truncated. -/
noncomputable def killedTrace : Trace providerStore :=
  [⟨.readState providersJson, contents mockInstalling.after⟩, ⟨.createDirAll ⟨[]⟩, .ok ()⟩,
    saving (tabled mockEntries) providersJson emptyState (.error "killed")]

theorem killed_removing :
    Code.Performs StoreStep
      ((ProviderCommand.uninstall "mock.asr").run (tabled mockEntries) providersJson)
      (some (stateText (tabled mockEntries) (mockState 1700000000))) killedTrace
      (.done (.error "failed to write providers.json")) (some []) := by
  have installed : find (mockState 1700000000) "mock.asr" =
      some (mockTemplate.toInstalled none 1700000000) := Keyed.lookup_cons_self rfl
  have failing := saveThen_fails (tabled mockEntries) providersJson
    (withoutFirst (mockState 1700000000) "mock.asr") (mockTemplate.toInstalled none 1700000000)
    mockInstalling.after "killed" (List.nil_prefix)
  have removing := uninstall_performs "mock.asr" mockState_loads installed failing
  rw [mockState_removed] at removing
  exact removing

theorem killed_written {config : InstalledAsrProvidersConfig} {answer : Except String Unit}
    (wrote : (⟨.writeState providersJson (stateText (tabled mockEntries) config), answer⟩ :
      Entry providerStore) ∈ killedTrace) : TextLaws (tabled mockEntries) config := by
  simp only [killedTrace, saving, List.mem_cons, List.not_mem_nil, or_false] at wrote
  have text : stateText (tabled mockEntries) config = emptyStateText ++ [10] := by
    rcases wrote with wrote | wrote | wrote
    · cases wrote
    · cases wrote
    · have same := congrArg Entry.action wrote
      injection same with _ same
      exact same.trans emptyState_text
  obtain rfl := mockEntries_separate.config_unique mockEntries_empty text
  exact emptyState_laws

theorem killed_removing_survives_iff :
    Survives (tabled mockEntries) providersJson (.uninstall "mock.asr") (mockState 1700000000)
      killedTrace (some []) ↔
    StoppedAtEnds providersJson (some (stateText (tabled mockEntries) (mockState 1700000000)))
      killedTrace (some []) :=
  save_survives_iff rfl mockState_laws (fun _ _ => killed_written) killed_removing

/-- The truncated file loads as no state at all. -/
theorem killed_removing_lost :
    Code.Performs StoreStep
      ((ProviderCommand.uninstall "mock.asr").run (tabled mockEntries) providersJson)
      (some (stateText (tabled mockEntries) (mockState 1700000000))) killedTrace
      (.done (.error "failed to write providers.json")) (some []) ∧
    ¬ Survives (tabled mockEntries) providersJson (.uninstall "mock.asr") (mockState 1700000000)
      killedTrace (some []) := by
  have empty : [] ≠ (tabled mockEntries).toStringPretty (encodeConfig emptyState) := by
    rw [mockEntries_separate.writes mockEntries_empty]
    exact (mockEntries_separate.nonempty _
      (List.mem_map_of_mem (f := Prod.snd) mockEntries_empty)).symm
  have unloadable := parseState_cut providersJson emptyState_laws List.nil_prefix empty
  refine ⟨killed_removing, ?_⟩
  rintro (loaded | ⟨_, changed, _, _, _, loaded⟩)
  · exact unloadable _ loaded
  · exact unloadable _ loaded

end SpeechMesh.Soundness
