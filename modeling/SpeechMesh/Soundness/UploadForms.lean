import SpeechMesh.Encoding.Multipart
import SpeechMesh.Model.AudioUploads

/-! # The form of an upload

Names and the filename are put between quotes as they are, and values between delimiters. A reader
finds the fields and the file that were given if and only if no name has a quote, a backslash, a
carriage return or a line feed, and no content a delimiter.
-/

namespace SpeechMesh.Soundness

open Encoding Multipart Model

/-- What a part of the form is made from. -/
inductive FormItem where
  | field (name value : String)
  | file (filename : String) (bytes : Bytes)

namespace FormItem

/-- The part that a reader is to find. -/
def part : FormItem → Part
  | .field name value => ⟨utf8 name, none, utf8 value⟩
  | .file filename bytes => ⟨utf8 "file", some (utf8 filename), bytes⟩

/-- The text that is put between quotes, and the content. -/
def quoted : FormItem → Bytes
  | .field name _ => utf8 name
  | .file filename _ => utf8 filename

def content : FormItem → Bytes
  | .field _ value => utf8 value
  | .file _ bytes => bytes

/-- No part of the item is taken for the syntax of the form. -/
def Harmless (boundary : String) (item : FormItem) : Prop :=
  Multipart.Plain item.quoted ∧ ¬ delimiterOf (utf8 boundary) <:+: crlf ++ item.content

/-- The header and the content as they are written. -/
def text (mimeType : String) : FormItem → Bytes
  | .field name value =>
      writeHeader [opening [] (utf8 "name") ++ (utf8 name ++ [34])] (utf8 value)
  | .file filename bytes =>
      writeHeader [opening [(utf8 "name", utf8 "file")] (utf8 "filename") ++
        (utf8 filename ++ [34]), utf8 "Content-Type: " ++ utf8 mimeType] bytes

end FormItem

/-- The items of a form: its fields, and then the file. -/
def formItems (fields : List (String × String)) (filename : String) (fileBytes : Bytes) :
    List FormItem :=
  fields.map (fun field => .field field.1 field.2) ++ [.file filename fileBytes]

theorem utf8_crlf : utf8 "\r\n" = crlf := by decide

theorem utf8_dashes : utf8 "--" = [45, 45] := by decide

theorem utf8_field_opening : utf8 "Content-Disposition: form-data; name=\"" =
    opening [] (utf8 "name") := by decide

theorem utf8_file_opening : utf8 "Content-Disposition: form-data; name=\"file\"; filename=\"" =
    opening [(utf8 "name", utf8 "file")] (utf8 "filename") := by decide

theorem field_text (mimeType name value : String) :
    utf8 ("Content-Disposition: form-data; name=\"" ++ name ++ "\"\r\n\r\n") ++ utf8 value =
      (FormItem.field name value).text mimeType := by
  have ending : utf8 "\"\r\n\r\n" = [34] ++ crlf ++ crlf := by decide
  rw [utf8_append, utf8_append, utf8_field_opening, ending, FormItem.text, writeHeader_cons,
    writeHeader, List.flatMap_nil, List.nil_append]
  simp only [List.append_assoc]

theorem file_text (mimeType filename : String) (fileBytes : Bytes) :
    utf8 ("Content-Disposition: form-data; name=\"file\"; filename=\"" ++ filename ++ "\"\r\n") ++
        utf8 ("Content-Type: " ++ mimeType ++ "\r\n\r\n") ++ fileBytes =
      (FormItem.file filename fileBytes).text mimeType := by
  have ending : utf8 "\"\r\n" = [34] ++ crlf := by decide
  have ending' : utf8 "\r\n\r\n" = crlf ++ crlf := by decide
  rw [utf8_append, utf8_append, utf8_append, utf8_append, utf8_file_opening, ending, ending',
    FormItem.text, writeHeader_cons, writeHeader_cons, writeHeader, List.flatMap_nil,
    List.nil_append]
  simp only [List.append_assoc]

/-- The body is the form of its items. -/
theorem buildMultipartFormBody_eq (boundary : String) (fields : List (String × String))
    (filename mimeType : String) (fileBytes : Bytes) :
    buildMultipartFormBody boundary fields filename mimeType fileBytes =
      writeForm (utf8 boundary)
        ((formItems fields filename fileBytes).map (FormItem.text mimeType)) := by
  have start : utf8 ("--" ++ boundary ++ "\r\n") = [45, 45] ++ utf8 boundary ++ crlf := by
    rw [utf8_append, utf8_append, utf8_dashes, utf8_crlf]
  have finish : utf8 ("--" ++ boundary ++ "--\r\n") =
      [45, 45] ++ utf8 boundary ++ [45, 45] ++ crlf := by
    have dashes : utf8 "--\r\n" = [45, 45] ++ crlf := by decide
    rw [utf8_append, utf8_append, utf8_dashes, dashes]
    simp only [List.append_assoc]
  have each : (fun field : String × String => utf8 ("--" ++ boundary ++ "\r\n") ++
      utf8 ("Content-Disposition: form-data; name=\"" ++ field.1 ++ "\"\r\n\r\n") ++
      utf8 field.2 ++ utf8 "\r\n") =
      fun field => [45, 45] ++ utf8 boundary ++ crlf ++
        (FormItem.field field.1 field.2).text mimeType ++ crlf := by
    funext field
    rw [start, utf8_crlf, ← field_text mimeType]
    simp only [List.append_assoc]
  rw [buildMultipartFormBody, each, start, finish, utf8_crlf, formItems, List.map_append,
    List.map_map, writeForm, List.flatMap_append, List.flatMap_map, List.map_singleton,
    List.flatMap_singleton, ← file_text mimeType]
  simp only [List.append_assoc, Function.comp]

/-! ## Reading the form -/

theorem isKey_name : IsKey (utf8 "name") := ⟨by decide +kernel, by decide +kernel, by decide +kernel⟩

theorem isKey_filename : IsKey (utf8 "filename") :=
  ⟨by decide +kernel, by decide +kernel, by decide +kernel⟩

theorem filename_ne_name : (utf8 "filename" == utf8 "name") = false := by decide +kernel

theorem opening_isLine {before : List (Bytes × Bytes)} {key : Bytes}
    (unbroken : Unbroken (opening before key)) : IsLine (opening before key) :=
  ⟨unbroken, 67, _, rfl, by decide⟩

theorem partOf_some {found : List (Bytes × Bytes)} {content : Bytes} {part : Part}
    (read : partOf found content = some part) :
    found.lookup (utf8 "name") = some part.name ∧
      found.lookup (utf8 "filename") = part.filename ∧ content = part.content := by
  obtain ⟨name, named, rfl⟩ := Option.map_eq_some_iff.mp read
  exact ⟨named, rfl, rfl⟩

theorem FormItem.written {boundary mimeType : String} (valid : 13 ∉ utf8 boundary)
    (typeLine : Unbroken (utf8 mimeType)) (item : FormItem) :
    Multipart.Written (utf8 boundary) (item.text mimeType) item.part (item.Harmless boundary) := by
  cases item with
  | field name value =>
    apply written_quoted valid (by simp) isKey_name rfl
    case isLine => exact opening_isLine (by decide)
    case moreLines => simp
    case named =>
      have none : List.lookup (utf8 "filename") [(utf8 "name", utf8 name)] = none := by
        rw [List.lookup_cons, filename_ne_name]
        rfl
      rw [List.nil_append, partOf, List.lookup_cons_self, none]
      rfl
    case determined =>
      intro found content' read
      obtain ⟨named, -, same⟩ := partOf_some read
      exact ⟨named, same⟩
  | file filename bytes =>
    have file : Multipart.Plain (utf8 "file") := by
      have bytes_eq : utf8 "file" = [102, 105, 108, 101] := by decide
      rw [Multipart.Plain, bytes_eq]
      simp
    apply written_quoted valid _ isKey_filename _
    case isLine => exact opening_isLine (by decide)
    case moreLines =>
      intro line member
      rw [List.mem_singleton.mp member]
      have label : utf8 "Content-Type: " = 67 :: utf8 "ontent-Type: " := by decide
      refine ⟨?_, 67, utf8 "ontent-Type: " ++ utf8 mimeType, by rw [label, List.cons_append],
        by decide⟩
      exact Unbroken.append (by decide) typeLine
    case named =>
      have found : List.lookup (utf8 "filename")
          [(utf8 "name", utf8 "file"), (utf8 "filename", utf8 filename)] = some (utf8 filename) := by
        rw [List.lookup_cons, filename_ne_name]
        exact List.lookup_cons_self
      rw [List.singleton_append, partOf, List.lookup_cons_self, found]
      rfl
    case determined =>
      intro found content' read
      obtain ⟨-, named, same⟩ := partOf_some read
      exact ⟨named, same⟩
    · intro parameter member
      rw [List.mem_singleton.mp member]
      exact ⟨isKey_name, file⟩
    · rw [List.lookup_cons, filename_ne_name]
      rfl

/-- A form is read as its items if and only if they are harmless. -/
theorem form_read {boundary mimeType : String} (valid : 13 ∉ utf8 boundary)
    (typeLine : Unbroken (utf8 mimeType)) (fields : List (String × String)) (filename : String)
    (fileBytes : Bytes) :
    parse (utf8 boundary)
        (buildMultipartFormBody boundary fields filename mimeType fileBytes) =
      some ((formItems fields filename fileBytes).map FormItem.part) ↔
    ∀ item ∈ formItems fields filename fileBytes, item.Harmless boundary := by
  rw [buildMultipartFormBody_eq]
  exact parse_writeForm (FormItem.written valid typeLine) _

theorem digits_utf8 (n : ℕ) : ∀ byte ∈ utf8 (toString n), 48 ≤ byte.toNat ∧ byte.toNat ≤ 57 := by
  have digit : ∀ c ∈ Nat.toDigits 10 n, 48 ≤ c.toNat ∧ c.toNat ≤ 57 := fun c member =>
    Char.isDigit_iff_toNat.mp (Nat.isDigit_of_mem_toDigits (by decide) (by decide) member)
  intro byte member
  rw [Nat.toString_eq_repr, Nat.repr, utf8_ofList fun c member => by
    have := digit c member; omega] at member
  obtain ⟨c, written, rfl⟩ := List.mem_map.mp member
  have range := digit c written
  have value : c.val.toUInt8.toNat = c.toNat := by
    rw [UInt32.toNat_toUInt8]
    exact Nat.mod_eq_of_lt (by rw [Char.toNat_val]; omega)
  rw [value]
  exact range

theorem minimaxBoundary_valid (nanos : ℕ) : 13 ∉ utf8 (minimaxBoundary nanos) := by
  have letters : 13 ∉ utf8 "speechmesh-minimax-" := by decide
  have digits : 13 ∉ utf8 (toString nanos) := by
    intro inside
    have range := (digits_utf8 nanos 13 inside).1
    have value : (13 : UInt8).toNat = 13 := rfl
    omega
  have split : utf8 (minimaxBoundary nanos) = utf8 "speechmesh-minimax-" ++ utf8 (toString nanos) :=
    utf8_append _ _
  intro inside
  rw [split] at inside
  exact (List.mem_append.mp inside).elim letters digits

theorem audioMimeType_line {format : AudioFormat} {mimeType : String}
    (known : audioMimeType format = .ok mimeType) : Unbroken (utf8 mimeType) := by
  rw [audioMimeType] at known
  cases format_ : format.encoding
  case opus | aac | pcmF32Le =>
    rw [format_] at known
    dsimp only at known
    contradiction
  all_goals
    rw [format_] at known
    dsimp only at known
    rw [← Except.ok.inj known]
    decide

/-- The parts that are to be found: the fields in order, and the file. -/
def formParts (fields : List (String × String)) (filename : String) (fileBytes : Bytes) :
    List Part :=
  fields.map (fun field => ⟨utf8 field.1, none, utf8 field.2⟩) ++
    [⟨utf8 "file", some (utf8 filename), fileBytes⟩]

/-- The body of an upload is read as the fields and the file it was built from if and only if the
names and the filename stand for themselves between quotes, and no value and not the file has a line
that starts with the boundary. -/
theorem form_faithful_iff (nanos : ℕ) (fields : List (String × String)) (filename : String)
    (fileBytes : Bytes) {format : AudioFormat} {mimeType : String}
    (known : audioMimeType format = .ok mimeType) :
    parse (utf8 (minimaxBoundary nanos)) (buildMultipartFormBody (minimaxBoundary nanos) fields
        filename mimeType fileBytes) = some (formParts fields filename fileBytes) ↔
      (∀ field ∈ fields, Multipart.Plain (utf8 field.1) ∧
        ¬ delimiterOf (utf8 (minimaxBoundary nanos)) <:+: crlf ++ utf8 field.2) ∧
      Multipart.Plain (utf8 filename) ∧
        ¬ delimiterOf (utf8 (minimaxBoundary nanos)) <:+: crlf ++ fileBytes := by
  have parts : formParts fields filename fileBytes =
      (formItems fields filename fileBytes).map FormItem.part := by
    rw [formItems, List.map_append, List.map_map]
    rfl
  rw [parts, form_read (minimaxBoundary_valid nanos) (audioMimeType_line known), formItems,
    List.forall_mem_append, List.forall_mem_singleton, List.forall_mem_map]
  rfl

theorem form_faithful_file : parse (utf8 (minimaxBoundary 7))
    (buildMultipartFormBody (minimaxBoundary 7) [("model", "m\r\n--m")] "a b.mp3" "audio/mpeg"
      [13, 10, 45]) = some (formParts [("model", "m\r\n--m")] "a b.mp3" [13, 10, 45]) := by
  have known : audioMimeType ⟨.mp3, 16000, 1⟩ = .ok "audio/mpeg" := rfl
  rw [form_faithful_iff 7 _ _ _ known]
  have plain (text : Bytes)
      (each : text.all fun byte => byte ≠ 34 && byte ≠ 92 && byte ≠ 13 && byte ≠ 10) :
      Multipart.Plain text := by
    intro byte member
    simpa [and_assoc] using List.all_eq_true.mp each byte member
  refine ⟨?_, plain _ (by decide), by decide⟩
  intro field member
  rw [List.mem_singleton.mp member]
  exact ⟨plain _ (by decide), by decide⟩

/-- A quote in the name of an option makes its field a file. -/
theorem quoted_name_injects :
    let fields := [("a\"; filename=\"b", "1")]
    let body := buildMultipartFormBody (minimaxBoundary 7) fields "audio.wav" "audio/wav" []
    parse (utf8 (minimaxBoundary 7)) body =
        some [⟨utf8 "a", some (utf8 "b"), utf8 "1"⟩, ⟨utf8 "file", some (utf8 "audio.wav"), []⟩] ∧
      parse (utf8 (minimaxBoundary 7)) body ≠ some (formParts fields "audio.wav" []) := by
  decide +kernel

/-- What a transcription posts is a form of its options and of the audio as it is uploaded. -/
theorem minimaxUploadBody_read {request : AsrStreamRequest} {render : Json → String}
    {defaultModel : String} {nanos : ℕ} {bufferedAudio body : Bytes}
    (posted : minimaxUploadBody request render defaultModel nanos bufferedAudio = .ok body) :
    ∃ fileBytes, encodeMinimaxUploadAudio request.inputFormat bufferedAudio = .ok fileBytes ∧
      let items := formItems (minimaxFormFields request render defaultModel)
        (minimaxFilename request) fileBytes
      (parse (utf8 (minimaxBoundary nanos)) body = some (items.map FormItem.part) ↔
        ∀ item ∈ items, item.Harmless (minimaxBoundary nanos)) := by
  rw [minimaxUploadBody] at posted
  split_ifs at posted with empty
  · contradiction
  obtain ⟨mimeType, known, posted⟩ := exists_of_bind_ok posted
  obtain ⟨fileBytes, encoded, posted⟩ := exists_of_bind_ok posted
  rw [← Except.ok.inj posted]
  exact ⟨fileBytes, encoded, form_read (minimaxBoundary_valid nanos) (audioMimeType_line known) ..⟩

theorem minimaxUploadBody_mp3 :
    let request : AsrStreamRequest := ⟨{}, ⟨.mp3, 16000, 1⟩, {}⟩
    ∃ body fileBytes, minimaxUploadBody request (fun _ => "") "asr" 7 [13] = .ok body ∧
      encodeMinimaxUploadAudio request.inputFormat [13] = .ok fileBytes ∧
        let items := formItems (minimaxFormFields request (fun _ => "") "asr")
          (minimaxFilename request) fileBytes
        (parse (utf8 (minimaxBoundary 7)) body = some (items.map FormItem.part) ↔
          ∀ item ∈ items, item.Harmless (minimaxBoundary 7)) := by
  intro request
  obtain ⟨body, posted⟩ : ∃ body,
      minimaxUploadBody request (fun _ => "") "asr" 7 [13] = .ok body := ⟨_, rfl⟩
  obtain ⟨fileBytes, encoded, read⟩ := minimaxUploadBody_read posted
  exact ⟨body, fileBytes, posted, encoded, read⟩

end SpeechMesh.Soundness
