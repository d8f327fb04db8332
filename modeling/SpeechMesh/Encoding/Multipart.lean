import Mathlib.Data.List.TakeDrop
import SpeechMesh.Encoding.Bytes

/-! # Forms with several parts

How a `multipart/form-data` body is read. A line that starts with two dashes and the boundary delimits
the parts, wherever it stands; a part has header lines, an empty line and its content; its name
and filename are parameters of the content disposition, in quotes where a backslash stands for the
byte after it. Neither half of a line break stands alone in a header line.
-/

namespace Encoding.Multipart

/-! ## Splitting -/

section Split

variable {α : Type*} [DecidableEq α]

/-- What stands before and after the first occurrence of a separator. -/
def splitAtFirst (separator : List α) : List α → Option (List α × List α)
  | [] => none
  | first :: rest =>
      if separator <+: first :: rest then some ([], (first :: rest).drop separator.length)
      else (splitAtFirst separator rest).map fun split => (first :: split.1, split.2)

variable {separator front rest text : List α}

theorem splitAtFirst_prefix (nonempty : separator ≠ []) :
    splitAtFirst separator (separator ++ rest) = some ([], rest) := by
  cases separator with
  | nil => contradiction
  | cons first others =>
    have here : first :: others <+: first :: (others ++ rest) := List.prefix_append ..
    rw [List.cons_append, splitAtFirst, if_pos here, ← List.cons_append, List.drop_left]

/-- The text is put together from the split, and what stands before has no separator. -/
theorem splitAtFirst_some (split : splitAtFirst separator text = some (front, rest)) :
    text = front ++ (separator ++ rest) ∧ (separator ≠ [] → ¬ separator <:+: front) := by
  induction text generalizing front with
  | nil => rw [splitAtFirst] at split; contradiction
  | cons first others ih =>
    rw [splitAtFirst] at split
    split_ifs at split with here
    · cases split
      obtain ⟨after, joined⟩ := here
      refine ⟨?_, ?_⟩
      · rw [← joined, List.drop_left, List.nil_append]
      · intro nonempty occurs
        exact nonempty (List.infix_nil.mp occurs)
    · rw [Option.map_eq_some_iff] at split
      obtain ⟨⟨before, after⟩, found, joined⟩ := split
      cases joined
      obtain ⟨text_eq, free⟩ := ih found
      refine ⟨by rw [text_eq, List.cons_append], ?_⟩
      intro nonempty occurs
      rcases List.infix_cons_iff.mp occurs with atStart | later
      · apply here
        rw [text_eq, ← List.cons_append]
        exact atStart.trans (List.prefix_append ..)
      · exact free nonempty later

/-- A separator whose first element does not come again is found where it is written, after a text
without it. -/
theorem splitAtFirst_append {first : α} {others : List α} (fresh : first ∉ others)
    (free : ¬ first :: others <:+: front) :
    splitAtFirst (first :: others) (front ++ (first :: others ++ rest)) = some (front, rest) := by
  induction front with
  | nil => exact splitAtFirst_prefix (by simp)
  | cons head tail ih =>
    have later : ¬ first :: others <:+: tail := fun occurs =>
      free (List.infix_cons occurs)
    have notHere : ¬ first :: others <+: head :: (tail ++ (first :: others ++ rest)) := by
      intro here
      rcases List.prefix_or_prefix_of_prefix here
        (List.prefix_append (head :: tail) (first :: others ++ rest)) with inside | ⟨after, joined⟩
      · exact free inside.isInfix
      · -- The separator would go on with its own first element.
        cases after with
        | nil =>
          rw [List.append_nil] at joined
          exact free (joined ▸ List.infix_rfl)
        | cons next more =>
          have further : (head :: tail) ++ (next :: more) <+:
              (head :: tail) ++ (first :: others ++ rest) := by
            rw [joined]
            exact here
          have same : next = first := by
            obtain ⟨_, agree⟩ := (List.prefix_append_right_inj _).mp further
            exact (List.cons.inj agree).1
          have inside : next ∈ others := by
            rw [List.cons_append] at joined
            rw [← (List.cons.inj joined).2]
            simp
          exact fresh (same ▸ inside)
    rw [List.cons_append, splitAtFirst, if_neg notHere, ih later]
    rfl

end Split

/-! ## Header lines -/

def crlf : List UInt8 := [13, 10]

/-- A carriage return or a line feed. -/
def isBreak (byte : UInt8) : Bool := byte = 13 || byte = 10

def Unbroken (line : List UInt8) : Prop := ∀ byte ∈ line, isBreak byte = false

instance (line : List UInt8) : Decidable (Unbroken line) :=
  List.decidableBAll (fun byte => isBreak byte = false) line

/-- The lines of a header up to the empty one, and what stands after it. A line with a carriage
return or a line feed of its own is none. -/
def splitHeader : ℕ → List UInt8 → Option (List (List UInt8) × List UInt8)
  | 0, _ => none
  | fuel + 1, text =>
      match splitAtFirst crlf text with
      | none => none
      | some (line, rest) =>
          if line = [] then some ([], rest)
          else if Unbroken line then
            (splitHeader fuel rest).map fun header => (line :: header.1, header.2)
          else none

def isBlank (byte : UInt8) : Bool := byte = 32 || byte = 9

/-- The characters of a token: visible ones that are not special in a header. -/
def isToken (byte : UInt8) : Bool := 33 ≤ byte && byte ≤ 126 && byte ∉ utf8 "()<>@,;:\\\"/[]?="

def lower (text : List UInt8) : List UInt8 :=
  text.map fun byte => if 65 ≤ byte ∧ byte ≤ 90 then byte + 32 else byte

/-- The text up to the closing quote, and what stands after it. The flag tells of a backslash just
before. -/
def quotedText : Bool → List UInt8 → Option (List UInt8 × List UInt8)
  | _, [] => none
  | true, byte :: rest =>
      if isBreak byte then none
      else (quotedText false rest).map fun read => (byte :: read.1, read.2)
  | false, byte :: rest =>
      if byte = 34 then some ([], rest)
      else if isBreak byte then none
      else if byte = 92 then quotedText true rest
      else (quotedText false rest).map fun read => (byte :: read.1, read.2)

def parameterValue (text : List UInt8) : Option (List UInt8 × List UInt8) :=
  match text with
  | [] => none
  | first :: rest => if first = 34 then quotedText false rest else some (text.span isToken)

/-- Parameters of a header, each after a semicolon. -/
def parameters : ℕ → List UInt8 → Option (List (List UInt8 × List UInt8))
  | 0, _ => none
  | fuel + 1, text =>
      match text.dropWhile isBlank with
      | [] => some []
      | first :: rest =>
          if first = 59 then do
            let (key, rest) ← splitAtFirst [61] (rest.dropWhile isBlank)
            let (value, rest) ← parameterValue rest
            let others ← parameters fuel rest
            some ((lower key, value) :: others)
          else none

def headerField (line : List UInt8) : Option (List UInt8 × List UInt8) :=
  (splitAtFirst [58] line).map fun field => (lower field.1, field.2.dropWhile isBlank)

/-- The parameters of the content disposition, if it is that of form data. -/
def disposition (lines : List (List UInt8)) : Option (List (List UInt8 × List UInt8)) := do
  let field ← (lines.filterMap headerField).find? fun field => field.1 = utf8 "content-disposition"
  let (kind, rest) := field.2.span isToken
  if lower kind = utf8 "form-data" then parameters (rest.length + 1) rest else none

/-! ## Parts -/

structure Part where
  name : List UInt8
  filename : Option (List UInt8)
  content : List UInt8
  deriving DecidableEq

/-- The part that has these parameters. -/
def partOf (found : List (List UInt8 × List UInt8)) (content : List UInt8) : Option Part :=
  (found.lookup (utf8 "name")).map fun name => ⟨name, found.lookup (utf8 "filename"), content⟩

def readPart (text : List UInt8) : Option Part := do
  let (lines, content) ← splitHeader text.length text
  let found ← disposition lines
  partOf found content

/-- The parts after a delimiter, up to the one that closes the form. -/
def readParts (delimiter : List UInt8) : ℕ → List UInt8 → Option (List Part)
  | 0, _ => none
  | fuel + 1, text =>
      if [45, 45] <+: text then some []
      else if crlf <+: text.dropWhile isBlank then do
        let (text, rest) ← splitAtFirst delimiter ((text.dropWhile isBlank).drop 2)
        let first ← readPart text
        let others ← readParts delimiter fuel rest
        some (first :: others)
      else none

/-- The line break before a delimiter belongs to it; the first one may do without. -/
def delimiterOf (boundary : List UInt8) : List UInt8 := crlf ++ [45, 45] ++ boundary

def parse (boundary body : List UInt8) : Option (List Part) := do
  let (_, rest) ← splitAtFirst (delimiterOf boundary) (crlf ++ body)
  readParts (delimiterOf boundary) body.length rest

/-! ## Reading quoted texts -/

/-- A text that stands for itself between quotes. -/
def Plain (text : List UInt8) : Prop :=
  ∀ byte ∈ text, byte ≠ 34 ∧ byte ≠ 92 ∧ byte ≠ 13 ∧ byte ≠ 10

theorem Plain.of_cons {byte : UInt8} {text : List UInt8} (plain : Plain (byte :: text)) :
    Plain text := fun byte' member => plain byte' (List.mem_cons_of_mem _ member)

theorem isBreak_eq_false {byte : UInt8} : isBreak byte = false ↔ byte ≠ 13 ∧ byte ≠ 10 := by
  simp [isBreak]

theorem Plain.unbroken {text : List UInt8} (plain : Plain text) : Unbroken text :=
  fun byte member => isBreak_eq_false.mpr (plain byte member).2.2

theorem Unbroken.clean {line : List UInt8} (unbroken : Unbroken line) : 13 ∉ line := fun inside =>
  Bool.noConfusion (unbroken 13 inside)

theorem Unbroken.append {front rest : List UInt8} (unbroken : Unbroken front)
    (unbroken' : Unbroken rest) : Unbroken (front ++ rest) := fun byte member =>
  (List.mem_append.mp member).elim (unbroken byte) (unbroken' byte)

theorem quotedText_plain {text rest : List UInt8} (plain : Plain text) :
    quotedText false (text ++ 34 :: rest) = some (text, rest) := by
  induction text with
  | nil =>
    rw [List.nil_append, quotedText]
    rfl
  | cons byte text ih =>
    obtain ⟨noQuote, noBackslash, _⟩ := plain byte (List.mem_cons_self ..)
    have noBreak : ¬ isBreak byte = true :=
      Bool.eq_false_iff.mp (plain.unbroken byte (List.mem_cons_self ..))
    rw [List.cons_append, quotedText, if_neg noQuote, if_neg noBreak, if_neg noBackslash,
      ih plain.of_cons]
    rfl

/-- Before a quote at the end of a line, no more can be read than was written, and as much only if it
stands for itself: a backslash takes the byte after it, and cannot take the end of the line. -/
theorem quotedText_within {escaped : Bool} {text value rest written after : List UInt8}
    (read : quotedText escaped text = some (value, rest))
    (within : text <+: written ++ 34 :: 13 :: after) :
    value.length ≤ written.length ∧
      (escaped = false → value.length = written.length → Plain written) := by
  induction text generalizing escaped value written with
  | nil => rw [quotedText] at read; contradiction
  | cons byte others ih =>
    cases escaped with
    | true =>
      rw [quotedText] at read
      split_ifs at read
      obtain ⟨⟨found, others'⟩, inner, joined⟩ := Option.map_eq_some_iff.mp read
      cases joined
      refine ⟨?_, nofun⟩
      cases written with
      | nil =>
        -- The quote is taken, and the line ends within the quoted text.
        rw [List.nil_append, List.cons_prefix_cons] at within
        exfalso
        cases others with
        | nil => rw [quotedText] at inner; contradiction
        | cons next more =>
          rw [List.cons_prefix_cons] at within
          rw [within.2.1, quotedText, if_neg (by decide), if_pos (by decide)] at inner
          contradiction
      | cons first written =>
        rw [List.cons_append, List.cons_prefix_cons] at within
        have bounded : found.length ≤ written.length := (ih inner within.2).1
        rw [List.length_cons, List.length_cons]
        dsimp only
        omega
    | false =>
      rw [quotedText] at read
      cases written with
      | nil =>
        rw [List.nil_append, List.cons_prefix_cons] at within
        rw [if_pos within.1] at read
        cases read
        exact ⟨le_rfl, fun _ _ => nofun⟩
      | cons first written =>
        rw [List.cons_append, List.cons_prefix_cons] at within
        obtain ⟨rfl, within⟩ := within
        split_ifs at read with isQuote broken isBackslash
        · cases read
          exact ⟨by simp, by simp⟩
        · have bounded := (ih read within).1
          rw [List.length_cons]
          exact ⟨by omega, by omega⟩
        · obtain ⟨⟨found, others'⟩, inner, joined⟩ := Option.map_eq_some_iff.mp read
          cases joined
          obtain ⟨bounded, plain⟩ := ih inner within
          rw [List.length_cons, List.length_cons]
          dsimp only
          refine ⟨by omega, ?_⟩
          intro _ same byte' member
          rcases List.mem_cons.mp member with rfl | later
          · exact ⟨isQuote, isBackslash, isBreak_eq_false.mp (Bool.eq_false_iff.mpr broken)⟩
          · exact plain rfl (by omega) byte' later

/-! ## Reading header lines -/

/-- What is split off at a carriage return reaches beyond a text without one. -/
theorem prefix_of_split {text front rest rest' : List UInt8} (clean : 13 ∉ front)
    (joined : text ++ 13 :: rest = front ++ rest') : front <+: text := by
  rcases List.prefix_or_prefix_of_prefix (List.prefix_append text (13 :: rest))
    (joined ▸ List.prefix_append front rest') with inside | beyond
  · obtain ⟨after, rfl⟩ := inside
    rw [List.append_assoc, List.append_cancel_left_eq] at joined
    cases after with
    | nil => simp
    | cons next more =>
      rw [List.cons_append] at joined
      have same : 13 = next := (List.cons.inj joined).1
      exact absurd (by simp [same]) clean
  · exact beyond

theorem splitAtFirst_of_infix {α : Type*} [DecidableEq α] {separator text : List α}
    (nonempty : separator ≠ []) (occurs : separator <:+: text) :
    ∃ front rest, splitAtFirst separator text = some (front, rest) := by
  induction text with
  | nil => exact absurd (List.infix_nil.mp occurs) nonempty
  | cons first others ih =>
    rw [splitAtFirst]
    by_cases here : separator <+: first :: others
    · rw [if_pos here]
      exact ⟨_, _, rfl⟩
    · obtain ⟨front, rest, found⟩ := ih ((List.infix_cons_iff.mp occurs).resolve_left here)
      rw [if_neg here, found]
      exact ⟨_, _, rfl⟩

theorem crlf_free {line : List UInt8} (clean : 13 ∉ line) : ¬ crlf <:+: line := fun occurs =>
  clean (occurs.subset (List.mem_cons_self ..))

theorem splitHeader_line {line rest : List UInt8} (fuel : ℕ) (unbroken : Unbroken line)
    (nonempty : line ≠ []) : splitHeader (fuel + 1) (line ++ (crlf ++ rest)) =
      (splitHeader fuel rest).map fun header => (line :: header.1, header.2) := by
  have split : splitAtFirst crlf (line ++ (crlf ++ rest)) = some (line, rest) :=
    splitAtFirst_append (by decide) (crlf_free unbroken.clean)
  rw [splitHeader, split]
  dsimp only
  rw [if_neg nonempty, if_pos unbroken]

theorem splitHeader_end (fuel : ℕ) (content : List UInt8) :
    splitHeader (fuel + 1) (crlf ++ content) = some ([], content) := by
  have split : splitAtFirst crlf (crlf ++ content) = some ([], content) :=
    splitAtFirst_prefix (by decide)
  rw [splitHeader, split]
  rfl

/-- The header that is written: its lines, the empty one and the content. -/
def writeHeader (lines : List (List UInt8)) (content : List UInt8) : List UInt8 :=
  lines.flatMap (· ++ crlf) ++ (crlf ++ content)

theorem writeHeader_cons (line : List UInt8) (lines : List (List UInt8)) (content : List UInt8) :
    writeHeader (line :: lines) content = line ++ (crlf ++ writeHeader lines content) := by
  simp only [writeHeader, List.flatMap_cons, List.append_assoc]

theorem length_lt_writeHeader (lines : List (List UInt8)) (content : List UInt8) :
    lines.length < (writeHeader lines content).length := by
  induction lines with
  | nil => simp [writeHeader, crlf]
  | cons line lines ih =>
    rw [writeHeader_cons, List.length_append, List.length_append, List.length_cons, crlf,
      List.length_cons]
    omega

theorem splitHeader_writeHeader {lines : List (List UInt8)} {content : List UInt8} {fuel : ℕ}
    (enough : lines.length < fuel) (unbroken : ∀ line ∈ lines, Unbroken line)
    (nonempty : ∀ line ∈ lines, line ≠ []) :
    splitHeader fuel (writeHeader lines content) = some (lines, content) := by
  induction lines generalizing fuel with
  | nil =>
    obtain ⟨fuel, rfl⟩ := Nat.exists_eq_add_one_of_ne_zero (by simp at enough; omega : fuel ≠ 0)
    exact splitHeader_end fuel content
  | cons line lines ih =>
    rw [List.length_cons] at enough
    obtain ⟨fuel, rfl⟩ := Nat.exists_eq_add_one_of_ne_zero (by omega : fuel ≠ 0)
    rw [writeHeader_cons, splitHeader_line fuel (unbroken line (by simp)) (nonempty line (by simp)),
      ih (by omega) (fun line member => unbroken line (by simp [member]))
        (fun line member => nonempty line (by simp [member]))]
    rfl

theorem splitHeader_some {fuel : ℕ} {text content : List UInt8} {lines : List (List UInt8)}
    (split : splitHeader fuel text = some (lines, content)) : text = writeHeader lines content := by
  induction fuel generalizing text lines with
  | zero => rw [splitHeader] at split; contradiction
  | succ fuel ih =>
    rw [splitHeader] at split
    split at split
    case h_1 => contradiction
    case h_2 line rest found =>
      obtain ⟨text_eq, -⟩ := splitAtFirst_some found
      split_ifs at split with atEnd unbroken
      · cases split
        rw [text_eq, atEnd]
        rfl
      · obtain ⟨⟨lines', content'⟩, inner, joined⟩ := Option.map_eq_some_iff.mp split
        cases joined
        rw [text_eq, ih inner, writeHeader_cons]

/-! ## Reading the parameters of a line -/

/-- A parameter up to its opening quote. -/
def openParameter (key : List UInt8) : List UInt8 := 59 :: 32 :: (key ++ [61, 34])

/-- A key as it is looked up. -/
structure IsKey (key : List UInt8) : Prop where
  noEquals : 61 ∉ key
  lowered : lower key = key
  noBlank : ∀ byte ∈ key, isBlank byte = false

theorem parameters_open {key : List UInt8} (isKey : IsKey key) (fuel : ℕ) (text : List UInt8) :
    parameters (fuel + 1) (openParameter key ++ text) =
      (quotedText false text).bind fun read =>
        (parameters fuel read.2).map fun others => (key, read.1) :: others := by
  have start : (openParameter key ++ text).dropWhile isBlank =
      59 :: 32 :: (key ++ ([61] ++ 34 :: text)) := by
    rw [openParameter, List.cons_append, List.dropWhile_cons_of_neg (by decide)]
    simp
  have inner : (32 :: (key ++ ([61] ++ 34 :: text))).dropWhile isBlank =
      key ++ ([61] ++ 34 :: text) := by
    rw [List.dropWhile_cons_of_pos (by decide)]
    cases key with
    | nil => rfl
    | cons first others =>
      have visible := isKey.noBlank first (List.mem_cons_self ..)
      rw [List.cons_append, List.dropWhile_cons_of_neg (by simp [visible])]
  have split : splitAtFirst [61] (key ++ ([61] ++ 34 :: text)) = some (key, 34 :: text) := by
    apply splitAtFirst_append (by simp)
    intro occurs
    exact isKey.noEquals (occurs.subset (List.mem_cons_self ..))
  rw [parameters, start]
  dsimp only
  rw [if_pos rfl, inner, split, Option.bind_eq_bind, Option.bind_some, parameterValue, if_pos rfl]
  cases quotedText false text with
  | none => rfl
  | some read =>
    rw [Option.bind_some, Option.bind_some, isKey.lowered]
    cases parameters fuel read.2 with
    | none => rfl
    | some others => rfl

/-- The first line of the header of a part, up to its parameters. -/
def formData : List UInt8 := utf8 "Content-Disposition: form-data"

theorem disposition_line (rest : List UInt8) (lines : List (List UInt8)) :
    disposition ((formData ++ 59 :: rest) :: lines) =
      parameters (rest.length + 2) (59 :: rest) := by
  have spelled : formData = utf8 "Content-Disposition" ++ ([58] ++ 32 :: utf8 "form-data") := by
    decide
  have name : lower (utf8 "Content-Disposition") = utf8 "content-disposition" := by decide
  have value : (32 :: (utf8 "form-data" ++ 59 :: rest)).dropWhile isBlank =
      utf8 "form-data" ++ 59 :: rest := by
    rw [List.dropWhile_cons_of_pos (by decide)]
    have first : utf8 "form-data" = 102 :: (utf8 "orm-data") := by decide
    rw [first, List.cons_append, List.dropWhile_cons_of_neg (by decide)]
  have field : headerField (formData ++ 59 :: rest) =
      some (utf8 "content-disposition", utf8 "form-data" ++ 59 :: rest) := by
    have split : splitAtFirst [58] (formData ++ 59 :: rest) =
        some (utf8 "Content-Disposition", 32 :: (utf8 "form-data" ++ 59 :: rest)) := by
      rw [spelled, List.append_assoc, List.append_assoc]
      exact splitAtFirst_append (by simp) (by decide)
    rw [headerField, split, Option.map_some, name, value]
  have tokens : ∀ byte ∈ utf8 "form-data", isToken byte = true := by decide +kernel
  have semicolon : isToken 59 = false := by decide +kernel
  have span : (utf8 "form-data" ++ 59 :: rest).span isToken = (utf8 "form-data", 59 :: rest) := by
    rw [List.span_eq_takeWhile_dropWhile, List.takeWhile_append_of_pos tokens,
      List.dropWhile_append_of_pos tokens, List.takeWhile_cons_of_neg (by simp [semicolon]),
      List.dropWhile_cons_of_neg (by simp [semicolon]), List.append_nil]
  have kind : lower (utf8 "form-data") = utf8 "form-data" := by decide
  rw [disposition, List.filterMap_cons_some field, List.find?_cons_of_pos (by simp)]
  simp only [Option.bind_eq_bind, Option.bind_some, span, kind, if_true, List.length_cons]

/-- The first line of a part up to a text in quotes: parameters before it, and its key. -/
def opening (before : List (List UInt8 × List UInt8)) (key : List UInt8) : List UInt8 :=
  formData ++ (before.flatMap (fun known => openParameter known.1 ++ (known.2 ++ [34])) ++
    openParameter key)

theorem parameters_before {before : List (List UInt8 × List UInt8)} {key : List UInt8}
    (known : ∀ parameter ∈ before, IsKey parameter.1 ∧ Plain parameter.2) (isKey : IsKey key)
    (fuel : ℕ) (text : List UInt8) :
    parameters (fuel + before.length + 1)
        (before.flatMap (fun known => openParameter known.1 ++ (known.2 ++ [34])) ++
          (openParameter key ++ text)) =
      (quotedText false text).bind fun read =>
        (parameters fuel read.2).map fun others => before ++ (key, read.1) :: others := by
  induction before with
  | nil => exact parameters_open isKey fuel text
  | cons first before ih =>
    obtain ⟨firstKey, firstPlain⟩ := known first (List.mem_cons_self ..)
    have inner := ih fun parameter member => known parameter (List.mem_cons_of_mem _ member)
    rw [List.flatMap_cons, List.append_assoc, List.append_assoc, List.append_assoc,
      List.length_cons, ← Nat.add_assoc, parameters_open firstKey, List.singleton_append,
      quotedText_plain firstPlain, Option.bind_some, inner]
    cases quotedText false text with
    | none => rfl
    | some read =>
      rw [Option.bind_some, Option.bind_some, Option.map_map]
      rfl

theorem length_le_parameters (before : List (List UInt8 × List UInt8)) : before.length ≤
    (before.flatMap fun known => openParameter known.1 ++ (known.2 ++ [34])).length := by
  induction before with
  | nil => exact le_rfl
  | cons first before ih =>
    rw [List.flatMap_cons, List.length_append, List.length_cons, openParameter, List.cons_append,
      List.length_cons]
    omega

theorem disposition_opening {before : List (List UInt8 × List UInt8)} {key : List UInt8}
    (known : ∀ parameter ∈ before, IsKey parameter.1 ∧ Plain parameter.2) (isKey : IsKey key)
    (text : List UInt8) (lines : List (List UInt8)) :
    ∃ fuel, disposition ((opening before key ++ text) :: lines) =
      (quotedText false text).bind fun read =>
        (parameters (fuel + 1) read.2).map fun others => before ++ (key, read.1) :: others := by
  obtain ⟨rest, start⟩ : ∃ rest,
      before.flatMap (fun known => openParameter known.1 ++ (known.2 ++ [34])) ++
        (openParameter key ++ text) = 59 :: rest := by
    cases before with
    | nil => exact ⟨_, rfl⟩
    | cons first before => exact ⟨_, rfl⟩
  have long : before.length ≤ rest.length := by
    have counted := congrArg List.length start
    have each := length_le_parameters before
    rw [List.length_append, List.length_append, List.length_cons] at counted
    rw [openParameter, List.length_cons] at counted
    omega
  refine ⟨rest.length - before.length, ?_⟩
  have total : rest.length + 2 = rest.length - before.length + 1 + before.length + 1 := by omega
  rw [opening, List.append_assoc, List.append_assoc, start, disposition_line, ← start, total]
  exact parameters_before known isKey _ text

/-! ## Reading a part -/

/-- A header line of a part: without a line break, and no start of a delimiter. -/
structure IsLine (line : List UInt8) : Prop where
  unbroken : Unbroken line
  starts : ∃ first rest, line = first :: rest ∧ first ≠ 45

theorem IsLine.nonempty {line : List UInt8} (isLine : IsLine line) : line ≠ [] := by
  obtain ⟨first, rest, rfl, -⟩ := isLine.starts
  simp

section Part

variable {boundary : List UInt8}

theorem delimiterOf_ne_nil : delimiterOf boundary ≠ [] := by
  rw [delimiterOf]
  simp [crlf]

theorem delimiterOf_eq : delimiterOf boundary = 13 :: 10 :: 45 :: 45 :: boundary := rfl

/-- A delimiter is found where it is written. -/
theorem split_delimiter {text tail : List UInt8} (valid : 13 ∉ boundary)
    (free : ¬ delimiterOf boundary <:+: text) :
    splitAtFirst (delimiterOf boundary) (text ++ (delimiterOf boundary ++ tail)) =
      some (text, tail) := by
  rw [delimiterOf_eq] at free ⊢
  apply splitAtFirst_append _ free
  simpa using valid

theorem free_line {line rest : List UInt8} (clean : 13 ∉ line) (noDash : rest.head? ≠ some 45)
    (free : ¬ delimiterOf boundary <:+: rest) :
    ¬ delimiterOf boundary <:+: line ++ (crlf ++ rest) := by
  induction line with
  | nil =>
    intro occurs
    rw [List.nil_append, crlf, List.cons_append, List.singleton_append] at occurs
    rcases List.infix_cons_iff.mp occurs with atStart | later
    · rw [delimiterOf_eq, List.cons_prefix_cons, List.cons_prefix_cons] at atStart
      obtain ⟨-, -, after, rfl⟩ := atStart
      exact noDash rfl
    · rcases List.infix_cons_iff.mp later with atFeed | inRest
      · rw [delimiterOf_eq, List.cons_prefix_cons] at atFeed
        exact absurd atFeed.1 (by decide)
      · exact free inRest
  | cons first line ih =>
    intro occurs
    rw [List.cons_append] at occurs
    rcases List.infix_cons_iff.mp occurs with atStart | later
    · rw [delimiterOf_eq, List.cons_prefix_cons] at atStart
      exact clean (by simp [← atStart.1])
    · exact ih (fun member => clean (List.mem_cons_of_mem _ member)) later

theorem free_lines {lines : List (List UInt8)} {rest : List UInt8}
    (isLine : ∀ line ∈ lines, IsLine line) (noDash : rest.head? ≠ some 45)
    (free : ¬ delimiterOf boundary <:+: rest) :
    (lines.flatMap (· ++ crlf) ++ rest).head? ≠ some 45 ∧
      ¬ delimiterOf boundary <:+: lines.flatMap (· ++ crlf) ++ rest := by
  induction lines with
  | nil => exact ⟨noDash, free⟩
  | cons line lines ih =>
    have first := isLine line (List.mem_cons_self ..)
    obtain ⟨noDash', free'⟩ := ih fun line member => isLine line (List.mem_cons_of_mem _ member)
    rw [List.flatMap_cons, List.append_assoc, List.append_assoc]
    refine ⟨?_, free_line first.unbroken.clean noDash' free'⟩
    obtain ⟨byte, bytes, rfl, different⟩ := first.starts
    simpa using different

/-- A part that is written is split off if its content does not delimit. -/
theorem split_part {lines : List (List UInt8)} {content tail : List UInt8} (valid : 13 ∉ boundary)
    (isLine : ∀ line ∈ lines, IsLine line) (free : ¬ delimiterOf boundary <:+: crlf ++ content) :
    splitAtFirst (delimiterOf boundary)
      (writeHeader lines content ++ (delimiterOf boundary ++ tail)) =
        some (writeHeader lines content, tail) := by
  apply split_delimiter valid
  exact (free_lines isLine (by simp [crlf]) free).2

theorem splitHeader_lines {lines lines' : List (List UInt8)} {rest content : List UInt8} {fuel : ℕ}
    (isLine : ∀ line ∈ lines, IsLine line)
    (split : splitHeader fuel (lines.flatMap (· ++ crlf) ++ rest) = some (lines', content)) :
    ∃ lines'', rest = writeHeader lines'' content := by
  induction lines generalizing fuel lines' with
  | nil => exact ⟨_, splitHeader_some split⟩
  | cons line lines ih =>
    have first := isLine line (List.mem_cons_self ..)
    cases fuel with
    | zero => rw [splitHeader] at split; contradiction
    | succ fuel =>
      rw [List.flatMap_cons, List.append_assoc, List.append_assoc,
        splitHeader_line fuel first.unbroken first.nonempty] at split
      obtain ⟨⟨others, content'⟩, inner, joined⟩ := Option.map_eq_some_iff.mp split
      cases joined
      exact ih (fun line member => isLine line (List.mem_cons_of_mem _ member)) inner

/-- What delimits within the content cuts it off. -/
theorem content_free {lines lines' : List (List UInt8)} {content tail part rest : List UInt8}
    {fuel : ℕ} (valid : 13 ∉ boundary) (isLine : ∀ line ∈ lines, IsLine line)
    (split : splitAtFirst (delimiterOf boundary)
      (writeHeader lines content ++ (delimiterOf boundary ++ tail)) = some (part, rest))
    (read : splitHeader fuel part = some (lines', content)) :
    ¬ delimiterOf boundary <:+: crlf ++ content := by
  intro occurs
  obtain ⟨front, rest', found⟩ := splitAtFirst_of_infix delimiterOf_ne_nil occurs
  obtain ⟨content_eq, free⟩ := splitAtFirst_some found
  have free := free delimiterOf_ne_nil
  have noDash : front.head? ≠ some 45 := by
    cases front with
    | nil => simp
    | cons first others =>
      rw [crlf, List.cons_append, List.cons_append] at content_eq
      rw [← (List.cons.inj content_eq).1]
      simp
  have cut := @split_delimiter _ _ (rest' ++ (delimiterOf boundary ++ tail)) valid
    (free_lines isLine noDash free).2
  have part_eq : part = lines.flatMap (· ++ crlf) ++ front := by
    rw [writeHeader, content_eq] at split
    simp only [List.append_assoc] at split cut
    rw [cut] at split
    cases split
    rfl
  rw [part_eq] at read
  obtain ⟨lines'', front_eq⟩ := splitHeader_lines isLine read
  have shorter := congrArg List.length content_eq
  rw [front_eq] at shorter
  simp only [List.length_append, writeHeader, delimiterOf_eq, List.length_cons] at shorter
  omega

/-- A text in quotes is read back only if it stands for itself. -/
theorem text_plain {before found : List (List UInt8 × List UInt8)}
    {key text content tail part rest content' : List UInt8} {more lines' : List (List UInt8)}
    {fuel : ℕ} (known : ∀ parameter ∈ before, IsKey parameter.1 ∧ Plain parameter.2)
    (isKey : IsKey key) (first : before.lookup key = none) (clean : 13 ∉ opening before key)
    (split : splitAtFirst (delimiterOf boundary)
      (writeHeader ((opening before key ++ (text ++ [34])) :: more) content ++
        (delimiterOf boundary ++ tail)) = some (part, rest))
    (read : splitHeader fuel part = some (lines', content'))
    (parsed : disposition lines' = some found) (named : found.lookup key = some text) :
    Plain text := by
  obtain ⟨whole, -⟩ := splitAtFirst_some split
  have part_eq := splitHeader_some read
  rw [writeHeader_cons] at whole
  simp only [List.append_assoc] at whole
  have inPart : opening before key <+: part := prefix_of_split clean whole.symm
  cases lines' with
  | nil => contradiction
  | cons line lines' =>
    rw [writeHeader_cons] at part_eq
    obtain ⟨after, part_eq'⟩ := inPart
    have inLine : opening before key <+: line := prefix_of_split clean (part_eq.symm.trans part_eq'.symm)
    obtain ⟨quoted, rfl⟩ := inLine
    obtain ⟨fuel', parameters_eq⟩ := disposition_opening known isKey quoted lines'
    rw [parameters_eq] at parsed
    obtain ⟨⟨value, others⟩, unquoted, parsed⟩ := Option.bind_eq_some_iff.mp parsed
    obtain ⟨others', -, rfl⟩ := Option.map_eq_some_iff.mp parsed
    have value_eq : value = text := by
      rw [List.lookup_append, first, Option.none_or, List.lookup_cons_self] at named
      exact Option.some.inj named
    have within : quoted <+: text ++ 34 :: 13 :: (10 :: (writeHeader more content ++
        (delimiterOf boundary ++ tail))) := by
      rw [part_eq] at whole
      simp only [List.append_assoc, List.append_cancel_left_eq] at whole
      exact ⟨_, whole.symm⟩
    obtain ⟨-, plain⟩ := quotedText_within unquoted within
    exact plain rfl (by rw [value_eq])

/-! ## Reading a form -/

/-- A part as it is written, what it is to be read as, and when it is. -/
structure Written (boundary text : List UInt8) (part : Part) (good : Prop) : Prop where
  splits : good → ∀ tail, splitAtFirst (delimiterOf boundary)
    (text ++ (delimiterOf boundary ++ tail)) = some (text, tail)
  reads : good → readPart text = some part
  only : ∀ tail text' rest, splitAtFirst (delimiterOf boundary)
    (text ++ (delimiterOf boundary ++ tail)) = some (text', rest) →
      readPart text' = some part → good

/-- A part whose first line ends with a text in quotes, which the part that is read determines. -/
theorem written_quoted {before : List (List UInt8 × List UInt8)} {key text content : List UInt8}
    {more : List (List UInt8)} {part : Part} (valid : 13 ∉ boundary)
    (known : ∀ parameter ∈ before, IsKey parameter.1 ∧ Plain parameter.2) (isKey : IsKey key)
    (first : before.lookup key = none) (isLine : IsLine (opening before key))
    (moreLines : ∀ line ∈ more, IsLine line)
    (named : partOf (before ++ [(key, text)]) content = some part)
    (determined : ∀ found content', partOf found content' = some part →
      found.lookup key = some text ∧ content' = content) :
    Written boundary (writeHeader ((opening before key ++ (text ++ [34])) :: more) content) part
      (Plain text ∧ ¬ delimiterOf boundary <:+: crlf ++ content) := by
  have lines : Plain text →
      ∀ line ∈ (opening before key ++ (text ++ [34])) :: more, IsLine line := by
    intro plain line member
    rcases List.mem_cons.mp member with rfl | member
    · constructor
      · exact isLine.unbroken.append (plain.unbroken.append (by decide))
      · obtain ⟨byte, bytes, opening_eq, different⟩ := isLine.starts
        exact ⟨byte, bytes ++ (text ++ [34]), by rw [opening_eq, List.cons_append], different⟩
    · exact moreLines line member
  constructor
  case splits =>
    rintro ⟨plain, free⟩ tail
    exact split_part valid (lines plain) free
  case reads =>
    rintro ⟨plain, free⟩
    have split := @splitHeader_writeHeader _ content
      (writeHeader ((opening before key ++ (text ++ [34])) :: more) content).length
      (length_lt_writeHeader ..) (fun line member => (lines plain line member).unbroken)
      (fun line member => (lines plain line member).nonempty)
    obtain ⟨fuel, parsed⟩ := disposition_opening known isKey (text ++ [34]) more
    rw [quotedText_plain plain] at parsed
    rw [readPart, split, Option.bind_eq_bind, Option.bind_some]
    dsimp only
    rw [parsed]
    exact named
  case only =>
    intro tail text' rest split read
    obtain ⟨⟨lines', content'⟩, header, read⟩ := Option.bind_eq_some_iff.mp read
    obtain ⟨found, parsed, read⟩ := Option.bind_eq_some_iff.mp read
    obtain ⟨lookup, rfl⟩ := determined found content' read
    have plain := text_plain known isKey first isLine.unbroken.clean split header parsed lookup
    exact ⟨plain, content_free valid (lines plain) split header⟩

/-- The parts of a form with their delimiters. -/
def writeForm (boundary : List UInt8) (texts : List (List UInt8)) : List UInt8 :=
  texts.flatMap (fun text => [45, 45] ++ boundary ++ crlf ++ text ++ crlf) ++
    ([45, 45] ++ boundary ++ [45, 45] ++ crlf)

/-- What stands after the first delimiter of a form. -/
def writeParts (boundary : List UInt8) : List (List UInt8) → List UInt8
  | [] => [45, 45] ++ crlf
  | text :: texts => crlf ++ (text ++ (delimiterOf boundary ++ writeParts boundary texts))

theorem writeForm_eq (texts : List (List UInt8)) : crlf ++ writeForm boundary texts =
    delimiterOf boundary ++ writeParts boundary texts := by
  induction texts with
  | nil => simp [writeForm, writeParts, delimiterOf]
  | cons text texts ih =>
    rw [writeParts, ← ih, writeForm, writeForm, List.flatMap_cons]
    simp only [delimiterOf, List.append_assoc]

theorem readParts_end (fuel : ℕ) :
    readParts (delimiterOf boundary) (fuel + 1) (writeParts boundary []) = some [] := rfl

theorem readParts_cons {text : List UInt8} {texts : List (List UInt8)} (fuel : ℕ) :
    readParts (delimiterOf boundary) (fuel + 1) (writeParts boundary (text :: texts)) = do
      let (text', rest) ← splitAtFirst (delimiterOf boundary)
        (text ++ (delimiterOf boundary ++ writeParts boundary texts))
      let first ← readPart text'
      let others ← readParts (delimiterOf boundary) fuel rest
      return first :: others := rfl

variable {ι : Type*} {text : ι → List UInt8} {part : ι → Part} {good : ι → Prop}

/-- The parts are read as what they are to be if and only if each of them is good. -/
theorem readParts_iff (written : ∀ item, Written boundary (text item) (part item) (good item))
    {items : List ι} {fuel : ℕ} (enough : items.length < fuel) :
    readParts (delimiterOf boundary) fuel (writeParts boundary (items.map text)) =
      some (items.map part) ↔ ∀ item ∈ items, good item := by
  induction items generalizing fuel with
  | nil =>
    obtain ⟨fuel, rfl⟩ := Nat.exists_eq_add_one_of_ne_zero (by simp at enough; omega : fuel ≠ 0)
    simp [readParts_end]
  | cons item items ih =>
    rw [List.length_cons] at enough
    obtain ⟨fuel, rfl⟩ := Nat.exists_eq_add_one_of_ne_zero (by omega : fuel ≠ 0)
    have others := @ih fuel (by omega)
    rw [List.map_cons, List.map_cons, readParts_cons, List.forall_mem_cons]
    constructor
    · intro parsed
      obtain ⟨⟨text', rest⟩, split, parsed⟩ := Option.bind_eq_some_iff.mp parsed
      obtain ⟨first, read, parsed⟩ := Option.bind_eq_some_iff.mp parsed
      obtain ⟨more, following, joined⟩ := Option.bind_eq_some_iff.mp parsed
      cases joined
      have fine : good item := (written item).only _ _ _ split read
      rw [(written item).splits fine] at split
      cases split
      exact ⟨fine, others.mp following⟩
    · rintro ⟨fine, rest⟩
      rw [(written item).splits fine]
      simp only [Option.bind_eq_bind, Option.bind_some, (written item).reads fine,
        others.mpr rest, Option.pure_def]

theorem length_le_writeForm (texts : List (List UInt8)) :
    texts.length < (writeForm boundary texts).length := by
  induction texts with
  | nil => simp [writeForm]
  | cons text texts ih =>
    rw [writeForm, List.length_append] at ih ⊢
    rw [List.flatMap_cons, List.length_append, List.length_cons]
    simp only [List.length_append, List.length_cons] at ih ⊢
    omega

theorem parse_writeForm (written : ∀ item, Written boundary (text item) (part item) (good item))
    (items : List ι) : parse boundary (writeForm boundary (items.map text)) =
      some (items.map part) ↔ ∀ item ∈ items, good item := by
  have enough := @length_le_writeForm boundary (items.map text)
  rw [List.length_map] at enough
  rw [parse, writeForm_eq, splitAtFirst_prefix delimiterOf_ne_nil, ← readParts_iff written enough]
  rfl

end Part

end Encoding.Multipart
