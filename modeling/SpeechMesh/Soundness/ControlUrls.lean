import SpeechMesh.Model.ControlUrls
import SpeechMesh.Text.Pieces

/-! # Deriving the address of the control endpoint

The client replaces the end of its URL as a text, while the gateway looks at the path. The result
reaches the control endpoint only from a URL without a query whose path is `/ws` or consists of
slashes; behind any other path the new ending is one more segment of it.
-/

namespace SpeechMesh.Soundness

open Model Model.CliCommands Model.CliConfig

/-! ## Taking URLs apart -/

theorem endsAuthority_of_endsPath {c : Char} (ends : endsPath c = true) :
    endsAuthority c = true := by
  simp only [endsPath, endsAuthority, Bool.or_eq_true] at ends ⊢
  exact ends.elim (fun question => .inl (.inr question)) .inr

theorem takeWhile_dropWhile_of_head {p : Char → Bool} {front rest : List Char}
    (all : ∀ c ∈ front, p c = true) (head : rest = [] ∨ ∃ c tail, rest = c :: tail ∧ p c = false) :
    (front ++ rest).takeWhile p = front ∧ (front ++ rest).dropWhile p = rest := by
  rw [List.takeWhile_append_of_pos all, List.dropWhile_append_of_pos all]
  rcases head with rfl | ⟨c, tail, rfl, stops⟩
  · exact ⟨List.append_nil front, rfl⟩
  · rw [List.takeWhile_cons_of_neg (by simp [stops]), List.dropWhile_cons_of_neg (by simp [stops])]
    exact ⟨List.append_nil front, rfl⟩

/-- What follows the longest start of a kind begins with something else. -/
theorem dropWhile_head (p : Char → Bool) (text : List Char) :
    text.dropWhile p = [] ∨ ∃ c tail, text.dropWhile p = c :: tail ∧ p c = false := by
  have head := List.head?_dropWhile_not p text
  cases rest : text.dropWhile p with
  | nil => exact .inl rfl
  | cons c tail =>
    rw [rest] at head
    exact .inr ⟨c, tail, rfl, by simpa using head⟩

theorem parseAuthority_some {scheme : Scheme} {text : List Char} {url : WebSocketUrl}
    (parsed : parseAuthority scheme text = some url) :
    WellDivided url ∧ scheme.text ++ text = url.text := by
  rw [parseAuthority] at parsed
  split_ifs at parsed with empty
  obtain rfl := Option.some.inj parsed
  constructor
  · constructor
    case named => exact empty
    case authority =>
      intro c member
      simpa using List.mem_takeWhile_imp member
    case rooted =>
      rcases dropWhile_head (fun c => !endsAuthority c) text with none | ⟨c, tail, rest, ends⟩
      · dsimp only
        rw [none]
        exact .inl rfl
      · dsimp only
        rw [rest, List.takeWhile_cons]
        split_ifs with inside
        · have slash : c = '/' := by
            simp only [endsAuthority, Bool.not_eq_false', Bool.or_eq_true, beq_iff_eq] at ends
            simp only [endsPath, Bool.not_eq_true', Bool.or_eq_false_iff, beq_eq_false_iff_ne]
              at inside
            rcases ends with (slash | question) | number
            · exact slash
            · exact absurd question inside.1
            · exact absurd number inside.2
          exact .inr ⟨_, by rw [slash]⟩
        · exact .inl rfl
    case path =>
      intro c member
      simpa using List.mem_takeWhile_imp member
    case marked =>
      rcases dropWhile_head (fun c => !endsPath c) (text.dropWhile fun c => !endsAuthority c) with
        none | ⟨c, tail, rest, ends⟩
      · exact .inl none
      · exact .inr ⟨c, tail, rest, by simpa using ends⟩
  · rw [WebSocketUrl.text, List.takeWhile_append_dropWhile, List.takeWhile_append_dropWhile]

theorem parseAuthority_of_wellDivided {url : WebSocketUrl} (divided : WellDivided url) :
    parseAuthority url.scheme (url.authority ++ (url.path ++ url.query)) = some url := by
  obtain ⟨named, authority, rooted, path, marked⟩ := divided
  have marks : url.query = [] ∨ ∃ c tail, url.query = c :: tail ∧ (!endsPath c) = false := by
    rcases marked with none | ⟨mark, rest, same, ends⟩
    · exact .inl none
    · exact .inr ⟨mark, rest, same, by simp [ends]⟩
  have roots : url.path ++ url.query = [] ∨
      ∃ c tail, url.path ++ url.query = c :: tail ∧ (!endsAuthority c) = false := by
    rcases rooted with none | ⟨rest, same⟩
    · rcases marked with noQuery | ⟨mark, query, sameQuery, ends⟩
      · exact .inl (by rw [none, noQuery]; rfl)
      · refine .inr ⟨mark, query, by rw [none, sameQuery]; rfl, ?_⟩
        rw [endsAuthority_of_endsPath ends]
        rfl
    · exact .inr ⟨'/', rest ++ url.query, by rw [same]; rfl, rfl⟩
  obtain ⟨front, behind⟩ := takeWhile_dropWhile_of_head (p := fun c => !endsAuthority c)
    (fun c member => by simp [authority c member]) roots
  obtain ⟨inner, outer⟩ := takeWhile_dropWhile_of_head (p := fun c => !endsPath c)
    (fun c member => by simp [path c member]) marks
  rw [parseAuthority, front, behind, inner, outer]
  exact if_neg named

/-- Another path may stand in the place of the one that is there. -/
theorem moved_wellDivided {url : WebSocketUrl} (divided : WellDivided url) {path : List Char}
    (rooted : path = [] ∨ ∃ rest, path = '/' :: rest) (inside : ∀ c ∈ path, endsPath c = false) :
    WellDivided { url with path := path } where
  named := divided.named
  authority := divided.authority
  rooted := rooted
  path := inside
  marked := divided.marked

theorem parseUrl_some {text : String} {url : WebSocketUrl} (parsed : parseUrl text = some url) :
    WellDivided url ∧ text.toList = url.text := by
  rw [parseUrl] at parsed
  split at parsed
  case h_1 rest same =>
    obtain ⟨divided, whole⟩ := parseAuthority_some parsed
    exact ⟨divided, same.trans whole⟩
  case h_2 rest same =>
    obtain ⟨divided, whole⟩ := parseAuthority_some parsed
    exact ⟨divided, same.trans whole⟩
  case h_3 => cases parsed

theorem parseUrl_of_wellDivided {text : String} {url : WebSocketUrl} (divided : WellDivided url)
    (same : text.toList = url.text) : parseUrl text = some url := by
  have parsed := parseAuthority_of_wellDivided divided
  rw [WebSocketUrl.text] at same
  rw [parseUrl, same]
  cases scheme : url.scheme with
  | ws =>
    rw [scheme] at parsed
    exact parsed
  | wss =>
    rw [scheme] at parsed
    exact parsed

/-- A parser that accepts a text finds the parts between its marks. -/
theorem parseUrl_of_lawful {uri : UriParser} (lawful : uri.Lawful) {text : String}
    {url : WebSocketUrl} (parsed : uri.parse text = some url) : parseUrl text = some url := by
  obtain ⟨divided, same⟩ := lawful.divided parsed
  exact parseUrl_of_wellDivided divided same

/-! ## Replacing the end of a text -/

theorem deriveControlUrl_of_suffix {text : String} {front : List Char}
    (same : text.toList = front ++ "/ws".toList) :
    (deriveControlUrl text).toList = front ++ "/control".toList := by
  have kept : stripSuffix text "/ws" = some (String.ofList front) := by
    rw [stripSuffix, same, if_pos (List.suffix_append front _), List.length_append,
      Nat.add_sub_cancel, List.take_left]
  rw [deriveControlUrl, kept, String.toList_append, String.toList_ofList]

theorem deriveControlUrl_of_not_suffix {text : String}
    (other : ¬ "/ws".toList <:+ text.toList) :
    (deriveControlUrl text).toList =
      text.toList.rdropWhile (· == '/') ++ "/control".toList := by
  have none : stripSuffix text "/ws" = none := if_neg other
  rw [deriveControlUrl, none, String.toList_append, trimEndMatches, String.toList_ofList]
  rfl

/-- An ending that does not have the mark stands behind it. -/
theorem suffix_of_marked {ending front rest : List Char} {mark : Char} (unmarked : mark ∉ ending)
    (suffix : ending <:+ front ++ mark :: rest) : ending <:+ rest := by
  rcases List.suffix_or_suffix_of_suffix suffix (List.suffix_append front (mark :: rest)) with
    inside | around
  · rcases List.suffix_cons_iff.mp inside with whole | behind
    · exact absurd (whole ▸ List.mem_cons_self) unmarked
    · exact behind
  · exact absurd (around.subset List.mem_cons_self) unmarked

/-- A URL with a query gets another query. -/
theorem deriveControlUrl_of_query {text : String} {url : WebSocketUrl} (divided : WellDivided url)
    (same : text.toList = url.text) (query : url.query ≠ []) :
    ∃ other, parseUrl (deriveControlUrl text) = some { url with query := other } := by
  obtain ⟨mark, rest, marked, ends⟩ := divided.marked.resolve_left query
  have whole : text.toList = (url.scheme.text ++ (url.authority ++ url.path)) ++ mark :: rest := by
    rw [same, WebSocketUrl.text, marked]
    simp only [List.append_assoc]
  have unmarked : mark ∉ "/ws".toList := by
    intro member
    have one : ∀ c ∈ "/ws".toList, endsPath c = false := by simp [endsPath]
    rw [one mark member] at ends
    cases ends
  have again (other : List Char)
      (derived : (deriveControlUrl text).toList =
        (url.scheme.text ++ (url.authority ++ url.path)) ++ mark :: other) :
      parseUrl (deriveControlUrl text) = some { url with query := mark :: other } := by
    apply parseUrl_of_wellDivided
    · exact { divided with marked := .inr ⟨mark, other, rfl, ends⟩ }
    · rw [derived, WebSocketUrl.text]
      simp only [List.append_assoc]
  by_cases suffix : "/ws".toList <:+ text.toList
  case pos =>
    rw [whole] at suffix
    obtain ⟨front, rfl⟩ := suffix_of_marked unmarked suffix
    refine ⟨_, again (front ++ "/control".toList) ?_⟩
    rw [← List.cons_append, ← List.append_assoc] at whole
    rw [deriveControlUrl_of_suffix whole]
    simp only [List.append_assoc, List.cons_append]
  case neg =>
    refine ⟨_, again (rest.rdropWhile (· == '/') ++ "/control".toList) ?_⟩
    have noSlash : (mark == '/') = false := by
      rw [Bool.eq_false_iff]
      intro slash
      rw [beq_iff_eq.mp slash] at ends
      cases ends
    have solid : Text.Solid (· == '/') [mark] :=
      ⟨⟨mark, [], rfl, noSlash⟩, ⟨[], mark, rfl, noSlash⟩⟩
    have trimmed := Text.rdropWhile_append_solid solid
      (url.scheme.text ++ (url.authority ++ url.path)) rest
    rw [deriveControlUrl_of_not_suffix suffix, whole]
    rw [List.singleton_append, List.singleton_append] at trimmed
    rw [trimmed, List.append_assoc, List.cons_append]

theorem solid_authority {url : WebSocketUrl} (divided : WellDivided url) :
    Text.Solid (· == '/') url.authority := by
  have noSlash {c : Char} (member : c ∈ url.authority) : (c == '/') = false := by
    have inside := divided.authority c member
    simp only [endsAuthority, Bool.or_eq_false_iff] at inside
    exact inside.1.1
  obtain ⟨c, rest, first⟩ := List.exists_cons_of_ne_nil divided.named
  constructor
  case first => exact ⟨c, rest, first, noSlash (first ▸ List.mem_cons_self)⟩
  case last =>
    exact ⟨_, _, (List.dropLast_concat_getLast divided.named).symm,
      noSlash (List.getLast_mem divided.named)⟩

/-- The host `ws` without a path looks like the path `/ws` of no host. -/
def LooksLikePath (url : WebSocketUrl) : Prop := url.path = [] ∧ url.authority = "ws".toList

/-- Unless the host is taken for a path, an ending `/ws` is one of the path. -/
theorem suffix_path {url : WebSocketUrl} (divided : WellDivided url) (noQuery : url.query = [])
    (path : ¬ LooksLikePath url) (suffix : "/ws".toList <:+ url.text) :
    "/ws".toList <:+ url.path := by
  have letters : "/ws".toList = ['/', 'w', 's'] := by decide
  rw [WebSocketUrl.text, noQuery, List.append_nil] at suffix
  rcases divided.rooted with none | ⟨rest, rooted⟩
  · rw [none, List.append_nil] at suffix
    have inside := List.suffix_or_suffix_of_suffix suffix (List.suffix_append _ url.authority)
    rcases inside with within | around
    · have slash := divided.authority '/' (within.subset (by decide))
      cases slash
    · rw [letters] at around
      rcases List.suffix_cons_iff.mp around with whole | shorter
      · have slash := divided.authority '/' (whole ▸ List.mem_cons_self)
        cases slash
      rcases List.suffix_cons_iff.mp shorter with host | shorter
      · exact absurd ⟨none, host.trans (by decide)⟩ path
      rcases List.suffix_cons_iff.mp shorter with single | shorter
      · rw [single] at suffix
        have other (scheme : Scheme) : ¬ "/ws".toList <:+ scheme.text ++ ['s'] := by
          cases scheme with
          | ws => decide
          | wss => decide
        exact absurd suffix (other url.scheme)
      · exact absurd (List.suffix_nil.mp shorter) divided.named
  · rw [← List.append_assoc] at suffix
    rcases List.suffix_or_suffix_of_suffix suffix (List.suffix_append _ url.path) with
      inside | around
    · exact inside
    · rw [letters] at around ⊢
      rcases List.suffix_cons_iff.mp around with whole | shorter
      · exact whole ▸ List.suffix_rfl
      · have slash : '/' ∈ ['w', 's'] := shorter.subset (rooted ▸ List.mem_cons_self)
        exact absurd slash (by decide)

/-- A URL without a query gets a path that starts as its own and ends in `/control`. -/
theorem deriveControlUrl_of_path {text : String} {url : WebSocketUrl} (divided : WellDivided url)
    (same : text.toList = url.text) (noQuery : url.query = []) (path : ¬ LooksLikePath url) :
    ∃ front, parseUrl (deriveControlUrl text) =
        some { url with path := front ++ "/control".toList } ∧
      (front = [] ↔ url.path = "/ws".toList ∨ ∀ c ∈ url.path, c = '/') := by
  have again {front : List Char} (start : front <+: url.path)
      (derived : (deriveControlUrl text).toList =
        url.scheme.text ++ (url.authority ++ (front ++ "/control".toList))) :
      parseUrl (deriveControlUrl text) = some { url with path := front ++ "/control".toList } := by
    apply parseUrl_of_wellDivided
    · apply moved_wellDivided divided
      · cases front with
        | nil => exact .inr ⟨_, rfl⟩
        | cons c rest =>
          obtain ⟨more, whole⟩ := start
          rcases divided.rooted with none | ⟨tail, rooted⟩
          · rw [none] at whole
            cases whole
          · rw [rooted] at whole
            obtain rfl : c = '/' := (List.cons.inj whole).1
            exact .inr ⟨_, rfl⟩
      · intro c member
        rcases List.mem_append.mp member with before | new
        · exact divided.path c (start.subset before)
        · have all : ∀ d ∈ "/control".toList, endsPath d = false := by simp [endsPath]
          exact all c new
    · rw [derived, WebSocketUrl.text, noQuery, List.append_nil]
  have whole : text.toList = url.scheme.text ++ (url.authority ++ url.path) := by
    rw [same, WebSocketUrl.text, noQuery, List.append_nil]
  by_cases suffix : "/ws".toList <:+ url.text
  case pos =>
    obtain ⟨front, ending⟩ := suffix_path divided noQuery path suffix
    refine ⟨front, again ⟨_, ending⟩ ?_, ?_⟩
    · rw [← ending, ← List.append_assoc, ← List.append_assoc] at whole
      rw [deriveControlUrl_of_suffix whole]
      simp only [List.append_assoc]
    · rw [← ending]
      constructor
      · rintro rfl
        exact .inl rfl
      · rintro (only | slashes)
        · have length := congrArg List.length only
          rw [List.length_append] at length
          exact List.length_eq_zero_iff.mp (by omega)
        · have letter := slashes 's' (List.mem_append_right front (by decide))
          cases letter
  case neg =>
    have trimmed := Text.rdropWhile_append_solid (solid_authority divided) url.scheme.text url.path
    refine ⟨url.path.rdropWhile (· == '/'), again (List.rdropWhile_prefix ..) ?_, ?_⟩
    · rw [deriveControlUrl_of_not_suffix (same ▸ suffix), whole, trimmed]
      simp only [List.append_assoc]
    · rw [List.rdropWhile_eq_nil_iff]
      simp only [beq_iff_eq]
      constructor
      · exact .inr
      · rintro (only | slashes)
        · refine absurd ?_ suffix
          rw [← same, whole, only, ← List.append_assoc]
          exact List.suffix_append ..
        · exact slashes

/-- Such a host is replaced. -/
theorem derived_of_looksLikePath {text : String} {url : WebSocketUrl}
    (same : text.toList = url.text) (noQuery : url.query = []) (looks : LooksLikePath url) :
    parseUrl (deriveControlUrl text) = some ⟨url.scheme, "control".toList, [], []⟩ := by
  rw [WebSocketUrl.text, noQuery, looks.1, looks.2] at same
  cases scheme : url.scheme with
  | ws =>
    rw [scheme] at same
    obtain rfl : text = "ws://ws" := String.toList_inj.mp (same.trans (by decide))
    decide
  | wss =>
    rw [scheme] at same
    obtain rfl : text = "wss://ws" := String.toList_inj.mp (same.trans (by decide))
    decide

/-! ## Reaching the control endpoint -/

theorem endpointOf_eq_control_iff (path : List Char) :
    endpointOf path = .control ↔ path = "/control".toList := by
  rw [endpointOf]
  constructor
  · intro control
    split_ifs at control with agent found
    rw [normalizePath] at found
    split_ifs at found with root
    · exact absurd found (by decide)
    · exact found
  · rintro rfl
    decide

theorem endpoint_eq_control_iff {uri : UriParser} (lawful : uri.Lawful) (url : WebSocketUrl) :
    uri.endpoint url = .control ↔ url.path = "/control".toList := by
  rw [UriParser.endpoint, endpointOf_eq_control_iff, lawful.path]
  split_ifs with none
  · rw [none]
    exact iff_of_false (by decide) (by decide)
  · exact Iff.rfl

/-- From a URL at which the gateway serves client sessions, the control endpoint of the same gateway
is derived. -/
def ReachesControl (uri : UriParser) (wsUrl : String) : Prop :=
  ∀ url, uri.parse wsUrl = some url → uri.endpoint url = .client →
    ∃ control, uri.parse (deriveControlUrl wsUrl) = some control ∧
      control.authority = url.authority ∧ uri.endpoint control = .control

/-- There is no query, and the path is `/ws` or consists of slashes, with a host that does not look
like the path. -/
def PlainPath (url : WebSocketUrl) : Prop :=
  url.query = [] ∧ (url.path = "/ws".toList ∨ ∀ c ∈ url.path, c = '/') ∧ ¬ LooksLikePath url

/-- From a URL that is served, the control endpoint is derived exactly if its path is plain. -/
theorem derived_control_iff {uri : UriParser} (lawful : uri.Lawful) {wsUrl : String}
    {url : WebSocketUrl} (parsed : uri.parse wsUrl = some url) (client : uri.endpoint url = .client) :
    (∃ control, uri.parse (deriveControlUrl wsUrl) = some control ∧
      control.authority = url.authority ∧ uri.endpoint control = .control) ↔ PlainPath url := by
  obtain ⟨divided, same⟩ := lawful.divided parsed
  by_cases query : url.query = []
  case neg =>
    obtain ⟨other, derived⟩ := deriveControlUrl_of_query divided same query
    refine iff_of_false ?_ fun plain => query plain.1
    rintro ⟨control, found, _, reached⟩
    obtain rfl := Option.some.inj (derived.symm.trans (parseUrl_of_lawful lawful found))
    -- its path is the one that is served to clients
    have stays := (endpoint_eq_control_iff lawful { url with query := other }).mp reached
    rw [(endpoint_eq_control_iff lawful url).mpr stays] at client
    cases client
  by_cases looks : LooksLikePath url
  case pos =>
    refine iff_of_false ?_ fun plain => plain.2.2 looks
    rintro ⟨control, found, sameAuthority, _⟩
    have derived := derived_of_looksLikePath same query looks
    obtain rfl := Option.some.inj (derived.symm.trans (parseUrl_of_lawful lawful found))
    rw [looks.2] at sameAuthority
    have other : "control".toList ≠ "ws".toList := by decide
    exact other sameAuthority
  case neg =>
    obtain ⟨front, derived, empty⟩ := deriveControlUrl_of_path divided same query looks
    rw [PlainPath, ← empty]
    constructor
    · rintro ⟨control, found, _, reached⟩
      obtain rfl := Option.some.inj (derived.symm.trans (parseUrl_of_lawful lawful found))
      have ending := (endpoint_eq_control_iff lawful _).mp reached
      refine ⟨query, ?_, looks⟩
      have length := congrArg List.length ending
      rw [List.length_append] at length
      exact List.length_eq_zero_iff.mp (by omega)
    · rintro ⟨_, rfl, _⟩
      have written := (parseUrl_some derived).2
      have found : uri.parse (String.ofList { url with path := "/control".toList }.text) =
          some { url with path := "/control".toList } := lawful.moved parsed (by simp) rfl
      refine ⟨{ url with path := "/control".toList }, ?_, rfl,
        (endpoint_eq_control_iff lawful _).mpr rfl⟩
      rw [← found, ← String.ofList_toList (s := deriveControlUrl wsUrl), written]
      rfl

/-- The derived URL reaches the control endpoint exactly from such URLs. -/
theorem reachesControl_iff {uri : UriParser} (lawful : uri.Lawful) (wsUrl : String) :
    ReachesControl uri wsUrl ↔
      ∀ url, uri.parse wsUrl = some url → uri.endpoint url = .client → PlainPath url := by
  constructor
  · intro reaches url parsed client
    exact (derived_control_iff lawful parsed client).mp (reaches url parsed client)
  · intro plain url parsed client
    exact (derived_control_iff lawful parsed client).mpr (plain url parsed client)

theorem anyCharacter_lawful : anyCharacter.Lawful where
  divided := parseUrl_some
  moved := by
    intro text url path parsed letters rooted
    apply parseUrl_of_wellDivided
    · apply moved_wellDivided (parseUrl_some parsed).1
      · exact .inr ⟨path.tail, (List.cons_head?_tail rooted).symm⟩
      · intro c member
        rw [endsPath, Bool.or_eq_false_iff, beq_eq_false_iff_ne, beq_eq_false_iff_ne]
        constructor
        · rintro rfl
          exact absurd (letters _ member) (by decide)
        · rintro rfl
          exact absurd (letters _ member) (by decide)
    · exact String.toList_ofList
  path _ := rfl

theorem localGateway_reached : ReachesControl anyCharacter "ws://127.0.0.1:8765/ws" := by
  refine (reachesControl_iff anyCharacter_lawful "ws://127.0.0.1:8765/ws").mpr ?_
  intro url parsed _
  have read : anyCharacter.parse "ws://127.0.0.1:8765/ws" =
      some ⟨.ws, "127.0.0.1:8765".toList, "/ws".toList, []⟩ := by decide
  obtain rfl := Option.some.inj (read.symm.trans parsed)
  exact ⟨rfl, .inl rfl, fun looks => absurd looks.1 (by decide)⟩

theorem trailingSlash_misses : ¬ ReachesControl anyCharacter "ws://127.0.0.1:8765/ws/" := by
  intro reaches
  obtain ⟨control, parsed, _, endpoint⟩ := reaches
    ⟨.ws, "127.0.0.1:8765".toList, "/ws/".toList, []⟩ (by decide) (by decide)
  have derived : anyCharacter.parse (deriveControlUrl "ws://127.0.0.1:8765/ws/") =
      some ⟨.ws, "127.0.0.1:8765".toList, "/ws/control".toList, []⟩ := by decide
  obtain rfl := Option.some.inj (derived.symm.trans parsed)
  revert endpoint
  decide

end SpeechMesh.Soundness
