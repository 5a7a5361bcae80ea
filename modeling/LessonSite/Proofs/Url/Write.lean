import LessonSite.Proofs.Url.Host
import LessonSite.Proofs.Url.Path

/-!
# Addresses there and back

The text of an address with a host is read as this address, if its path is
written as paths are.  So addresses that differ in their paths only are told
apart by them.
-/

namespace LessonSite.Url

/-- An address that other addresses can be resolved against in the way of the
web. -/
structure IsWeb (url : Url) : Prop where
  scheme : url.scheme = "http" ∨ url.scheme = "https"
  rooted : url.isOpaque = false

/-- The address of something on the web, its user, host and port being written
in the way in which they are read. -/
structure IsHosted (url : Url) : Prop extends IsWeb url where
  username : EscapeSet.userInfo.IsKept url.username.toList
  password : EscapeSet.userInfo.IsKept url.password.toList
  host : ∃ host : Host, url.host = some host ∧ host.ReadsBack
  port :
    ∀ port,
      url.port = some port → port ≤ 65535 ∧ usualPort? url.scheme ≠ some port

/-- The address of something on a site that is reached without a user name. -/
structure IsHttp (url : Url) : Prop where
  scheme : url.scheme = "http" ∨ url.scheme = "https"
  username : url.username = ""
  password : url.password = ""
  host : ∃ host : Host, url.host = some host ∧ host.ReadsBack
  port :
    ∀ port,
      url.port = some port → port ≤ 65535 ∧ usualPort? url.scheme ≠ some port
  rooted : url.isOpaque = false

/-- The address with a given path on the same site. -/
def onSite (url : Url) (segments : List String) : Url :=
  { url with path := .rooted segments, query := none, fragment := none }

/-- The segment is written as it stands in an address, and means nothing
else. -/
structure IsWritten (segment : String) : Prop where
  kept : EscapeSet.path.IsKept segment.toList
  noSlash : '/' ∉ segment.toList
  noBackslash : '\\' ∉ segment.toList
  moves : isHere segment = false
  down : isAbove segment = false

theorem IsWeb.isSpecial {url : Url} (isWeb : url.IsWeb) :
    isSpecial url.scheme = true := by
  rcases isWeb.scheme with same | same <;> rw [same] <;> decide

theorem IsWeb.not_file {url : Url} (isWeb : url.IsWeb) :
    url.scheme ≠ "file" := by
  rcases isWeb.scheme with same | same <;> rw [same] <;> decide

theorem IsHosted.onSite {url : Url} (isHosted : url.IsHosted)
    (segments : List String) :
    (url.onSite segments).IsHosted :=
  ⟨⟨isHosted.scheme, rfl⟩, isHosted.username, isHosted.password, isHosted.host,
    isHosted.port⟩

theorem IsHttp.isWeb {url : Url} (isHttp : url.IsHttp) : url.IsWeb :=
  ⟨isHttp.scheme, isHttp.rooted⟩

theorem IsHttp.isHosted {url : Url} (isHttp : url.IsHttp) : url.IsHosted := by
  refine ⟨isHttp.isWeb, ?_, ?_, isHttp.host, isHttp.port⟩
  · rw [isHttp.username]
    exact List.forall_mem_nil _
  · rw [isHttp.password]
    exact List.forall_mem_nil _

theorem write_rooted {segments : List String} (some_ : segments ≠ []) :
    (Path.rooted segments).write = "/" ++ joinNames segments := by
  induction segments with
  | nil => exact absurd rfl some_
  | cons segment segments induction =>
      cases segments with
      | nil =>
          simp only [Path.write, List.map_cons, List.map_nil, String.join_cons,
            String.join_nil, String.append_empty, joinNames]
      | cons next segments =>
          have later := induction (by simp)
          simp only [Path.write, List.map_cons, String.join_cons] at later ⊢
          rw [later, joinNames]
          simp only [String.append_assoc]

theorem pathSegment_of_isWritten {segment : String}
    (written : IsWritten segment) :
    pathSegment segment = segment := by
  rw [pathSegment, escape_of_isKept written.kept, String.ofList_toList]

theorem IsWritten.not_endsPath {segment : String} (written : IsWritten segment)
    {character : Char}
    (member : character ∈ segment.toList) : endsPath character = false := by
  have kept := (written.kept character member).2
  simp only [EscapeSet.path, Bool.or_eq_false_iff, List.contains_eq_mem,
    List.mem_cons, List.not_mem_nil, or_false, decide_eq_false_iff_not,
    not_or] at kept
  simp only [endsPath, Bool.or_eq_false_iff, beq_eq_false_iff_ne]
  exact ⟨kept.2.2.1, kept.2.1⟩

theorem IsWritten.shown {segment : String} (written : IsWritten segment)
    {character : Char}
    (member : character ∈ segment.toList) : 0x20 < character.toNat := by
  have kept := (written.kept character member).2
  simp only [EscapeSet.path, EscapeSet.fragment, EscapeSet.control,
    Bool.or_eq_false_iff, List.contains_eq_mem, List.mem_cons, List.not_mem_nil,
    or_false, decide_eq_false_iff_not, not_or] at kept
  have noBlank : character.toNat ≠ 0x20 := by
    intro blank
    exact kept.1.2.1 (Char.toNat_inj.mp blank)
  omega

/-- A path of written segments is read as these segments. -/
theorem walk_splitPath_of_isWritten {file : Bool}
    {directories segments : List String}
    (below : file = false ∨ directories ≠ []) (some_ : segments ≠ [])
    (written : ∀ segment ∈ segments, IsWritten segment) (special : Bool) :
    walk file directories (splitPath special (joinNames segments).toList) =
      directories ++ segments := by
  have same : segments.map pathSegment = segments := by
    refine (List.map_congr_left ?_).trans (List.map_id _)
    intro segment member
    exact pathSegment_of_isWritten (written segment member)
  rw [splitPath_joinNames some_
    (fun segment member => (written segment member).noSlash)
    (fun segment member => (written segment member).noBackslash), same,
    ← List.dropLast_concat_getLast some_, walk_append below ?_ (by simp),
    walk_last ?_ ?_ ?_, List.append_assoc]
  · exact below.imp id fun inner => by simp [inner]
  · exact (written _ (List.getLast_mem some_)).moves
  · exact (written _ (List.getLast_mem some_)).down
  · intro segment member
    have inside := written segment (List.dropLast_subset _ member)
    exact ⟨inside.moves, inside.down⟩

theorem joinNames_not_endsPath {segments : List String}
    (written : ∀ segment ∈ segments, IsWritten segment) :
    ∀ character ∈ (joinNames segments).toList, endsPath character = false := by
  intro character member
  rcases mem_joinNames member with rfl | ⟨segment, isSegment, inside⟩
  · decide
  · exact (written segment isSegment).not_endsPath inside

/-- The host and the port of an address as they are written. -/
def hostPort (url : Url) : List Char :=
  ((url.host.map Host.write).getD "").toList ++
    match url.port with
    | none => []
    | some port => ':' :: (toString port).toList

/-- The user, the host and the port of an address as they are written. -/
def userHostPort (url : Url) : List Char :=
  url.userInfoText.toList ++ url.hostPort

private theorem isHostCharacter_hostPort {url : Url} (isHosted : url.IsHosted) :
    ∀ character ∈ url.hostPort, isHostCharacter character = true := by
  obtain ⟨host, isHost, back⟩ := isHosted.host
  intro character member
  rw [hostPort, isHost] at member
  rcases List.mem_append.mp member with first | later
  · exact isHostCharacter_of_mem back.isHostText character first
  · split at later
    · cases later
    · rcases List.mem_cons.mp later with rfl | digit
      · decide
      · exact (isHostCharacter_toString digit).1

private theorem shown_of_isKept {text : List Char}
    (kept : EscapeSet.userInfo.IsKept text)
    {character : Char} (member : character ∈ text) :
    0x20 < character.toNat ∧ endsAuthority true character = false ∧
      character ≠ ':' := by
  have spared := (kept character member).2
  simp only [EscapeSet.userInfo, EscapeSet.path, EscapeSet.fragment,
    EscapeSet.control, Bool.or_eq_false_iff, List.contains_eq_mem,
    List.mem_cons, List.not_mem_nil, or_false, decide_eq_false_iff_not,
    not_or] at spared
  obtain ⟨⟨⟨⟨visible, -⟩, blank, -⟩, hash, question, -⟩, slash, colon, -, -, -,
    -, backslash, -⟩ := spared
  have noBlank : character.toNat ≠ 0x20 := fun same =>
    blank (Char.toNat_inj.mp same)
  refine ⟨by omega, ?_, colon⟩
  simp only [endsAuthority, isSlash, Bool.true_and, Bool.or_eq_false_iff,
    beq_eq_false_iff_ne]
  exact ⟨⟨⟨slash, backslash⟩, question⟩, hash⟩

private theorem shown_userInfoText {url : Url} (isHosted : url.IsHosted)
    {character : Char} (member : character ∈ url.userInfoText.toList) :
    0x20 < character.toNat ∧ endsAuthority true character = false := by
  unfold userInfoText at member
  split at member
  · cases member
  · simp only [String.toList_append, List.mem_append] at member
    rcases member with (name | password) | mark
    · exact (shown_of_isKept isHosted.username name).imp_right And.left
    · split at password
      · cases password
      · rw [String.toList_append] at password
        rcases List.mem_cons.mp password with rfl | inside
        · decide
        · exact (shown_of_isKept isHosted.password inside).imp_right And.left
    · cases List.mem_singleton.mp mark
      decide

private theorem shown_userHostPort {url : Url} (isHosted : url.IsHosted)
    {character : Char} (member : character ∈ url.userHostPort) :
    0x20 < character.toNat ∧ endsAuthority true character = false := by
  rcases List.mem_append.mp member with info | host
  · exact shown_userInfoText isHosted info
  · have isHost := isHostCharacter_hostPort isHosted character host
    simp only [isHostCharacter, Bool.and_eq_true, decide_eq_true_eq,
      Bool.not_eq_true'] at isHost
    exact isHost.1

private theorem hostPort_ne_nil {url : Url} (isHosted : url.IsHosted) :
    url.hostPort ≠ [] := by
  obtain ⟨host, isHost, back⟩ := isHosted.host
  rw [hostPort, isHost]
  intro empty
  exact back.ne_nil (List.append_eq_nil_iff.mp empty).1

theorem toList_write_onSite {url : Url} (isHosted : url.IsHosted)
    {segments : List String} (some_ : segments ≠ []) :
    (url.onSite segments).write.toList =
      url.scheme.toList ++ ':' :: '/' :: '/' ::
        (url.userHostPort ++ '/' :: (joinNames segments).toList) := by
  obtain ⟨host, isHost, -⟩ := isHosted.host
  have path : (url.onSite segments).pathText = "/" ++ joinNames segments :=
    write_rooted some_
  have info : (url.onSite segments).userInfoText = url.userInfoText := rfl
  have authority :
      (url.onSite segments).authorityText.toList =
        '/' :: '/' :: url.userHostPort := by
    have known : (url.onSite segments).host = some host := isHost
    unfold authorityText userHostPort hostPort
    rw [known, info, isHost]
    cases port : url.port with
    | none =>
        have none_ : (url.onSite segments).port = none := port
        simp only [none_, String.toList_append, String.append_empty,
          List.append_nil, List.append_assoc]
        rfl
    | some number =>
        have some_ : (url.onSite segments).port = some number := port
        simp only [some_, String.toList_append, List.append_assoc]
        rfl
  have query : optionalPart "?" (url.onSite segments).query = "" := rfl
  have fragment : optionalPart "#" (url.onSite segments).fragment = "" := rfl
  have scheme : (url.onSite segments).scheme = url.scheme := rfl
  rw [write, query, fragment, path, scheme]
  simp only [String.toList_append, String.append_empty, authority,
    List.append_assoc]
  rfl

theorem takeWhile_of_all {keeps : Char → Bool} {characters : List Char}
    (all : ∀ character ∈ characters, keeps character = true) :
    characters.takeWhile keeps = characters := by
  have whole := @List.takeWhile_append_of_pos Char keeps characters [] all
  rwa [List.append_nil, List.takeWhile_nil, List.append_nil] at whole

theorem dropWhile_of_all {keeps : Char → Bool} {characters : List Char}
    (all : ∀ character ∈ characters, keeps character = true) :
    characters.dropWhile keeps = [] := by
  have whole := @List.dropWhile_append_of_pos Char keeps characters [] all
  rwa [List.append_nil, List.dropWhile_nil] at whole

theorem trimChars_eq {inClass : Char → Bool} {characters : List Char}
    (first : ∀ character ∈ characters.head?, inClass character = false)
    (last : ∀ character ∈ characters.getLast?, inClass character = false) :
    Text.trimChars inClass characters = characters := by
  have ends :
      ∀ {other : List Char},
        (∀ character ∈ other.head?, inClass character = false) →
          other.dropWhile inClass = other := by
    intro other begins
    cases other with
    | nil => rfl
    | cons character rest =>
        exact List.dropWhile_cons_of_neg (by simp [begins character rfl])
  rw [Text.trimChars, ends first, ends (by rwa [List.head?_reverse]),
    List.reverse_reverse]

/-- All characters of a text count, when all are shown. -/
theorem significant_of_shown {text : String}
    (shown : ∀ character ∈ text.toList, 0x20 < character.toNat) :
    significant text = text.toList := by
  have visible : ∀ character ∈ text.toList, isOuterBlank character = false := by
    intro character member
    have code := shown character member
    simp only [isOuterBlank, decide_eq_false_iff_not]
    omega
  rw [significant, trimChars_eq
    (fun character first => visible character (List.mem_of_mem_head? first))
    (fun character last => visible character (List.mem_of_mem_getLast? last))]
  refine List.filter_eq_self.mpr ?_
  intro character member
  have code := shown character member
  simp only [isIgnored, Bool.not_eq_true', Bool.or_eq_false_iff,
    beq_eq_false_iff_ne]
  refine ⟨⟨?_, ?_⟩, ?_⟩ <;> rintro rfl <;> revert code <;> decide

private theorem splitPort_of_plain {bracketed : Bool} {text : List Char}
    (plain : ∀ character ∈ text,
      (character = ':' → bracketed = true) ∧ character ≠ '[' ∧
        character ≠ ']') (rest : List Char) :
    splitPort bracketed (text ++ rest) =
      (text ++ (splitPort bracketed rest).1, (splitPort bracketed rest).2) := by
  induction text with
  | nil => rfl
  | cons character text induction =>
      obtain ⟨noColon, noOpen, noClose⟩ := plain character List.mem_cons_self
      have later :=
        induction fun other member =>
          plain other (List.mem_cons_of_mem _ member)
      have goes : ¬(character = ':' ∧ (!bracketed) = true) := by
        rintro ⟨colon, outside⟩
        simp [noColon colon] at outside
      rw [List.cons_append, splitPort, if_neg goes]
      simp only [noOpen, noClose, if_false, later]
      rfl

theorem splitPort_of_isHostText {text : List Char} (isHost : IsHostText text) :
    splitPort false text = (text, none) ∧
      ∀ digits,
        splitPort false (text ++ ':' :: digits) = (text, some digits) := by
  cases isHost with
  | name plain =>
      have apart :
          ∀ character ∈ text,
            (character = ':' → false = true) ∧ character ≠ '[' ∧
              character ≠ ']' := by
        intro character member
        obtain ⟨-, noColon, noOpen, noClose⟩ := plain character member
        exact ⟨fun colon => absurd colon noColon, noOpen, noClose⟩
      constructor
      · have whole := splitPort_of_plain apart []
        simpa [splitPort] using whole
      · intro digits
        rw [splitPort_of_plain apart]
        simp [splitPort]
  | @bracketed inside plain =>
      have apart :
          ∀ character ∈ inside,
            (character = ':' → true = true) ∧ character ≠ '[' ∧
              character ≠ ']' := by
        intro character member
        exact ⟨fun _ => rfl, (plain character member).2⟩
      constructor
      · rw [List.cons_append, splitPort, if_neg (by decide)]
        simp only [if_true, splitPort_of_plain apart]
        simp [splitPort]
      · intro digits
        rw [List.append_assoc, List.cons_append, splitPort, if_neg (by decide)]
        simp only [if_true, splitPort_of_plain apart]
        simp [splitPort]

private theorem readPort_toString {scheme : String} {port : Nat}
    (small : port ≤ 65535) (unusual : usualPort? scheme ≠ some port) :
    readPort scheme (toString port).toList = .ok (some port) := by
  have digits : (toString port).toList.all Char.isDigit = true := by
    rw [toList_toString, List.all_eq_true]
    exact fun digit member => isDigit_of_mem_toDigits member
  have value : decimalValue (toString port).toList = port := by
    rw [toList_toString]
    exact decimalValue_toDigits port
  have some_ : (toString port).toList.isEmpty = false := by
    rw [toList_toString, List.isEmpty_eq_false_iff]
    exact Nat.toDigits_ne_nil
  have notLarge : ¬port > 65535 := by omega
  simp only [readPort, digits, value, some_, unusual, notLarge, Bool.not_true,
    Bool.false_or, decide_false, Bool.false_eq_true, if_false]

private theorem readUserInfo_mark {name password host : List Char}
    (keptName : EscapeSet.userInfo.IsKept name)
    (keptPassword : EscapeSet.userInfo.IsKept password) (noMark : '@' ∉ host) :
    readUserInfo
        (name ++ (if password = [] then [] else ':' :: password) ++
          '@' :: host) =
      (String.ofList name, String.ofList password, host) := by
  have someMark :
      (name ++ (if password = [] then [] else ':' :: password) ++
          '@' :: host).contains '@' =
        true := by
    simp
  have apart : ∀ character ∈ host.reverse, (character != '@') = true := by
    intro character member
    exact bne_iff_ne.mpr
      (ne_of_mem_of_not_mem (List.mem_reverse.mp member) noMark)
  have before : ∀ character ∈ name, (character != ':') = true :=
    fun character member => bne_iff_ne.mpr (shown_of_isKept keptName member).2.2
  have last :
      ((name ++ (if password = [] then [] else ':' :: password) ++
          '@' :: host).reverse.takeWhile
        (· != '@')).reverse = host := by
    rw [List.reverse_append, List.reverse_cons, List.append_assoc,
      List.takeWhile_append_of_pos apart]
    simp
  have info :
      (name ++ (if password = [] then [] else ':' :: password) ++
          '@' :: host).take
        ((name ++ (if password = [] then [] else ':' :: password) ++
          '@' :: host).length - host.length - 1) =
          name ++ (if password = [] then [] else ':' :: password) := by
    refine List.take_left' ?_
    simp only [List.length_append, List.length_cons]
    omega
  have first :
      (name ++ (if password = [] then [] else ':' :: password)).takeWhile
        (· != ':') = name := by
    rw [List.takeWhile_append_of_pos before]
    split <;> simp
  have second :
      ((name ++ (if password = [] then [] else ':' :: password)).dropWhile
          (· != ':')).drop 1 =
        password := by
    rw [List.dropWhile_append_of_pos before]
    split
    · next empty => exact empty.symm
    · rfl
  simp only [readUserInfo, someMark, if_true, last, info, first, second,
    escape_of_isKept keptName, escape_of_isKept keptPassword]

private theorem readUserInfo_userHostPort {url : Url}
    (isHosted : url.IsHosted) :
    readUserInfo url.userHostPort =
      (url.username, url.password, url.hostPort) := by
  have noMark : '@' ∉ url.hostPort := fun member =>
    absurd (isHostCharacter_hostPort isHosted '@' member) (by decide)
  by_cases noInfo : url.username = "" ∧ url.password = ""
  · have plain : url.userHostPort = url.hostPort := by
      rw [userHostPort, userInfoText, if_pos noInfo]
      rfl
    rw [plain, noInfo.1, noInfo.2]
    refine if_neg ?_
    rw [List.contains_iff_mem]
    exact noMark
  · have read := readUserInfo_mark isHosted.username isHosted.password noMark
    have text : url.userHostPort = url.username.toList ++
        (if url.password.toList = [] then [] else ':' :: url.password.toList) ++
      '@' :: url.hostPort := by
      rw [userHostPort, userInfoText, if_neg noInfo]
      by_cases empty : url.password = ""
      · simp [empty]
      · simp [empty, String.toList_append]
    rw [text, read, String.ofList_toList, String.ofList_toList]

/-- The authority of an address is read up to the path. -/
theorem readAuthority_userHostPort {url : Url} (isHosted : url.IsHosted)
    (rest : List Char) :
    ∃ host, url.host = some host ∧
      readAuthority url.scheme (url.userHostPort ++ '/' :: rest) =
        .ok (⟨url.username, url.password, host, url.port⟩, '/' :: rest) := by
  obtain ⟨host, isHost, back⟩ := isHosted.host
  have inside :
      ∀ character ∈ url.userHostPort,
        (!endsAuthority true character) = true := by
    intro character member
    rw [(shown_userHostPort isHosted member).2]
    rfl
  have authority : (url.userHostPort ++ '/' :: rest).takeWhile
      (fun character => !endsAuthority true character) = url.userHostPort := by
    rw [List.takeWhile_append_of_pos inside,
      List.takeWhile_cons_of_neg (by decide), List.append_nil]
  have after : (url.userHostPort ++ '/' :: rest).dropWhile
      (fun character => !endsAuthority true character) = '/' :: rest := by
    rw [List.dropWhile_append_of_pos inside,
      List.dropWhile_cons_of_neg (by decide)]
  have noBackslash : ∀ digit ∈ url.hostPort, (digit != '\\') = true := by
    intro digit member
    rw [bne_iff_ne]
    rintro rfl
    exact absurd (isHostCharacter_hostPort isHosted '\\' member) (by decide)
  have hostChars : host.write.toList.isEmpty = false := by
    rw [List.isEmpty_eq_false_iff]
    exact back.ne_nil
  refine ⟨host, isHost, ?_⟩
  obtain ⟨alone, withPort⟩ := splitPort_of_isHostText back.isHostText
  unfold readAuthority
  simp only [isHosted.isSpecial, authority, after,
    readUserInfo_userHostPort isHosted]
  cases port : url.port with
  | none =>
      have text : url.hostPort = host.write.toList := by
        rw [hostPort, isHost, port]
        exact List.append_nil _
      have readHost : Host.read host.write.toList = .ok host := back
      simp only [text, alone, hostChars, Bool.false_and, Bool.false_eq_true,
        if_false, if_true]
      rw [readHost]
      rfl
  | some number =>
      have text :
          url.hostPort =
            host.write.toList ++ ':' :: (toString number).toList := by
        rw [hostPort, isHost, port]
        rfl
      have readHost : Host.read host.write.toList = .ok host := back
      obtain ⟨small, unusual⟩ := isHosted.port number port
      have plain :
          ∀ digit ∈ (toString number).toList, (digit != '\\') = true := by
        intro digit member
        refine noBackslash digit ?_
        rw [text]
        exact List.mem_append_right _ (List.mem_cons_of_mem _ member)
      have digits :
          (toString number).toList.takeWhile (· != '\\') =
            (toString number).toList :=
        takeWhile_of_all plain
      have noRest : (toString number).toList.dropWhile (· != '\\') = [] :=
        dropWhile_of_all plain
      simp only [text, withPort, hostChars, Bool.false_and, Bool.false_eq_true,
        if_false, if_true, digits, noRest]
      rw [readHost, readPort_toString small unusual]
      rfl

private theorem dropWhile_isSlash_userHostPort {url : Url}
    (isHosted : url.IsHosted) (rest : List Char) :
    (url.userHostPort ++ rest).dropWhile (isSlash true) =
      url.userHostPort ++ rest := by
  have some_ : url.userHostPort ≠ [] := fun empty =>
    hostPort_ne_nil isHosted (List.append_eq_nil_iff.mp empty).2
  obtain ⟨first, others, text⟩ := List.exists_cons_of_ne_nil some_
  have apart :=
    (shown_userHostPort isHosted
      (text ▸ List.mem_cons_self : first ∈ url.userHostPort)).2
  have noSlash : ¬isSlash true first = true := by
    simp only [endsAuthority, Bool.or_eq_false_iff] at apart
    simp [apart.1.1]
  rw [text, List.cons_append, List.dropWhile_cons_of_neg noSlash]

theorem splitScheme?_colon {first : Char} {others : List Char}
    (begins : first.isAlpha = true)
    (all : ∀ character ∈ first :: others, isSchemeCharacter character = true)
    (rest : List Char) :
    splitScheme? (first :: others ++ ':' :: rest) =
      some (Text.lowerAscii (String.ofList (first :: others)), rest) := by
  have colon : ¬isSchemeCharacter ':' = true := by decide
  have after :
      (first :: others ++ ':' :: rest).dropWhile isSchemeCharacter =
        ':' :: rest := by
    rw [List.dropWhile_append_of_pos all, List.dropWhile_cons_of_neg colon]
  have scheme :
      (first :: others ++ ':' :: rest).takeWhile isSchemeCharacter =
        first :: others := by
    rw [List.takeWhile_append_of_pos all, List.takeWhile_cons_of_neg colon,
      List.append_nil]
  rw [List.cons_append] at after scheme ⊢
  simp only [splitScheme?, begins, if_true, after, scheme]

private theorem IsHosted.splitScheme? {url : Url} (isHosted : url.IsHosted)
    (rest : List Char) :
    Url.splitScheme? (url.scheme.toList ++ ':' :: rest) =
      some (url.scheme, rest) := by
  rcases isHosted.scheme with same | same
  · rw [same]
    exact @splitScheme?_colon 'h' ['t', 't', 'p'] (by decide)
      (List.all_eq_true.mp (by decide)) rest
  · rw [same]
    exact @splitScheme?_colon 'h' ['t', 't', 'p', 's'] (by decide)
      (List.all_eq_true.mp (by decide)) rest

private theorem significant_write_onSite {url : Url} (isHosted : url.IsHosted)
    {segments : List String}
    (some_ : segments ≠ [])
    (written : ∀ segment ∈ segments, IsWritten segment) :
    significant (url.onSite segments).write =
      (url.onSite segments).write.toList := by
  have schemeShown :
      ∀ character ∈ url.scheme.toList, 0x20 < character.toNat := by
    have shown :
        url.scheme.toList.all
          (fun character => decide (0x20 < character.toNat)) = true := by
      rcases isHosted.scheme with same | same
      · rw [same]
        decide
      · rw [same]
        decide
    simpa using shown
  refine significant_of_shown ?_
  intro character member
  rw [toList_write_onSite isHosted some_] at member
  simp only [List.mem_append, List.mem_cons] at member
  rcases member with scheme | rfl | rfl | rfl | authority | rfl | path
  · exact schemeShown character scheme
  · decide
  · decide
  · decide
  · exact (shown_userHostPort isHosted authority).1
  · decide
  · rcases mem_joinNames path with rfl | ⟨segment, isSegment, inside⟩
    · decide
    · exact (written segment isSegment).shown inside

theorem IsHosted.parse_write {url : Url} (isHosted : url.IsHosted)
    {segments : List String}
    (some_ : segments ≠ [])
    (written : ∀ segment ∈ segments, IsWritten segment) :
    parse (url.onSite segments).write = .ok (url.onSite segments) := by
  obtain ⟨host, isHost, authority⟩ :=
    readAuthority_userHostPort isHosted (joinNames segments).toList
  have pathEnd := joinNames_not_endsPath written
  have noEnd :
      ∀ character ∈ '/' :: (joinNames segments).toList,
        (!endsPath character) = true := by
    intro character member
    rcases List.mem_cons.mp member with rfl | inside
    · decide
    · rw [pathEnd character inside]
      rfl
  have path :
      ('/' :: (joinNames segments).toList).takeWhile
          (fun character => !endsPath character) =
        '/' :: (joinNames segments).toList :=
    takeWhile_of_all noEnd
  have tail :
      ('/' :: (joinNames segments).toList).dropWhile
          (fun character => !endsPath character) =
        [] :=
    dropWhile_of_all noEnd
  have resolved :
      pathAfterAuthority url.scheme ('/' :: (joinNames segments).toList) =
        .rooted segments := by
    have walks :
        walk false []
            (splitPath (Url.isSpecial url.scheme) (joinNames segments).toList) =
          [] ++ segments :=
      walk_splitPath_of_isWritten (.inl rfl) some_ written _
    have notFile : (url.scheme == "file") = false := by
      simpa using isHosted.not_file
    simp only [pathAfterAuthority, isSlash, beq_self_eq_true, Bool.true_or,
      if_true, resolvePath, notFile, walks, List.nil_append, Bool.false_eq_true,
      if_false]
  have whole :
      readFromAuthority url.scheme
          (url.userHostPort ++ '/' :: (joinNames segments).toList) =
        .ok (url.onSite segments) := by
    unfold readFromAuthority
    rw [authority]
    simp only [bind, Except.bind, path, tail, readTail, resolved, pure,
      Except.pure]
    rw [Url.onSite, isHost]
  unfold parse readWith
  rw [significant_write_onSite isHosted some_ written,
    toList_write_onSite isHosted some_]
  simp only [isHosted.splitScheme?, isHosted.not_file, isHosted.isSpecial,
    if_true, if_false]
  rw [List.dropWhile_cons_of_pos (by decide),
    List.dropWhile_cons_of_pos (by decide),
    dropWhile_isSlash_userHostPort isHosted]
  exact whole

end LessonSite.Url
