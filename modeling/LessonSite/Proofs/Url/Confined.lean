import LessonSite.Client.RouteData
import LessonSite.Proofs.Url.Join
import LessonSite.Proofs.Url.JoinWeight
import LessonSite.Proofs.Url.Names

/-!
# Addresses confined to a directory

The path of an address, without the slashes at its start, is put below the
address of a directory as a text.  The file that it names is in the directory
just if the text is not an address of its own and neither its segments nor the
names in them ever lead above the directory: an escaped slash hides the segments
`..` around it from the walk along the path.
-/

namespace LessonSite.Url

/-- The segments that a path leaves below the directory it starts from, unless
it leaves that. -/
def enterInside? (inside : List String) : List String → Option (List String)
  | [] => some inside
  | segment :: segments =>
      if isAbove segment ∧ inside = [] then
        none
      else enterInside? (enter inside segment) segments

private theorem goUp_append (outside : List String) {inside : List String}
    (some_ : inside ≠ []) :
    goUp (outside ++ inside) = outside ++ goUp inside := by
  unfold goUp
  rw [List.getLast?_append]
  cases last : inside.getLast? with
  | none => exact absurd (List.getLast?_eq_none_iff.mp last) some_
  | some segment =>
      simp only [Option.some_or]
      split
      · rfl
      · rw [List.dropLast_append_of_ne_nil some_]

private theorem enter_append (outside : List String) {inside : List String}
    {segment : String} (stays : ¬(isAbove segment = true ∧ inside = [])) :
    enter (outside ++ inside) segment = outside ++ enter inside segment := by
  unfold enter
  split
  · next above =>
      rw [goUp_append]
      exact fun empty => stays ⟨above, empty⟩
  · split
    · rfl
    · rw [List.append_assoc]

private theorem walk_cons {directories : List String} (some_ : directories ≠ [])
    (segment : String) {rest : List String} (more : rest ≠ []) :
    walk true directories (segment :: rest) =
      walk true (enter directories segment) rest := by
  obtain ⟨next, others, rfl⟩ := List.exists_cons_of_ne_nil more
  rw [walk, enter, keepSegment_eq (.inr some_)]
  split
  · rfl
  · split <;> rfl

private theorem walk_singleton {directories : List String}
    (some_ : directories ≠ []) (segment : String) :
    walk true directories [segment] = enter directories segment ∨
      walk true directories [segment] = enter directories segment ++ [""] := by
  rw [walk, enter, keepSegment_eq (.inr some_)]
  split
  · exact .inr rfl
  · split
    · exact .inr rfl
    · exact .inl rfl

/-- A path that stays below a directory leads to what it leaves there, or to the
inside of it. -/
theorem walk_of_enterInside? {outside inside segments reached : List String}
    (some_ : outside ≠ [])
    (more : segments ≠ [])
    (stays : enterInside? inside segments = some reached) :
    walk true (outside ++ inside) segments = outside ++ reached ∨
      walk true (outside ++ inside) segments = outside ++ reached ++ [""] := by
  induction segments generalizing inside with
  | nil => exact absurd rfl more
  | cons segment segments induction =>
      have nonempty : outside ++ inside ≠ [] := by simp [some_]
      rw [enterInside?] at stays
      split at stays
      · cases stays
      · next within =>
          have entered := enter_append outside within
          cases segments with
          | nil =>
              cases stays
              rw [← entered]
              exact walk_singleton nonempty segment
          | cons next others =>
              rw [walk_cons nonempty segment (List.cons_ne_nil next others),
                entered]
              exact induction (List.cons_ne_nil next others) stays

/-- A path that leaves a directory with one name that is no drive leaves nothing
of it. -/
theorem segmentsWeight_walk_of_enterInside?_eq_none {name : String}
    (noDrive : isDrive name.toList = false) {inside segments : List String}
    (leaves : enterInside? inside segments = none) :
    segmentsWeight (walk true (name :: inside) segments) ≤
      segmentsWeight inside + segmentsWeight segments := by
  induction segments generalizing inside with
  | nil => cases leaves
  | cons segment segments induction =>
      rw [enterInside?] at leaves
      rw [segmentsWeight_cons]
      split at leaves
      · next out =>
          obtain ⟨above, rfl⟩ := out
          have up : goUp [name] = [] := by simp [goUp, noDrive]
          cases segments with
          | nil =>
              rw [walk, if_pos above, up]
              exact Nat.zero_le _
          | cons next others =>
              have rest := segmentsWeight_walk_le true [] (next :: others)
              rw [walk, if_pos above, up]
              rw [segmentsWeight_nil] at rest ⊢
              omega
      · next within =>
          have entered := enter_append [name] within
          have lighter : segmentsWeight (enter inside segment) ≤
              segmentsWeight inside + textWeight segment.toList := by
            have higher := segmentsWeight_goUp_le inside
            unfold enter
            split
            · omega
            · split
              · omega
              · rw [segmentsWeight_append, segmentsWeight_cons,
                  segmentsWeight_nil]
                exact Nat.le_refl _
          cases segments with
          | nil => cases leaves
          | cons next others =>
              have rest := induction leaves
              rw [List.singleton_append, List.singleton_append] at entered
              rw [walk_cons (List.cons_ne_nil name inside) segment
                (List.cons_ne_nil next others),
                entered]
              omega

/-- The text begins with a slash or a drive, so that nothing is left of a path
before it. -/
def beginsApart (text : List Char) : Bool :=
  text.head?.any (isSlash true) || startsWithDrive text

/-- What a text says below the address of a directory; the scheme of a file may
precede it. -/
def textBelow? (text : List Char) : Option (List Char) :=
  match splitScheme? text with
  | some (scheme, rest) =>
      if scheme = "file" ∧ beginsApart rest = false then some rest else none
  | none => if beginsApart text = false then some text else none

/-- The segments of a text below a directory. -/
def segmentsBelow (text : List Char) : List String :=
  splitPath true (text.takeWhile fun character => !endsPath character)

theorem segmentsBelow_ne_nil (text : List Char) : segmentsBelow text ≠ [] :=
  splitPath_ne_nil true _

private theorem walk_empty (directories : List String) :
    walk true directories [""] = directories ++ [""] := by
  rw [walk, if_neg (by decide), if_neg (by decide)]
  rfl

private theorem directorySegment_ne_empty {directory name : String}
    (member : name ∈ pathNames directory) : directorySegment name ≠ "" := by
  intro empty
  have bytes := unescape_directorySegment name
  rw [empty] at bytes
  have same : name = "" := Utf8.encode_injective bytes.symm
  rw [pathNames_eq, List.mem_filter] at member
  simp [same] at member

private theorem dropEmptyStart_directory {directory : String}
    {segments : List String} (some_ : pathNames directory ≠ []) :
    dropEmptyStart ((pathNames directory).map directorySegment ++ segments) =
      (pathNames directory).map directorySegment ++ segments := by
  obtain ⟨name, names, spelled⟩ := List.exists_cons_of_ne_nil some_
  have nonempty : directorySegment name ≠ "" :=
    directorySegment_ne_empty (spelled ▸ List.mem_cons_self)
  rw [spelled, List.map_cons, List.cons_append, dropEmptyStart]
  intro next rest same
  exact nonempty (List.cons.inj same).1

private theorem readFile_below (directory : String) {text : List Char}
    (below : beginsApart text = false) :
    ∃ url,
      readFile (some (ofDirectory directory)) text = .ok url ∧ url.host = none ∧
        url.path = .rooted (dropEmptyStart
          (walk true ((pathNames directory).map directorySegment)
            (segmentsBelow text))) := by
  have special : isSpecial "file" = true := by decide
  rw [beginsApart, Bool.or_eq_false_iff] at below
  obtain ⟨noSlash, noDrive⟩ := below
  have whole :
      segmentsBelow text = [""] →
      (ofDirectory directory).path = .rooted (dropEmptyStart
        (walk true ((pathNames directory).map directorySegment)
          (segmentsBelow text))) := by
    intro empty
    rw [empty, walk_empty, path_ofDirectory]
    by_cases none_ : pathNames directory = []
    · rw [none_]
      rfl
    · rw [dropEmptyStart_directory none_]
  cases text with
  | nil => exact ⟨_, rfl, rfl, whole rfl⟩
  | cons first rest =>
      rw [List.head?_cons, Option.any_some] at noSlash
      by_cases ends : endsPath first = true
      · have empty : segmentsBelow (first :: rest) = [""] := by
          rw [segmentsBelow, List.takeWhile_cons_of_neg (by simp [ends])]
          rfl
        have mark : first = '?' ∨ first = '#' := by simpa [endsPath] using ends
        have single :
            readFile.single (some (ofDirectory directory)) (first :: rest) =
              .ok ((ofDirectory directory).withTail (first :: rest)) := by
          simp only [readFile.single, noSlash, Bool.false_eq_true, if_false,
            mark, if_true]
        refine ⟨(ofDirectory directory).withTail (first :: rest), ?_, rfl,
          whole empty⟩
        cases rest with
        | nil => exact single
        | cons second rest =>
            simp only [readFile, noSlash, Bool.false_and, Bool.false_eq_true,
              if_false, single]
      · have goesOn : endsPath first = false := by simpa using ends
        refine ⟨_, readFile_relative noSlash goesOn noDrive, rfl, ?_⟩
        rw [directories_ofDirectory]
        simp only [withPathFrom, resolvePath, segmentsBelow]
        rfl

private theorem join_file {directory text : String} {rest : List Char}
    (found : splitScheme? (significant text) = some ("file", rest)) :
    (ofDirectory directory).join text =
      readFile (some (ofDirectory directory)) rest := by
  have isFile : (ofDirectory directory).scheme = "file" := rfl
  unfold join readWith
  simp only [found, if_true, isFile, Option.filter_some, decide_true]

private theorem join_noScheme {directory text : String}
    (none_ : splitScheme? (significant text) = none) :
    (ofDirectory directory).join text =
      readFile (some (ofDirectory directory)) (significant text) := by
  have isFile : (ofDirectory directory).scheme = "file" := rfl
  have rooted : (ofDirectory directory).isOpaque = false := rfl
  unfold join readWith
  simp only [none_, rooted, isFile, Bool.false_eq_true, if_false, if_true]

private theorem join_otherScheme {directory other text scheme : String}
    {rest : List Char}
    (found : splitScheme? (significant text) = some (scheme, rest))
    (notFile : scheme ≠ "file") :
    (ofDirectory directory).join text = (ofDirectory other).join text := by
  have apart :
      ∀ directory,
        ¬((ofDirectory directory).scheme = scheme ∧ countSlashes rest < 2) :=
    fun directory same => notFile same.1.symm
  unfold join readWith
  simp only [found, notFile, apart, if_false]

/-- A text that may stand below a directory is put there. -/
theorem join_below (directory : String) {text : String} {rest : List Char}
    (below : textBelow? (significant text) = some rest) :
    ∃ url, (ofDirectory directory).join text = .ok url ∧ url.host = none ∧
      url.path = .rooted (dropEmptyStart
        (walk true ((pathNames directory).map directorySegment)
          (segmentsBelow rest))) := by
  unfold textBelow? at below
  split at below
  · next scheme after found =>
      split at below
      · next file =>
          cases below
          obtain ⟨rfl, relative⟩ := file
          rw [join_file found]
          exact readFile_below directory relative
      · cases below
  · next noScheme =>
      split at below
      · next relative =>
          cases below
          rw [join_noScheme noScheme]
          exact readFile_below directory relative
      · cases below

/-- The topmost segment of the directory's address is no drive. -/
def HasNoDrive (directory : String) : Prop :=
  ∀ first ∈ ((pathNames directory).map directorySegment ++ [""]).head?,
    isDrive first.toList = false

private theorem hasNoDrive_slash : HasNoDrive "/" := by
  intro first member
  have names : pathNames "/" = [] := by decide
  rw [names] at member
  cases member
  decide

private theorem readFile_twoSlashes (directory : String) {first second : Char}
    {rest : List Char}
    (slash : isSlash true first = true) (again : isSlash true second = true) :
    readFile (some (ofDirectory directory)) (first :: second :: rest) =
      readFile (some (ofDirectory "/")) (first :: second :: rest) := by
  simp only [readFile, slash, again, Bool.and_self, if_true]

private theorem readFile_oneSlash (directory : String) {first : Char}
    {rest : List Char} (single : rest.head?.any (isSlash true) = false) :
    readFile (some (ofDirectory directory)) (first :: rest) =
      readFile.single (some (ofDirectory directory)) (first :: rest) := by
  cases rest with
  | nil => rfl
  | cons second rest =>
      rw [List.head?_cons, Option.any_some] at single
      simp only [readFile, single, Bool.and_false, Bool.false_eq_true, if_false]

private theorem single_slashDrive (directory : String) {first : Char}
    {rest : List Char}
    (slash : isSlash true first = true) (drive : startsWithDrive rest = true) :
    readFile.single (some (ofDirectory directory)) (first :: rest) =
      readFile.single (some (ofDirectory "/")) (first :: rest) := by
  simp only [readFile.single, slash, drive, if_true]

private theorem single_slash {directory : String}
    (noDrive : HasNoDrive directory) {first : Char}
    {rest : List Char} (slash : isSlash true first = true)
    (drive : startsWithDrive rest = false) :
    readFile.single (some (ofDirectory directory)) (first :: rest) =
      .ok (emptyFile.withPathFrom [] rest) := by
  have host :
      ({ emptyFile with host := (ofDirectory directory).host } : Url) =
        emptyFile := rfl
  simp only [readFile.single, slash, drive, if_true, Bool.false_eq_true,
    if_false, host]
  split
  · next top others path =>
      rw [path_ofDirectory] at path
      have topmost := Path.rooted.inj path
      rw [noDrive top (by rw [topmost]; rfl)]
      rfl
  · rfl

private theorem readFile_drive (directory : String) {first : Char}
    {rest : List Char}
    (noSlash : isSlash true first = false)
    (drive : startsWithDrive (first :: rest) = true) :
    readFile (some (ofDirectory directory)) (first :: rest) =
      .ok (emptyFile.withPathFrom [] (first :: rest)) := by
  have goesOn : ¬(first = '?' ∨ first = '#') := by
    rintro (rfl | rfl)
    all_goals
      cases rest with
      | nil => cases drive
      | cons mark rest => revert drive; simp [startsWithDrive, isDrive]
  have single : readFile.single (some (ofDirectory directory)) (first :: rest) =
      .ok (emptyFile.withPathFrom [] (first :: rest)) := by
    simp only [readFile.single, noSlash, Bool.false_eq_true, if_false, goesOn,
      drive, if_true]
  cases rest with
  | nil => cases drive
  | cons second rest =>
      simp only [readFile, noSlash, Bool.false_and, Bool.false_eq_true,
        if_false, single]

private theorem readFile_apart {text : List Char}
    (apart : beginsApart text = true) :
    (∀ directory, readFile (some (ofDirectory directory)) text =
        readFile (some (ofDirectory "/")) text) ∨
      ∃ rest, ∀ directory, HasNoDrive directory →
        readFile (some (ofDirectory directory)) text =
          .ok (emptyFile.withPathFrom [] rest) := by
  cases text with
  | nil => cases apart
  | cons first rest =>
      cases slash : isSlash true first with
      | false =>
          have drive : startsWithDrive (first :: rest) = true := by
            simpa [beginsApart, slash] using apart
          left
          intro directory
          rw [readFile_drive directory slash drive,
            readFile_drive "/" slash drive]
      | true =>
          cases slashes : rest.head?.any (isSlash true) with
          | true =>
              left
              intro directory
              cases rest with
              | nil => cases slashes
              | cons second rest =>
                  rw [List.head?_cons, Option.any_some] at slashes
                  exact readFile_twoSlashes directory slash slashes
          | false =>
              cases drive : startsWithDrive rest with
              | true =>
                  left
                  intro directory
                  rw [readFile_oneSlash directory slashes,
                    readFile_oneSlash "/" slashes,
                    single_slashDrive directory slash drive]
              | false =>
                  right
                  refine ⟨rest, fun directory noDrive => ?_⟩
                  rw [readFile_oneSlash directory slashes,
                    single_slash noDrive slash drive]

private theorem join_apart {text : String}
    (apart : textBelow? (significant text) = none) :
    (∀ directory,
        (ofDirectory directory).join text = (ofDirectory "/").join text) ∨
      ∃ rest, ∀ directory, HasNoDrive directory →
        (ofDirectory directory).join text =
          .ok (emptyFile.withPathFrom [] rest) := by
  unfold textBelow? at apart
  split at apart
  · next scheme rest found =>
      by_cases file : scheme = "file"
      · subst file
        have begins : beginsApart rest = true := by
          by_contra relative
          rw [if_pos ⟨rfl, by simpa using relative⟩] at apart
          cases apart
        simp only [join_file found]
        exact readFile_apart begins
      · left
        intro directory
        exact join_otherScheme found file
  · next noScheme =>
      have begins : beginsApart (significant text) = true := by
        by_contra relative
        rw [if_pos (by simpa using relative)] at apart
        cases apart
      simp only [join_noScheme noScheme]
      exact readFile_apart begins

private theorem weight_join_top_le {text : String} {url : Url}
    (joined : (ofDirectory "/").join text = .ok url) :
    url.path.weight ≤ textWeight (significant text) := by
  have top : ofDirectory "/" = emptyFile := by decide
  have light : emptyFile.path.weight = 0 := by decide
  have file : ∀ {input}, readFile (some emptyFile) input = .ok url →
      url.path.weight ≤ textWeight input := by
    intro input read
    have path := weight_readFile_le read
    rwa [light, Nat.zero_add] at path
  rw [top] at joined
  unfold join readWith at joined
  simp only at joined
  split at joined
  · next scheme rest found =>
      have less := textWeight_scheme found
      have dropped := textWeight_dropWhile_isSlash rest
      split at joined
      · have path : url.path.weight ≤ textWeight rest := file joined
        omega
      · next notFile =>
          have other : ¬(emptyFile.scheme = scheme ∧ countSlashes rest < 2) :=
            fun same => notFile same.1.symm
          simp only [other, if_false] at joined
          split at joined
          · have path := weight_readFromAuthority_le joined
            omega
          · have path := weight_readPlain_le joined
            omega
  · have rooted : emptyFile.isOpaque = false := rfl
    have isFile : emptyFile.scheme = "file" := rfl
    simp only [rooted, isFile, Bool.false_eq_true, if_false, if_true] at joined
    exact file joined

private theorem filePathBytes?_of_rooted {url : Url} {segments : List String}
    (host : url.host = none) (path : url.path = .rooted segments)
    (some_ : segments ≠ []) :
    url.filePathBytes? = some (filePathBytes?.write segments) := by
  obtain ⟨segment, others, rfl⟩ := List.exists_cons_of_ne_nil some_
  rw [filePathBytes?, host, path]

private theorem dropEmptyStart_ne_nil {segments : List String}
    (some_ : segments ≠ []) :
    dropEmptyStart segments ≠ [] := by
  induction segments using dropEmptyStart.induct with
  | case1 next rest induction =>
      rw [dropEmptyStart]
      exact induction (List.cons_ne_nil next rest)
  | case2 segments other =>
      have kept : dropEmptyStart segments = segments := by
        rw [dropEmptyStart]
        exact other
      rwa [kept]

/-- The text that is put below the address of a directory. -/
def relativePath (url : Url) : String :=
  String.ofList (url.pathText.toList.dropWhile (· == '/'))

/-- The path of the address leads nowhere but below the directory that it is put
in. -/
structure LeadsBelow (url : Url) : Prop where
  inside : ∃ text, textBelow? (significant url.relativePath) = some text ∧
    ∃ kept, enterInside? [] (segmentsBelow text) = some kept ∧
      (followInside? [] (kept.flatMap segmentNames)).isSome = true

instance (url : Url) : Decidable url.LeadsBelow :=
  decidable_of_iff
    ((((textBelow? (significant url.relativePath)).bind fun text =>
      enterInside? [] (segmentsBelow text)).bind fun kept =>
        followInside? [] (kept.flatMap segmentNames)).isSome = true)
    (by
      constructor
      · intro some_
        obtain ⟨reached, found⟩ := Option.isSome_iff_exists.mp some_
        obtain ⟨kept, inner, followed⟩ := Option.bind_eq_some_iff.mp found
        obtain ⟨text, below, entered⟩ := Option.bind_eq_some_iff.mp inner
        exact ⟨text, below, kept, entered, by rw [followed]; rfl⟩
      · rintro ⟨text, below, kept, entered, followed⟩
        rw [below, Option.bind_some, entered, Option.bind_some]
        exact followed)

theorem fileFor?_of_textBelow? (directory : String) {url : Url}
    {text : List Char}
    (below : textBelow? (significant url.relativePath) = some text) :
    fileFor? directory url = some (filePathBytes?.write (dropEmptyStart
      (walk true ((pathNames directory).map directorySegment)
        (segmentsBelow text)))) := by
  obtain ⟨file, joined, host, path⟩ := join_below directory below
  have some_ := dropEmptyStart_ne_nil
    (walk_ne_nil true ((pathNames directory).map directorySegment)
      (segmentsBelow_ne_nil text))
  unfold relativePath at joined
  unfold fileFor?
  rw [joined]
  exact filePathBytes?_of_rooted host path some_

private theorem placeOf_file {directory : String}
    (some_ : pathNames directory ≠ [])
    {segments kept : List String} (more : segments ≠ [])
    (entered : enterInside? [] segments = some kept) :
    placeOf (filePathBytes?.write (dropEmptyStart
      (walk true ((pathNames directory).map directorySegment) segments))) =
        (kept.flatMap segmentNames).foldl followName
          (placeOf (Utf8.encode directory)) := by
  have outside : (pathNames directory).map directorySegment ≠ [] := by
    simpa using some_
  have nothing : segmentNames "" = [[]] := by decide
  have walked := walk_of_enterInside? outside more entered
  rw [List.append_nil] at walked
  rcases walked with whole | ended
  · rw [whole, dropEmptyStart_directory some_, placeOf_write,
      List.flatMap_append, flatMap_segmentNames_directory, List.foldl_append,
      placeOf_encode]
  · rw [ended, List.append_assoc, dropEmptyStart_directory some_, placeOf_write,
      List.flatMap_append, List.flatMap_append, flatMap_segmentNames_directory,
      List.foldl_append, List.foldl_append, List.flatMap_singleton, nothing,
      placeOf_encode]
    rfl

private theorem LeadsBelow.isBelow {url : Url} (leads : url.LeadsBelow)
    {directory : String}
    {path : List UInt8} (named : fileFor? directory url = some path) :
    IsBelow (Utf8.encode directory) path := by
  obtain ⟨text, below, kept, entered, followed⟩ := leads.inside
  rw [fileFor?_of_textBelow? directory below] at named
  cases named
  by_cases none_ : pathNames directory = []
  · rw [IsBelow, placeOf_encode, none_]
    exact List.nil_prefix
  · obtain ⟨reached, stays⟩ := Option.isSome_iff_exists.mp followed
    have inside :=
      foldl_followName_append (placeOf (Utf8.encode directory)) stays
    rw [List.append_nil] at inside
    rw [IsBelow, placeOf_file none_ (segmentsBelow_ne_nil text) entered, inside]
    exact List.prefix_append _ _

/-- A directory at the top whose name has the given length. -/
def longDirectory (length : Nat) : String :=
  String.ofList ('/' :: List.replicate length 'r')

private def longName (length : Nat) : String :=
  String.ofList (List.replicate length 'r')

private theorem replicate_long {α : Type} (entry : α) {length : Nat}
    (long : 2 < length) :
    ∃ rest, List.replicate length entry = entry :: entry :: entry :: rest := by
  obtain ⟨rest, rfl⟩ := Nat.exists_eq_add_of_lt long
  refine ⟨List.replicate rest entry, ?_⟩
  rw [show 2 + rest + 1 = rest + 1 + 1 + 1 by omega, List.replicate_succ,
    List.replicate_succ, List.replicate_succ]

private theorem pathNames_longDirectory {length : Nat} (long : 2 < length) :
    pathNames (longDirectory length) = [longName length] := by
  have absent : '/' ∉ List.replicate length 'r' := by
    intro member
    have same := List.eq_of_mem_replicate member
    revert same
    decide
  have names :
      FileTree.pathNames (longDirectory length) = ["", longName length] := by
    rw [FileTree.pathNames, Text.splitOn, longDirectory, String.toList_ofList,
      ← List.nil_append ('/' :: _), Text.splitChars_append,
      Text.splitChars_of_not_mem absent]
    rfl
  have visible : longName length ≠ "" ∧ longName length ≠ "." := by
    obtain ⟨rest, starts⟩ := replicate_long 'r' long
    constructor
    · intro same
      have characters := congrArg String.toList same
      simp [longName, starts] at characters
    · intro same
      have characters := congrArg String.toList same
      simp [longName, starts] at characters
  rw [pathNames_eq, names]
  simp [visible.1, visible.2]

private theorem encode_longName (length : Nat) :
    Utf8.encode (longName length) = List.replicate length 0x72 := by
  rw [Utf8.encode, longName, String.toList_ofList]
  induction length with
  | zero => rfl
  | succ length induction =>
      rw [List.replicate_succ, List.flatMap_cons, induction,
        List.replicate_succ]
      rfl

private theorem directorySegment_longName (length : Nat) :
    directorySegment (longName length) = longName length := by
  rw [directorySegment, longName, String.toList_ofList]
  congr 1
  induction length with
  | zero => rfl
  | succ length induction =>
      rw [List.replicate_succ, escape, List.flatMap_cons, ← escape, induction]
      rfl

private theorem isDrive_longName {length : Nat} (long : 2 < length) :
    isDrive (longName length).toList = false := by
  obtain ⟨rest, starts⟩ := replicate_long 'r' long
  rw [longName, String.toList_ofList, starts]
  rfl

private theorem placeOf_longDirectory {length : Nat} (long : 2 < length) :
    placeOf (Utf8.encode (longDirectory length)) =
      [List.replicate length 0x72] := by
  obtain ⟨rest, starts⟩ := replicate_long (0x72 : UInt8) long
  rw [placeOf_encode, pathNames_longDirectory long, List.map_singleton,
    encode_longName, starts]
  simp [followName]

private theorem not_isBelow_longDirectory {length : Nat} (long : 2 < length)
    {path : List UInt8} (short : heft (placeOf path) < length) :
    ¬IsBelow (Utf8.encode (longDirectory length)) path := by
  rintro ⟨rest, below⟩
  rw [placeOf_longDirectory long] at below
  rw [← below, heft_append, heft_cons, List.length_replicate] at short
  omega

private theorem hasNoDrive_longDirectory {length : Nat} (long : 2 < length) :
    HasNoDrive (longDirectory length) := by
  intro first member
  rw [pathNames_longDirectory long, List.map_singleton,
    directorySegment_longName] at member
  cases member
  exact isDrive_longName long

private theorem startsWith_longDirectory (length : Nat) :
    Text.startsWith "/" (longDirectory length) = true := by
  simp [longDirectory, Text.startsWith, Text.afterStart?, Text.stripStart?]

private theorem fileFor?_eq_none_of_apart {url : Url}
    (apart : textBelow? (significant url.relativePath) = none)
    (confined : ∀ directory, Text.startsWith "/" directory = true → ∀ path,
      fileFor? directory url = some path → IsBelow (Utf8.encode directory) path)
    (directory : String) : fileFor? directory url = none := by
  obtain ⟨length, enough⟩ : ∃ length,
      length = textWeight (significant url.relativePath) + 3 :=
    ⟨_, rfl⟩
  have long : 2 < length := by omega
  have noDrive := hasNoDrive_longDirectory long
  have inside :=
    confined (longDirectory length) (startsWith_longDirectory length)
  have light :
      ∀ {file : Url} {path},
        (ofDirectory "/").join url.relativePath = .ok file →
          file.filePathBytes? = some path →
          ¬IsBelow (Utf8.encode (longDirectory length)) path := by
    intro file path joined named
    have bound := weight_join_top_le joined
    have placed := heft_placeOf_le path
    rw [weight_filePathBytes? named] at placed
    exact not_isBelow_longDirectory long (by omega)
  rcases join_apart apart with everywhere | ⟨rest, fromTop⟩
  · have named : ∀ directory, fileFor? directory url = fileFor? "/" url := by
      intro directory
      have same := everywhere directory
      unfold relativePath at same
      rw [fileFor?, fileFor?, same]
    rw [named]
    cases top : fileFor? "/" url with
    | none => rfl
    | some path =>
        have isFile := top
        unfold fileFor? at isFile
        split at isFile
        · next file joined =>
            exact absurd (inside path ((named _).trans top))
              (light joined isFile)
        · cases isFile
  · have some_ :=
      dropEmptyStart_ne_nil (walk_ne_nil true [] (segmentsBelow_ne_nil rest))
    have isFile :=
      @filePathBytes?_of_rooted (emptyFile.withPathFrom [] rest) _ rfl rfl some_
    have top := fromTop "/" hasNoDrive_slash
    have here := fromTop _ noDrive
    unfold relativePath at here
    refine absurd (inside _ ?_) (light top isFile)
    rw [fileFor?, here]
    exact isFile

private theorem leadsBelow_of_confined {url : Url} {text : List Char}
    (below : textBelow? (significant url.relativePath) = some text)
    (confined : ∀ directory, Text.startsWith "/" directory = true → ∀ path,
      fileFor? directory url = some path →
      IsBelow (Utf8.encode directory) path) :
    url.LeadsBelow := by
  have inside := fun length =>
    confined (longDirectory length) (startsWith_longDirectory length) _
      (fileFor?_of_textBelow? (longDirectory length) below)
  cases entered : enterInside? [] (segmentsBelow text) with
  | none =>
      have long : 2 < segmentsWeight (segmentsBelow text) + 3 := by omega
      have lost :=
        segmentsWeight_walk_of_enterInside?_eq_none
          (isDrive_longName long) entered
      have dropped := segmentsWeight_dropEmptyStart
        (walk true [longName (segmentsWeight (segmentsBelow text) + 3)]
          (segmentsBelow text))
      refine absurd (inside _) (not_isBelow_longDirectory long ?_)
      rw [pathNames_longDirectory long, List.map_singleton,
        directorySegment_longName, placeOf_write]
      refine Nat.lt_of_le_of_lt (heft_foldl_followName_le _ _) ?_
      rw [heft_segmentNames]
      rw [segmentsWeight_nil] at lost
      rw [heft_nil]
      omega
  | some kept =>
      cases followed : followInside? [] (kept.flatMap segmentNames) with
      | some reached =>
          refine ⟨text, below, kept, entered, ?_⟩
          rw [followed]
          rfl
      | none =>
          have long : 2 < segmentsWeight kept + 3 := by omega
          have some_ :
              pathNames (longDirectory (segmentsWeight kept + 3)) ≠ [] := by
            rw [pathNames_longDirectory long]
            exact List.cons_ne_nil _ _
          refine absurd (inside _) (not_isBelow_longDirectory long ?_)
          rw [placeOf_file some_ (segmentsBelow_ne_nil text) entered,
            placeOf_longDirectory long]
          refine Nat.lt_of_le_of_lt
            (heft_foldl_of_followInside?_eq_none _ followed) ?_
          rw [heft_segmentNames, heft_nil]
          omega

/-- The file that an address names in a directory is always below the directory
just if its path leads nowhere else, or if it names no file at all. -/
theorem fileFor?_isBelow_iff (url : Url) :
    (∀ directory, Text.startsWith "/" directory = true → ∀ path,
        fileFor? directory url = some path →
        IsBelow (Utf8.encode directory) path) ↔
      url.LeadsBelow ∨ ∀ directory, fileFor? directory url = none := by
  constructor
  · intro confined
    cases below : textBelow? (significant url.relativePath) with
    | none => exact .inr (fileFor?_eq_none_of_apart below confined)
    | some text => exact .inl (leadsBelow_of_confined below confined)
  · rintro (leads | nowhere) directory _ path named
    · exact leads.isBelow named
    · rw [nowhere] at named
      cases named

/-- Escaped slashes lead out of the directory. -/
theorem fileFor?_not_isBelow_escapedSlash :
    ∃ url path, Url.parse "http://tour.test/..%2f..%2fetc/passwd" = .ok url ∧
      fileFor? "/srv/site" url = some path ∧
      path = Utf8.encode "/srv/site/../../etc/passwd" ∧
        ¬IsBelow (Utf8.encode "/srv/site") path := by
  have parsed :
      ((Url.parse "http://tour.test/..%2f..%2fetc/passwd").toOption.bind
        (fileFor? "/srv/site")) =
        some (Utf8.encode "/srv/site/../../etc/passwd") := by
    decide +kernel
  obtain ⟨url, isUrl, named⟩ := Option.bind_eq_some_iff.mp parsed
  exact ⟨url, _, eq_ok_of_toOption isUrl, named, rfl, by decide +kernel⟩

end LessonSite.Url
