import LessonSite.Proofs.Url.Weight

/-!
# How much a joined address says

What is read of a text says no more than the text, on a site and below a
directory.  It says less when the text is read as an address of its own.
-/

namespace LessonSite.Url

theorem weight_pathAfterAuthority_le (scheme : String) (text : List Char) :
    (pathAfterAuthority scheme text).weight ≤ textWeight text := by
  unfold pathAfterAuthority
  split
  · split
    · exact Nat.le_refl _
    · exact Nat.le_refl _
  · next first rest =>
      have resolved := fun text => weight_resolvePath_le scheme [] text
      simp only [segmentsWeight_nil, Nat.zero_add] at resolved
      split
      · next slash =>
          exact Nat.le_trans (resolved rest)
            (textWeight_cons_isSlash slash rest)
      · exact resolved (first :: rest)

theorem exists_append_of_splitPort {bracketed : Bool}
    {text host digits : List Char}
    (split : splitPort bracketed text = (host, some digits)) :
    ∃ before, text = before ++ digits := by
  induction text generalizing bracketed host with
  | nil => cases split
  | cons character text induction =>
      rw [splitPort] at split
      split at split
      · cases split
        exact ⟨[character], rfl⟩
      · cases later : splitPort
          (if character = '[' then true else if character = ']' then false
            else bracketed) text with
        | mk inner port =>
            simp only [later, Prod.mk.injEq] at split
            obtain ⟨-, rfl⟩ := split
            obtain ⟨before, rfl⟩ := induction later
            exact ⟨character :: before, rfl⟩

theorem exists_append_of_readUserInfo (authority : List Char) :
    ∃ before, authority = before ++ (readUserInfo authority).2.2 := by
  unfold readUserInfo
  split
  · refine ⟨(authority.reverse.dropWhile (· != '@')).reverse, ?_⟩
    rw [← List.reverse_append, List.takeWhile_append_dropWhile,
      List.reverse_reverse]
  · exact ⟨[], rfl⟩

/-- What is left after an authority is the rest of the text. -/
theorem isRest_of_readAuthority {scheme : String} {input rest : List Char}
    {authority : Authority}
    (read : readAuthority scheme input = .ok (authority, rest)) :
    IsRest rest input := by
  have isRest := isRest_dropWhile input
    fun character => @hexValue?_of_endsAuthority (isSpecial scheme) character
  have whole :
      input.takeWhile
          (fun character => !endsAuthority (isSpecial scheme) character) ++
        input.dropWhile
          (fun character => !endsAuthority (isSpecial scheme) character) =
        input :=
    List.takeWhile_append_dropWhile
  obtain ⟨info, hasInfo⟩ := exists_append_of_readUserInfo
    (input.takeWhile fun character =>
      !endsAuthority (isSpecial scheme) character)
  have afterPort : ∀ digits, (splitPort false (readUserInfo
      (input.takeWhile fun character =>
        !endsAuthority (isSpecial scheme) character)).2.2).2 =
        some digits → IsRest (digits.dropWhile (· != '\\') ++
          input.dropWhile
            (fun character => !endsAuthority (isSpecial scheme) character))
          input := by
    intro digits port
    obtain ⟨before, hasPort⟩ := exists_append_of_splitPort (Prod.ext rfl port)
    have cut :
        digits.takeWhile (· != '\\') ++ digits.dropWhile (· != '\\') = digits :=
      List.takeWhile_append_dropWhile
    refine ⟨⟨info ++ before ++ digits.takeWhile (· != '\\'), ?_⟩, ?_⟩
    · rw [← List.append_assoc, List.append_assoc _ _ (digits.dropWhile _), cut,
        List.append_assoc info, ← hasPort, ← hasInfo, whole]
    · intro first begins
      cases later : digits.dropWhile (· != '\\') with
      | nil =>
          rw [later] at begins
          exact isRest.begins first begins
      | cons mark others =>
          have stops := List.head?_dropWhile_not (· != '\\') digits
          rw [later] at stops begins
          cases begins
          have same : first = '\\' := by simpa using stops
          rw [same]
          decide
  unfold readAuthority at read
  simp only [bind, Except.bind, pure, Except.pure] at read
  repeat' split at read
  all_goals cases read
  all_goals first
    | exact isRest
    | exact afterPort _ (by assumption)

theorem weight_readFromAuthority_le {scheme : String}
    {input : List Char} {url : Url}
    (read : readFromAuthority scheme input = .ok url) :
    url.path.weight ≤ textWeight input := by
  unfold readFromAuthority at read
  obtain ⟨⟨authority, rest⟩, first, read⟩ := bind_eq_ok_iff.mp read
  cases read
  have isRest := (isRest_of_readAuthority first).weight_le
  have cut :=
    textWeight_takeWhile rest fun character => @hexValue?_of_endsPath character
  have path :=
    weight_pathAfterAuthority_le scheme
      (rest.takeWhile fun character => !endsPath character)
  simp only
  omega

theorem weight_readFileAfterHost_le (host : Option Host) (input : List Char) :
    (readFileAfterHost host input).path.weight ≤ textWeight input := by
  have resolved := fun text =>
    weight_withPathFrom_le { emptyFile with host } [] text
  simp only [segmentsWeight_nil, Nat.zero_add] at resolved
  unfold readFileAfterHost
  simp only
  generalize reached : Url.withPathFrom _ [] _ = url
  have path : url.path.weight ≤ textWeight input := by
    rw [← reached]
    refine Nat.le_trans (resolved _) ?_
    split
    · next first rest =>
        split
        · next slash => exact textWeight_cons_isSlash slash rest
        · exact Nat.le_refl _
    · exact Nat.le_refl _
  split
  · split
    · exact path
    · exact path
  · exact path

theorem segmentsWeight_directories_le (base : Url) :
    segmentsWeight base.directories ≤ base.path.weight := by
  unfold directories
  cases base.path with
  | opaqueText text => exact Nat.le_refl _
  | rooted segments =>
      simp only
      split
      · split
        · exact Nat.le_refl _
        · exact segmentsWeight_sublist (List.dropLast_sublist segments)
      · exact Nat.zero_le _

private theorem weight_single_le {base url : Url} {input : List Char}
    (read : readFile.single (some base) input = .ok url) :
    url.path.weight ≤ base.path.weight + textWeight input := by
  have inside := segmentsWeight_directories_le base
  have below := weight_withPathFrom_le base base.directories input
  cases input with
  | nil =>
      cases read
      exact Nat.le_add_right _ _
  | cons first rest =>
      have top := fun base : Url => weight_withPathFrom_le base [] rest
      have whole := weight_withPathFrom_le emptyFile [] (first :: rest)
      simp only [segmentsWeight_nil, Nat.zero_add] at top whole
      simp only [readFile.single] at read
      split at read
      · next slash =>
          have shorter := textWeight_cons_isSlash slash rest
          split at read
          · cases read
            have path := top emptyFile
            omega
          · split at read
            · next drive others path =>
                have first_ : segmentsWeight [drive] ≤ base.path.weight := by
                  rw [path, Path.weight]
                  exact segmentsWeight_sublist
                    (.cons_cons _ (List.nil_sublist _))
                have driven := weight_withPathFrom_le emptyFile [drive] rest
                split at read
                · cases read
                  omega
                · cases read
                  exact Nat.le_trans
                    (top { emptyFile with host := base.host }) (by omega)
            · cases read
              exact Nat.le_trans
                (top { emptyFile with host := base.host }) (by omega)
      · split at read
        · cases read
          exact Nat.le_add_right _ _
        · split at read
          · cases read
            omega
          · cases read
            omega

theorem weight_readFile_le {base url : Url} {input : List Char}
    (read : readFile (some base) input = .ok url) :
    url.path.weight ≤ base.path.weight + textWeight input := by
  match input with
  | [] => exact weight_single_le read
  | [_] => exact weight_single_le read
  | first :: second :: rest =>
      simp only [readFile] at read
      split at read
      · next slashes =>
          simp only [Bool.and_eq_true] at slashes
          have outer := textWeight_cons_isSlash slashes.1 (second :: rest)
          have inner := textWeight_cons_isSlash slashes.2 rest
          have after := (isRest_dropWhile rest
            fun character =>
              @hexValue?_of_endsAuthority true character).weight_le
          split at read
          · cases read
            have path := weight_readFileAfterHost_le none rest
            omega
          · split at read
            · cases read
            · next host _ =>
                cases read
                have path := weight_readFileAfterHost_le host
                  (rest.dropWhile fun character =>
                    !endsAuthority true character)
                omega
      · exact weight_single_le read

theorem weight_readPlain_le {scheme : String} {input : List Char} {url : Url}
    (read : readPlain scheme input = .ok url) :
    url.path.weight ≤ textWeight input := by
  have slash := fun rest => @textWeight_cons_isSlash true '/' (by decide) rest
  unfold readPlain at read
  split at read
  · next rest =>
      have path := weight_readFromAuthority_le read
      have outer := slash ('/' :: rest)
      have inner := slash rest
      omega
  · next rest _ =>
      cases read
      refine Nat.le_trans (weight_withPathFrom_le _ [] rest) ?_
      have outer := slash rest
      simpa using outer
  · cases read
    exact Nat.zero_le _

theorem weight_flatMap_slash (segments : List String) :
    weight (segments.flatMap fun segment => 0x2F :: unescape segment.toList) =
      segmentsWeight segments := by
  induction segments with
  | nil => rfl
  | cons segment segments induction =>
      rw [List.flatMap_cons, weight_append, weight_slash, induction,
        segmentsWeight_cons]
      rfl

theorem weight_filePathBytes? {url : Url} {bytes : List UInt8}
    (named : url.filePathBytes? = some bytes) :
    weight bytes = url.path.weight := by
  have written : ∀ segments : List String,
      weight (filePathBytes?.write segments) = segmentsWeight segments := by
    intro segments
    rw [← weight_flatMap_slash]
    unfold filePathBytes?.write
    simp only
    split
    · split
      · rw [weight_append]
        rfl
      · rfl
    · rfl
  unfold filePathBytes? at named
  split at named
  · cases named
  · next path =>
      cases named
      rw [written, path, Path.weight]
  · next path =>
      split at named
      · cases named
        rw [written, path, Path.weight]
      · cases named
  · cases named

private theorem splitScheme?_eq_some {text rest : List Char} {scheme : String}
    (found : splitScheme? text = some (scheme, rest)) :
    ∃ before, text = before ++ ':' :: rest := by
  cases text with
  | nil => cases found
  | cons first others =>
      simp only [splitScheme?] at found
      split at found
      · split at found
        · next after colon =>
            cases found
            refine ⟨(first :: others).takeWhile isSchemeCharacter, ?_⟩
            rw [← colon, List.takeWhile_append_dropWhile]
        · cases found
      · cases found

theorem textWeight_scheme {text rest : List Char} {scheme : String}
    (found : splitScheme? text = some (scheme, rest)) :
    textWeight rest < textWeight text := by
  obtain ⟨before, rfl⟩ := splitScheme?_eq_some found
  have colon : unescape (':' :: rest) = 0x3A :: unescape rest :=
    unescape_cons (by decide) rest
  have mark : weight (0x3A :: unescape rest) = weight (unescape rest) + 1 := rfl
  rw [textWeight, textWeight, unescape_append (by decide), colon, weight_append,
    mark]
  omega

private theorem weight_readFile_drive_le {base url : Url} {input : List Char}
    (drive : startsWithDrive input = true)
    (read : readFile (some base) input = .ok url) :
    url.path.weight ≤ textWeight input := by
  match input with
  | [] => cases drive
  | [_] => cases drive
  | letter :: mark :: rest =>
      have isLetter : letter.isAlpha = true := by
        simp only [startsWithDrive, Bool.and_eq_true] at drive
        obtain ⟨first, _, same, isLetter, -⟩ := isDrive_iff.mp drive.1
        cases same
        exact isLetter
      have noSlash : isSlash true letter = false := by
        rw [← Bool.not_eq_true]
        intro slash
        simp only [isSlash, Bool.true_and, Bool.or_eq_true, beq_iff_eq] at slash
        rcases slash with rfl | rfl <;> revert isLetter <;> decide
      have goesOn : ¬(letter = '?' ∨ letter = '#') := by
        rintro (rfl | rfl) <;> revert isLetter <;> decide
      simp only [readFile, noSlash, Bool.false_and, Bool.false_eq_true,
        if_false, readFile.single, goesOn, drive, if_true] at read
      cases read
      have path := weight_withPathFrom_le emptyFile [] (letter :: mark :: rest)
      rwa [segmentsWeight_nil, Nat.zero_add] at path

/-- What is not put below the directory says less than the directory and the
text together. -/
theorem weight_join_lt {base url : Url} {text : String}
    (isFile : base.scheme = "file")
    (rooted : base.isOpaque = false) (some_ : 0 < base.path.weight)
    (whole : significant text = text.toList)
    (apart : (splitScheme? text.toList).isSome = true ∨
      startsWithDrive text.toList = true)
    (joined : base.join text = .ok url) :
    url.path.weight < base.path.weight + textWeight text.toList := by
  unfold join readWith at joined
  rw [whole] at joined
  simp only at joined
  split at joined
  · next scheme rest found =>
      have less := textWeight_scheme found
      split at joined
      · next same =>
          simp only [isFile, Option.filter_some, decide_true, if_true] at joined
          have path := weight_readFile_le joined
          omega
      · next notFile =>
          have other : ¬(base.scheme = scheme ∧ countSlashes rest < 2) := by
            rw [isFile]
            exact fun same => notFile same.1.symm
          have dropped := textWeight_dropWhile_isSlash rest
          split at joined
          · have path := weight_readFromAuthority_le joined
            omega
          · have path := weight_readPlain_le joined
            omega
  · next none_ =>
      rw [none_] at apart
      have drive := apart.resolve_left (by simp)
      simp only [rooted, isFile, Bool.false_eq_true, if_false,
        if_true] at joined
      have path := weight_readFile_drive_le drive joined
      omega

theorem weight_pathBytes (names : List (List UInt8)) :
    weight (pathBytes names) = (names.map weight).sum := by
  induction names with
  | nil => rfl
  | cons name names induction =>
      rw [pathBytes, List.flatMap_cons, ← pathBytes, weight_append,
        weight_slash, induction, List.map_cons, List.sum_cons]

theorem weight_ofDirectory (directory : String) :
    (ofDirectory directory).path.weight =
      namesWeight (pathNames directory) := by
  have names : ((pathNames directory).map directorySegment).map (fun segment =>
      textWeight segment.toList) =
    (pathNames directory).map fun name => weight (Utf8.encode name) := by
    rw [List.map_map]
    refine List.map_congr_left ?_
    intro name _
    simp only [Function.comp_apply, textWeight, unescape_directorySegment]
  rw [path_ofDirectory, Path.weight, segmentsWeight_append, segmentsWeight,
    names]
  rfl

theorem textWeight_joinNames (segments : List String) :
    textWeight (joinNames segments).toList = segmentsWeight segments := by
  induction segments with
  | nil => rfl
  | cons segment segments induction =>
      cases segments with
      | nil => simp [joinNames]
      | cons next segments =>
          have text : (joinNames (segment :: next :: segments)).toList =
              segment.toList ++
                '/' :: (joinNames (next :: segments)).toList := by
            rw [joinNames, String.toList_append, String.toList_append,
              List.append_assoc]
            rfl
          rw [text, textWeight_slash, induction, ← segmentsWeight_cons]

/-- A text that is no address of its own begins with a segment that is none. -/
theorem isRelative_of_joinNames {first : String} {others : List String}
    (written : IsWritten first) (nonempty : first ≠ "")
    (noScheme : (splitScheme? (joinNames (first :: others)).toList).isSome =
      false)
    (noDrive : startsWithDrive (joinNames (first :: others)).toList = false) :
    IsRelative first := by
  rcases joinNames_cons first others with alone | ⟨rest, more⟩
  · rw [alone] at noScheme noDrive
    exact ⟨nonempty, noScheme, startsWithDrive_inner written.isInner ▸ noDrive⟩
  · rw [more] at noScheme noDrive
    rw [splitScheme?_slash] at noScheme
    rw [startsWithDrive_slash written.isInner] at noDrive
    exact ⟨nonempty, noScheme, noDrive⟩

/-- The path of a file says no more than the address of the route state, and
less when this begins like an address of its own. -/
theorem weight_fileFor? {directory : String}
    (heavy : 0 < namesWeight (pathNames directory)) {url : Url}
    {segments : List String}
    (path : url.path = .rooted (segments ++ ["index.json"]))
    (written : ∀ segment ∈ segments ++ ["index.json"], IsWritten segment)
    {bytes : List UInt8} (named : fileFor? directory url = some bytes) :
    weight bytes <
        namesWeight (pathNames directory) +
          segmentsWeight (segments ++ ["index.json"]) ∨
      weight bytes ≤
          namesWeight (pathNames directory) +
            segmentsWeight (segments ++ ["index.json"]) ∧
        ∀ first ∈ (segments.dropWhile (· == "") ++ ["index.json"]).head?,
          IsRelative first := by
  have text := pathText_index path written
  have lighter :
      segmentsWeight (segments.dropWhile (· == "") ++ ["index.json"]) ≤
        segmentsWeight (segments ++ ["index.json"]) :=
    segmentsWeight_sublist
      ((List.dropWhile_sublist _).append (List.Sublist.refl _))
  have inside :
      ∀ segment ∈ segments.dropWhile (· == "") ++ ["index.json"],
        IsWritten segment := by
    intro segment member
    rw [← dropWhile_empty_index] at member
    exact written segment ((List.dropWhile_sublist _).subset member)
  by_cases apart : (splitScheme?
      (joinNames
        (segments.dropWhile (· == "") ++ ["index.json"])).toList).isSome =
      true ∨
    startsWithDrive
      (joinNames (segments.dropWhile (· == "") ++ ["index.json"])).toList = true
  · left
    have shown :
        significant
            (joinNames (segments.dropWhile (· == "") ++ ["index.json"])) =
          (joinNames
            (segments.dropWhile (· == "") ++ ["index.json"])).toList := by
      refine significant_of_shown ?_
      intro character member
      rcases mem_joinNames member with rfl | ⟨segment, isSegment, among⟩
      · decide
      · exact (inside segment isSegment).shown among
    unfold fileFor? at named
    rw [text] at named
    split at named
    · next file joined =>
        have isFile : (ofDirectory directory).scheme = "file" := rfl
        have rooted : (ofDirectory directory).isOpaque = false := rfl
        have less :=
          weight_join_lt isFile rooted
            (weight_ofDirectory directory ▸ heavy) shown apart joined
        rw [weight_filePathBytes? named]
        rw [weight_ofDirectory, textWeight_joinNames] at less
        omega
    · cases named
  · right
    rw [not_or, Bool.not_eq_true, Bool.not_eq_true] at apart
    obtain ⟨noScheme, noDrive⟩ := apart
    have begins :
        ∀ first ∈ (segments.dropWhile (· == "") ++ ["index.json"]).head?,
          IsRelative first := by
      intro first isFirst
      obtain ⟨others, spelled⟩ := List.head?_eq_some_iff.mp isFirst
      rw [spelled] at noScheme noDrive inside
      refine isRelative_of_joinNames (inside first List.mem_cons_self) ?_
        noScheme noDrive
      have stops := List.head?_dropWhile_not (· == "") segments
      cases kept : segments.dropWhile (· == "") with
      | nil =>
          rw [kept] at isFirst
          cases isFirst
          decide
      | cons segment later =>
          rw [kept] at isFirst stops
          cases isFirst
          simpa using stops
    have below : pathNames directory ≠ [] := by
      intro none_
      rw [none_] at heavy
      cases heavy
    have same := (fileFor?_relative below path written begins).symm.trans named
    rw [← Option.some.inj same, weight_pathBytes, List.map_append,
      List.sum_append_nat, List.map_map, List.map_map]
    exact ⟨Nat.add_le_add_left lighter _, begins⟩

end LessonSite.Url
