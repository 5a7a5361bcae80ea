import LessonSite.Proofs.Url.RouteData
import LessonSite.Url.Reader

/-!
# Addresses below one site

Where a text that begins with a slash leads to from an address on the web
depends on little of that address: on its scheme, if the text goes on with a
second slash and so names a host, and else on its scheme, user, host and port.
So it leads to the same place from every page of a site, and from the place that
it leads to itself.  A text that begins with one slash is resolved from the top
of the site, segment after segment, and whatever it leads to is written as it
stands in an address.
-/

namespace LessonSite.Url

section Rooted

/-- The addresses are reached in the same way, their paths aside. -/
structure SharesSite (first second : Url) : Prop where
  scheme : second.scheme = first.scheme
  username : second.username = first.username
  password : second.password = first.password
  host : second.host = first.host
  port : second.port = first.port

/-- The text begins with two slashes of either kind, when what is ignored in
addresses is left out. -/
def NamesHost (text : String) : Prop :=
  2 ≤ countSlashes (significant text)

instance (text : String) : Decidable (NamesHost text) :=
  inferInstanceAs (Decidable (_ ≤ _))

/-- The text begins with a slash. -/
def IsRooted (text : String) : Prop :=
  ∃ rest, significant text = '/' :: rest

variable {base other url : Url} {text : String}

theorem IsWeb.join_rooted (isWeb : base.IsWeb) {rest : List Char}
    (spelled : significant text = '/' :: rest) :
    base.join text = readRelative base ('/' :: rest) := by
  have noScheme : splitScheme? ('/' :: rest) = none := rfl
  unfold join readWith
  simp only [spelled, noScheme, isWeb.rooted, isWeb.not_file,
    Bool.false_eq_true, if_false]

/-- A text that begins with one slash is a path from the top. -/
theorem IsWeb.join_single (isWeb : base.IsWeb) {rest : List Char}
    (spelled : significant text = '/' :: rest)
    (single : ¬ NamesHost text) :
    base.join text = .ok (base.withPathFrom [] rest) := by
  have few : ¬ countSlashes ('/' :: rest) ≥ 2 := by
    rwa [NamesHost, spelled] at single
  rw [isWeb.join_rooted spelled]
  exact if_neg few

/-- A text that begins with a slash is read as one that names a host or as a
path from the top. -/
theorem IsWeb.join_cases (rooted : IsRooted text) :
    (NamesHost text ∧ ∃ input, ∀ base : Url, base.IsWeb →
        base.join text = readFromAuthority base.scheme input) ∨
      (¬ NamesHost text ∧ ∃ rest, ∀ base : Url, base.IsWeb →
        base.join text = .ok (base.withPathFrom [] rest)) := by
  obtain ⟨rest, spelled⟩ := rooted
  by_cases names : NamesHost text
  · have several : countSlashes ('/' :: rest) ≥ 2 := by
      rwa [NamesHost, spelled] at names
    exact .inl
      ⟨names, _, fun base isWeb =>
        (isWeb.join_rooted spelled).trans (if_pos several)⟩
  · exact .inr ⟨names, rest, fun base isWeb => isWeb.join_single spelled names⟩

theorem isOpaque_pathAfterAuthority (scheme : String) (input : List Char) :
    ∃ segments, pathAfterAuthority scheme input = .rooted segments := by
  unfold pathAfterAuthority
  split
  · split <;> exact ⟨_, rfl⟩
  · split <;> exact ⟨_, rfl⟩

theorem readFromAuthority_eq_ok {scheme : String} {input : List Char}
    (read : readFromAuthority scheme input = .ok url) :
    url.scheme = scheme ∧ url.isOpaque = false := by
  unfold readFromAuthority at read
  cases authority : readAuthority scheme input with
  | error fault =>
      rw [authority] at read
      cases read
  | ok found =>
      rw [authority] at read
      cases read
      obtain ⟨segments, rooted⟩ := isOpaque_pathAfterAuthority scheme
        (found.2.takeWhile fun character => !endsPath character)
      refine ⟨rfl, ?_⟩
      simp only [isOpaque, rooted]

/-- What such a text leads to is on the web, and on the same site unless it
names a host. -/
theorem IsWeb.join_eq_ok (isWeb : base.IsWeb) (rooted : IsRooted text)
    (joined : base.join text = .ok url) :
    url.IsWeb ∧ url.scheme = base.scheme ∧
      (¬ NamesHost text → base.SharesSite url) := by
  rcases IsWeb.join_cases rooted with ⟨names, input, reads⟩ | ⟨-, rest, reads⟩
  · rw [reads base isWeb] at joined
    obtain ⟨scheme, notOpaque⟩ := readFromAuthority_eq_ok joined
    refine ⟨⟨?_, notOpaque⟩, scheme, fun not => absurd names not⟩
    rw [scheme]
    exact isWeb.scheme
  · rw [reads base isWeb] at joined
    cases joined
    exact ⟨⟨isWeb.scheme, rfl⟩, rfl, fun _ => ⟨rfl, rfl, rfl, rfl, rfl⟩⟩

/-- A text that names a host leads to the same place from everywhere on the web
with the same scheme. -/
theorem IsWeb.join_of_namesHost (isWeb : base.IsWeb) (isWeb' : other.IsWeb)
    (rooted : IsRooted text)
    (scheme : other.scheme = base.scheme) (names : NamesHost text) :
    other.join text = base.join text := by
  rcases IsWeb.join_cases rooted with ⟨-, input, reads⟩ | ⟨not, -⟩
  · rw [reads base isWeb, reads other isWeb', scheme]
  · exact absurd names not

/-- A text that begins with a slash leads to the same place from everywhere on a
site. -/
theorem IsWeb.join_of_sharesSite (isWeb : base.IsWeb) (isWeb' : other.IsWeb)
    (rooted : IsRooted text)
    (shares : base.SharesSite other) : other.join text = base.join text := by
  rcases IsWeb.join_cases rooted with ⟨names, -⟩ | ⟨-, rest, reads⟩
  · exact isWeb.join_of_namesHost isWeb' rooted shares.scheme names
  · obtain ⟨scheme, username, password, host, port⟩ := shares
    rw [reads base isWeb, reads other isWeb']
    unfold withPathFrom
    rw [scheme, username, password, host, port]

/-- A text that begins with a slash leads from where it leads to that same
place. -/
theorem IsWeb.join_join (isWeb : base.IsWeb) (rooted : IsRooted text)
    (joined : base.join text = .ok url) :
    url.join text = .ok url := by
  obtain ⟨isWeb', scheme, shares⟩ := isWeb.join_eq_ok rooted joined
  rw [← joined]
  by_cases names : NamesHost text
  · exact isWeb.join_of_namesHost isWeb' rooted scheme names
  · exact isWeb.join_of_sharesSite isWeb' rooted (shares names)

end Rooted

/-- Where a segment leads from some directories. -/
def enter (directories : List String) (segment : String) : List String :=
  if isAbove segment then goUp directories
  else if isHere segment then directories
  else directories ++ [segment]

/-- Characters that may stand in a segment of a path. -/
def IsInner (text : List Char) : Prop :=
  ∀ character ∈ text,
    isSlash true character = false ∧ endsPath character = false

instance (text : List Char) : Decidable (IsInner text) :=
  decidable_of_iff
    (text.all
      (fun character => !isSlash true character && !endsPath character) = true)
    (by
      simp only [List.all_eq_true, Bool.and_eq_true, Bool.not_eq_true',
        IsInner])

theorem splitPath_ne_nil (special : Bool) (text : List Char) :
    splitPath special text ≠ [] := by
  simp [splitPath, Text.splitChars_ne_nil]

theorem splitPath_slash {text : List Char} (inner : IsInner text)
    (rest : List Char) :
    splitPath true (text ++ '/' :: rest) =
      pathSegment (String.ofList text) :: splitPath true rest := by
  have same :
      text.map
        (fun character => if isSlash true character then '/' else character) =
        text := by
    refine (List.map_congr_left ?_).trans (List.map_id _)
    intro character member
    rw [(inner character member).1]
    rfl
  have noSlash : '/' ∉ text := by
    intro member
    exact absurd (inner '/' member).1 (by decide)
  have slash : (if isSlash true '/' then '/' else '/') = '/' := rfl
  simp only [splitPath, List.map_append, List.map_cons, same, slash,
    Text.splitChars_append, Text.splitChars_of_not_mem noSlash, pathSegment,
    String.toList_ofList]
  rfl

theorem walk_enter (directories : List String) (segment : String)
    {rest : List String} (more : rest ≠ []) :
    walk false directories (segment :: rest) =
      walk false (enter directories segment) rest := by
  obtain ⟨next, others, rfl⟩ := List.exists_cons_of_ne_nil more
  rw [walk, enter, keepSegment_eq (.inl rfl)]
  split
  · rfl
  · split <;> rfl

/-- The first segment of a path is entered, and the others are followed from
there. -/
theorem IsHttp.withPathFrom_slash {base : Url} (isHttp : base.IsHttp)
    (directories : List String)
    {text : List Char} (inner : IsInner text) (rest : List Char) :
    base.withPathFrom directories (text ++ '/' :: rest) =
      base.withPathFrom
        (enter directories (pathSegment (String.ofList text))) rest := by
  have stays : ∀ character ∈ text ++ ['/'], (!endsPath character) = true := by
    intro character member
    rcases List.mem_append.mp member with inside | slash
    · rw [(inner character inside).2]
      rfl
    · cases List.mem_singleton.mp slash
      decide
  have notFile : (base.scheme == "file") = false := by
    simpa using isHttp.isWeb.not_file
  have whole : text ++ '/' :: rest = (text ++ ['/']) ++ rest := by simp
  unfold withPathFrom
  rw [whole, List.takeWhile_append_of_pos stays,
    List.dropWhile_append_of_pos stays]
  simp only [resolvePath, notFile, isHttp.isWeb.isSpecial, List.append_assoc,
    List.cons_append, List.nil_append, splitPath_slash inner,
    walk_enter _ _ (splitPath_ne_nil _ _)]

theorem IsHttp.withPathFrom {base : Url} (isHttp : base.IsHttp)
    (directories : List String)
    (text : List Char) : (base.withPathFrom directories text).IsHttp :=
  ⟨isHttp.scheme, isHttp.username, isHttp.password, isHttp.host, isHttp.port,
    rfl⟩

/-- A text that begins with one slash is resolved from the top of the site. -/
theorem IsHttp.join_slash {base : Url} (isHttp : base.IsHttp) {text : String}
    {rest : List Char} (spelled : significant text = '/' :: rest)
    (begins : ∀ first ∈ rest.head?, isSlash true first = false) :
    base.join text = .ok (base.withPathFrom [] rest) := by
  refine isHttp.isWeb.join_single spelled ?_
  rw [NamesHost, spelled, countSlashes, List.takeWhile_cons_of_pos (by decide)]
  cases rest with
  | nil => decide
  | cons first others =>
      rw [List.takeWhile_cons_of_neg (by simp [begins first rfl])]
      decide

/-- A text that begins with two slashes names a host, wherever it stands. -/
theorem exists_join_slashes {text : String} {first : Char} {rest : List Char}
    (spelled : significant text = '/' :: first :: rest)
    (slash : isSlash true first = true) :
    ∃ input,
      ∀ base : Url,
        base.IsHttp → base.join text = readFromAuthority base.scheme input := by
  have names : NamesHost text := by
    rw [NamesHost, spelled, countSlashes,
      List.takeWhile_cons_of_pos (by decide), List.takeWhile_cons_of_pos slash]
    simp
  rcases IsWeb.join_cases ⟨_, spelled⟩ with ⟨-, input, reads⟩ | ⟨not, -⟩
  · exact ⟨input, fun base isHttp => reads base isHttp.isWeb⟩
  · exact absurd names not

/-- A segment of a path without a meaning of its own is written as it stands. -/
theorem isWritten_of_mem_splitPath {text : List Char} {segment : String}
    (member : segment ∈ splitPath true text) (moves : isHere segment = false)
    (down : isAbove segment = false) : IsWritten segment := by
  obtain ⟨part, isPart, rfl⟩ := List.mem_map.mp member
  have noMark : ∀ mark, isSlash true mark = true →
      mark ∉ (String.ofList (escape EscapeSet.path part)).toList := by
    intro mark isMark inside
    have literal : mark ≠ '%' ∧ hexValue? mark = none := by
      simp only [isSlash, Bool.or_eq_true, beq_iff_eq, Bool.true_and] at isMark
      rcases isMark with rfl | rfl
      · decide
      · decide
    rw [String.toList_ofList] at inside
    rcases mem_escape inside with source | rfl | digit
    · obtain ⟨among, different⟩ := Text.mem_of_mem_splitChars isPart source
      obtain ⟨character, -, same⟩ := List.mem_map.mp among
      split at same
      · exact different same.symm
      · next plain => exact plain (same ▸ isMark)
    · exact literal.1 rfl
    · rw [literal.2] at digit
      cases digit
  refine ⟨?_, noMark '/' (by decide), noMark '\\' (by decide), moves, down⟩
  rw [String.toList_ofList]
  exact isKept_escape keepsEscapes_path part

theorem isWritten_empty : IsWritten "" where
  kept := by simp [EscapeSet.IsKept]
  noSlash := by simp
  noBackslash := by simp
  moves := by decide
  down := by decide

theorem isWritten_walk {segments : List String} (above : ∀ segment ∈ segments,
      isHere segment = false → isAbove segment = false → IsWritten segment)
    {directories : List String}
    (written : ∀ segment ∈ directories, IsWritten segment) :
    ∀ segment ∈ walk false directories segments, IsWritten segment := by
  induction segments generalizing directories with
  | nil => exact written
  | cons segment segments induction =>
      have up : ∀ other ∈ goUp directories, IsWritten other := by
        intro other member
        unfold goUp at member
        split at member
        · split at member
          · exact written other member
          · exact written other (List.dropLast_subset _ member)
        · cases member
      have last :
          ∀ {all : List String} {other : String}, (∀ one ∈ all, IsWritten one) →
            IsWritten other → ∀ one ∈ all ++ [other], IsWritten one := by
        intro all other first second one member
        rcases List.mem_append.mp member with inside | isLast
        · exact first one inside
        · exact List.mem_singleton.mp isLast ▸ second
      cases segments with
      | nil =>
          rw [walk, keepSegment_eq (.inl rfl)]
          split
          · exact last up isWritten_empty
          · next down =>
              split
              · exact last written isWritten_empty
              · next moves =>
                  exact last written
                    (above segment List.mem_cons_self (by simpa using moves)
                      (by simpa using down))
      | cons next others =>
          have later := fun {other} inner => @induction
            (fun one member => above one (List.mem_cons_of_mem _ member)) other
            inner
          rw [walk_enter _ _ (List.cons_ne_nil next others), enter]
          split
          · exact later up
          · next down =>
              split
              · exact later written
              · next moves =>
                  exact later
                    (last written
                      (above segment List.mem_cons_self (by simpa using moves)
                        (by simpa using down)))

theorem walk_ne_nil (file : Bool) (directories : List String)
    {segments : List String}
    (some_ : segments ≠ []) : walk file directories segments ≠ [] := by
  induction segments generalizing directories with
  | nil => exact absurd rfl some_
  | cons segment segments induction =>
      cases segments with
      | nil =>
          rw [walk]
          repeat' split
          all_goals simp
      | cons next others =>
          rw [walk]
          repeat' split
          all_goals exact induction _ (List.cons_ne_nil next others)

/-- A path that is followed from written directories leads to written
segments. -/
theorem exists_resolvePath {scheme : String} (special : isSpecial scheme = true)
    (notFile : scheme ≠ "file")
    {directories : List String}
    (written : ∀ segment ∈ directories, IsWritten segment) (text : List Char) :
    ∃ segments,
      resolvePath scheme directories text = .rooted segments ∧ segments ≠ [] ∧
        segments = walk false directories (splitPath true text) ∧
        ∀ segment ∈ segments, IsWritten segment := by
  have noFile : (scheme == "file") = false := by simpa using notFile
  refine ⟨_, ?_, walk_ne_nil _ _ (splitPath_ne_nil _ _), rfl,
    isWritten_walk ?_ written⟩
  · simp only [resolvePath, noFile, special, Bool.false_eq_true, if_false]
  · intro segment member moves down
    exact isWritten_of_mem_splitPath member moves down

/-- The path of an address that is resolved on a site is written as it
stands. -/
theorem IsHttp.exists_path {base : Url} (isHttp : base.IsHttp)
    (text : List Char) :
    ∃ segments,
      (base.withPathFrom [] text).path = .rooted segments ∧ segments ≠ [] ∧
        segments =
          walk false []
            (splitPath true
              (text.takeWhile fun character => !endsPath character)) ∧
        ∀ segment ∈ segments, IsWritten segment :=
  exists_resolvePath isHttp.isWeb.isSpecial isHttp.isWeb.not_file
    (List.forall_mem_nil _) _

theorem IsHttp.origin? {base : Url} (isHttp : base.IsHttp) :
    base.origin? = base.host.bind fun host =>
      (usualPort? base.scheme).map fun usual =>
        ⟨base.scheme, host, base.port.getD usual⟩ := by
  have notBlob : base.scheme ≠ "blob" := by
    rcases isHttp.scheme with same | same
    · rw [same]
      decide
    · rw [same]
      decide
  unfold Url.origin? originWithin
  simp only [notBlob, if_false]
  cases base.host <;> cases usualPort? base.scheme <;> rfl

theorem sameSite_iff {left right : Url} :
    left.sameSite right = true ↔
      ∃ origin, left.origin? = some origin ∧ right.origin? = some origin := by
  unfold Url.sameSite
  cases left.origin? <;> cases right.origin? <;> simp [eq_comm]

theorem IsHttp.sameSite {base : Url} (isHttp : base.IsHttp)
    (directories : List String)
    (text : List Char) :
    (base.withPathFrom directories text).sameSite base = true := by
  have target := (isHttp.withPathFrom directories text).origin?
  obtain ⟨host, isHost, -⟩ := isHttp.host
  have usual : ∃ port, usualPort? base.scheme = some port := by
    rcases isHttp.scheme with same | same
    · exact ⟨80, by rw [same]; decide⟩
    · exact ⟨443, by rw [same]; decide⟩
  obtain ⟨port, isUsual⟩ := usual
  have here := isHttp.origin?
  rw [isHost, isUsual] at here
  have there : (base.withPathFrom directories text).origin? = base.origin? := by
    rw [target, isHttp.origin?]
    rfl
  rw [Url.sameSite, there, here]
  exact decide_eq_true rfl

end LessonSite.Url
