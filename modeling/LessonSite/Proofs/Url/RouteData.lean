import LessonSite.Client.RouteData
import LessonSite.Proofs.Url.Write

/-!
# Addresses of route states

The address of a route state is made as a text: the text of the page's directory
with a name behind it.  For an address whose segments are written as they stand,
the last segment is exchanged, or one more is added.
-/

namespace LessonSite.Url

/-- The segments of the address of the route state of a page. -/
def dataSegments (segments : List String) : List String :=
  if segments.getLast? = some "" ∨ segments.getLast? = some "index.html" then
    segments.dropLast ++ ["index.json"]
  else segments ++ ["index.json"]

theorem dataSegments_concat (segments : List String) (last : String) :
    dataSegments (segments ++ [last]) =
      if last = "" ∨ last = "index.html" then segments ++ ["index.json"]
      else segments ++ [last] ++ ["index.json"] := by
  simp [dataSegments]

theorem isWritten_indexJson : IsWritten "index.json" where
  kept := by decide
  noSlash := by decide
  noBackslash := by decide
  moves := by decide
  down := by decide

theorem isWritten_indexHtml : IsWritten "index.html" where
  kept := by decide
  noSlash := by decide
  noBackslash := by decide
  moves := by decide
  down := by decide

theorem isWritten_dataSegments {segments : List String}
    (written : ∀ segment ∈ segments, IsWritten segment) :
    ∀ segment ∈ dataSegments segments, IsWritten segment := by
  intro segment member
  unfold dataSegments at member
  split at member
  · rcases List.mem_append.mp member with inside | last
    · exact written segment (List.dropLast_subset _ inside)
    · exact List.mem_singleton.mp last ▸ isWritten_indexJson
  · rcases List.mem_append.mp member with inside | last
    · exact written segment inside
    · exact List.mem_singleton.mp last ▸ isWritten_indexJson

theorem dataSegments_ne_nil (segments : List String) :
    dataSegments segments ≠ [] := by
  unfold dataSegments
  split <;> simp

theorem eq_of_append_slash {first second : List Char} {left right : List Char}
    (same : left ++ '/' :: first = right ++ '/' :: second)
    (noSlash : '/' ∉ first)
    (alsoNot : '/' ∉ second) : left = right ∧ first = second := by
  have parts := congrArg (Text.splitChars '/') same
  rw [Text.splitChars_append, Text.splitChars_append,
    Text.splitChars_of_not_mem noSlash,
    Text.splitChars_of_not_mem alsoNot] at parts
  have last := (List.append_inj' parts rfl).2
  cases List.cons.inj last |>.1
  exact ⟨List.append_cancel_right same, rfl⟩

theorem beforeEnd?_slash {name last : String} (noSlash : '/' ∉ name.toList)
    (alsoNot : '/' ∉ last.toList) (stem : String) :
    Text.beforeEnd? ("/" ++ name) (stem ++ "/" ++ last) =
      if last = name then some stem else none := by
  split
  · next same =>
      rw [Text.beforeEnd?_eq_some_iff, same, String.append_assoc]
  · next different =>
      rw [Option.eq_none_iff_forall_ne_some]
      intro before same
      rw [Text.beforeEnd?_eq_some_iff] at same
      have characters := congrArg String.toList same
      simp only [String.toList_append, List.append_assoc] at characters
      have tails := eq_of_append_slash characters alsoNot noSlash
      exact different (String.toList_inj.mp tails.2)

private theorem beforeEnd?_empty {last : String} (noSlash : '/' ∉ last.toList)
    (stem : String) :
    Text.beforeEnd? "/" (stem ++ "/" ++ last) =
      if last = "" then some stem else none :=
  @beforeEnd?_slash "" last List.not_mem_nil noSlash stem

private theorem beforeEnd?_indexHtml {last : String}
    (noSlash : '/' ∉ last.toList) (stem : String) :
    Text.beforeEnd? "/index.html" (stem ++ "/" ++ last) =
      if last = "index.html" then some stem else none :=
  @beforeEnd?_slash "index.html" last isWritten_indexHtml.noSlash noSlash stem

/-- The directory of the page at a path: the path without a final `/index.html`,
or else without a final slash. -/
def pageDirectory (path : String) : String :=
  match Text.beforeEnd? "/index.html" path with
  | some directory => directory
  | none => (Text.beforeEnd? "/" path).getD path

/-- The path means the page of a directory.  A path without a slash at its end
does so by itself, unless it means the page of the directory above. -/
inductive Spells (directory : String) : String → Prop where
  | index : Spells directory (directory ++ "/index.html")
  | slash : Spells directory (directory ++ "/")
  | bare (noSlash : Text.endsWith "/" directory = false)
      (noIndex : Text.endsWith "/index.html" directory = false) :
      Spells directory directory

theorem pageDirectory_concat {last : String} (noSlash : '/' ∉ last.toList)
    (stem : String) :
    pageDirectory (stem ++ "/" ++ last) =
      if last = "" ∨ last = "index.html" then
        stem
      else stem ++ "/" ++ last := by
  unfold pageDirectory
  rw [beforeEnd?_indexHtml noSlash, beforeEnd?_empty noSlash]
  by_cases index : last = "index.html"
  · simp [index]
  · by_cases empty : last = ""
    · simp [empty]
    · simp [index, empty]

theorem pageDirectory_eq_iff {path directory : String} :
    pageDirectory path = directory ↔ Spells directory path := by
  constructor
  · rintro rfl
    unfold pageDirectory
    cases index : Text.beforeEnd? "/index.html" path with
    | some directory =>
        rw [Text.beforeEnd?_eq_some_iff.mp index]
        exact .index
    | none =>
        cases slash : Text.beforeEnd? "/" path with
        | some directory =>
            rw [Text.beforeEnd?_eq_some_iff.mp slash]
            exact .slash
        | none =>
            refine .bare ?_ ?_
            · simp [Text.endsWith, slash]
            · simp [Text.endsWith, index]
  · intro spells
    cases spells with
    | index =>
        have stem := pageDirectory_concat isWritten_indexHtml.noSlash directory
        rwa [String.append_assoc, if_pos (.inr rfl)] at stem
    | slash =>
        have stem := @pageDirectory_concat "" List.not_mem_nil directory
        rwa [String.append_empty, if_pos (.inl rfl)] at stem
    | bare noSlash noIndex =>
        rw [Text.endsWith, Option.isSome_eq_false_iff,
          Option.isNone_iff_eq_none] at noSlash noIndex
        unfold pageDirectory
        rw [noIndex, noSlash]
        rfl

/-- The text of an address is treated as a path would be. -/
theorem routeDataHref_eq (href : String) :
    routeDataHref href = pageDirectory href ++ "/index.json" := by
  obtain ⟨directory, isDirectory⟩ : ∃ directory,
    pageDirectory href = directory := ⟨_, rfl⟩
  rw [isDirectory]
  cases pageDirectory_eq_iff.mp isDirectory with
  | index =>
      have noSlash := beforeEnd?_empty isWritten_indexHtml.noSlash directory
      have index := beforeEnd?_indexHtml isWritten_indexHtml.noSlash directory
      have whole :
          directory ++ "/" ++ "index.html" = directory ++ "/index.html" :=
        String.append_assoc ..
      rw [whole, if_neg (by decide)] at noSlash
      rw [whole, if_pos rfl] at index
      simp only [routeDataHref, Text.endsWith, noSlash, index,
        Option.isSome_none, Bool.false_eq_true, if_false]
  | slash =>
      have ends : Text.endsWith "/" (directory ++ "/") = true := by
        rw [Text.endsWith, Text.beforeEnd?_eq_some_iff.mpr rfl]
        rfl
      rw [routeDataHref, if_pos ends, String.append_assoc]
      rfl
  | bare noSlash noIndex =>
      rw [Text.endsWith, Option.isSome_eq_false_iff,
        Option.isNone_iff_eq_none] at noIndex
      simp only [routeDataHref, noSlash, noIndex, Bool.false_eq_true, if_false]

theorem write_concat (segments : List String) (last : String) :
    (Path.rooted (segments ++ [last])).write =
      (Path.rooted segments).write ++ "/" ++ last := by
  simp [Path.write, String.join_append, String.append_assoc]

/-- The route state of a page lies in the directory of the page, whatever stands
before the path. -/
theorem append_write_dataSegments (site : String) {segments : List String}
    (some_ : segments ≠ [])
    (noSlash : ∀ segment ∈ segments, '/' ∉ segment.toList) :
    site ++ (Path.rooted (dataSegments segments)).write =
      pageDirectory (site ++ (Path.rooted segments).write) ++
        "/index.json" := by
  obtain rfl | ⟨before, last, rfl⟩ := List.eq_nil_or_concat segments
  · exact absurd rfl some_
  · rw [List.concat_eq_append] at noSlash ⊢
    have plain := noSlash last (List.mem_append_right _ List.mem_cons_self)
    have further : ∀ (all : List String) (name : String),
        site ++ (Path.rooted (all ++ [name])).write =
          site ++ (Path.rooted all).write ++ "/" ++ name := by
      intro all name
      simp only [write_concat, String.append_assoc]
    have name : "/index.json" = "/" ++ "index.json" := rfl
    rw [dataSegments_concat, further, pageDirectory_concat plain, name,
      ← String.append_assoc]
    split
    · rw [further]
    · rw [further, further]

theorem write_dataSegments {segments : List String} (some_ : segments ≠ [])
    (noSlash : ∀ segment ∈ segments, '/' ∉ segment.toList) :
    (Path.rooted (dataSegments segments)).write =
      pageDirectory (Path.rooted segments).write ++ "/index.json" := by
  have alone := append_write_dataSegments "" some_ noSlash
  rwa [String.empty_append, String.empty_append] at alone

/-- Paths that are written alike have the same segments. -/
theorem rooted_write_inj {segments others : List String} (some_ : segments ≠ [])
    (alsoSome : others ≠ [])
    (noSlash : ∀ segment ∈ segments, '/' ∉ segment.toList)
    (alsoNot : ∀ segment ∈ others, '/' ∉ segment.toList) :
    (Path.rooted segments).write = (Path.rooted others).write ↔
      segments = others := by
  refine ⟨fun same => ?_, fun same => by rw [same]⟩
  rw [write_rooted some_, write_rooted alsoSome] at same
  have names := (String.append_right_inj "/").mp same
  rw [← pathNames_joinNames some_ noSlash, names,
    pathNames_joinNames alsoSome alsoNot]

/-- Addresses on one site are written alike up to their paths. -/
theorem exists_write_onSite {url : Url} (isHosted : url.IsHosted) :
    ∃ site,
      ∀ segments,
        (url.onSite segments).write = site ++ (Path.rooted segments).write := by
  obtain ⟨host, isHost, -⟩ := isHosted.host
  have authority :
      ∀ segments,
        (url.onSite segments).authorityText =
          (url.onSite []).authorityText := by
    intro segments
    have known : ∀ all, (url.onSite all).host = some host := fun all => isHost
    unfold authorityText
    rw [known, known]
    rfl
  refine ⟨url.scheme ++ ":" ++ (url.onSite []).authorityText,
    fun segments => ?_⟩
  have path : (url.onSite segments).pathText = (Path.rooted segments).write :=
    rfl
  have scheme : (url.onSite segments).scheme = url.scheme := rfl
  have query : optionalPart "?" (url.onSite segments).query = "" := rfl
  have fragment : optionalPart "#" (url.onSite segments).fragment = "" := rfl
  rw [write, scheme, authority, path, query, fragment, String.append_empty,
    String.append_empty]

theorem routeDataHref_write {url : Url} (isHosted : url.IsHosted)
    {segments : List String}
    (some_ : segments ≠ [])
    (noSlash : ∀ segment ∈ segments, '/' ∉ segment.toList) :
    routeDataHref (url.onSite segments).write =
      (url.onSite (dataSegments segments)).write := by
  obtain ⟨site, written⟩ := exists_write_onSite isHosted
  rw [routeDataHref_eq, written, written,
    append_write_dataSegments site some_ noSlash]

theorem IsHosted.routeData {url : Url} (isHosted : url.IsHosted)
    {segments : List String}
    (path : url.path = .rooted segments) (some_ : segments ≠ [])
    (written : ∀ segment ∈ segments, IsWritten segment) :
    url.routeData = .ok (url.onSite (dataSegments segments)) := by
  have bare : url.bare = url.onSite segments := by
    rw [Url.bare, Url.onSite, path]
    rfl
  rw [Url.routeData, bare,
    routeDataHref_write isHosted some_ fun segment member =>
      (written segment member).noSlash]
  simp only [isHosted.parse_write (dataSegments_ne_nil segments)
      (isWritten_dataSegments written),
    mapError_ok]

end LessonSite.Url
