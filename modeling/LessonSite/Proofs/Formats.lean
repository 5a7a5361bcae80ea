import LessonSite.Client.BodyView
import LessonSite.Playground.Worker
import LessonSite.Proofs.Lists
import LessonSite.Proofs.RouteState
import LessonSite.Template.Basic

/-!
# Texts that lose nothing

Route states, requests to a compiler and its answers are sent as JSON texts.
Each is read back as it was sent, just when its numbers fit what the reader has
for them; a route state that has been read fills the body of a page with the
texts that the page itself is made of.
-/

namespace LessonSite

namespace Json

/-- When no name repeats, a member is found by its name. -/
theorem soleMember?_eq_lookup {members : List (String × Json)}
    (distinct : (members.map Prod.fst).Nodup) (name : String) :
    soleMember? members name = some (members.lookup name) := by
  cases found : members.lookup name with
  | some value =>
      exact soleMember?_of_mem distinct (mem_of_lookup found)
  | none =>
      have absent : (members.filter fun member => member.1 = name) = [] := by
        refine List.filter_eq_nil_iff.mpr fun member inside => ?_
        have other :=
          bne_iff_ne.mp (List.lookup_eq_none_iff.mp found member inside)
        exact fun same => other (of_decide_eq_true same).symm
      rw [soleMember?, absent]

private theorem areFinite_of_forall {items : List Json}
    (finite : ∀ item ∈ items, item.isFinite = true) :
    areFinite items = true := by
  induction items with
  | nil => rfl
  | cons item items induction =>
      rw [areFinite, finite item List.mem_cons_self,
        induction fun other member =>
          finite other (List.mem_cons_of_mem _ member)]
      rfl

private theorem membersAreFinite_of_forall {members : List (String × Json)}
    (finite : ∀ member ∈ members, member.2.isFinite = true) :
    membersAreFinite members = true := by
  induction members with
  | nil => rfl
  | cons member members induction =>
      rw [membersAreFinite, finite member List.mem_cons_self,
        induction fun other inside =>
          finite other (List.mem_cons_of_mem _ inside)]
      rfl

/-- What is written without loss holds no number that is too large. -/
theorem IsExact.isFinite {depth : Nat} {value : Json}
    (exact_ : IsExact depth value) :
    value.isFinite = true := by
  induction exact_ with
  | null | bool | integer | string => rfl
  | array _ induction => exact areFinite_of_forall induction
  | object _ induction => exact membersAreFinite_of_forall induction

end Json

namespace Diagnostic

/-- The place of a diagnostic fits the 32 bits that a reader has for a line and
for a column. -/
structure IsCounted (diagnostic : Diagnostic) : Prop where
  line : ∀ line ∈ diagnostic.line, line < UInt32.size
  column : ∀ column ∈ diagnostic.column, column < UInt32.size

private theorem isExact_integer {value : Nat} (fits : value < UInt32.size)
    (depth : Nat) :
    Json.IsExact depth (.integer value) := by
  have wide : UInt32.size ≤ UInt64.size := by decide +kernel
  exact .integer depth (by omega) (by omega)

theorem isExact_toJson {diagnostic : Diagnostic}
    (counted : diagnostic.IsCounted) (depth : Nat) :
    Json.IsExact (depth + 1) diagnostic.toJson := by
  obtain ⟨message, severity, line, column⟩ := diagnostic
  obtain ⟨line_fits, column_fits⟩ := counted
  refine .object fun member inside => ?_
  rcases List.mem_cons.mp inside with rfl | inside
  · exact .string _ _
  rcases List.mem_cons.mp inside with rfl | inside
  · exact .string _ _
  rcases List.mem_append.mp inside with inside | inside
  · cases line with
    | none => cases inside
    | some line =>
        rw [List.mem_singleton.mp inside]
        exact isExact_integer (line_fits line rfl) depth
  · cases column with
    | none => cases inside
    | some column =>
        rw [List.mem_singleton.mp inside]
        exact isExact_integer (column_fits column rfl) depth

theorem severityOfJson?_name (severity : Severity) :
    severityOfJson? (.string severity.name) = some severity := by
  cases severity <;> decide

/-- The member of a diagnostic for a place that is known. -/
def positionJson (position : Option Nat) : Option Json :=
  match position with
  | none => none
  | some value => some (.integer value)

theorem positionOfJson?_positionJson {position : Option Nat}
    (counted : ∀ value ∈ position, value < UInt32.size) :
    positionOfJson? (positionJson position) = some position := by
  cases position with
  | none => rfl
  | some value =>
      have reads :
          Json.natBelow? UInt32.size (.integer (value : Int)) = some value :=
        if_pos (counted value rfl)
      rw [positionJson, positionOfJson?, reads]
      · rfl
      · simp

/-- Only what is known of its place is a member of a diagnostic. -/
theorem recordParts?_toJson (diagnostic : Diagnostic) :
    Json.recordParts? ["message"] ["severity", "line", "column"]
        diagnostic.toJson =
      some
        ([.string diagnostic.message], [some (.string diagnostic.severity.name),
          positionJson diagnostic.line, positionJson diagnostic.column]) := by
  obtain ⟨message, severity, line, column⟩ := diagnostic
  have look : ∀ members : List (String × Json), (members.map Prod.fst).Nodup →
      Json.recordParts? ["message"] ["severity", "line", "column"]
          (.object members) =
        (members.lookup "message").map fun text =>
          ([text], [members.lookup "severity",
            members.lookup "line", members.lookup "column"]) := by
    intro members distinct
    simp only [Json.recordParts?, Json.recordFields?, List.mapM_cons,
      List.mapM_nil, Json.soleMember?_eq_lookup distinct]
    cases members.lookup "message" <;> rfl
  cases line <;> cases column <;>
    exact look _ (by simp)

theorem ofJson?_toJson {diagnostic : Diagnostic}
    (counted : diagnostic.IsCounted) :
    ofJson? diagnostic.toJson = some diagnostic := by
  rw [ofJson?, recordParts?_toJson]
  change ((severityOfJson? (.string diagnostic.severity.name)).bind
    fun severity =>
      (positionOfJson? (positionJson diagnostic.line)).bind fun line =>
        (positionOfJson? (positionJson diagnostic.column)).bind fun column =>
          some { diagnostic with severity, line, column }) = some diagnostic
  rw [severityOfJson?_name, positionOfJson?_positionJson counted.line,
    positionOfJson?_positionJson counted.column]
  rfl

theorem isCounted_of_ofJson? {value : Json} {diagnostic : Diagnostic}
    (read : ofJson? value = some diagnostic) : diagnostic.IsCounted := by
  have fits : ∀ {field : Option Json} {position : Option Nat},
      positionOfJson? field = some position →
      ∀ value ∈ position, value < UInt32.size := by
    intro field position reads value known
    unfold positionOfJson? at reads
    split at reads
    · cases reads
      cases known
    · cases reads
      cases known
    · obtain ⟨number, below, same⟩ := Option.map_eq_some_iff.mp reads
      rw [← same, Option.mem_some_iff] at known
      exact known ▸ RouteState.natBelow?_lt below
  have placed :
      ∀ {message : String} {severity : Severity} {line column : Option Json},
        ((positionOfJson? line).bind fun line =>
          (positionOfJson? column).bind fun column =>
            some (Diagnostic.mk message severity line column)) =
          some diagnostic →
            diagnostic.IsCounted := by
    intro message severity line column reads
    obtain ⟨line, isLine, reads⟩ := Option.bind_eq_some_iff.mp reads
    obtain ⟨column, isColumn, reads⟩ := Option.bind_eq_some_iff.mp reads
    cases reads
    exact ⟨fits isLine, fits isColumn⟩
  unfold ofJson? at read
  obtain ⟨fields, -, read⟩ := Option.bind_eq_some_iff.mp read
  split at read
  · obtain ⟨_, -, read⟩ := Option.bind_eq_some_iff.mp read
    split at read
    · obtain ⟨_, -, read⟩ := Option.bind_eq_some_iff.mp read
      exact placed read
    · exact placed read
  · cases read

end Diagnostic

namespace CompileRequest

private def fileJson (file : String × String) : Json :=
  .array [.string file.1, .string file.2]

theorem isExact_toJson (request : CompileRequest) (depth : Nat) :
    Json.IsExact (depth + 3) request.toJson := by
  refine .object fun member inside => ?_
  rcases List.mem_cons.mp inside with rfl | inside
  · refine .array fun item isFile => ?_
    obtain ⟨file, -, rfl⟩ := List.mem_map.mp isFile
    refine .array fun part isPart => ?_
    rcases List.mem_cons.mp isPart with rfl | isPart
    · exact .string _ _
    · rw [List.mem_singleton.mp isPart]
      exact .string _ _
  · rw [List.mem_singleton.mp inside]
    exact .bool _ _

theorem ofJson?_toJson (request : CompileRequest) :
    ofJson? request.toJson = some request := by
  have fields : Json.recordFields? ["files", "debug"] request.toJson =
      some [.array (request.files.map fileJson), .bool request.debug] := by
    refine Json.recordFields?_object ?_
    simp
  have files :
      (request.files.map fileJson).mapM fileOfJson? = some request.files :=
    mapM_map_eq_some fun _ _ => rfl
  rw [ofJson?, fields]
  change (((request.files.map fileJson).mapM fileOfJson?).bind fun files =>
    some { request with files }) = some request
  rw [files]
  rfl

theorem read?_write (request : CompileRequest) :
    read? request.write = some request := by
  rw [read?, write, (isExact_toJson request 124).parse_write, Option.bind_some,
    ofJson?_toJson]

end CompileRequest

namespace CompileResult

/-- The places of all diagnostics of a result fit what a reader has for them. -/
def IsCounted (result : CompileResult) : Prop :=
  ∀ diagnostic ∈ result.diagnostics, diagnostic.IsCounted

theorem isExact_toJson {result : CompileResult} (counted : result.IsCounted)
    (depth : Nat) :
    Json.IsExact (depth + 3) result.toJson := by
  cases result with
  | success artifact =>
      refine .object fun member inside => ?_
      rcases List.mem_cons.mp inside with rfl | inside
      · exact .string _ _
      · rw [List.mem_singleton.mp inside]
        exact .string _ _
  | error diagnostics =>
      refine .object fun member inside => ?_
      rcases List.mem_cons.mp inside with rfl | inside
      · exact .string _ _
      · rw [List.mem_singleton.mp inside]
        refine .array fun item isItem => ?_
        obtain ⟨diagnostic, member, rfl⟩ := List.mem_map.mp isItem
        exact Diagnostic.isExact_toJson (counted diagnostic member) depth

theorem ofJson?_toJson {result : CompileResult} (counted : result.IsCounted) :
    ofJson? result.toJson = some result := by
  cases result with
  | success artifact => rfl
  | error diagnostics =>
      have back :
          (diagnostics.map (·.toJson)).mapM Diagnostic.ofJson? =
            some diagnostics :=
        mapM_map_eq_some fun diagnostic member =>
          Diagnostic.ofJson?_toJson (counted diagnostic member)
      change (((diagnostics.map (·.toJson)).mapM Diagnostic.ofJson?).bind
        fun diagnostics => some (error diagnostics)) = some (error diagnostics)
      rw [back]
      rfl

theorem isCounted_of_ofJson? {value : Json} {result : CompileResult}
    (read : ofJson? value = some result) : result.IsCounted := by
  unfold ofJson? at read
  obtain ⟨⟨kind, rest⟩, -, read⟩ := Option.bind_eq_some_iff.mp read
  dsimp only at read
  split at read
  · obtain ⟨_, -, read⟩ := Option.bind_eq_some_iff.mp read
    split at read
    · obtain ⟨artifact, -, read⟩ := Option.bind_eq_some_iff.mp read
      cases read
      exact fun _ member => nomatch member
    · cases read
  · split at read
    · obtain ⟨_, -, read⟩ := Option.bind_eq_some_iff.mp read
      split at read
      · obtain ⟨items, -, read⟩ := Option.bind_eq_some_iff.mp read
        obtain ⟨diagnostics, each, read⟩ := Option.bind_eq_some_iff.mp read
        cases read
        intro diagnostic member
        obtain ⟨_, -, one⟩ := mem_of_mapM_eq_some each member
        exact Diagnostic.isCounted_of_ofJson? one
      · cases read
    · cases read

/-- The text of a result is read as this result just when the places in it
fit. -/
theorem read?_write_iff (result : CompileResult) :
    read? result.write = some result ↔ result.IsCounted := by
  constructor
  · intro reads
    obtain ⟨value, -, reads⟩ := Option.bind_eq_some_iff.mp reads
    split at reads
    · exact isCounted_of_ofJson? reads
    · cases reads
  · intro counted
    have exact_ := isExact_toJson counted 124
    change ((Json.parse result.toJson.write).bind fun value =>
      if value.isFinite then ofJson? value else none) = some result
    rw [exact_.parse_write, Option.bind_some, if_pos exact_.isFinite,
      ofJson?_toJson counted]

end CompileResult

/-- The texts of a page body, by the holes of a template that they belong in.
The code of a lesson stands in the editor and not in the body. -/
def BodyView.filling (view : BodyView) : Filling :=
  [(.title, view.title), (.toc, view.toc), (.markdown, view.content),
    (.back, view.navBack), (.next, view.navNext), (.index, view.lessonIndex),
    (.total, view.lessonTotal), (.locale, view.localeText),
    (.enHref, view.enHref), (.zhHref, view.zhHref),
    (.homePage, view.homepageText), (.homePageHref, view.homepageHref)]

/-- The body for the route state of a page has the texts of this page. -/
theorem BodyView.filling_ofState (page : Page) :
    (BodyView.ofState page.routeState).filling =
      page.placeholders.filter fun (hole, _) => hole ≠ .code :=
  rfl

/-- The text of a route state is read as this route state just when its numbers
fit. -/
theorem RouteState.read?_write_iff (state : RouteState) :
    read? state.write = some state ↔ state.IsCounted :=
  ⟨isCounted_of_read?, read?_write⟩

/-- Nothing is lost on the way.  The route state of a page is read back from its
text, and the body for it has the texts of the page, just when the two numbers
of the page fit 64 bits; a result is read back just when its lines and columns
fit 32 bits, and a request always. -/
theorem texts_readBack :
    (∀ page : Page,
      (∃ state,
          RouteState.read? page.routeState.write = some state ∧
            state = page.routeState ∧
              (BodyView.ofState state).filling =
                page.placeholders.filter fun (hole, _) => hole ≠ .code) ↔
        page.routeState.IsCounted) ∧
    (∀ result : CompileResult,
      CompileResult.read? result.write = some result ↔ result.IsCounted) ∧
    ∀ request : CompileRequest,
      CompileRequest.read? request.write = some request := by
  refine ⟨fun page => ⟨?_, fun counted => ?_⟩, CompileResult.read?_write_iff,
    CompileRequest.read?_write⟩
  · rintro ⟨_, read, rfl, -⟩
    exact (RouteState.read?_write_iff _).mp read
  · exact ⟨page.routeState, (RouteState.read?_write_iff _).mpr counted, rfl,
      BodyView.filling_ofState page⟩

end LessonSite
