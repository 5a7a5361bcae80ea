import LessonSite.Proofs.Json.RoundTrip
import LessonSite.RouteState

/-!
# Route states there and back

The text of a route state is read as this route state, when its two numbers fit
the 64 bits that the reader has for them.  What is read always has such numbers.
-/

namespace LessonSite

namespace Json

variable {members : List (String × Json)}

private theorem filter_sole {α : Type} {keeps : α → Bool}
    {before after : List α} {sole : α}
    (kept : keeps sole = true)
    (others : ∀ other ∈ before ++ after, keeps other = false) :
    (before ++ sole :: after).filter keeps = [sole] := by
  have none_ :
      ∀ part : List α,
        (∀ other ∈ part, other ∈ before ++ after) → part.filter keeps = [] := by
    intro part inside
    refine List.filter_eq_nil_iff.mpr fun other member => ?_
    simpa using others other (inside other member)
  rw [List.filter_append, none_ before fun _ => List.mem_append_left _,
    List.filter_cons_of_pos kept, none_ after fun _ => List.mem_append_right _]
  rfl

theorem soleMember?_of_mem (distinct : (members.map Prod.fst).Nodup)
    {name : String} {value : Json}
    (member : (name, value) ∈ members) :
    soleMember? members name = some (some value) := by
  obtain ⟨before, after, rfl⟩ := List.append_of_mem member
  have apart : name ∉ (before ++ after).map Prod.fst := by
    refine (List.nodup_cons.mp (List.Perm.nodup ?_ distinct)).1
    exact List.Perm.map Prod.fst List.perm_middle
  have others : ∀ other ∈ before ++ after, ¬other.1 = name := by
    intro other inside same
    exact apart (same ▸ List.mem_map_of_mem inside)
  rw [soleMember?,
    filter_sole
      (by simp) fun other inside => by simpa using others other inside]

theorem recordFields?_object (distinct : (members.map Prod.fst).Nodup) :
    recordFields? (members.map Prod.fst) (.object members) =
      some (members.map Prod.snd) := by
  have found :
      ∀ part : List (String × Json), (∀ member ∈ part, member ∈ members) →
        (part.map Prod.fst).mapM (fun name => (soleMember? members name).join) =
          some (part.map Prod.snd) := by
    intro part inside
    induction part with
    | nil => rfl
    | cons member part induction =>
        rw [List.map_cons, List.mapM_cons,
          soleMember?_of_mem distinct (inside member List.mem_cons_self),
          induction fun other isPart =>
            inside other (List.mem_cons_of_mem _ isPart)]
        rfl
  exact found members fun _ => id

end Json

namespace RouteState

/-- The numbers of a route state fit 64 bits. -/
structure IsCounted (state : RouteState) : Prop where
  index : state.index < UInt64.size
  total : state.total < UInt64.size

theorem isExact_toJson {state : RouteState} (counted : state.IsCounted)
    (depth : Nat) :
    Json.IsExact (depth + 1) state.toJson := by
  have number :
      ∀ value : Nat,
        value < UInt64.size → Json.IsExact depth (.integer value) := by
    intro value fits
    exact .integer depth (by omega) (by omega)
  refine .object ?_
  simp only [List.mem_cons, List.not_mem_nil, or_false, forall_eq_or_imp,
    forall_eq]
  exact ⟨.string _ _, .string _ _, .string _ _, .string _ _, .string _ _,
    .string _ _, number _ counted.index, number _ counted.total, .string _ _,
    .string _ _, .string _ _, .string _ _, .string _ _, .string _ _⟩

theorem ofJson?_toJson {state : RouteState} (counted : state.IsCounted) :
    ofJson? state.toJson = some state := by
  have fields : Json.recordFields? memberNames state.toJson =
      some [.string state.title, .string state.markdownHtml, .string state.code,
        .string state.codeHtml, .string state.back, .string state.next,
        .integer state.index, .integer state.total, .string state.locale,
        .string state.enHref, .string state.zhHref, .string state.homePage,
        .string state.homePageHref, .string state.toc] := by
    refine Json.recordFields?_object ?_
    simp only [List.map_cons, List.map_nil]
    decide
  have index :
      Json.natBelow? UInt64.size (.integer (state.index : Int)) =
        some state.index :=
    if_pos counted.index
  have total :
      Json.natBelow? UInt64.size (.integer (state.total : Int)) =
        some state.total :=
    if_pos counted.total
  rw [ofJson?, fields]
  change ((Json.natBelow? UInt64.size (.integer state.index)).bind
    fun place =>
      (Json.natBelow? UInt64.size (.integer state.total)).bind fun number =>
        some { state with index := place, total := number }) = some state
  rw [index, total]
  rfl

/-- The text of a route state is read as this route state. -/
theorem read?_write {state : RouteState} (counted : state.IsCounted) :
    read? state.write = some state := by
  rw [read?, write, (isExact_toJson counted 126).parse_write, Option.bind_some,
    ofJson?_toJson counted]

theorem natBelow?_lt {bound : Nat} {value : Json} {number : Nat}
    (read : value.natBelow? bound = some number) : number < bound := by
  unfold Json.natBelow? at read
  split at read
  · split at read
    · next fits => exact Option.some.inj read ▸ fits
    · cases read
  · cases read

theorem isCounted_of_ofJson? {value : Json} {state : RouteState}
    (read : ofJson? value = some state) :
    state.IsCounted := by
  unfold ofJson? at read
  obtain ⟨fields, -, read⟩ := Option.bind_eq_some_iff.mp read
  split at read
  · iterate 6 obtain ⟨_, -, read⟩ := Option.bind_eq_some_iff.mp read
    obtain ⟨index, isIndex, read⟩ := Option.bind_eq_some_iff.mp read
    obtain ⟨total, isTotal, read⟩ := Option.bind_eq_some_iff.mp read
    iterate 6 obtain ⟨_, -, read⟩ := Option.bind_eq_some_iff.mp read
    cases read
    exact ⟨natBelow?_lt isIndex, natBelow?_lt isTotal⟩
  · cases read

theorem isCounted_of_read? {text : String} {state : RouteState}
    (read : read? text = some state) :
    state.IsCounted := by
  obtain ⟨value, -, fields⟩ := Option.bind_eq_some_iff.mp read
  exact isCounted_of_ofJson? fields

theorem read?_empty : read? "" = none := by
  have noNumber : Json.readNumber false [] = none := rfl
  simp [read?, Json.parse, Json.parseWithin, Json.readValue, Json.skipSpace,
    noNumber]

end RouteState

end LessonSite
