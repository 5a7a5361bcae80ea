import LessonSite.Contents.Reader

/-!
# What is read from a document

A document is a tree, and its nodes have places in it.  The chapters that are
read are the outermost elements of the chapter class, and the links of a chapter
are the elements of the link class within it that lie in no other link or title.
Both are found in the order of the document, whatever else stands there and
however the classes are nested.
-/

namespace LessonSite

namespace Html

namespace Node

/-- The nodes directly below a node. -/
def children : Node → List Node
  | .element _ _ children => children
  | .text _ => []

/-- The node that is reached by going down to the children at the given
positions, one after the other. -/
def at? (node : Node) : List Nat → Option Node
  | [] => some node
  | position :: place => node.children[position]?.bind (·.at? place)

end Node

/-- The node at a place: a position among some nodes, followed by the positions
of the children on the way. -/
def nodeAt? (nodes : List Node) : List Nat → Option Node
  | [] => none
  | position :: place => nodes[position]?.bind (·.at? place)

/-- The node at the place passes the test, and none that it lies in does. -/
structure IsOutermost (nodes : List Node) (test : Node → Bool)
    (place : List Nat) (node : Node) : Prop where
  here : nodeAt? nodes place = some node
  passes : test node = true
  outer :
    ∀ above within other,
      place = above ++ within → within ≠ [] → nodeAt? nodes above = some other →
        test other = false

/-- The nodes are those that stand where something holds, each once, in the
order of the document: what is in a node comes after it and before all that
follows it. -/
def ListsInOrder (holds : List Nat → Node → Prop) (nodes : List Node) : Prop :=
  ∃ entries : List (List Nat × Node), (entries.map Prod.fst).Pairwise (· < ·) ∧
    (∀ place node, (place, node) ∈ entries ↔ holds place node) ∧
    entries.map Prod.snd = nodes

variable {nodes : List Node} {node found : Node} {test : Node → Bool}
  {place : List Nat} {position : Nat}

theorem nodeAt?_cons_eq_some_iff :
    nodeAt? nodes (position :: place) = some found ↔
      ∃ node, nodes[position]? = some node ∧ node.at? place = some found :=
  Option.bind_eq_some_iff

theorem not_isOutermost_nil : ¬IsOutermost [] test place found := by
  intro outermost
  cases place with
  | nil => cases outermost.here
  | cons position place => cases outermost.here

/-- The nodes beside a node do not matter to what is in it. -/
theorem isOutermost_cons_iff :
    IsOutermost nodes test (position :: place) found ↔
      ∃ node,
        nodes[position]? = some node ∧
          IsOutermost [node] test (0 :: place) found := by
  constructor
  · intro outermost
    obtain ⟨node, isNode, here⟩ := nodeAt?_cons_eq_some_iff.mp outermost.here
    refine ⟨node, isNode, nodeAt?_cons_eq_some_iff.mpr ⟨node, rfl, here⟩,
      outermost.passes, ?_⟩
    intro above within other split inside there
    cases above with
    | nil => cases there
    | cons first above =>
        obtain ⟨rfl, rfl⟩ := List.cons.inj split
        exact outermost.outer (position :: above) within other rfl inside
          (nodeAt?_cons_eq_some_iff.mpr ⟨node, isNode, there⟩)
  · rintro ⟨node, isNode, outermost⟩
    refine ⟨nodeAt?_cons_eq_some_iff.mpr ⟨node, isNode, outermost.here⟩,
      outermost.passes, ?_⟩
    intro above within other split inside there
    cases above with
    | nil => cases there
    | cons first above =>
        obtain ⟨rfl, rfl⟩ := List.cons.inj split
        obtain ⟨same, isSame, there⟩ := nodeAt?_cons_eq_some_iff.mp there
        obtain rfl := Option.some.inj (isNode.symm.trans isSame)
        exact outermost.outer (0 :: above) within other rfl inside there

theorem isOutermost_of_passes (passes : test node = true) :
    IsOutermost [node] test (0 :: place) found ↔ place = [] ∧ found = node := by
  constructor
  · intro outermost
    cases place with
    | nil => exact ⟨rfl, (Option.some.inj outermost.here).symm⟩
    | cons position place =>
        have hidden :=
          outermost.outer [0] (position :: place) node rfl
            (List.cons_ne_nil _ _) rfl
        exact Bool.noConfusion (passes.symm.trans hidden)
  · rintro ⟨rfl, rfl⟩
    refine ⟨rfl, passes, ?_⟩
    intro above within other split inside there
    cases above with
    | nil => cases there
    | cons first above =>
        have nothing :=
          (List.append_eq_nil_iff.mp (List.cons.inj split).2.symm).2
        exact absurd nothing inside

/-- In any other node those are outermost that are outermost among its
children. -/
theorem isOutermost_of_fails (fails : test node = false) :
    IsOutermost [node] test (0 :: place) found ↔
      IsOutermost node.children test place found := by
  constructor
  · intro outermost
    cases place with
    | nil =>
        cases outermost.here
        exact Bool.noConfusion (fails.symm.trans outermost.passes)
    | cons position place =>
        refine ⟨outermost.here, outermost.passes, ?_⟩
        intro above within other split inside there
        cases above with
        | nil => cases there
        | cons first above =>
            exact outermost.outer (0 :: first :: above) within other
              (congrArg (List.cons 0) split) inside there
  · intro outermost
    cases place with
    | nil => cases outermost.here
    | cons position place =>
        refine ⟨outermost.here, outermost.passes, ?_⟩
        intro above within other split inside there
        rcases above with _ | ⟨first, _ | ⟨second, above⟩⟩
        · cases there
        · obtain ⟨rfl, -⟩ := List.cons.inj split
          cases there
          exact fails
        · obtain ⟨rfl, inner⟩ := List.cons.inj split
          exact outermost.outer (second :: above) within other inner
            inside there

namespace Node

mutual

/-- The outermost nodes of a tree that pass a test, with their places in it. -/
def outermost (test : Node → Bool) : Node → List (List Nat × Node)
  | .text content => if test (.text content) then [([], .text content)] else []
  | .element name attributes children =>
      if test (.element name attributes children) then
        [([], .element name attributes children)]
      else outermostAll test 0 children

/-- The outermost nodes of neighbouring trees, the first of which stands at the
given position. -/
def outermostAll (test : Node → Bool) (start : Nat) :
    List Node → List (List Nat × Node)
  | [] => []
  | node :: nodes =>
      (outermost test node).map (fun entry => (start :: entry.1, entry.2)) ++
        outermostAll test (start + 1) nodes

end

mutual

theorem mem_outermost_iff (node : Node) (place : List Nat) (found : Node) :
    (place, found) ∈ outermost test node ↔
      IsOutermost [node] test (0 :: place) found := by
  cases node with
  | text content =>
      rw [outermost]
      split
      · next passes =>
          rw [isOutermost_of_passes passes, List.mem_singleton, Prod.mk.injEq]
      · next fails =>
          rw [isOutermost_of_fails ((Bool.not_eq_true _).mp fails)]
          exact iff_of_false List.not_mem_nil not_isOutermost_nil
  | element name attributes children =>
      rw [outermost]
      split
      · next passes =>
          rw [isOutermost_of_passes passes, List.mem_singleton, Prod.mk.injEq]
      · next fails =>
          rw [isOutermost_of_fails ((Bool.not_eq_true _).mp fails),
            mem_outermostAll_iff children]
          constructor
          · rintro ⟨position, rest, rfl, inner⟩
            rwa [Nat.zero_add]
          · intro inner
            cases place with
            | nil => cases inner.here
            | cons position rest =>
                exact ⟨position, rest, by rw [Nat.zero_add], inner⟩

theorem mem_outermostAll_iff (nodes : List Node) (start : Nat)
    (place : List Nat) (found : Node) :
    (place, found) ∈ outermostAll test start nodes ↔
      ∃ position rest,
        place = (start + position) :: rest ∧
          IsOutermost nodes test (position :: rest) found := by
  cases nodes with
  | nil =>
      refine iff_of_false List.not_mem_nil ?_
      rintro ⟨position, rest, -, outermost⟩
      exact not_isOutermost_nil outermost
  | cons node nodes =>
      rw [outermostAll, List.mem_append, mem_outermostAll_iff nodes,
        List.mem_map]
      constructor
      · rintro (⟨⟨rest, here⟩, member, same⟩ | ⟨position, rest, rfl, outermost⟩)
        · obtain ⟨rfl, rfl⟩ := Prod.mk.inj same
          have inner := (mem_outermost_iff node rest here).mp member
          exact ⟨0, rest, rfl, isOutermost_cons_iff.mpr ⟨node, rfl, inner⟩⟩
        · refine ⟨position + 1, rest, by rw [Nat.add_assoc, Nat.add_comm 1], ?_⟩
          obtain ⟨other, isOther, inner⟩ := isOutermost_cons_iff.mp outermost
          exact isOutermost_cons_iff.mpr ⟨other, isOther, inner⟩
      · rintro ⟨position, rest, rfl, outermost⟩
        obtain ⟨other, isOther, inner⟩ := isOutermost_cons_iff.mp outermost
        cases position with
        | zero =>
            obtain rfl := Option.some.inj isOther
            exact .inl
              ⟨(rest, found), (mem_outermost_iff node rest found).mpr inner,
                rfl⟩
        | succ position =>
            refine .inr
              ⟨position, rest, by rw [Nat.add_assoc, Nat.add_comm 1], ?_⟩
            exact isOutermost_cons_iff.mpr ⟨other, isOther, inner⟩

end

mutual

theorem pairwise_outermost (node : Node) :
    ((outermost test node).map Prod.fst).Pairwise (· < ·) := by
  cases node with
  | text content =>
      rw [outermost]
      split
      · exact List.pairwise_singleton _ _
      · exact List.Pairwise.nil
  | element name attributes children =>
      rw [outermost]
      split
      · exact List.pairwise_singleton _ _
      · exact pairwise_outermostAll children 0

theorem pairwise_outermostAll (nodes : List Node) (start : Nat) :
    ((outermostAll test start nodes).map Prod.fst).Pairwise (· < ·) := by
  cases nodes with
  | nil => exact List.Pairwise.nil
  | cons node nodes =>
      rw [outermostAll, List.map_append, List.pairwise_append, List.map_map]
      refine ⟨?_, pairwise_outermostAll nodes (start + 1), ?_⟩
      · have inner := pairwise_outermost node
        rw [List.pairwise_map] at inner ⊢
        exact inner.imp fun before =>
          List.cons_lt_cons_iff.mpr (.inr ⟨rfl, before⟩)
      · intro earlier isEarlier later isLater
        obtain ⟨first, -, rfl⟩ := List.mem_map.mp isEarlier
        obtain ⟨⟨place, found⟩, member, rfl⟩ := List.mem_map.mp isLater
        obtain ⟨position, rest, rfl, -⟩ :=
          (mem_outermostAll_iff nodes (start + 1) place found).mp member
        exact List.cons_lt_cons_iff.mpr (.inl (by omega))

end

theorem hasClass_text (content name : String) :
    (Node.text content).hasClass name = false :=
  rfl

/-- What is read from an element of the chapter class. -/
def toChapter (element : Node) : ContentsChapter :=
  addAllTo { title := "", links := [], expanded := true } element.children

mutual

theorem chapters_eq (node : Node) :
    chapters node =
      (outermost (·.hasClass "toc-chapter") node).map fun entry =>
        entry.2.toChapter := by
  cases node with
  | text content =>
      rw [chapters, outermost, if_neg (by simp [hasClass_text]), List.map_nil]
  | element name attributes children =>
      rw [chapters, outermost]
      split
      · rfl
      · exact allChapters_eq children 0

theorem allChapters_eq (nodes : List Node) (start : Nat) :
    allChapters nodes =
      (outermostAll (·.hasClass "toc-chapter") start nodes).map fun entry =>
        entry.2.toChapter := by
  cases nodes with
  | nil => rfl
  | cons node nodes =>
      rw [allChapters, outermostAll, List.map_append, List.map_map,
        chapters_eq node, allChapters_eq nodes (start + 1)]
      rfl

end

/-- The element is a link or a title of a chapter. -/
def isMarked (node : Node) : Bool :=
  node.hasClass "toc-link" || node.hasClass "toc-chapter-title"

/-- The links among nodes with their places. -/
def linksAmong (entries : List (List Nat × Node)) : List (List Nat × Node) :=
  entries.filter fun entry => !entry.2.hasClass "toc-chapter-title"

mutual

theorem links_addTo (chapter : ContentsChapter) (node : Node) :
    (addTo chapter node).links =
      chapter.links ++
        (linksAmong (outermost isMarked node)).map fun entry =>
          entry.2.toLink := by
  cases node with
  | text content =>
      rw [addTo, outermost, if_neg (by simp [isMarked, hasClass_text])]
      exact (List.append_nil _).symm
  | element name attributes children =>
      rw [addTo, outermost, isMarked]
      cases isTitle : (Node.element name attributes children).hasClass
        "toc-chapter-title" with
      | true => simp [linksAmong, isTitle]
      | false =>
          cases isLink : (Node.element name attributes children).hasClass
            "toc-link" with
          | true => simp [linksAmong, isTitle]
          | false =>
              simp only [Bool.or_self, Bool.false_eq_true, if_false]
              rw [links_addAllTo _ children 0, apply_ite ContentsChapter.links,
                ite_self]

theorem links_addAllTo (chapter : ContentsChapter) (nodes : List Node)
    (start : Nat) :
    (addAllTo chapter nodes).links =
      chapter.links ++
        (linksAmong (outermostAll isMarked start nodes)).map fun entry =>
          entry.2.toLink := by
  cases nodes with
  | nil => exact (List.append_nil _).symm
  | cons node nodes =>
      rw [addAllTo, links_addAllTo _ nodes (start + 1),
        links_addTo chapter node, outermostAll, linksAmong, linksAmong,
        linksAmong, List.filter_append, List.map_append, List.append_assoc,
        List.filter_map, List.map_map]
      rfl

end

theorem links_toChapter (element : Node) :
    element.toChapter.links =
      (linksAmong (outermostAll isMarked 0 element.children)).map fun entry =>
        entry.2.toLink :=
  links_addAllTo _ element.children 0

end Node

/-- At a place in an element there is a link that is no title, and what it lies
in there is neither. -/
structure IsLinkAt (element : Node) (place : List Nat)
    (link : Node) : Prop where
  here : nodeAt? element.children place = some link
  isLink : link.hasClass "toc-link" = true
  noTitle : link.hasClass "toc-chapter-title" = false
  outer : ∀ above within other, place = above ++ within → within ≠ [] →
    nodeAt? element.children above = some other →
      other.hasClass "toc-link" = false ∧
        other.hasClass "toc-chapter-title" = false

theorem isLinkAt_iff {element link : Node} :
    IsLinkAt element place link ↔
      IsOutermost element.children Node.isMarked place link ∧
        link.hasClass "toc-chapter-title" = false := by
  constructor
  · intro stands
    refine ⟨⟨stands.here, by rw [Node.isMarked, stands.isLink, Bool.true_or],
      ?_⟩, stands.noTitle⟩
    intro above within other split inside there
    exact Bool.or_eq_false_iff.mpr
      (stands.outer above within other split inside there)
  · rintro ⟨outermost, noTitle⟩
    have marked := outermost.passes
    rw [Node.isMarked, noTitle, Bool.or_false] at marked
    refine ⟨outermost.here, marked, noTitle, ?_⟩
    intro above within other split inside there
    exact Bool.or_eq_false_iff.mp
      (outermost.outer above within other split inside there)

theorem mem_outermostAll_zero_iff :
    (place, found) ∈ Node.outermostAll test 0 nodes ↔
      IsOutermost nodes test place found := by
  rw [Node.mem_outermostAll_iff]
  constructor
  · rintro ⟨position, rest, rfl, outermost⟩
    rwa [Nat.zero_add]
  · intro outermost
    cases place with
    | nil => cases outermost.here
    | cons position rest =>
        exact ⟨position, rest, by rw [Nat.zero_add], outermost⟩

theorem listsInOrder_outermostAll (nodes : List Node) (test : Node → Bool) :
    ListsInOrder (IsOutermost nodes test)
      ((Node.outermostAll test 0 nodes).map Prod.snd) :=
  ⟨_, Node.pairwise_outermostAll nodes 0, fun _ _ => mem_outermostAll_zero_iff,
    rfl⟩

theorem listsInOrder_linksAmong (element : Node) :
    ListsInOrder (IsLinkAt element)
      ((Node.linksAmong
        (Node.outermostAll Node.isMarked 0 element.children)).map
        Prod.snd) := by
  refine ⟨_, ?_, ?_, rfl⟩
  · exact (Node.pairwise_outermostAll element.children 0).sublist
      (List.filter_sublist.map Prod.fst)
  · intro place link
    rw [Node.linksAmong, List.mem_filter, mem_outermostAll_zero_iff,
      isLinkAt_iff, Bool.not_eq_true']

end Html

namespace Contents

open Html (ListsInOrder IsOutermost IsLinkAt)

/-- What is read from a document is one chapter for each outermost element of
the chapter class, and what stands elsewhere does not matter.  Whatever the
element, the links of its chapter are those of the link class within it that are
no titles and lie in no other link or title, each once and in the order of the
document. -/
theorem parse_readsOutermost (text : String) :
    ∃ elements : List Html.Node,
      ListsInOrder
        (IsOutermost (Html.parse text) (·.hasClass "toc-chapter")) elements ∧
      (parse text).chapters = elements.map Html.Node.toChapter ∧
      ∀ element ∈ elements, ∃ links : List Html.Node,
        ListsInOrder (IsLinkAt element) links ∧
        element.toChapter.links = links.map fun link =>
          { label := Text.trim link.textContent
            href := (link.attribute? "href").getD ""
            active := false } := by
  refine ⟨_, Html.listsInOrder_outermostAll (Html.parse text) _, ?_, ?_⟩
  · rw [List.map_map]
    exact Html.Node.allChapters_eq (Html.parse text) 0
  · intro element _
    refine ⟨_, Html.listsInOrder_linksAmong element, ?_⟩
    rw [Html.Node.links_toChapter, List.map_map]
    rfl

end Contents

end LessonSite
