import LessonSite.Proofs.Html.Standing

/-!
# Balanced markup

Markup can be put into a larger one as it is when every element in it ends with
its own closing tag and none of them has an id: the elements that have one are
those of the larger markup.
-/

namespace LessonSite.Html

open Construction (Fits Flows MayOpen Opens isVoidTag)

namespace Node

mutual

/-- The elements with an id, in the order of the document. -/
def named : Node → List (String × Node)
  | .element name attributes children =>
      ((Attribute.find? attributes "id").map fun id =>
        (id, .element name attributes children)).toList ++ allNamed children
  | .text _ => []

/-- The elements with an id of several trees. -/
def allNamed : List Node → List (String × Node)
  | [] => []
  | node :: nodes => named node ++ allNamed nodes

end

mutual

/-- The titles, in the order of the document. -/
def titles : Node → List Node
  | .element name attributes children =>
      (if name = ⟨.html, "title"⟩ then
        [.element name attributes children]
      else []) ++
        allTitles children
  | .text _ => []

def allTitles : List Node → List Node
  | [] => []
  | node :: nodes => titles node ++ allTitles nodes

end

/-- Nothing in the trees can be taken for another part of the document. -/
def AreUnmarked (nodes : List Node) : Prop :=
  allNamed nodes = [] ∧ allTitles nodes = []

theorem allNamed_append (nodes more : List Node) :
    allNamed (nodes ++ more) = allNamed nodes ++ allNamed more := by
  induction nodes with
  | nil => rfl
  | cons node nodes induction =>
      rw [List.cons_append, allNamed, induction, allNamed, List.append_assoc]

theorem allTitles_append (nodes more : List Node) :
    allTitles (nodes ++ more) = allTitles nodes ++ allTitles more := by
  induction nodes with
  | nil => rfl
  | cons node nodes induction =>
      rw [List.cons_append, allTitles, induction, allTitles, List.append_assoc]

theorem allNamed_ofText (text : String) : allNamed (ofText text) = [] := by
  rw [ofText]
  split <;> rfl

theorem allTitles_ofText (text : String) : allTitles (ofText text) = [] := by
  rw [ofText]
  split <;> rfl

end Node

theorem named_element {tag : RawTag}
    (unmarked : ∀ entry ∈ tag.attributes, entry.name ≠ "id")
    (children : List Node) :
    Node.named
        (.element ⟨.html, tag.name⟩
          (tag.attributes.map RawAttribute.shown) children) =
      Node.allNamed children := by
  have none :
      Attribute.find? (tag.attributes.map RawAttribute.shown) "id" = none := by
    rw [Attribute.find?, List.find?_map, Option.map_map, Option.map_eq_none_iff,
      List.find?_eq_none]
    intro entry member same
    exact unmarked entry member (beq_iff_eq.mp same)
  rw [Node.named, none]
  rfl

theorem named_marked {tag : RawTag} {id : String} {value : List Char}
    {others : List RawAttribute}
    (first : tag.attributes = ⟨"id", value⟩ :: others)
    (shown : shownValue value = id) (children : List Node) :
    Node.named (tag.node children) =
      (id, tag.node children) :: Node.allNamed children := by
  have some :
      Attribute.find? (tag.attributes.map RawAttribute.shown) "id" =
        some id := by
    rw [first, List.map_cons]
    exact congrArg Option.some shown
  rw [RawTag.node, Node.named, some]
  rfl

theorem titles_element {name : String} (other : name ≠ "title")
    (attributes : List Attribute) (children : List Node) :
    Node.titles (.element ⟨.html, name⟩ attributes children) =
      Node.allTitles children := by
  rw [Node.titles, if_neg (fun same => other (ElementName.mk.inj same).2),
    List.nil_append]

private theorem ne_title_of_opens {name : String} (opens : Opens path name) :
    name ≠ "title" := by
  cases opens with
  | running _ may =>
      exact Construction.ne_of_isRunningTag may.isRunningTag (by decide)
  | preformatted _ _ => decide
  | table _ _ _ => decide
  | rows _ isRows => rcases isRows with rfl | rfl <;> decide
  | row _ _ => decide
  | cell _ isCell => rcases isCell with rfl | rfl <;> decide

/-- Markup within elements of the given names, the innermost first, in which
every element ends with its own closing tag and none has an id. -/
inductive Balanced : List String → List Char → Prop where
  | nil {path : List String} : Balanced path []
  | character {path : List String} {markup : List Char} {character : Char}
      (noTag : character ≠ '<') (fits : Fits path [character])
      (others : Balanced path markup) :
      Balanced path (character :: markup)
  | element {path : List String} {inside markup : List Char} {tag : RawTag}
      (valid : tag.IsValid)
      (isOpen : tag.selfClosing = false)
      (unmarked : ∀ entry ∈ tag.attributes, entry.name ≠ "id")
      (opens : Opens path tag.name)
      (tight : tag.name = "pre" → ∀ first ∈ inside.head?, first = '<')
      (inner : Balanced (tag.name :: path) inside)
      (others : Balanced path markup) :
      Balanced path (tag.markup ++ (inside ++ (closingTag tag.name ++ markup)))
  | empty {path : List String} {markup : List Char} {tag : RawTag}
      (valid : tag.IsValid)
      (unmarked : ∀ entry ∈ tag.attributes, entry.name ≠ "id")
      (isVoid : isVoidTag tag.name = true)
      (flows : Flows path) (apart : tag.name = "hr" → "p" ∉ path)
      (others : Balanced path markup) : Balanced path (tag.markup ++ markup)

/-- Names of attributes that an element without an id can have together. -/
def ArePlainNames (names : List String) : Prop :=
  (∀ name ∈ names, isName name = true ∧ name ≠ "id") ∧ names.Nodup

instance (names : List String) : Decidable (ArePlainNames names) :=
  inferInstanceAs (Decidable (_ ∧ _))

namespace ArePlainNames

variable {name : String} {attributes : List RawAttribute}

theorem unmarked (names : ArePlainNames (attributes.map RawAttribute.name)) :
    ∀ entry ∈ attributes, entry.name ≠ "id" :=
  fun _ member => (List.forall_mem_map.mp names.1 _ member).2

theorem isValid (names : ArePlainNames (attributes.map RawAttribute.name))
    (named : isName name = true)
    (unquoted : ∀ entry ∈ attributes, '"' ∉ entry.value)
    (selfClosing : Bool) : RawTag.IsValid ⟨name, attributes, selfClosing⟩ where
  named := named
  each entry
    member :=
      ⟨(List.forall_mem_map.mp names.1 entry member).1, unquoted entry member⟩
  differ := List.pairwise_map.mp names.2

end ArePlainNames

namespace Balanced

variable {path : List String} {markup more : List Char}

theorem append (balanced : Balanced path markup) (others : Balanced path more) :
    Balanced path (markup ++ more) := by
  induction balanced with
  | nil => exact others
  | character noTag fits _ induction =>
      exact .character noTag fits (induction others)
  | element valid isOpen unmarked opens tight inner _ _ induction =>
      simp only [List.append_assoc]
      exact .element valid isOpen unmarked opens tight inner (induction others)
  | empty valid unmarked isVoid flows apart _ induction =>
      rw [List.append_assoc]
      exact .empty valid unmarked isVoid flows apart (induction others)

/-- Text without tags is balanced where text may stand. -/
theorem text (flows : Flows path) (noTag : '<' ∉ markup) :
    Balanced path markup := by
  induction markup with
  | nil => exact .nil
  | cons character markup induction =>
      rw [List.mem_cons, not_or] at noTag
      exact .character (Ne.symm noTag.1) (.inl flows) (induction noTag.2)

theorem wrap {tag : RawTag} {inside : List Char} (valid : tag.IsValid)
    (isOpen : tag.selfClosing = false)
    (unmarked : ∀ entry ∈ tag.attributes, entry.name ≠ "id")
    (opens : Opens path tag.name)
    (tight : tag.name = "pre" → ∀ first ∈ inside.head?, first = '<')
    (inner : Balanced (tag.name :: path) inside) :
    Balanced path (tag.markup ++ (inside ++ closingTag tag.name)) := by
  have balanced := element valid isOpen unmarked opens tight inner nil
  rwa [List.append_nil] at balanced

theorem escaped (flows : Flows path) (text : List Char) :
    Balanced path (text.flatMap Markup.escapeChar) :=
  .text flows fun member => (mem_escape member).1 rfl

theorem writeAll_ofText (flows : Flows path) (text : String) :
    Balanced path (Node.writeAll (Node.ofText text)) := by
  rw [Html.writeAll_ofText]
  exact escaped flows text.toList

/-- Balanced markup stands for trees in which nothing is marked. -/
theorem exists_stands (balanced : Balanced path markup) (text : List Char) :
    ∃ nodes, Stands path text markup nodes ∧ Node.AreUnmarked nodes := by
  induction balanced generalizing text with
  | nil => exact ⟨_, .nil, Node.allNamed_ofText _, Node.allTitles_ofText _⟩
  | character noTag fits _ induction =>
      obtain ⟨nodes, stands, unmarked⟩ := induction (text ++ [_])
      exact ⟨nodes, .character noTag fits stands, unmarked⟩
  | element valid isOpen noId opens tight _ _ innerInduction induction =>
      obtain ⟨children, inner, innerUnmarked⟩ := innerInduction []
      obtain ⟨nodes, stands, unmarked⟩ := induction []
      refine ⟨_, .element valid isOpen opens tight inner stands, ?_, ?_⟩
      · rw [Node.allNamed_append, Node.allNamed_ofText, Node.allNamed,
          named_element noId, innerUnmarked.1, unmarked.1]
        rfl
      · rw [Node.allTitles_append, Node.allTitles_ofText, Node.allTitles,
          titles_element (ne_title_of_opens opens), innerUnmarked.2, unmarked.2]
        rfl
  | @empty path markup tag valid noId isVoid flows apart _ induction =>
      obtain ⟨nodes, stands, unmarked⟩ := induction []
      have other : tag.name ≠ "title" := by
        intro same
        rw [same] at isVoid
        exact absurd isVoid (by decide)
      refine ⟨_, .empty valid isVoid flows apart stands, ?_, ?_⟩
      · rw [Node.allNamed_append, Node.allNamed_ofText, Node.allNamed,
          named_element noId, unmarked.1]
        rfl
      · rw [Node.allTitles_append, Node.allTitles_ofText, Node.allTitles,
          titles_element other, unmarked.2]
        rfl

/-- A written tree is balanced before others that are. -/
theorem tree {name : String} {attributes : List Attribute}
    {children nodes : List Node}
    (named : isName name = true)
    (names : ArePlainNames (attributes.map Attribute.name))
    (opens : Opens path name)
    (tight : name = "pre" →
      ∀ first ∈ (Node.writeAll children).head?, first = '<')
    (inner : Balanced (name :: path) (Node.writeAll children))
    (others : Balanced path (Node.writeAll nodes)) :
    Balanced path
      (Node.writeAll
        (.element ⟨.html, name⟩ attributes children :: nodes)) := by
  have rawNames :
      ArePlainNames ((attributes.map Attribute.raw).map RawAttribute.name) := by
    rw [List.map_map]
    exact names
  have unquoted : ∀ entry ∈ attributes.map Attribute.raw, '"' ∉ entry.value :=
    List.forall_mem_map.mpr fun entry _ quote => (mem_escape quote).2.1 rfl
  have balanced :=
    Balanced.element (rawNames.isValid named unquoted false) rfl
      rawNames.unmarked opens tight inner others
  rw [Node.writeAll, Node.write, openingTag_eq_raw, List.append_assoc,
    List.append_assoc]
  exact balanced

/-- A written tree of running text is balanced before others that are. -/
theorem runningTree {name : String} {attributes : List Attribute}
    {children nodes : List Node}
    (named : isName name = true)
    (names : ArePlainNames (attributes.map Attribute.name))
    (flows : Flows path) (may : MayOpen path name)
    (inner : Balanced (name :: path) (Node.writeAll children))
    (others : Balanced path (Node.writeAll nodes)) :
    Balanced path
      (Node.writeAll (.element ⟨.html, name⟩ attributes children :: nodes)) :=
  tree named names (.running flows may) (fun same => absurd same may.ne_pre)
    inner others

end Balanced

namespace RawTag

/-- The tag opens an element with the given id. -/
def HasId (tag : RawTag) (id : String) : Prop :=
  tag.IsValid ∧ tag.selfClosing = false ∧
    tag.attributes.head? = some ⟨"id", id.toList⟩ ∧
      mayHoldReference id.toList = false ∧ IsClean id

instance (tag : RawTag) (id : String) : Decidable (tag.HasId id) :=
  inferInstanceAs (Decidable (_ ∧ _))

/-- The tag opens an element without an id. -/
def IsBare (tag : RawTag) : Prop :=
  tag.IsValid ∧ tag.selfClosing = false ∧
    ∀ entry ∈ tag.attributes, entry.name ≠ "id"

instance (tag : RawTag) : Decidable tag.IsBare :=
  inferInstanceAs (Decidable (_ ∧ _))

end RawTag

/-- Markup stands for trees without titles in which just the given elements have
an id. -/
def Marked (path : List String) (text markup : List Char)
    (named : List (String × Node)) : Prop :=
  ∃ nodes, Stands path text markup nodes ∧ Node.allNamed nodes = named ∧
    Node.allTitles nodes = []

namespace Marked

variable {path : List String} {text markup inside : List Char} {tag : RawTag}
  {id : String}
variable {named inner : List (String × Node)} {children : List Node}

theorem nil : Marked path text [] [] :=
  ⟨_, .nil, Node.allNamed_ofText _, Node.allTitles_ofText _⟩

theorem run {run : List Char} (flows : Flows path) (noTag : '<' ∉ run)
    (others : Marked path (text ++ run) markup named) :
    Marked path text (run ++ markup) named := by
  obtain ⟨nodes, stands, marked, untitled⟩ := others
  exact ⟨nodes, stands.run flows noTag, marked, untitled⟩

theorem last (flows : Flows path) (noTag : '<' ∉ markup) :
    Marked path text markup [] := by
  have marked := run flows noTag (nil : Marked path (text ++ markup) [] [])
  rwa [List.append_nil] at marked

theorem element (bare : tag.IsBare) (opens : Opens path tag.name)
    (flowing : tag.name ≠ "pre")
    (within : Marked (tag.name :: path) [] inside inner)
    (others : Marked path [] markup named) :
    Marked path text (tag.markup ++ (inside ++ (closingTag tag.name ++ markup)))
      (inner ++ named) := by
  obtain ⟨valid, isOpen, unmarked⟩ := bare
  obtain ⟨children, within, innerMarked, innerUntitled⟩ := within
  obtain ⟨nodes, stands, marked, untitled⟩ := others
  refine ⟨_,
    .element valid isOpen opens (fun same => absurd same flowing) within stands,
    ?_, ?_⟩
  · rw [Node.allNamed_append, Node.allNamed_ofText, Node.allNamed,
      named_element unmarked, innerMarked, marked, List.nil_append]
  · rw [Node.allTitles_append, Node.allTitles_ofText, Node.allTitles,
      titles_element (ne_title_of_opens opens), innerUntitled, untitled]
    rfl

/-- An element with an id in which nothing else is marked. -/
theorem label (hasId : tag.HasId id) (opens : Opens path tag.name)
    (tight : tag.name = "pre" → ∀ mark ∈ inside.head?, mark = '<')
    (within : Stands (tag.name :: path) [] inside children)
    (unmarked : Node.AreUnmarked children)
    (others : Marked path [] markup named) :
    Marked path text (tag.markup ++ (inside ++ (closingTag tag.name ++ markup)))
      ((id, tag.node children) :: named) := by
  obtain ⟨valid, isOpen, first, plain, clean⟩ := hasId
  obtain ⟨nodes, stands, marked, untitled⟩ := others
  obtain ⟨attributes, first⟩ := List.head?_eq_some_iff.mp first
  have labelled := named_marked first (shownValue_eq_self plain clean) children
  rw [RawTag.node, unmarked.1] at labelled
  refine ⟨_, .element valid isOpen opens tight within stands, ?_, ?_⟩
  · rw [Node.allNamed_append, Node.allNamed_ofText, Node.allNamed, labelled,
      marked]
    rfl
  · rw [Node.allTitles_append, Node.allTitles_ofText, Node.allTitles,
      titles_element (ne_title_of_opens opens), unmarked.2, untitled]
    rfl

theorem caption (hasId : tag.HasId id) (opens : Opens path tag.name)
    (flowing : tag.name ≠ "pre") (flows : Flows (tag.name :: path))
    (noTag : '<' ∉ inside) (others : Marked path [] markup named) :
    Marked path text (tag.markup ++ (inside ++ (closingTag tag.name ++ markup)))
      ((id, tag.node (Node.ofText (shownText inside))) :: named) :=
  label hasId opens (fun same => absurd same flowing) (.text flows noTag)
    ⟨Node.allNamed_ofText _, Node.allTitles_ofText _⟩ others

end Marked

end LessonSite.Html
