import LessonSite.Html.Dom

/-!
# Trees in the store

A store that grows by elements and texts at its end holds every tree in the
order in which its nodes begin.  This module says what such a store looks like,
how it grows, and that the trees are read off it again.
-/

namespace LessonSite.Html

/-- The store of the given nodes. -/
def Dom.ofNodes (nodes : List StoredNode) : Dom :=
  ⟨nodes.toArray⟩

namespace Dom

variable {left right : List StoredNode} {stored : StoredNode} {node : Nat}

theorem get_ofNodes (position : left.length = node) :
    (ofNodes (left ++ stored :: right)).get node = stored := by
  subst position
  simp [ofNodes, get]

theorem modify_ofNodes (position : left.length = node)
    (change : StoredNode → StoredNode) :
    (ofNodes (left ++ stored :: right)).modify node change =
      ofNodes (left ++ change stored :: right) := by
  subst position
  have modified : (left ++ stored :: right).modify left.length change =
      left ++ change stored :: right := by
    rw [List.modify_eq_take_cons_drop (by simp), List.take_left]
    simp
  rw [ofNodes, modify, List.modify_toArray, modified, ofNodes]

theorem create_ofNodes (nodes : List StoredNode) (kind : NodeKind) :
    (ofNodes nodes).create kind =
      (nodes.length, ofNodes (nodes ++ [⟨kind, none, []⟩])) := by
  simp [ofNodes, create]

end Dom

namespace Node

mutual

/-- The number of nodes of a tree. -/
def size : Node → Nat
  | .element _ _ children => sizeAll children + 1
  | .text _ => 1

/-- The number of nodes of several trees. -/
def sizeAll : List Node → Nat
  | [] => 0
  | node :: nodes => size node + sizeAll nodes

end

/-- The positions of neighbouring trees, the first of which begins at the given
one. -/
def positions (next : Nat) : List Node → List Nat
  | [] => []
  | node :: nodes => next :: positions (next + node.size) nodes

mutual

/-- The nodes of a tree that begins at a position. -/
def store (parent next : Nat) : Node → List StoredNode
  | .element name attributes children =>
      ⟨.element name attributes none, some parent,
          positions (next + 1) children⟩ ::
        storeAll next (next + 1) children
  | .text content => [⟨.text content, some parent, []⟩]

/-- The nodes of neighbouring trees, the first of which begins at a position. -/
def storeAll (parent next : Nat) : List Node → List StoredNode
  | [] => []
  | node :: nodes =>
      store parent next node ++ storeAll parent (next + node.size) nodes

end

mutual

theorem length_store (parent next : Nat) (node : Node) :
    (store parent next node).length = node.size := by
  cases node with
  | element name attributes children =>
      rw [store, List.length_cons, length_storeAll, size]
  | text content => rfl

theorem length_storeAll (parent next : Nat) (nodes : List Node) :
    (storeAll parent next nodes).length = sizeAll nodes := by
  cases nodes with
  | nil => rfl
  | cons node nodes =>
      rw [storeAll, List.length_append, length_store, length_storeAll, sizeAll]

end

theorem positions_append (next : Nat) (nodes more : List Node) :
    positions next (nodes ++ more) =
      positions next nodes ++ positions (next + sizeAll nodes) more := by
  induction nodes generalizing next with
  | nil =>
      rw [List.nil_append, positions, sizeAll, List.nil_append, Nat.add_zero]
  | cons node nodes induction =>
      rw [List.cons_append, positions, positions, induction, sizeAll,
        List.cons_append, Nat.add_assoc]

theorem storeAll_append (parent next : Nat) (nodes more : List Node) :
    storeAll parent next (nodes ++ more) =
      storeAll parent next nodes ++
        storeAll parent (next + sizeAll nodes) more := by
  induction nodes generalizing next with
  | nil =>
      rw [List.nil_append, storeAll, sizeAll, List.nil_append, Nat.add_zero]
  | cons node nodes induction =>
      rw [List.cons_append, storeAll, storeAll, induction, sizeAll,
        List.append_assoc, Nat.add_assoc]

end Node

/-- The tree that begins at a position, down to the given depth. -/
def Dom.treeAt (dom : Dom) (depth node : Nat) : Node :=
  match (dom.get node).kind with
  | .root => .text ""
  | .element name attributes _ =>
      .element name attributes (dom.treesOf depth node)
  | .text content => .text content

theorem Dom.treesOf_succ (dom : Dom) (depth node : Nat) :
    dom.treesOf (depth + 1) node =
      (dom.get node).children.map (dom.treeAt depth) :=
  rfl

namespace Node

mutual

theorem treeAt_store (parent depth : Nat) (left right : List StoredNode)
    (node : Node) (deep : node.size ≤ depth) :
    (Dom.ofNodes (left ++ (store parent left.length node ++ right))).treeAt
        depth left.length =
      node := by
  cases node with
  | element name attributes children =>
      rw [size] at deep
      obtain ⟨depth, rfl⟩ :=
        Nat.exists_eq_add_of_le' (Nat.le_of_add_left_le deep)
      have inner := treesAt_storeAll left.length depth
        (left ++
          [⟨.element name attributes none, some parent,
            positions (left.length + 1) children⟩])
        right children (Nat.le_of_add_le_add_right deep)
      rw [List.length_append, List.length_singleton, List.append_assoc,
        List.singleton_append] at inner
      rw [store, List.cons_append, Dom.treeAt, Dom.treesOf_succ,
        Dom.get_ofNodes rfl, inner]
  | text content =>
      rw [store, List.singleton_append, Dom.treeAt, Dom.get_ofNodes rfl]

theorem treesAt_storeAll (parent depth : Nat) (left right : List StoredNode)
    (nodes : List Node) (deep : sizeAll nodes ≤ depth) :
    (positions left.length nodes).map
        ((Dom.ofNodes
          (left ++ (storeAll parent left.length nodes ++ right))).treeAt
          depth) =
      nodes := by
  cases nodes with
  | nil => rfl
  | cons node nodes =>
      rw [sizeAll] at deep
      have first := treeAt_store parent depth left
        (storeAll parent (left.length + node.size) nodes ++ right) node
        (Nat.le_of_add_right_le deep)
      have others :=
        treesAt_storeAll parent depth
          (left ++ store parent left.length node) right
          nodes (Nat.le_of_add_left_le deep)
      rw [List.length_append, length_store, List.append_assoc] at others
      rw [positions, List.map_cons, storeAll, List.append_assoc, first, others]

end

end Node

/-- An open element with what has been finished in it. -/
structure Frame where
  name : String
  attributes : List Attribute
  children : List Node

namespace Frame

def elementName (frame : Frame) : ElementName :=
  ⟨.html, frame.name⟩

/-- The element as it is when it ends here. -/
def node (frame : Frame) : Node :=
  .element frame.elementName frame.attributes frame.children

/-- The element with more finished children. -/
def addAll (frame : Frame) (nodes : List Node) : Frame :=
  { frame with children := frame.children ++ nodes }

theorem addAll_addAll (frame : Frame) (nodes more : List Node) :
    (frame.addAll nodes).addAll more = frame.addAll (nodes ++ more) := by
  rw [addAll, addAll, addAll, List.append_assoc]

/-- The position after all nodes, given the open elements from the innermost
outwards. -/
def next : List Frame → Nat
  | [] => 1
  | frame :: outer => next outer + 1 + Node.sizeAll frame.children

/-- The position of the innermost element. -/
def innermost : List Frame → Nat
  | [] => 0
  | _ :: outer => next outer

/-- The positions of the open elements. -/
def positions : List Frame → List Nat
  | [] => []
  | frame :: outer => innermost (frame :: outer) :: positions outer

theorem lt_next_of_mem {frames : List Frame} {node : Nat}
    (member : node ∈ positions frames) :
    node < next frames := by
  induction frames with
  | nil => cases member
  | cons frame outer induction =>
      rw [next]
      rcases List.mem_cons.mp member with rfl | member
      · rw [innermost]
        omega
      · have before := induction member
        omega

/-- The nodes of the store, where the innermost element has some more
children. -/
def layout (more : List Nat) : List Frame → List StoredNode
  | [] => [⟨.root, none, more⟩]
  | frame :: outer =>
      layout [next outer] outer ++
        ⟨.element frame.elementName frame.attributes none,
          some (innermost outer),
          Node.positions (next outer + 1) frame.children ++ more⟩ ::
        Node.storeAll (next outer) (next outer + 1) frame.children

/-- The store that holds the open elements. -/
def dom (frames : List Frame) : Dom :=
  Dom.ofNodes (layout [] frames)

theorem length_layout (more : List Nat) (frames : List Frame) :
    (layout more frames).length = next frames := by
  induction frames generalizing more with
  | nil => rfl
  | cons frame outer induction =>
      rw [layout, List.length_append, induction, List.length_cons,
        Node.length_storeAll, next]
      omega

private theorem layout_split (frames : List Frame) :
    ∃ (left right : List StoredNode) (kind : NodeKind) (parent : Option
        Nat) (children : List Nat),
      left.length = innermost frames ∧
        ∀ more,
          layout more frames =
            left ++ ⟨kind, parent, children ++ more⟩ :: right := by
  cases frames with
  | nil => exact ⟨[], [], .root, none, [], rfl, fun _ => rfl⟩
  | cons frame outer =>
      exact ⟨_, _, _, _, _, length_layout [next outer] outer, fun _ => rfl⟩

/-- A tree that follows the others becomes the last child of the innermost
element. -/
theorem layout_addAll (frame : Frame) (outer : List Frame) (node : Node) :
    layout [] (frame.addAll [node] :: outer) =
      layout [next (frame :: outer)] (frame :: outer) ++
        node.store (innermost (frame :: outer)) (next (frame :: outer)) := by
  simp [layout, addAll, elementName, Node.positions_append,
    Node.storeAll_append, Node.positions, Node.storeAll, next, innermost]

theorem dom_close (inner frame : Frame) (outer : List Frame) :
    dom (inner :: frame :: outer) =
      dom (frame.addAll [inner.node] :: outer) := by
  rw [dom, dom, layout_addAll, node, Node.store, layout, List.append_nil]

theorem create_dom (frames : List Frame) (kind : NodeKind) :
    (dom frames).create kind =
      (next frames, Dom.ofNodes (layout [] frames ++ [⟨kind, none, []⟩])) := by
  rw [dom, Dom.create_ofNodes, length_layout]

/-- The newest node becomes the last child of the innermost element. -/
theorem append_newest (frames : List Frame) (kind : NodeKind) :
    (Dom.ofNodes (layout [] frames ++ [⟨kind, none, []⟩])).append
        (innermost frames) (next frames) =
      Dom.ofNodes
        (layout [next frames] frames ++
          [⟨kind, some (innermost frames), []⟩]) := by
  obtain ⟨left, right, parentKind, parent, children, position, split⟩ :=
    layout_split frames
  have given : layout [] frames ++ [⟨kind, none, []⟩] =
      left ++
        ⟨parentKind, parent, children⟩ :: (right ++ [⟨kind, none, []⟩]) := by
    rw [split, List.append_assoc, List.cons_append, List.append_nil]
  have adopted : left ++ ⟨parentKind, parent, children ++ [next frames]⟩ ::
      (right ++ [⟨kind, none, []⟩]) =
    layout [next frames] frames ++ [⟨kind, none, []⟩] := by
    rw [split, List.append_assoc, List.cons_append]
  rw [given, Dom.append, Dom.modify_ofNodes position, adopted,
    Dom.modify_ofNodes (length_layout _ frames)]

theorem append_element (frames : List Frame) (name : String)
    (attributes : List Attribute) :
    (Dom.ofNodes
        (layout [] frames ++
          [⟨.element ⟨.html, name⟩ attributes none, none, []⟩])).append
      (innermost frames) (next frames) =
      dom (⟨name, attributes, []⟩ :: frames) := by
  rw [append_newest]
  rfl

end Frame

namespace Node

/-- The children of an element after one more character. -/
def addCharacter (character : Char) : List Node → List Node
  | [] => [.text (String.singleton character)]
  | [.text content] => [.text (content.push character)]
  | node :: nodes => node :: addCharacter character nodes

def isText : Node → Bool
  | .text _ => true
  | .element _ _ _ => false

def endsInText (nodes : List Node) : Bool :=
  nodes.getLast?.any isText

theorem addCharacter_append (character : Char) (nodes : List Node)
    (last : Node) :
    addCharacter character (nodes ++ [last]) =
      nodes ++ addCharacter character [last] := by
  induction nodes with
  | nil => rfl
  | cons node nodes induction =>
      rw [List.cons_append, addCharacter, induction, List.cons_append]
      simp

theorem endsInText_append (nodes : List Node) (last : Node) :
    endsInText (nodes ++ [last]) = last.isText := by
  rw [endsInText, List.getLast?_append, List.getLast?_singleton]
  rfl

private theorem addCharacter_of_separate {nodes : List Node}
    (separate : endsInText nodes = false) (character : Char) :
    addCharacter character nodes =
      nodes ++ [.text (String.singleton character)] := by
  rcases List.eq_nil_or_concat nodes with rfl | ⟨nodes, last, rfl⟩
  · rfl
  · rw [List.concat_eq_append, endsInText_append] at separate
    rw [List.concat_eq_append, addCharacter_append, List.append_assoc]
    cases last with
    | text content => exact Bool.noConfusion separate
    | element name attributes children => rfl

private theorem foldl_addCharacter_text (nodes : List Node) (text : String)
    (content : List Char) :
    content.foldl (fun nodes character => addCharacter character nodes)
        (nodes ++ [.text text]) =
      nodes ++ [.text (text ++ String.ofList content)] := by
  induction content generalizing text with
  | nil => simp
  | cons character content induction =>
      rw [List.foldl_cons, addCharacter_append, addCharacter, induction]
      rw [String.ofList_cons, String.push_eq_append, String.append_assoc]

theorem foldl_addCharacter {nodes : List Node}
    (separate : endsInText nodes = false)
    {content : List Char} (nonempty : content ≠ []) :
    content.foldl (fun nodes character => addCharacter character nodes) nodes =
      nodes ++ [.text (String.ofList content)] := by
  obtain ⟨first, others, rfl⟩ := List.exists_cons_of_ne_nil nonempty
  rw [List.foldl_cons, addCharacter_of_separate separate,
    foldl_addCharacter_text, String.ofList_cons]

end Node

namespace Frame

/-- The element after one more character in it. -/
def addCharacter (frame : Frame) (character : Char) : Frame :=
  { frame with children := Node.addCharacter character frame.children }

/-- The element after a text in it. -/
def addText (frame : Frame) (text : List Char) : Frame :=
  text.foldl addCharacter frame

theorem addText_eq {frame : Frame}
    (separate : Node.endsInText frame.children = false)
    {text : List Char} (nonempty : text ≠ []) :
    frame.addText text = frame.addAll [.text (String.ofList text)] := by
  have children : ∀ (frame : Frame), frame.addText text =
      { frame with children := text.foldl (fun nodes character =>
        Node.addCharacter character nodes) frame.children } := by
    clear nonempty separate
    unfold addText
    induction text with
    | nil => exact fun _ => rfl
    | cons character text induction =>
        exact fun frame => induction (frame.addCharacter character)
  rw [children, Node.foldl_addCharacter separate nonempty, addAll]

theorem name_addText (frame : Frame) (text : List Char) :
    (frame.addText text).name = frame.name := by
  induction text generalizing frame with
  | nil => rfl
  | cons character text induction =>
      exact induction (frame.addCharacter character)

private theorem get_layout (frame : Frame) (outer : List Frame)
    (right : List StoredNode) :
    (Dom.ofNodes (layout [] (frame :: outer) ++ right)).get
        (innermost (frame :: outer)) =
      ⟨.element frame.elementName frame.attributes none, some (innermost outer),
        Node.positions (next outer + 1) frame.children⟩ := by
  rw [layout, innermost, List.append_nil, List.append_assoc, List.cons_append,
    Dom.get_ofNodes (length_layout _ outer)]

private theorem get_innermost (frame : Frame) (outer : List Frame) :
    (dom (frame :: outer)).get (innermost (frame :: outer)) =
      ⟨.element frame.elementName frame.attributes none, some (innermost outer),
        Node.positions (next outer + 1) frame.children⟩ := by
  have got := get_layout frame outer []
  rwa [List.append_nil] at got

private theorem getLast?_children (frame : Frame) (outer : List Frame)
    (last : Node) :
    ((dom (frame.addAll [last] :: outer)).get
        (innermost (frame :: outer))).children.getLast? =
      some (next (frame :: outer)) := by
  rw [show innermost (frame :: outer) =
    innermost (frame.addAll [last] :: outer) from rfl,
    get_innermost, addAll, Node.positions_append]
  simp [Node.positions, next]

private theorem append_text (frame : Frame) (outer : List Frame)
    (content : String) :
    (Dom.ofNodes
        (layout [] (frame :: outer) ++ [⟨.text content, none, []⟩])).append
      (innermost (frame :: outer)) (next (frame :: outer)) =
        dom (frame.addAll [.text content] :: outer) := by
  rw [append_newest, dom, layout_addAll, Node.store]

private theorem isText_last (frame : Frame) (outer : List Frame) (last : Node) :
    (dom (frame.addAll [last] :: outer)).isText (next (frame :: outer)) =
      last.isText := by
  rw [dom, layout_addAll, Dom.isText]
  cases last with
  | element name attributes children =>
      rw [Node.store, Dom.get_ofNodes (length_layout _ (frame :: outer))]
      rfl
  | text content =>
      rw [Node.store, Dom.get_ofNodes (length_layout _ (frame :: outer))]
      rfl

private theorem extendText_last (frame : Frame) (outer : List Frame)
    (content : String) (character : Char) :
    (dom (frame.addAll [.text content] :: outer)).extendText
        (next (frame :: outer)) character =
      dom (frame.addAll [.text (content.push character)] :: outer) := by
  rw [dom, dom, layout_addAll, layout_addAll, Node.store, Node.store,
    Dom.extendText, Dom.modify_ofNodes (length_layout _ (frame :: outer))]

private theorem appendCharacter_last (frame : Frame) (outer : List Frame)
    (last : Node) (character : Char) :
    (dom (frame.addAll [last] :: outer)).appendCharacter
        (innermost (frame :: outer)) character =
      dom (frame.addAll (Node.addCharacter character [last]) :: outer) := by
  rw [Dom.appendCharacter, getLast?_children]
  dsimp only
  rw [isText_last]
  cases last with
  | text content =>
      rw [Node.isText, if_pos rfl, extendText_last, Node.addCharacter]
  | element name attributes children =>
      have appended :=
        append_text (frame.addAll [.element name attributes children]) outer
          (String.singleton character)
      rw [addAll_addAll] at appended
      rw [Node.isText, if_neg Bool.false_ne_true, create_dom]
      exact appended

theorem appendCharacter_dom (frame : Frame) (outer : List Frame)
    (character : Char) :
    (dom (frame :: outer)).appendCharacter
        (innermost (frame :: outer)) character =
      dom (frame.addCharacter character :: outer) := by
  obtain ⟨name, attributes, children⟩ := frame
  rcases List.eq_nil_or_concat children with rfl | ⟨children, last, rfl⟩
  · rw [Dom.appendCharacter, get_innermost, Node.positions, List.getLast?_nil,
      create_dom]
    exact append_text ⟨name, attributes, []⟩ outer _
  · rw [List.concat_eq_append, addCharacter, Node.addCharacter_append]
    exact appendCharacter_last ⟨name, attributes, children⟩ outer last character

private theorem map_nameOf_layout (more : List Nat) (frames : List Frame)
    (right : List StoredNode) :
    (positions frames).map (Dom.ofNodes (layout more frames ++ right)).nameOf =
      frames.map fun frame => some frame.elementName := by
  induction frames generalizing more right with
  | nil => rfl
  | cons frame outer induction =>
      rw [layout, List.append_assoc, positions, List.map_cons, List.map_cons,
        induction, List.cons_append, innermost, Dom.nameOf,
        Dom.get_ofNodes (length_layout _ outer)]

theorem map_nameOf (frames : List Frame) :
    (positions frames).map (dom frames).nameOf =
      frames.map fun frame => some frame.elementName := by
  have names := map_nameOf_layout [] frames []
  rwa [List.append_nil] at names

theorem childHolder_layout (frame : Frame) (outer : List Frame)
    (right : List StoredNode) :
    (Dom.ofNodes (layout [] (frame :: outer) ++ right)).childHolder
        (innermost (frame :: outer)) =
      innermost (frame :: outer) := by
  rw [Dom.childHolder, get_layout]

theorem childHolder_innermost (frame : Frame) (outer : List Frame) :
    (dom (frame :: outer)).childHolder (innermost (frame :: outer)) =
      innermost (frame :: outer) := by
  rw [Dom.childHolder, get_innermost]

/-- The tree of an open element and those around it when all of them end
here. -/
def closeAll (frame : Frame) : List Frame → Node
  | [] => frame.node
  | parent :: outer => closeAll (parent.addAll [frame.node]) outer

private theorem toNodes_single (frame : Frame) :
    (dom [frame]).toNodes 0 = [frame.node] := by
  have whole : dom [frame] =
      Dom.ofNodes ([⟨.root, none, [1]⟩] ++ (frame.node.store 0 1 ++ [])) := by
    rw [dom, layout, node, Node.store, List.append_nil, List.append_nil]
    rfl
  have size : (dom [frame]).nodes.size = frame.node.size + 1 := by
    rw [whole, Dom.ofNodes, List.size_toArray, List.append_nil,
      List.length_append, List.length_singleton, Node.length_store,
      Nat.add_comm]
  have read :=
    Node.treeAt_store 0 frame.node.size [⟨.root, none, [1]⟩] [] frame.node
      (Nat.le_refl _)
  rw [Dom.toNodes, size, Dom.treesOf_succ, whole]
  exact congrArg (fun tree => [tree]) read

theorem toNodes_dom (frame : Frame) (outer : List Frame) :
    (dom (frame :: outer)).toNodes 0 = [closeAll frame outer] := by
  induction outer generalizing frame with
  | nil => exact toNodes_single frame
  | cons parent outer induction => rw [dom_close, induction, closeAll]

end Frame

end LessonSite.Html
