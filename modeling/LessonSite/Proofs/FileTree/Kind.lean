import LessonSite.FileTree.Write

/-!
# What stands at a place

A tree of files is seen as the kinds of node at its places.  A leaf that is put
at a place changes what stands there and nothing else.
-/

namespace LessonSite

/-- What stands at a place, without what is below it. -/
inductive FileKind where
  | file (content : List UInt8)
  | directory
  | link (target : String)
  deriving DecidableEq

/-- The kind without what a file holds. -/
def FileKind.shape : FileKind → FileKind
  | .file _ => .file []
  | .directory => .directory
  | .link target => .link target

theorem FileKind.eq_link_of_shape {kind : FileKind} {target : String}
    (same : kind.shape = shape (.link target)) : kind = .link target := by
  cases kind with
  | file content => cases same
  | directory => cases same
  | link other => exact same

namespace FileNode

def kind : FileNode → FileKind
  | .file content => .file content
  | .directory _ => .directory
  | .link target => .link target

/-- The node that some names lead to from a node. -/
def under? (node : FileNode) : List String → Option FileNode
  | [] => some node
  | name :: names =>
      match node with
      | .directory entries => FileTree.at? entries (name :: names)
      | _ => none

/-- There is nothing below the node. -/
inductive IsLeaf : FileNode → Prop where
  | file (content : List UInt8) : IsLeaf (.file content)
  | directory : IsLeaf (.directory [])

end FileNode

namespace FileTree

variable (tree : FileTree)

/-- The kind of the node at a place. -/
def kind? (place : List String) : Option FileKind :=
  (tree.at? place).map FileNode.kind

@[simp] theorem kind?_nil : tree.kind? [] = some .directory := by
  simp [kind?, at?, FileNode.kind]

variable {tree}

theorem at?_cons (name : String) (names : List String) :
    tree.at? (name :: names) =
      (List.lookup name tree).bind (·.under? names) := by
  cases found : List.lookup name tree with
  | none => simp [at?, found]
  | some node =>
      cases names with
      | nil => simp [at?, found, FileNode.under?]
      | cons next names =>
          cases node <;> simp [at?, found, FileNode.under?]

theorem under?_eq_none_of_isLeaf {node : FileNode} (leaf : node.IsLeaf)
    {names : List String} (below : names ≠ []) : node.under? names = none := by
  cases names with
  | nil => exact absurd rfl below
  | cons name names =>
      cases leaf with
      | file content => rfl
      | directory =>
          rw [FileNode.under?, at?_cons]
          rfl

theorem under?_directory (entries : FileTree) (names : List String) :
    (FileNode.directory entries).under? names = FileTree.at? entries names := by
  cases names with
  | nil => simp [FileNode.under?, at?]
  | cons name names => rfl

theorem at?_append (place names : List String) :
    tree.at? (place ++ names) = (tree.at? place).bind (·.under? names) := by
  induction place generalizing tree with
  | nil => simp [at?, under?_directory]
  | cons name place induction =>
      rw [List.cons_append, at?_cons, at?_cons]
      cases List.lookup name tree with
      | none => rfl
      | some node =>
          cases node with
          | directory entries =>
              simp only [Option.bind_some, under?_directory]
              exact induction
          | file content =>
              cases place <;> cases names <;> rfl
          | link target =>
              cases place <;> cases names <;> rfl

theorem kind?_eq_directory_iff {place : List String} :
    tree.kind? place = some .directory ↔
      ∃ entries, tree.at? place = some (.directory entries) := by
  unfold kind?
  cases tree.at? place with
  | none => simp
  | some node => cases node <;> simp [FileNode.kind]

theorem kind?_eq_file_iff {place : List String} {content : List UInt8} :
    tree.kind? place = some (.file content) ↔
      tree.at? place = some (.file content) := by
  unfold kind?
  cases tree.at? place with
  | none => simp
  | some node => cases node <;> simp [FileNode.kind]

theorem kind?_eq_none_iff {place : List String} :
    tree.kind? place = none ↔ tree.at? place = none := by
  simp [kind?]

/-- Below a directory at a place the kinds are those of its entries. -/
theorem kind?_append {place : List String} {entries : FileTree}
    (found : tree.at? place = some (.directory entries)) (names : List String) :
    tree.kind? (place ++ names) = FileTree.kind? entries names := by
  rw [kind?, at?_append, found, Option.bind_some, under?_directory, kind?]

theorem kind?_append_eq_none {place names : List String} (below : names ≠ [])
    (leaf : tree.kind? place ≠ some .directory) :
    tree.kind? (place ++ names) = none := by
  rw [kind?_eq_none_iff, at?_append]
  rw [Ne, kind?_eq_directory_iff] at leaf
  cases found : tree.at? place with
  | none => rfl
  | some node =>
      obtain ⟨name, rest, rfl⟩ := List.exists_cons_of_ne_nil below
      cases node with
      | directory entries => exact absurd ⟨entries, found⟩ leaf
      | file content => rfl
      | link target => rfl

theorem kind?_of_append {place names : List String} {kind : FileKind}
    (below : names ≠ [])
    (found : tree.kind? (place ++ names) = some kind) :
    tree.kind? place = some .directory := by
  by_cases leaf : tree.kind? place = some .directory
  · exact leaf
  · rw [kind?_append_eq_none below leaf] at found
    cases found

theorem lookup_put_self (name : String) (node : FileNode) (tree : FileTree) :
    List.lookup name (put name node tree) = some node := by
  induction tree with
  | nil => simp [put]
  | cons entry entries induction =>
      obtain ⟨present, old⟩ := entry
      by_cases same : present = name
      · simp [put, same]
      · simpa [put, same, List.lookup_cons,
          beq_false_of_ne (Ne.symm same)] using induction

theorem lookup_put_ne {name other : String} (different : other ≠ name)
    (node : FileNode)
    (tree : FileTree) :
    List.lookup other (put name node tree) = List.lookup other tree := by
  induction tree with
  | nil => simp [put, List.lookup_cons, beq_false_of_ne different]
  | cons entry entries induction =>
      obtain ⟨present, old⟩ := entry
      by_cases same : present = name
      · subst same
        simp [put, List.lookup_cons, beq_false_of_ne different]
      · simp only [put, same, if_false, List.lookup_cons, induction]

private theorem exists_lookup_of_directory {name : String} {names : List String}
    (found : tree.kind? (name :: names) = some .directory) :
    ∃ entries : FileTree, List.lookup name tree = some (.directory entries) ∧
      FileTree.kind? entries names = some .directory := by
  obtain ⟨below, here⟩ := kind?_eq_directory_iff.mp found
  rw [at?_cons] at here
  cases first : List.lookup name tree with
  | none => simp [first] at here
  | some node =>
      rw [first, Option.bind_some] at here
      cases node with
      | directory entries =>
          rw [under?_directory] at here
          exact ⟨entries, rfl, kind?_eq_directory_iff.mpr ⟨below, here⟩⟩
      | file content => cases names <;> simp [FileNode.under?] at here
      | link target => cases names <;> simp [FileNode.under?] at here

private theorem kind?_cons_of_directory {name : String} {entries : FileTree}
    (first : List.lookup name tree = some (.directory entries))
    (names : List String) :
    tree.kind? (name :: names) = FileTree.kind? entries names := by
  rw [kind?, at?_cons, first, Option.bind_some, under?_directory, kind?]

private theorem putAt_cons {name : String} {names : List String}
    (more : names ≠ []) (node : FileNode) {entries : FileTree}
    (first : List.lookup name tree = some (.directory entries)) :
    putAt node (name :: names) tree =
      put name (.directory (putAt node names entries)) tree := by
  obtain ⟨next, rest, rfl⟩ := List.exists_cons_of_ne_nil more
  simp only [putAt, first]

private theorem kind?_cons_congr {name : String} {other : FileTree}
    (same : List.lookup name tree = List.lookup name other)
    (names : List String) :
    tree.kind? (name :: names) = other.kind? (name :: names) := by
  rw [kind?, at?_cons, same, ← at?_cons, ← kind?]

/-- A leaf that is put at a place where there is no directory is all that
changes. -/
theorem kind?_putAt {node : FileNode} (leaf : node.IsLeaf) {place : List String}
    {name : String} (room : tree.kind? place = some .directory)
    (free : tree.kind? (place ++ [name]) ≠ some .directory)
    (other : List String) :
    (putAt node (place ++ [name]) tree).kind? other =
      if other = place ++ [name] then some node.kind else tree.kind? other := by
  induction place generalizing tree other with
  | nil =>
      cases other with
      | nil => simp
      | cons first rest =>
          by_cases same : first = name
          · subst same
            rw [List.nil_append, putAt, kind?, at?_cons, lookup_put_self,
              Option.bind_some]
            by_cases here : rest = []
            · simp [here, FileNode.under?]
            · have gone := kind?_append_eq_none here free
              rw [under?_eq_none_of_isLeaf leaf here, if_neg (by simp [here])]
              exact gone.symm
          · rw [if_neg (by simp [same]), List.nil_append, putAt]
            exact kind?_cons_congr (lookup_put_ne same node tree) rest
  | cons first place induction =>
      obtain ⟨entries, found, below⟩ := exists_lookup_of_directory room
      rw [List.cons_append, putAt_cons (by simp) node found]
      rw [List.cons_append, kind?_cons_of_directory found] at free
      cases other with
      | nil => simp
      | cons head rest =>
          by_cases same : head = first
          · subst same
            rw [kind?_cons_of_directory (lookup_put_self _ _ _),
              induction below free, kind?_cons_of_directory found]
            simp
          · rw [if_neg (by simp [same])]
            exact kind?_cons_congr (lookup_put_ne same _ tree) rest

/-- A node that is put below a directory is put into its entries. -/
theorem at?_putAt_above {top names : List String} (below : names ≠ [])
    (node : FileNode)
    {entries : FileTree} (found : tree.at? top = some (.directory entries)) :
    (putAt node (top ++ names) tree).at? top =
      some (.directory (putAt node names entries)) := by
  induction top generalizing tree with
  | nil =>
      simp only [at?, Option.some.injEq, FileNode.directory.injEq] at found
      rw [List.nil_append, found, at?]
  | cons first top induction =>
      obtain ⟨inner, head, -⟩ :=
        exists_lookup_of_directory (kind?_eq_directory_iff.mpr ⟨entries, found⟩)
      have further : FileTree.at? inner top = some (.directory entries) := by
        rwa [at?_cons, head, Option.bind_some, under?_directory] at found
      rw [List.cons_append, putAt_cons (by simp [below]) node head, at?_cons,
        lookup_put_self, Option.bind_some, under?_directory, induction further]

private theorem length_filesIn_put {name : String} {node old : FileNode}
    {number : Nat}
    (counts : ∀ path,
      (filesOf path node).length = (filesOf path old).length + number)
    (present : List.lookup name tree = some old) (path : String) :
    (filesIn path (put name node tree)).length =
      (filesIn path tree).length + number := by
  induction tree with
  | nil => simp at present
  | cons entry entries induction =>
      obtain ⟨head, first⟩ := entry
      by_cases same : head = name
      · subst same
        simp only [List.lookup_cons_self, Option.some.injEq] at present
        subst present
        simp only [put, if_true, filesIn, List.length_append, counts]
        omega
      · rw [List.lookup_cons, beq_false_of_ne (Ne.symm same)] at present
        simp only [put, same, if_false, filesIn, List.length_append,
          induction present]
        omega

private theorem length_filesIn_put_new {name : String} {node : FileNode}
    {number : Nat} (counts : ∀ path, (filesOf path node).length = number)
    (absent : List.lookup name tree = none) (path : String) :
    (filesIn path (put name node tree)).length =
      (filesIn path tree).length + number := by
  induction tree with
  | nil => simp [put, filesIn, counts]
  | cons entry entries induction =>
      obtain ⟨head, first⟩ := entry
      by_cases same : head = name
      · simp [same] at absent
      · rw [List.lookup_cons, beq_false_of_ne (Ne.symm same)] at absent
        simp only [put, same, if_false, filesIn, List.length_append,
          induction absent]
        omega

/-- A node that is put where nothing was adds its own files. -/
theorem length_filesIn_putAt {node : FileNode} {number : Nat}
    (counts : ∀ path, (filesOf path node).length = number) {place : List String}
    {name : String}
    (room : tree.kind? place = some .directory)
    (absent : tree.kind? (place ++ [name]) = none) (path : String) :
    (filesIn path (putAt node (place ++ [name]) tree)).length =
      (filesIn path tree).length + number := by
  induction place generalizing tree path with
  | nil =>
      rw [List.nil_append, kind?_eq_none_iff, at?_cons] at absent
      refine length_filesIn_put_new counts ?_ path
      cases found : List.lookup name tree with
      | none => rfl
      | some node => simp [found, FileNode.under?] at absent
  | cons first place induction =>
      obtain ⟨entries, found, below⟩ := exists_lookup_of_directory room
      rw [List.cons_append, putAt_cons (by simp) node found]
      rw [List.cons_append, kind?_cons_of_directory found] at absent
      refine length_filesIn_put ?_ found path
      intro inner
      simp only [filesOf]
      exact induction below absent inner

end FileTree

end LessonSite
