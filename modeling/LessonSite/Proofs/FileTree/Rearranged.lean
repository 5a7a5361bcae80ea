import LessonSite.Proofs.FileTree.Follow
import LessonSite.Proofs.Lists

/-!
# Trees in another order

A directory may list its entries in any order.  Paths lead to the same places in
two trees that differ in this order only, and the same files stand there.
-/

namespace LessonSite.FileTree

/-- The same things stand everywhere; directories list them in any order. -/
structure Rearranged (tree other : FileTree) : Prop where
  kinds : ∀ place, other.kind? place = tree.kind? place
  names : ∀ place entries others, tree.at? place = some (.directory entries) →
    other.at? place = some (.directory others) →
    (others.map Prod.fst).Perm (entries.map Prod.fst)

namespace Rearranged

variable {tree other : FileTree}

private theorem mem_iff_lookup (distinct : (tree.map Prod.fst).Nodup)
    {name : String}
    {node : FileNode} :
    (name, node) ∈ tree ↔ List.lookup name tree = some node :=
  ⟨lookup_of_mem_of_nodup distinct, mem_of_lookup⟩

/-- The entries of the topmost directory can be in any order. -/
theorem of_perm (perm : other.Perm tree)
    (distinct : (tree.map Prod.fst).Nodup) :
    Rearranged tree other := by
  have lookup
    (name : String) : List.lookup name other = List.lookup name tree := by
    have otherDistinct : (other.map Prod.fst).Nodup :=
      ((perm.map _).nodup_iff).mpr distinct
    apply Option.ext
    intro node
    rw [← mem_iff_lookup otherDistinct, ← mem_iff_lookup distinct, perm.mem_iff]
  have below (name : String) (names : List String) :
      other.at? (name :: names) = tree.at? (name :: names) := by
    rw [at?_cons, at?_cons, lookup]
  constructor
  · intro place
    cases place with
    | nil => rfl
    | cons name names => rw [kind?, kind?, below]
  · intro place entries others here there
    cases place with
    | nil =>
        cases here
        cases there
        exact perm.map _
    | cons name names =>
        rw [below, here] at there
        cases there
        exact .refl _

private theorem follow_step {links : Nat}
    (fewer : ∀ left < links, ∀ place names,
      other.follow true left place names = tree.follow true left place names)
    (same : ∀ place, other.kind? place = tree.kind? place)
    (place names : List String) :
    other.follow true links place names =
      tree.follow true links place names := by
  induction names generalizing place with
  | nil => rw [follow_nil, follow_nil]
  | cons name names induction =>
      by_cases here : tree.kind? place = some .directory
      · have there := (same place).trans here
        rcases Classical.em (staysAt name) with stays | moves
        · rw [follow_stay here stays, follow_stay there stays, induction]
        by_cases up : name = ".."
        · rw [up, follow_up here, follow_up there, induction]
        have isName : IsName name :=
          ⟨fun empty => moves (.inl empty), fun dot => moves (.inr dot), up⟩
        by_cases short : fits name
        · have next := same (place ++ [name])
          cases child : tree.kind? (place ++ [name]) with
          | none => rw [follow_missing here isName short child,
              follow_missing there isName short (next.trans child)]
          | some kind =>
              by_cases plain : ∀ goal, kind ≠ .link goal
              · rw [follow_down here isName short child plain,
                  follow_down there isName short (next.trans child) plain,
                  induction]
              · obtain ⟨goal, isLink⟩ := Classical.not_forall.mp plain
                obtain rfl := Classical.not_not.mp isLink
                rw [follow_link here isName short child,
                  follow_link there isName short (next.trans child)]
                cases links with
                | zero => rfl
                | succ left => simp only [fewer left (Nat.lt_succ_self left)]
        · rw [follow_long here isName short, follow_long there isName short]
      · rw [follow_blocked here, follow_blocked ((same place).symm ▸ here)]

theorem follow_eq (rearranged : Rearranged tree other) (links : Nat)
    (place names : List String) :
    other.follow true links place names =
      tree.follow true links place names := by
  induction links using Nat.strongRecOn generalizing place names with
  | ind links fewer =>
      exact follow_step
        (fun left less place names => fewer left less place names)
        rearranged.kinds place names

theorem resolve_eq (rearranged : Rearranged tree other) (path : String) :
    other.resolve path = tree.resolve path := by
  unfold resolve
  rw [rearranged.follow_eq]

/-- The nodes at a path are of one kind, if there are any. -/
theorem node_eq (rearranged : Rearranged tree other) (path : String) :
    (∃ fault, other.node path = .error fault ∧ tree.node path = .error fault) ∨
      (∃ content,
        other.node path = .ok (.file content) ∧
          tree.node path = .ok (.file content)) ∨
      (∃ target,
        other.node path = .ok (.link target) ∧
          tree.node path = .ok (.link target)) ∨
      ∃ others entries, other.node path = .ok (.directory others) ∧
        tree.node path = .ok (.directory entries) ∧
        (others.map Prod.fst).Perm (entries.map Prod.fst) := by
  unfold node
  rw [rearranged.resolve_eq]
  cases tree.resolve path with
  | error fault => exact .inl ⟨fault, rfl, rfl⟩
  | ok place =>
      have kinds := rearranged.kinds place
      have names := rearranged.names place
      unfold kind? at kinds
      cases there : other.at? place with
      | none =>
          rw [there, Option.map_none] at kinds
          have here := Option.map_eq_none_iff.mp kinds.symm
          simp only [here, there]
          exact .inl ⟨.missing, rfl, rfl⟩
      | some second =>
          rw [there, Option.map_some] at kinds
          obtain ⟨first, here, same⟩ := Option.map_eq_some_iff.mp kinds.symm
          simp only [here, there]
          cases first with
          | file content =>
              cases second <;> cases same
              exact .inr (.inl ⟨content, rfl, rfl⟩)
          | link target =>
              cases second <;> cases same
              exact .inr (.inr (.inl ⟨target, rfl, rfl⟩))
          | directory entries =>
              cases second with
              | directory others =>
                  exact .inr
                    (.inr
                      (.inr ⟨others, entries, rfl, rfl, names _ _ here there⟩))
              | file content => cases same
              | link target => cases same

theorem isFile_eq (rearranged : Rearranged tree other) (path : String) :
    other.isFile path = tree.isFile path := by
  unfold isFile
  rcases rearranged.node_eq path with
    ⟨fault, there, here⟩ | ⟨content, there, here⟩ |
      ⟨target, there, here⟩ | ⟨others, entries, there, here, -⟩
  all_goals rw [there, here]

theorem readText_eq (rearranged : Rearranged tree other) (path : String) :
    other.readText path = tree.readText path := by
  unfold readText read
  rcases rearranged.node_eq path with
    ⟨fault, there, here⟩ | ⟨content, there, here⟩ |
      ⟨target, there, here⟩ | ⟨others, entries, there, here, -⟩
  all_goals rw [there, here]

end Rearranged

end LessonSite.FileTree
