import Mathlib.Data.List.TakeWhile
import LessonSite.Proofs.FileTree.Follow
import LessonSite.Proofs.Text.Parts
import LessonSite.Text.Blank

/-!
# Spellings of a path

Repeated slashes and single dots make no difference to where a path leads.  What
counts are the other names in it, and whether it starts at the top.
-/

namespace LessonSite

open FileTree

namespace Text

variable {inClass : Char → Bool} {characters : List Char}

private theorem trimChars_append :
    trimChars inClass characters ++
        ((characters.dropWhile inClass).reverse.takeWhile inClass).reverse =
      characters.dropWhile inClass := by
  rw [trimChars, ← List.reverse_append, List.takeWhile_append_dropWhile,
    List.reverse_reverse]

/-- What is trimmed stands between characters of the class. -/
theorem exists_trimChars (inClass : Char → Bool) (characters : List Char) :
    ∃ before after,
      characters = before ++ trimChars inClass characters ++ after ∧
        (∀ character ∈ before, inClass character = true) ∧
        ∀ character ∈ after, inClass character = true := by
  refine ⟨characters.takeWhile inClass,
    ((characters.dropWhile inClass).reverse.takeWhile inClass).reverse, ?_, ?_,
    ?_⟩
  · rw [List.append_assoc, trimChars_append, List.takeWhile_append_dropWhile]
  · exact fun character member => List.mem_takeWhile_imp member
  · exact fun character member =>
      List.mem_takeWhile_imp (List.mem_reverse.mp member)

theorem head_trimChars {character : Char} {rest : List Char}
    (starts : trimChars inClass characters = character :: rest) :
    inClass character = false := by
  have first := List.head?_dropWhile_not inClass characters
  rw [← trimChars_append, starts] at first
  exact first

end Text

/-- The names of a directory, without those that stay where they are. -/
def rootNames (directory : String) : List String :=
  (pathNames directory).filter moves

theorem rootNames_slash (left right : String) :
    rootNames (left ++ "/" ++ right) = rootNames left ++ rootNames right := by
  rw [rootNames, pathNames_append, List.filter_append, rootNames, rootNames]

@[simp] theorem rootNames_empty : rootNames "" = [] := rfl

private theorem rootNames_slashes_before {slashes : List Char}
    (all : ∀ character ∈ slashes, character = '/')
    (text : String) :
    rootNames (String.ofList slashes ++ text) = rootNames text := by
  induction slashes with
  | nil => rw [String.ofList_nil, String.empty_append]
  | cons slash slashes induction =>
      obtain ⟨rfl, others⟩ := List.forall_mem_cons.mp all
      have spelled :
          String.ofList ('/' :: slashes) ++ text =
            "" ++ "/" ++ (String.ofList slashes ++ text) := by
        apply String.toList_inj.mp
        simp
      rw [spelled, rootNames_slash, rootNames_empty, List.nil_append,
        induction others]

private theorem rootNames_slashes_after {slashes : List Char}
    (all : ∀ character ∈ slashes, character = '/')
    (text : String) :
    rootNames (text ++ String.ofList slashes) = rootNames text := by
  induction slashes generalizing text with
  | nil => rw [String.ofList_nil, String.append_empty]
  | cons slash slashes induction =>
      obtain ⟨rfl, others⟩ := List.forall_mem_cons.mp all
      have spelled :
          text ++ String.ofList ('/' :: slashes) =
            text ++ "/" ++ String.ofList slashes := by
        apply String.toList_inj.mp
        simp
      have ends : text ++ "/" = text ++ "/" ++ "" := String.append_empty.symm
      rw [spelled, induction others (text ++ "/"), ends, rootNames_slash,
        rootNames_empty, List.append_nil]

theorem rootNames_trim (root : String) :
    rootNames (Text.trimMatches (· = '/') root) = rootNames root := by
  obtain ⟨before, after, whole, first, last⟩ :=
    Text.exists_trimChars (· = '/') root.toList
  have spelled :
      root =
        String.ofList before ++
          (Text.trimMatches (· = '/') root ++ String.ofList after) := by
    apply String.toList_inj.mp
    rw [String.toList_append, String.toList_append, Text.trimMatches,
      String.toList_ofList, String.toList_ofList, String.toList_ofList,
      ← List.append_assoc]
    exact whole
  have same :=
    rootNames_slashes_before
      (fun character member => of_decide_eq_true (first character member))
      (Text.trimMatches (· = '/') root ++ String.ofList after)
  rw [← spelled,
    rootNames_slashes_after fun character member =>
      of_decide_eq_true (last character member)] at same
  exact same.symm

theorem startsWith_trim (root : String) :
    Text.startsWith "/" (Text.trimMatches (· = '/') root) = false := by
  rw [← Bool.not_eq_true, Text.startsWith_iff]
  rintro ⟨rest, starts⟩
  rw [Text.trimMatches, String.toList_ofList] at starts
  exact Bool.noConfusion (Text.head_trimChars starts)

section

variable {directory path : String}

theorem rootNames_joinPath (relative : Text.startsWith "/" path = false) :
    rootNames (joinPath directory path) =
      rootNames directory ++ rootNames path := by
  by_cases empty : directory = ""
  · simp [joinPath, empty]
  · obtain ⟨names, spelled, same | same⟩ := exists_pathNames_joinPath empty
    · rw [rootNames, spelled path relative, List.filter_append, rootNames, same,
        rootNames]
    · have stays : [""].filter moves = [] := rfl
      rw [rootNames, spelled path relative, List.filter_append, rootNames, same,
        List.filter_append, stays, List.append_nil, rootNames]

end

/-- Two paths are spellings of one: they differ at most in repeated slashes and
in single dots. -/
def SameDirectory (left right : String) : Prop :=
  Text.startsWith "/" left = Text.startsWith "/" right ∧
    rootNames left = rootNames right

instance (left right : String) : Decidable (SameDirectory left right) :=
  inferInstanceAs (Decidable (_ ∧ _))

theorem FileTree.Leads.unique {tree : FileTree} {links left other : Nat}
    {place names one another : List String}
    (first : Leads tree links place names left one)
    (second : Leads tree links place names other another) :
    one = another := by
  have here := follow_eq_ok_iff.mpr ⟨_, first⟩
  rw [follow_eq_ok_iff.mpr ⟨_, second⟩] at here
  exact (Except.ok.inj here).symm

/-- Spellings of one path lead to one place, wherever both lead somewhere. -/
theorem SameDirectory.place_eq {left right : String}
    (same : SameDirectory left right) {tree : FileTree}
    {place other : List String} (first : tree.resolve left = .ok place)
    (second : tree.resolve right = .ok other) :
    place = other := by
  obtain ⟨-, -, -, _, leads⟩ := resolve_eq_ok_iff.mp first
  obtain ⟨-, -, -, _, alike⟩ := resolve_eq_ok_iff.mp second
  have filtered := leads.filter_moves
  change Leads tree linkLimit [] (rootNames left) _ _ at filtered
  rw [same.2] at filtered
  exact filtered.unique alike.filter_moves

end LessonSite
