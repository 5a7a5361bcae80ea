import LessonSite.Proofs.Text.Parts
import LessonSite.Proofs.Text.Utf8
import LessonSite.Proofs.Url.Weight
import LessonSite.Url.FilePath
import Mathlib.Data.List.Induction

/-!
# Names of a path of bytes

A path is followed by its names alone: an empty name and `.` stay where they
are, and `..` takes the last name back.  Names that never take back more than
their own lead below where they began; as soon as they do, no more is left of a
directory with one name.
-/

namespace LessonSite.Url

def followName (place : List (List UInt8)) (name : List UInt8) :
    List (List UInt8) :=
  if name = [] ∨ name = [0x2E] then place
  else if name = [0x2E, 0x2E] then place.dropLast
  else place ++ [name]

/-- Where an absolute path leads. -/
def placeOf (path : List UInt8) : List (List UInt8) :=
  (path.splitOn 0x2F).foldl followName []

/-- The path leads to a directory or below it. -/
def IsBelow (directory path : List UInt8) : Prop :=
  placeOf directory <+: placeOf path

instance (directory path : List UInt8) : Decidable (IsBelow directory path) :=
  inferInstanceAs (Decidable (_ <+: _))

/-- Where names lead below a place, unless they lead out of it. -/
def followInside? (inside : List (List UInt8)) :
    List (List UInt8) → Option (List (List UInt8))
  | [] => some inside
  | name :: names =>
      if name = [0x2E, 0x2E] ∧ inside = [] then none
      else followInside? (followName inside name) names

private theorem followName_append {outside inside : List (List UInt8)}
    {name : List UInt8} (stays : ¬(name = [0x2E, 0x2E] ∧ inside = [])) :
    followName (outside ++ inside) name =
      outside ++ followName inside name := by
  unfold followName
  split
  · rfl
  · split
    · next up =>
        have some_ : inside ≠ [] := fun empty => stays ⟨up, empty⟩
        rw [List.dropLast_append_of_ne_nil some_]
    · rw [List.append_assoc]

theorem foldl_followName_append {inside names reached : List (List UInt8)}
    (outside : List (List UInt8))
    (stays : followInside? inside names = some reached) :
    names.foldl followName (outside ++ inside) = outside ++ reached := by
  induction names generalizing inside with
  | nil =>
      cases stays
      rfl
  | cons name names induction =>
      rw [followInside?] at stays
      split at stays
      · cases stays
      · next within =>
          rw [List.foldl_cons, followName_append within]
          exact induction stays

/-- The number of bytes in names. -/
def heft (names : List (List UInt8)) : Nat :=
  (names.map List.length).sum

@[simp] theorem heft_nil : heft [] = 0 := rfl

@[simp] theorem heft_cons (name : List UInt8) (names : List (List UInt8)) :
    heft (name :: names) = name.length + heft names := rfl

@[simp] theorem heft_append (names others : List (List UInt8)) :
    heft (names ++ others) = heft names + heft others := by
  rw [heft, List.map_append, List.sum_append_nat]
  rfl

theorem heft_dropLast_le (names : List (List UInt8)) :
    heft names.dropLast ≤ heft names := by
  rcases List.eq_nil_or_concat names with rfl | ⟨before, last, rfl⟩
  · exact Nat.le_refl _
  · rw [List.concat_eq_append, List.dropLast_concat, heft_append]
    omega

theorem heft_followName_le (place : List (List UInt8)) (name : List UInt8) :
    heft (followName place name) ≤ heft place + name.length := by
  have shorter := heft_dropLast_le place
  unfold followName
  split
  · omega
  · split
    · omega
    · rw [heft_append, heft_cons, heft_nil]
      exact Nat.le_refl _

theorem heft_foldl_followName_le (place names : List (List UInt8)) :
    heft (names.foldl followName place) ≤ heft place + heft names := by
  induction names generalizing place with
  | nil => exact Nat.le_refl _
  | cons name names induction =>
      have rest := induction (followName place name)
      have first := heft_followName_le place name
      rw [List.foldl_cons, heft_cons]
      omega

/-- Names that lead out of a directory with one name leave nothing of it. -/
theorem heft_foldl_of_followInside?_eq_none (name : List UInt8)
    {inside names : List (List UInt8)}
    (leaves : followInside? inside names = none) :
    heft (names.foldl followName (name :: inside)) ≤
      heft inside + heft names := by
  induction names generalizing inside with
  | nil => cases leaves
  | cons next names induction =>
      rw [followInside?] at leaves
      rw [List.foldl_cons, heft_cons]
      split at leaves
      · next out =>
          obtain ⟨rfl, rfl⟩ := out
          have rest := heft_foldl_followName_le [] names
          have nothing : followName [name] [0x2E, 0x2E] = [] := by
            simp [followName]
          rw [nothing]
          rw [heft_nil] at rest ⊢
          omega
      · next within =>
          have stays :
              followName ([name] ++ inside) next =
                [name] ++ followName inside next :=
            followName_append within
          have rest := induction leaves
          have first := heft_followName_le inside next
          rw [List.singleton_append, List.singleton_append] at stays
          rw [stays]
          omega

theorem heft_splitOn (path : List UInt8) :
    heft (path.splitOn 0x2F) = weight path := by
  induction path with
  | nil => rfl
  | cons byte rest induction =>
      rw [List.splitOn_cons_eq_if_modifyHead]
      split
      · next slash =>
          obtain rfl := eq_of_beq slash
          rw [heft_cons, List.length_nil, Nat.zero_add, induction, weight_slash]
      · next plain =>
          obtain ⟨first, others, spelled⟩ :=
            List.exists_cons_of_ne_nil (List.splitOn_ne_nil 0x2F rest)
          have one : weight [byte] = 1 := by
            have different : byte ≠ 0x2F := by simpa using plain
            simp [weight, different]
          have whole : weight (byte :: rest) = 1 + weight rest := by
            rw [← one, ← weight_append, List.singleton_append]
          rw [spelled, heft_cons] at induction
          rw [spelled, List.modifyHead_cons, heft_cons, List.length_cons, whole,
            ← induction]
          omega

theorem heft_placeOf_le (path : List UInt8) :
    heft (placeOf path) ≤ weight path := by
  have followed := heft_foldl_followName_le [] (path.splitOn 0x2F)
  rw [heft_nil, Nat.zero_add, heft_splitOn] at followed
  exact followed

private theorem slash_not_mem_encodeChar {character : Char}
    (plain : character ≠ '/') :
    (0x2F : UInt8) ∉ Utf8.encodeChar character := by
  have valid := character.valid
  have back : Char.ofNat character.toNat = character :=
    Char.ofNat_toNat character
  have slash : Char.ofNat 0x2F = '/' := rfl
  have bound : character.toNat < 0x110000 := by
    rcases valid with low | ⟨-, high⟩
    · exact Nat.lt_trans low (by decide)
    · exact high
  have other : character.toNat ≠ 0x2F := by
    intro same
    rw [same, slash] at back
    exact plain back.symm
  have apart :
      ∀ value < 256, value ≠ 0x2F → (0x2F : UInt8) ≠ UInt8.ofNat value := by
    intro value small different same
    have numbers := congrArg UInt8.toNat same
    rw [UInt8.toNat_ofNat', Nat.mod_eq_of_lt small] at numbers
    exact different numbers.symm
  unfold Utf8.encodeChar
  dsimp only
  split
  · simpa using apart _ (by omega) other
  · split
    · simp only [List.mem_cons, List.not_mem_nil, or_false, not_or]
      exact ⟨apart _ (by omega) (by omega), apart _ (by omega) (by omega)⟩
    · split
      · simp only [List.mem_cons, List.not_mem_nil, or_false, not_or]
        exact ⟨apart _ (by omega) (by omega), apart _ (by omega) (by omega),
          apart _ (by omega) (by omega)⟩
      · simp only [List.mem_cons, List.not_mem_nil, or_false, not_or]
        exact ⟨apart _ (by omega) (by omega), apart _ (by omega) (by omega),
          apart _ (by omega) (by omega), apart _ (by omega) (by omega)⟩

theorem slash_not_mem_encode {text : String} (plain : '/' ∉ text.toList) :
    (0x2F : UInt8) ∉ Utf8.encode text := by
  intro member
  obtain ⟨character, isCharacter, inside⟩ := List.mem_flatMap.mp member
  exact slash_not_mem_encodeChar (fun same => plain (same ▸ isCharacter)) inside

/-- The names of the bytes of a path are the bytes of its names. -/
theorem splitOn_encode (path : String) :
    (Utf8.encode path).splitOn 0x2F =
      (FileTree.pathNames path).map Utf8.encode := by
  unfold FileTree.pathNames Text.splitOn Utf8.encode
  rw [List.map_map]
  simp only [Function.comp_def, String.toList_ofList]
  generalize path.toList = characters
  induction length : characters.length using Nat.strongRecOn
    generalizing characters with
  | ind size induction =>
      by_cases slash : '/' ∈ characters
      · obtain ⟨before, after, rfl, absent⟩ := List.eq_append_cons_of_mem slash
        have shorter : after.length < size := by
          rw [← length, List.length_append, List.length_cons]
          omega
        have bytes : Utf8.encodeChar '/' = [0x2F] := by decide
        have plain : (0x2F : UInt8) ∉ Utf8.encode (String.ofList before) :=
          slash_not_mem_encode (by simpa using absent)
        rw [Utf8.encode, String.toList_ofList] at plain
        rw [List.flatMap_append, List.flatMap_cons, bytes,
          List.singleton_append, List.splitOn_append_cons_self_of_not_mem plain,
          induction _ shorter after rfl, Text.splitChars_append,
          Text.splitChars_of_not_mem absent]
        rfl
      · have plain : (0x2F : UInt8) ∉ Utf8.encode (String.ofList characters) :=
          slash_not_mem_encode (by simpa using slash)
        rw [Utf8.encode, String.toList_ofList] at plain
        rw [List.splitOn_eq_singleton plain, Text.splitChars_of_not_mem slash]
        rfl

theorem foldl_followName_filter (names : List String)
    (place : List (List UInt8)) :
    ((names.filter fun name => name != "" && name != ".").map Utf8.encode).foldl
        followName place =
      (names.map Utf8.encode).foldl followName place := by
  induction names generalizing place with
  | nil => rfl
  | cons name names induction =>
      rw [List.filter_cons, List.map_cons, List.foldl_cons]
      split
      · rw [List.map_cons, List.foldl_cons, induction]
      · next stays =>
          have still : followName place (Utf8.encode name) = place := by
            have empty : Utf8.encode "" = [] := by decide
            have dot : Utf8.encode "." = [0x2E] := by decide
            rw [Bool.not_eq_true, Bool.and_eq_false_iff, bne_eq_false_iff_eq,
              bne_eq_false_iff_eq] at stays
            unfold followName
            rcases stays with rfl | rfl
            · rw [empty, if_pos (.inl rfl)]
            · rw [dot, if_pos (.inr rfl)]
          rw [still, induction]

theorem placeOf_encode (path : String) :
    placeOf (Utf8.encode path) =
      ((pathNames path).map Utf8.encode).foldl followName [] := by
  rw [placeOf, splitOn_encode, pathNames_eq, foldl_followName_filter]

/-- The names that a segment stands for; an escaped slash parts two of them. -/
def segmentNames (segment : String) : List (List UInt8) :=
  (unescape segment.toList).splitOn 0x2F

theorem segmentNames_directorySegment {name : String}
    (noSlash : '/' ∉ name.toList) :
    segmentNames (directorySegment name) = [Utf8.encode name] := by
  rw [segmentNames, unescape_directorySegment,
    List.splitOn_eq_singleton (slash_not_mem_encode noSlash)]

theorem flatMap_segmentNames_directory (path : String) :
    ((pathNames path).map directorySegment).flatMap segmentNames =
      (pathNames path).map Utf8.encode := by
  rw [List.flatMap_map, List.map_eq_flatMap, List.flatMap_def, List.flatMap_def]
  refine congrArg List.flatten (List.map_congr_left ?_)
  intro name member
  rw [pathNames_eq, List.mem_filter] at member
  exact segmentNames_directorySegment (not_mem_of_mem_pathNames member.1)

theorem heft_segmentNames (segments : List String) :
    heft (segments.flatMap segmentNames) = segmentsWeight segments := by
  induction segments with
  | nil => rfl
  | cons segment segments induction =>
      rw [List.flatMap_cons, heft_append, induction, segmentsWeight_cons,
        segmentNames, heft_splitOn]
      rfl

private theorem splitOn_flatMap_slash (segments : List String) :
    (segments.flatMap fun segment => 0x2F :: unescape segment.toList).splitOn
        0x2F =
      [] :: segments.flatMap segmentNames := by
  induction segments using List.reverseRecOn with
  | nil => rfl
  | append_singleton segments segment induction =>
      rw [List.flatMap_append, List.flatMap_singleton,
        List.splitOn_append_cons_self, induction, List.flatMap_append,
        List.flatMap_singleton]
      rfl

/-- The place of a file is where the names of its segments lead. -/
theorem placeOf_write (segments : List String) :
    placeOf (filePathBytes?.write segments) =
      (segments.flatMap segmentNames).foldl followName [] := by
  have plain :
      placeOf
          (segments.flatMap fun segment => 0x2F :: unescape segment.toList) =
        (segments.flatMap segmentNames).foldl followName [] := by
    rw [placeOf, splitOn_flatMap_slash, List.foldl_cons]
    rfl
  have ended :
      ∀ bytes : List UInt8, placeOf (bytes ++ [0x2F]) = placeOf bytes := by
    intro bytes
    rw [placeOf, List.splitOn_append_cons_self, List.foldl_append]
    rfl
  rw [← plain]
  unfold filePathBytes?.write
  simp only
  split
  · split
    · rw [ended]
    · rfl
  · rfl

end LessonSite.Url
