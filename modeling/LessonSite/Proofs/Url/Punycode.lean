import LessonSite.Url.Punycode
import Mathlib.Data.List.InsertIdx
import Mathlib.Tactic.Ring

/-!
# Labels in ASCII letters are read back

While a label is written, the reader of what has been written so far would have
put the same characters in their places, and the next distance is the one from
where it would go on.  Each character looked at keeps this up, so in the end the
reader has the label.
-/

namespace LessonSite.Url.Punycode

/-- The character is one of the digits. -/
def IsDigit (character : Char) : Prop :=
  ∃ value < 36, character = digit value

theorem digitValue?_digit {value : Nat} (small : value < 36) :
    digitValue? (digit value) = some value := by
  have all :
      ∀ value : Fin 36,
        digitValue? (digit value.val) = some value.val := by decide
  exact all ⟨value, small⟩

theorem encodeDistance_ne_nil (bias position distance : Nat) :
    encodeDistance bias position distance ≠ [] := by
  rw [encodeDistance]
  split <;> exact List.cons_ne_nil _ _

private theorem digit_parts {limit distance : Nat} (bounded : limit ≤ 26)
    (more : ¬ distance < limit) :
    limit + (distance - limit) % (36 - limit) < 36 ∧
      limit + (distance - limit) % (36 - limit) +
        (distance - limit) / (36 - limit) * (36 - limit) = distance := by
  have small := Nat.mod_lt (distance - limit) (show 0 < 36 - limit by omega)
  have parts := Nat.mod_add_div' (distance - limit) (36 - limit)
  omega

theorem isDigit_of_mem_encodeDistance {bias position distance : Nat}
    {character : Char}
    (member : character ∈ encodeDistance bias position distance) :
    IsDigit character := by
  induction position, distance using encodeDistance.induct bias with
  | case1 position distance _ last =>
      rw [encodeDistance, if_pos last, List.mem_singleton] at member
      exact ⟨distance, by have := threshold_le position bias; omega, member⟩
  | case2 position distance _ more induction =>
      rw [encodeDistance, if_neg more, List.mem_cons] at member
      rcases member with first | later
      · exact ⟨_, (digit_parts (threshold_le position bias) more).1, first⟩
      · exact induction later

/-- The digits of a distance are read as the distance, whatever follows. -/
theorem decodeDistance_encodeDistance
    (bias position distance weight number : Nat) (rest : List Char) :
    decodeDistance bias (encodeDistance bias position distance ++ rest) position
        weight number =
      some (number + distance * weight, rest) := by
  induction position, distance using encodeDistance.induct bias
    generalizing weight number with
  | case1 position distance _ last =>
      have small : distance < 36 :=
        Nat.lt_of_lt_of_le last (by have := threshold_le position bias; omega)
      rw [encodeDistance, if_pos last, List.singleton_append, decodeDistance,
        digitValue?_digit small]
      exact if_pos last
  | case2 position distance limit more induction =>
      obtain ⟨small, whole⟩ := digit_parts (threshold_le position bias) more
      rw [encodeDistance, if_neg more, List.cons_append, decodeDistance,
        digitValue?_digit small]
      dsimp only at induction ⊢
      rw [if_neg (Nat.not_lt.mpr (Nat.le_add_right _ _)), induction]
      refine congrArg (fun total => some (total, rest)) ?_
      calc number + (limit + (distance - limit) % (36 - limit)) * weight +
            (distance - limit) / (36 - limit) * (weight * (36 - limit))
          = number + (limit + (distance - limit) % (36 - limit) +
              (distance - limit) / (36 - limit) * (36 - limit)) * weight := by
                ring
        _ = number + distance * weight := by rw [whole]

/-- The characters in place when, of those of a code point, the ones passed have
been written and the ones left have not, and so have all of smaller code
points. -/
def placed (code : Nat) (passed left : List Char) : List Char :=
  passed.filter (fun character => character.toNat ≤ code) ++
    left.filter (fun character => character.toNat < code)

private theorem insertIdx_append (character : Char) (before after : List Char) :
    (before ++ after).insertIdx before.length character =
      before ++ character :: after := by
  induction before with
  | nil => rfl
  | cons first before induction =>
      rw [List.cons_append, List.length_cons, List.insertIdx_succ_cons,
        induction, List.cons_append]

/-- A distance is read as a step to the next character: to its code point and
its place. -/
theorem decodeCodes_encodeDistance {bias reached position distance : Nat}
    {before after : List Char}
    (character : Char) (forward : reached ≤ character.toNat)
    (even : reached * ((before ++ after).length + 1) + position + distance =
      character.toNat * ((before ++ after).length + 1) + before.length)
    (rest : List Char) :
    decodeCodes bias reached position (before ++ after)
        (encodeDistance bias 36 distance ++ rest) =
      decodeCodes
        (adapt distance ((before ++ after).length + 1) (position == 0))
        character.toNat
        (before.length + 1) (before ++ character :: after) rest := by
  have inside : before.length < (before ++ after).length + 1 := by
    rw [List.length_append]
    omega
  have number : position + distance * 1 =
      (character.toNat - reached) * ((before ++ after).length + 1) +
        before.length := by
    have product :=
      Nat.sub_mul character.toNat reached ((before ++ after).length + 1)
    have order := Nat.mul_le_mul_right ((before ++ after).length + 1) forward
    omega
  have code :
      reached + (position + distance * 1) / ((before ++ after).length + 1) =
        character.toNat := by
    rw [number, Nat.mul_comm, Nat.mul_add_div (Nat.succ_pos _),
      Nat.div_eq_of_lt inside]
    omega
  have place :
      (position + distance * 1) % ((before ++ after).length + 1) =
        before.length := by
    rw [number, Nat.mul_comm, Nat.mul_add_mod, Nat.mod_eq_of_lt inside]
  have some_ : (encodeDistance bias 36 distance ++ rest).isEmpty = false := by
    simp [encodeDistance_ne_nil]
  have valid : (decide (character.toNat < 0xD800) ||
      (decide (0xDFFF < character.toNat) &&
        decide (character.toNat ≤ 0x10FFFF))) = true := by
    have valid :
        character.toNat < 0xD800 ∨
          0xDFFF < character.toNat ∧ character.toNat < 0x110000 :=
      character.valid
    simp only [Bool.or_eq_true, Bool.and_eq_true, decide_eq_true_eq]
    omega
  rw [decodeCodes, some_, if_neg Bool.false_ne_true]
  split
  · next none_ =>
      rw [decodeDistance_encodeDistance] at none_
      cases none_
  · next number rest' read =>
      rw [decodeDistance_encodeDistance] at read
      cases read
      dsimp only
      rw [code, place, valid, if_pos rfl, Char.ofNat_toNat, insertIdx_append,
        Nat.mul_one, Nat.add_sub_cancel_left]

/-- The writing is read as the characters in place, and its distance leads from
where the reader is, with the code point and the place reached, to where the
writer is. -/
structure IsRead (basic : List Char) (code : Nat) (passed left : List Char)
    (writing : Writing) (reached position : Nat) : Prop where
  digits : ∀ character ∈ writing.written, IsDigit character
  count : writing.count = (placed code passed left).length
  many : basic.length ≤ writing.count
  first : (position == 0) = (writing.count == basic.length)
  forward : reached ≤ code
  even : reached * (writing.count + 1) + position + writing.distance =
    code * (writing.count + 1) +
      (passed.filter fun character => character.toNat ≤ code).length
  read : ∀ rest, decodeCodes 72 128 0 basic (writing.written ++ rest) =
    decodeCodes writing.bias reached position (placed code passed left) rest

variable {basic label passed left : List Char} {code reached position : Nat}
  {character : Char} {writing : Writing}

private theorem placed_smaller (passed left : List Char)
    (smaller : character.toNat < code) :
    placed code (passed ++ [character]) left =
        placed code passed (character :: left) ∧
      ((passed ++ [character]).filter fun character =>
          character.toNat ≤ code).length =
        (passed.filter fun character => character.toNat ≤ code).length + 1 := by
  simp [placed, List.filter_append, smaller, smaller.le]

private theorem placed_same (passed left : List Char) (character : Char) :
    ∃ before after,
      placed character.toNat passed (character :: left) = before ++ after ∧
        placed character.toNat (passed ++ [character]) left =
          before ++ character :: after ∧
          (passed.filter fun other => other.toNat ≤ character.toNat).length =
            before.length ∧
            ((passed ++ [character]).filter fun other =>
                other.toNat ≤ character.toNat).length =
              before.length + 1 :=
  ⟨passed.filter fun other => other.toNat ≤ character.toNat,
    left.filter fun other => other.toNat < character.toNat,
    by simp [placed], by simp [placed, List.filter_append],
    rfl, by simp [List.filter_append]⟩

private theorem placed_greater (passed left : List Char)
    (greater : code < character.toNat) :
    placed code (passed ++ [character]) left =
        placed code passed (character :: left) ∧
      ((passed ++ [character]).filter fun character =>
          character.toNat ≤ code).length =
        (passed.filter fun character => character.toNat ≤ code).length := by
  simp [placed, List.filter_append, Nat.not_le.mpr greater,
    Nat.not_lt.mpr greater.le]

/-- Looking at one character keeps up with the reader. -/
theorem IsRead.writeCharacter
    (isRead : IsRead basic code passed (character :: left) writing
      reached position) :
    ∃ reached position, IsRead basic code (passed ++ [character]) left
      (writeCharacter basic.length code writing character) reached
      position := by
  obtain ⟨digits, count, many, first, forward, even, read⟩ := isRead
  unfold Punycode.writeCharacter
  rcases Nat.lt_trichotomy character.toNat code with smaller | rfl | greater
  · obtain ⟨same, more⟩ := placed_smaller passed left smaller
    rw [if_pos smaller]
    refine ⟨reached, position, digits, same ▸ count, many, first, forward, ?_,
      same ▸ read⟩
    rw [more]
    dsimp only
    omega
  · rw [if_neg (Nat.lt_irrefl _), if_pos rfl]
    obtain ⟨before, after, earlier, later, place, more⟩ :=
      placed_same passed left character
    rw [earlier] at count read
    rw [place, count] at even
    refine ⟨character.toNat, before.length + 1, ?_, ?_, Nat.le_succ_of_le many,
      ?_, Nat.le_refl _, ?_, ?_⟩
    · intro digit member
      rcases List.mem_append.mp member with inside | new
      · exact digits digit inside
      · exact isDigit_of_mem_encodeDistance new
    · rw [later, count, List.length_append, List.length_append,
        List.length_cons, Nat.add_assoc]
    · rw [beq_eq_false_iff_ne.mpr (Nat.succ_ne_zero _), eq_comm,
        beq_eq_false_iff_ne]
      exact Nat.ne_of_gt (Nat.lt_succ_of_le many)
    · rw [more, Nat.add_zero]
    · intro rest
      rw [later, List.append_assoc, read,
        decodeCodes_encodeDistance character forward even, first, count]
  · obtain ⟨same, more⟩ := placed_greater passed left greater
    rw [if_neg (by omega), if_neg (by omega)]
    refine ⟨reached, position, digits, same ▸ count, many, first, forward, ?_,
      same ▸ read⟩
    rw [more]
    exact even

theorem IsRead.foldl
    (isRead : IsRead basic code passed left writing reached position) :
    ∃ reached position, IsRead basic code (passed ++ left) []
      (left.foldl (Punycode.writeCharacter basic.length code) writing) reached
      position := by
  induction left generalizing passed writing reached position with
  | nil =>
      rw [List.append_nil]
      exact ⟨reached, position, isRead⟩
  | cons character left induction =>
      obtain ⟨reached, position, next⟩ := isRead.writeCharacter
      have all := induction next
      rwa [List.append_assoc, List.singleton_append] at all

/-- When all characters of a code point have been looked at, the next code point
is begun. -/
theorem IsRead.next
    (isRead : IsRead basic code label [] writing reached position) :
    IsRead basic (code + 1) [] label
      { writing with distance := writing.distance + 1 } reached position := by
  obtain ⟨digits, count, many, first, forward, even, read⟩ := isRead
  have same : placed (code + 1) [] label = placed code label [] := by
    rw [placed, placed, List.filter_nil, List.filter_nil, List.nil_append,
      List.append_nil]
    refine List.filter_congr fun character _ => ?_
    exact decide_eq_decide.mpr Nat.lt_succ_iff
  refine ⟨digits, same ▸ count, many, first, Nat.le_succ_of_le forward, ?_,
    same ▸ read⟩
  have whole :
      (label.filter fun character => character.toNat ≤ code).length =
        writing.count := by
    simpa [placed] using count.symm
  rw [whole] at even
  rw [List.filter_nil, List.length_nil, Nat.succ_mul]
  dsimp only
  omega

/-- Code points that no character has are passed over. -/
theorem IsRead.skip {previous : Nat}
    (isRead : IsRead basic previous [] label writing reached position)
    (onward : previous ≤ code)
    (absent : ∀ character ∈ label,
      previous ≤ character.toNat → code ≤ character.toNat) :
    IsRead basic code [] label
      { writing with
        distance := writing.distance + (code - previous) * (writing.count + 1) }
      reached position := by
  obtain ⟨digits, count, many, first, forward, even, read⟩ := isRead
  have same : placed code [] label = placed previous [] label := by
    rw [placed, placed, List.filter_nil, List.filter_nil]
    refine congrArg _
      (List.filter_congr fun character member => decide_eq_decide.mpr ?_)
    have either := absent character member
    omega
  refine ⟨digits, same ▸ count, many, first, Nat.le_trans forward onward, ?_,
    same ▸ read⟩
  have product := Nat.sub_mul code previous (writing.count + 1)
  have order := Nat.mul_le_mul_right (writing.count + 1) onward
  rw [List.filter_nil, List.length_nil] at even ⊢
  dsimp only
  omega

/-- The code points in ascending order, from one on, of the characters that are
not before it. -/
structure AreCodes (label : List Char) (previous : Nat)
    (codes : List Nat) : Prop where
  sorted : codes.Pairwise (· < ·)
  onward : ∀ code ∈ codes, previous ≤ code
  mem :
    ∀ character ∈ label, previous ≤ character.toNat → character.toNat ∈ codes

theorem IsRead.writeCodes {previous : Nat} {codes : List Nat}
    (areCodes : AreCodes label previous codes)
    (isRead : IsRead basic previous [] label writing reached position) :
    (∀ character ∈ (writeCodes label basic.length previous writing
          codes).written,
        IsDigit character) ∧
      decodeCodes 72 128 0 basic
          (writeCodes label basic.length previous writing codes).written =
        some label := by
  induction codes generalizing previous writing reached position with
  | nil =>
      refine ⟨isRead.digits, ?_⟩
      have all : placed previous [] label = label := by
        refine List.filter_eq_self.mpr fun character member => decide_eq_true ?_
        exact Nat.lt_of_not_le fun later =>
          nomatch areCodes.mem character member later
      have ended :
          decodeCodes writing.bias reached position label [] = some label := by
        rw [decodeCodes]
        rfl
      have read := isRead.read []
      rwa [List.append_nil, all, ended] at read
  | cons code codes induction =>
      obtain ⟨sorted, onward, mem⟩ := areCodes
      obtain ⟨least, sorted⟩ := List.pairwise_cons.mp sorted
      have absent :
          ∀ character ∈ label,
            previous ≤ character.toNat → code ≤ character.toNat := by
        intro character member later
        rcases List.mem_cons.mp (mem character member later) with same | inside
        · exact same.ge
        · exact (least _ inside).le
      obtain ⟨reached, position, all⟩ :=
        (isRead.skip (onward code List.mem_cons_self) absent).foldl
      refine induction ⟨sorted, least, fun character member later => ?_⟩
        all.next
      rcases List.mem_cons.mp (mem character member (by
        have := onward code List.mem_cons_self
        omega)) with same | inside
      · omega
      · exact inside

theorem mem_insertOnce {number other : Nat} {numbers : List Nat} :
    other ∈ insertOnce number numbers ↔ other = number ∨ other ∈ numbers := by
  induction numbers with
  | nil => simp [insertOnce]
  | cons first rest induction =>
      rw [insertOnce]
      split
      · exact List.mem_cons
      · split
        · next same => simp [same]
        · rw [List.mem_cons, induction, List.mem_cons, or_left_comm]

theorem pairwise_insertOnce (number : Nat) {numbers : List Nat}
    (sorted : numbers.Pairwise (· < ·)) :
    (insertOnce number numbers).Pairwise (· < ·) := by
  induction numbers with
  | nil => exact List.pairwise_singleton _ _
  | cons first rest induction =>
      obtain ⟨least, restSorted⟩ := List.pairwise_cons.mp sorted
      rw [insertOnce]
      split
      · next before =>
          refine List.pairwise_cons.mpr ⟨?_, sorted⟩
          intro other member
          rcases List.mem_cons.mp member with rfl | later
          · exact before
          · exact Nat.lt_trans before (least other later)
      · next notBefore =>
          split
          · exact sorted
          · refine List.pairwise_cons.mpr ⟨?_, induction restSorted⟩
            intro other member
            rcases mem_insertOnce.mp member with rfl | later
            · omega
            · exact least other later

private theorem areCodes_foldr (label : List Char) :
    AreCodes label 128
      ((label.filter fun character => character.toNat ≥ 0x80).foldr
        (fun character => insertOnce character.toNat) []) := by
  have all : ∀ others : List Char,
      (others.foldr (fun character => insertOnce character.toNat) []).Pairwise
          (· < ·) ∧
        ∀ code,
          code ∈ others.foldr (fun character => insertOnce character.toNat) [] ↔
            code ∈ others.map Char.toNat := by
    intro others
    induction others with
    | nil => simp
    | cons character others induction =>
        refine ⟨pairwise_insertOnce _ induction.1, fun code => ?_⟩
        rw [List.foldr_cons, mem_insertOnce, induction.2, List.map_cons,
          List.mem_cons]
  refine ⟨(all _).1, ?_, ?_⟩
  · intro code member
    obtain ⟨character, inside, rfl⟩ :=
      List.mem_map.mp (((all _).2 code).mp member)
    simpa using (List.mem_filter.mp inside).2
  · intro character member later
    exact ((all _).2 _).mpr
      (List.mem_map_of_mem (List.mem_filter.mpr ⟨member, decide_eq_true later⟩))

/-- The parts of a label in ASCII letters: its ASCII letters, a mark after them
if there are any, and digits. -/
theorem exists_encode (label : List Char) :
    ∃ digits, encode label =
        label.filter (fun character => character.toNat < 0x80) ++
          (if (label.filter fun character =>
            character.toNat < 0x80).isEmpty then [] else ['-']) ++
            digits ∧
      (∀ character ∈ digits, IsDigit character) ∧
        decodeCodes 72 128 0
            (label.filter fun character => character.toNat < 0x80) digits =
          some label := by
  have start :
      IsRead (label.filter fun character => character.toNat < 0x80) 128 [] label
        ⟨[], 0, 72,
          (label.filter fun character => character.toNat < 0x80).length⟩ 128
        0 := by
    refine ⟨List.forall_mem_nil _, ?_, Nat.le_refl _, ?_, Nat.le_refl _, ?_, ?_⟩
    · simp [placed]
    · simp
    · simp
    · intro rest
      simp [placed]
  obtain ⟨digits, read⟩ := start.writeCodes (areCodes_foldr label)
  exact ⟨_, rfl, digits, read⟩

theorem IsDigit.ne_hyphen {character : Char} (digit : IsDigit character) :
    character ≠ '-' ∧ character.toNat < 0x80 := by
  obtain ⟨value, small, rfl⟩ := digit
  have all :
      ∀ value : Fin 36,
        Punycode.digit value.val ≠ '-' ∧
          (Punycode.digit value.val).toNat < 0x80 := by
    decide
  exact all ⟨value, small⟩

private theorem decode?_parts {basic digits : List Char}
    (ascii : ∀ character ∈ basic, character.toNat < 0x80)
    (areDigits : ∀ character ∈ digits, IsDigit character) :
    decode? (basic ++ (if basic.isEmpty then [] else ['-']) ++ digits) =
      decodeCodes 72 128 0 basic digits := by
  have noMark : ∀ character ∈ digits.reverse, (character != '-') = true := by
    intro character member
    exact bne_iff_ne.mpr
      (areDigits character (List.mem_reverse.mp member)).ne_hyphen.1
  have plain :
      ((basic ++ (if basic.isEmpty then [] else ['-']) ++ digits).any
        fun character => character.toNat ≥ 0x80) = false := by
    rw [List.any_eq_false]
    intro character member
    have small : character.toNat < 0x80 := by
      rcases List.mem_append.mp member with earlier | later
      · rcases List.mem_append.mp earlier with first | mark
        · exact ascii character first
        · split at mark
          · cases mark
          · cases List.mem_singleton.mp mark
            decide
      · exact (areDigits character later).ne_hyphen.2
    simpa using small
  have tail :
      ((basic ++ (if basic.isEmpty then [] else ['-']) ++
          digits).reverse.takeWhile
        (· != '-')).reverse = digits := by
    rw [List.reverse_append, List.takeWhile_append_of_pos noMark]
    cases basic with
    | nil => simp
    | cons first others => simp
  have length : (basic ++ (if basic.isEmpty then [] else ['-']) ++ digits).take
      ((basic ++ (if basic.isEmpty then [] else ['-']) ++ digits).length -
        digits.length - 1) =
        basic := by
    cases basic with
    | nil => simp
    | cons first others =>
        rw [if_neg (by simp), List.append_assoc]
        refine List.take_left' ?_
        simp only [List.length_append, List.length_singleton]
        omega
  rw [decode?, tail, length, plain, if_neg Bool.false_ne_true]

theorem decode?_encode (label : List Char) :
    decode? (encode label) = some label := by
  obtain ⟨digits, written, areDigits, read⟩ := exists_encode label
  rw [written, decode?_parts (fun character member => ?_) areDigits, read]
  exact of_decide_eq_true (List.mem_filter.mp member).2

end LessonSite.Url.Punycode
