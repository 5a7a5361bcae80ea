import LessonSite.Proofs.Lists
import LessonSite.Proofs.Text.Parts
import LessonSite.Proofs.Url.Percent
import LessonSite.Proofs.Url.Punycode
import LessonSite.Url.Host

/-!
# Domains are read back

What a domain is read as is written in characters that stand for themselves in
domains, label by label.  So it is read as itself.
-/

namespace LessonSite.Url

/-- The bits at a number of places, each so many above the one before.  A set of
code points is a number with their bits, so that two sets are compared at
once. -/
def steps (step : Nat) : Nat → Nat
  | 0 => 0
  | count + 1 => steps step count <<< step ||| 1

/-- The bits that one of the numbers has. -/
def anyOf (sets : List Nat) : Nat :=
  sets.foldr (· ||| ·) 0

theorem testBit_steps (step : Nat) {count place : Nat}
    (inside : place < count) :
    (steps step count).testBit (place * step) = true := by
  induction place generalizing count with
  | zero =>
      obtain ⟨count, rfl⟩ := Nat.exists_eq_succ_of_ne_zero (Nat.ne_of_gt inside)
      simp [steps]
  | succ place induction =>
      obtain ⟨count, rfl⟩ :=
        Nat.exists_eq_succ_of_ne_zero (Nat.ne_of_gt (Nat.zero_lt_of_lt inside))
      have below := induction (Nat.lt_of_succ_lt_succ inside)
      simp [steps, Nat.testBit_or, Nat.testBit_shiftLeft, Nat.succ_mul, below]

theorem testBit_anyOf {sets : List Nat} {set code : Nat} (member : set ∈ sets)
    (bit : set.testBit code = true) : (anyOf sets).testBit code = true := by
  induction sets with
  | nil => cases member
  | cons first sets induction =>
      rw [anyOf, List.foldr_cons, Nat.testBit_or, Bool.or_eq_true]
      rcases List.mem_cons.mp member with rfl | inside
      · exact .inl bit
      · exact .inr (induction inside)

/-- The code points from one to another. -/
def span (first last : Nat) : Nat :=
  steps 1 (last + 1 - first) <<< first

theorem testBit_span {first last code : Nat} (low : first ≤ code)
    (high : code ≤ last) :
    (span first last).testBit code = true := by
  have inside := testBit_steps 1 (show code - first < last + 1 - first by omega)
  rw [Nat.mul_one] at inside
  rw [span, Nat.testBit_shiftLeft, inside, Bool.and_true]
  exact decide_eq_true low

def runCodes (run : Text.FoldRun) (first : Nat) : Nat :=
  steps run.step ((run.last - run.first) / run.step + 1) <<< first

theorem testBit_runCodes {run : Text.FoldRun} {code : Nat}
    (covers : run.covers code = true)
    (target : Nat) :
    (runCodes run target).testBit (target + (code - run.first)) = true := by
  simp only [Text.FoldRun.covers, Bool.and_eq_true, decide_eq_true_eq] at covers
  obtain ⟨⟨low, high⟩, even⟩ := covers
  have place : (code - run.first) / run.step * run.step = code - run.first :=
    Nat.div_mul_cancel (Nat.dvd_of_mod_eq_zero even)
  have inside :
      (code - run.first) / run.step < (run.last - run.first) / run.step + 1 :=
    Nat.lt_succ_of_le (Nat.div_le_div_right (by omega))
  have bit := testBit_steps run.step inside
  rw [place] at bit
  rw [runCodes, Nat.testBit_shiftLeft, Nat.add_sub_cancel_left, bit,
    Bool.and_true]
  exact decide_eq_true (Nat.le_add_right _ _)

/-- The first and the last code points of ranges that are left out of domains or
replaced, and of what is between them. -/
def replacedRanges : List (Nat × Nat) :=
  [(0xA0, 0xAD), (0x34F, 0x34F), (0x180B, 0x180F), (0x2000, 0x200B),
    (0x2060, 0x2064), (0x3000, 0x3002), (0xFE00, 0xFE0F), (0xFEFF, 0xFEFF),
    (0xFF01, 0xFF61), (0x1BCA0, 0x1BCA3), (0xE0100, 0xE01EF)]

/-- All code points of characters that a domain does not hold as they are, and
some more. -/
def changed : Nat :=
  anyOf (Text.foldRuns.map (fun run => runCodes run run.first) ++
    (Text.foldSequences.map (fun entry => span entry.1 entry.1) ++
      replacedRanges.map fun range => span range.1 range.2))

/-- The code points that are folded to.  What the run of wide letters is folded
to is not among them, as these letters are replaced. -/
def foldedTo : Nat :=
  anyOf
    ((Text.foldRuns.filter fun run => run.first != 0xFF21).map
        (fun run => runCodes run run.target) ++
      Text.foldSequences.flatMap fun entry =>
        entry.2.map fun code => span code code)

private theorem foldedTo_and_changed : foldedTo &&& changed = 0 := by
  decide +kernel

private theorem testBit_changed_of_foldedTo {code : Nat}
    (bit : foldedTo.testBit code = true) :
    changed.testBit code = false := by
  have both := Nat.testBit_and foldedTo changed code
  rw [foldedTo_and_changed, Nat.zero_testBit, bit, Bool.true_and] at both
  exact both.symm

section Unchanged

variable {code : Nat} (stays : changed.testBit code = false)

include stays

private theorem not_covers_of_testBit :
    ∀ run ∈ Text.foldRuns, run.covers code = false := by
  intro run member
  by_contra covered
  have covers : run.covers code = true := by simpa using covered
  have low : run.first ≤ code := by
    simp only [Text.FoldRun.covers, Bool.and_eq_true,
      decide_eq_true_eq] at covers
    exact covers.1.1
  have bit := testBit_runCodes covers run.first
  rw [Nat.add_sub_cancel' low] at bit
  have set : changed.testBit code = true :=
    testBit_anyOf (List.mem_append_left _ (List.mem_map_of_mem member)) bit
  rw [stays] at set
  cases set

private theorem lookup_of_testBit :
    List.lookup code Text.foldSequences = none := by
  rw [List.lookup_eq_none_iff]
  rintro entry member
  by_contra found
  have same : code = entry.1 := by simpa using found
  have set : changed.testBit code = true :=
    testBit_anyOf
      (List.mem_append_right _
        (List.mem_append_left _ (List.mem_map_of_mem member)))
      (testBit_span same.ge same.le)
  rw [stays] at set
  cases set

private theorem not_replaced_of_testBit :
    ∀ range ∈ replacedRanges, code < range.1 ∨ range.2 < code := by
  intro range member
  by_contra inside
  rw [not_or, Nat.not_lt, Nat.not_lt] at inside
  have set : changed.testBit code = true :=
    testBit_anyOf
      (List.mem_append_right _
        (List.mem_append_right _ (List.mem_map_of_mem member)))
      (testBit_span inside.1 inside.2)
  rw [stays] at set
  cases set

end Unchanged

theorem domainCharacter_of_testBit {character : Char}
    (stays : changed.testBit character.toNat = false) :
    domainCharacter character = [character] := by
  have noRun := not_covers_of_testBit stays
  have noRange := not_replaced_of_testBit stays
  have folded :
      Text.foldRuns.find? (fun run => run.covers character.toNat) = none :=
    List.find?_eq_none.mpr fun run member => by simp [noRun run member]
  simp only [replacedRanges, List.forall_mem_cons, List.not_mem_nil,
    false_imp_iff, implies_true, and_true] at noRange
  have noCapital : ¬('A' ≤ character ∧ character ≤ 'Z') := by
    intro capital
    have range : 0x41 ≤ character.toNat ∧ character.toNat ≤ 0x5A := capital
    have letters := noRun ⟨0x41, 0x5A, 1, 0x61⟩ List.mem_cons_self
    simp [Text.FoldRun.covers, range, Nat.mod_one] at letters
  unfold domainCharacter
  dsimp only
  by_cases ascii : character.toNat < 0x80
  · rw [if_pos ascii, Text.toLowerAscii, if_neg noCapital]
  · rw [if_neg ascii, if_neg (by simp [vanishesInDomain]; omega),
      if_neg (by simp; omega), if_neg (by simp; omega)]
    split
    · rfl
    · rw [if_neg (by simp; omega), Text.foldChar]
      simp only [ascii, if_false, folded, lookup_of_testBit stays]

private theorem last_wideRun :
    ∀ run ∈ Text.foldRuns, run.first = 0xFF21 → run.last ≤ 0xFF5E := by
  decide +kernel

private theorem domainCharacter_of_mem_foldChar {character written : Char}
    (noAscii : ¬ character.toNat < 0x80)
    (noWide : ¬(0xFF01 ≤ character.toNat ∧ character.toNat ≤ 0xFF5E))
    (changes : Text.foldChar character ≠ [character])
    (member : written ∈ Text.foldChar character) :
    domainCharacter written = [written] := by
  have stays :
      ∀ code, foldedTo.testBit code = true → written = Char.ofNat code →
        domainCharacter written = [written] := by
    rintro code bit rfl
    by_cases valid : code.isValidChar
    · have same : (Char.ofNat code).toNat = code := Utf8.toNat_ofNat valid
      exact domainCharacter_of_testBit
        (same.symm ▸ testBit_changed_of_foldedTo bit)
    · rw [Char.ofNat, dif_neg valid]
      decide
  unfold Text.foldChar at member changes
  dsimp only at member changes
  rw [if_neg noAscii] at member changes
  split at member
  · next run found =>
      have covers := List.find?_some found
      have range :
          run.first ≤ character.toNat ∧ character.toNat ≤ run.last := by
        simp only [Text.FoldRun.covers, Bool.and_eq_true,
          decide_eq_true_eq] at covers
        exact covers.1
      have inside := List.mem_of_find?_eq_some found
      have other : (run.first != 0xFF21) = true := by
        rw [bne_iff_ne]
        intro wide
        have last := last_wideRun run inside wide
        omega
      refine stays _ ?_ (List.mem_singleton.mp member)
      refine testBit_anyOf (List.mem_append_left _ (List.mem_map_of_mem
        (List.mem_filter.mpr ⟨inside, other⟩))) ?_
      exact testBit_runCodes covers run.target
  · next noRun =>
      split at member
      · next codes found =>
          obtain ⟨code, inside, same⟩ := List.mem_map.mp member
          refine stays code ?_ same.symm
          refine testBit_anyOf (List.mem_append_right _ (List.mem_flatMap.mpr
            ⟨_, mem_of_lookup found, List.mem_map_of_mem inside⟩)) ?_
          exact testBit_span (Nat.le_refl _) (Nat.le_refl _)
      · next unfolded => simp [noRun, unfolded] at changes

/-- A domain holds characters that stand for themselves. -/
theorem domainCharacter_of_mem {character written : Char}
    (member : written ∈ domainCharacter character) :
    domainCharacter written = [written] := by
  have small :
      ∀ code < 0x80, domainCharacter (Text.toLowerAscii (Char.ofNat code)) =
        [Text.toLowerAscii (Char.ofNat code)] := by
    decide
  generalize whole : domainCharacter character = all at member
  have parts := whole
  unfold domainCharacter at parts
  dsimp only at parts
  split at parts
  · next ascii =>
      have own := small character.toNat ascii
      rw [Char.ofNat_toNat] at own
      rw [← parts] at member
      rw [List.mem_singleton.mp member, own]
  · next noAscii =>
      split at parts
      · rw [← parts] at member
        cases member
      · split at parts
        · rw [← parts] at member
          cases List.mem_singleton.mp member
          decide
        · split at parts
          · next wide =>
              rw [← parts] at member
              rw [List.mem_singleton.mp member]
              exact small _ (by simp at wide; omega)
          · next noWide =>
              split at parts
              · rw [← parts] at member whole
                rw [List.mem_singleton.mp member, whole]
              · split at parts
                · rw [← parts] at member
                  cases List.mem_singleton.mp member
                  decide
                · by_cases stays : Text.foldChar character = [character]
                  · rw [← parts, stays] at member whole
                    rw [List.mem_singleton.mp member, whole]
                  · rw [← parts] at member
                    exact domainCharacter_of_mem_foldChar noAscii
                      (by simpa using noWide) stays member

/-- The label is written as it stands in a domain, and read as it is written. -/
structure IsDomainLabel (label : List Char) : Prop where
  noDot : '.' ∉ label
  stays : ∀ character ∈ label, domainCharacter character = [character]
  read : asciiLabel? label = some label

private theorem flatMap_domainCharacter {text : List Char}
    (stays : ∀ character ∈ text, domainCharacter character = [character]) :
    text.flatMap domainCharacter = text := by
  induction text with
  | nil => rfl
  | cons character text induction =>
      obtain ⟨first, others⟩ := List.forall_mem_cons.mp stays
      rw [List.flatMap_cons, first, induction others, List.singleton_append]

theorem isDomainLabel_of_ascii {label : List Char} (noDot : '.' ∉ label)
    (stays : ∀ character ∈ label, domainCharacter character = [character])
    (plain : Text.stripStart? "xn--".toList label = none)
    (ascii : ∀ character ∈ label, character.toNat < 0x80) :
    IsDomainLabel label := by
  refine ⟨noDot, stays, ?_⟩
  have all : (label.all fun character => character.toNat < 0x80) = true := by
    simpa using ascii
  simp only [asciiLabel?, plain, all, if_true]

private theorem mem_coded {label : List Char} {character : Char}
    (member : character ∈ "xn--".toList ++ Punycode.encode label) :
    character ∈ label ∨ character ∈ "xn-".toList ∨
      Punycode.IsDigit character := by
  obtain ⟨digits, written, areDigits, -⟩ := Punycode.exists_encode label
  rw [written] at member
  rcases List.mem_append.mp member with start | coded
  · have marks : ∀ mark ∈ "xn--".toList, mark ∈ "xn-".toList := by decide
    exact .inr (.inl (marks character start))
  · rcases List.mem_append.mp coded with basic | digit
    · rcases List.mem_append.mp basic with ascii | mark
      · exact .inl (List.mem_filter.mp ascii).1
      · split at mark
        · cases mark
        · cases List.mem_singleton.mp mark
          exact .inr (.inl (by decide))
    · exact .inr (.inr (areDigits character digit))

private theorem isDomainLabel_coded {label : List Char} (noDot : '.' ∉ label)
    (stays : ∀ character ∈ label, domainCharacter character = [character])
    (other : ¬ (label.all fun character => character.toNat < 0x80) = true)
    (shown : isLabel label = true) :
    IsDomainLabel ("xn--".toList ++ Punycode.encode label) := by
  have marks :
      ∀ mark ∈ "xn-".toList,
        mark ≠ '.' ∧ domainCharacter mark = [mark] := by decide
  have digits : ∀ value : Fin 36, Punycode.digit value.val ≠ '.' ∧
      domainCharacter (Punycode.digit value.val) =
        [Punycode.digit value.val] := by decide
  have each : ∀ character ∈ "xn--".toList ++ Punycode.encode label,
      character ≠ '.' ∧ domainCharacter character = [character] := by
    intro character member
    rcases mem_coded member with inside | mark | ⟨value, small, rfl⟩
    · exact ⟨ne_of_mem_of_not_mem inside noDot, stays character inside⟩
    · exact marks character mark
    · exact digits ⟨value, small⟩
  refine ⟨fun dot => (each '.' dot).1 rfl, fun character member =>
    (each character member).2, ?_⟩
  have strip :
      Text.stripStart? "xn--".toList ("xn--".toList ++ Punycode.encode label) =
        some (Punycode.encode label) := Text.stripStart?_eq_some_iff.mpr rfl
  have foreign :
      (label.any fun character => character.toNat ≥ 0x80) = true := by
    simpa using other
  have some_ : label.isEmpty = false := by
    cases label with
    | nil => cases foreign
    | cons => rfl
  simp only [asciiLabel?, strip, Punycode.decode?_encode, some_, foreign,
    flatMap_domainCharacter stays, shown, decide_true, Bool.not_false,
    Bool.and_self, if_true]

/-- The form in which a label is written is a label of a domain. -/
theorem isDomainLabel_of_asciiLabel? {label written : List Char}
    (noDot : '.' ∉ label)
    (stays : ∀ character ∈ label, domainCharacter character = [character])
    (read : asciiLabel? label = some written) : IsDomainLabel written := by
  have whole := read
  unfold asciiLabel? at read
  split at read
  · split at read
    · split at read
      · cases read
        exact ⟨noDot, stays, whole⟩
      · cases read
    · cases read
  · next plain =>
      split at read
      · cases read
        exact ⟨noDot, stays, whole⟩
      · next other =>
          split at read
          · next isLabel_ =>
              cases read
              exact isDomainLabel_coded noDot stays other isLabel_
          · cases read

theorem unescape_of_not_mem {text : List Char} (noPercent : '%' ∉ text) :
    unescape text = text.flatMap Utf8.encodeChar := by
  induction text with
  | nil => rfl
  | cons character text induction =>
      rw [List.mem_cons, not_or] at noPercent
      rw [unescape_cons (Ne.symm noPercent.1), induction noPercent.2,
        List.flatMap_cons]

/-- Labels of domains between dots are read as they are. -/
theorem readDomain_intercalate {labels : List (List Char)} (some_ : labels ≠ [])
    (areLabels : ∀ label ∈ labels, IsDomainLabel label)
    (allowed : (['.'].intercalate labels).any forbiddenInDomain = false) :
    readDomain (['.'].intercalate labels) =
      .ok (String.ofList (['.'].intercalate labels)) := by
  have noPercent : '%' ∉ ['.'].intercalate labels := by
    intro member
    have forbidden := List.any_eq_false.mp allowed '%' member
    exact forbidden (by decide)
  have decoded : Utf8.decode? (unescape (['.'].intercalate labels)) =
      some (String.ofList (['.'].intercalate labels)) := by
    rw [unescape_of_not_mem noPercent, Utf8.decode?, Utf8.decodeChars?_encode,
      Option.map_some]
  have stays :
      ∀ character ∈ ['.'].intercalate labels,
        domainCharacter character = [character] := by
    intro character member
    rcases Text.mem_intercalate member with dot | ⟨label, isLabel_, inside⟩
    · cases List.mem_singleton.mp dot
      decide
    · exact (areLabels label isLabel_).stays character inside
  have parts :=
    Text.splitChars_intercalate some_ fun label member =>
      (areLabels label member).noDot
  have reads : labels.mapM asciiLabel? = some labels := by
    have each : (labels.map id).mapM asciiLabel? = some labels :=
      mapM_map_eq_some fun label member => (areLabels label member).read
    rwa [List.map_id] at each
  simp only [readDomain, decoded, String.toList_ofList,
    flatMap_domainCharacter stays, parts, reads, allowed, Bool.false_eq_true,
    if_false]

theorem readDomain_readDomain {text : List Char} {name : String}
    (read : readDomain text = .ok name) :
    readDomain name.toList = .ok name ∧
      name.toList.any forbiddenInDomain = false := by
  unfold readDomain at read
  split at read
  · cases read
  · next plain _ =>
      split at read
      · cases read
      · next labels written =>
          dsimp only at read
          split at read
          · cases read
          · next allowed =>
              cases read
              have areLabels : ∀ label ∈ labels, IsDomainLabel label := by
                intro label member
                obtain ⟨part, isPart, coded⟩ :=
                  mem_of_mapM_eq_some written member
                refine isDomainLabel_of_asciiLabel? (fun dot => ?_)
                  (fun character inside => ?_) coded
                · exact (Text.mem_of_mem_splitChars isPart dot).2 rfl
                · obtain ⟨source, -, changed⟩ :=
                    List.mem_flatMap.mp
                      (Text.mem_of_mem_splitChars isPart inside).1
                  exact domainCharacter_of_mem changed
              have some_ : labels ≠ [] := by
                rintro rfl
                have length := length_of_mapM_eq_some written
                exact Text.splitChars_ne_nil _ _
                  (List.length_eq_zero_iff.mp length.symm)
              have free :
                  (['.'].intercalate labels).any forbiddenInDomain = false := by
                simpa using allowed
              rw [String.toList_ofList]
              exact ⟨readDomain_intercalate some_ areLabels free, free⟩

end LessonSite.Url
