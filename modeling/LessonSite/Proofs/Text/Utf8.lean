import LessonSite.Text.Utf8

/-!
# UTF-8 there and back

The bytes of a text are decoded to the text again, and bytes that are decoded
are those of the text.
-/

namespace LessonSite.Utf8

private theorem toNat_byte {value : Nat} (small : value < 256) :
    (UInt8.ofNat value).toNat = value := by
  rw [UInt8.toNat_ofNat']
  omega

private theorem isContinuation_byte {value : Nat} (small : value < 64) :
    isContinuation (UInt8.ofNat (0x80 + value)) = true := by
  have low : (0x80 : UInt8).toNat = 128 := rfl
  have high : (0xBF : UInt8).toNat = 191 := rfl
  simp only [isContinuation, Bool.and_eq_true, decide_eq_true_eq,
    UInt8.le_iff_toNat_le, toNat_byte (show 0x80 + value < 256 by omega), low,
    high]
  omega

private theorem payload_byte {value : Nat} (small : value < 64) :
    payload (UInt8.ofNat (0x80 + value)) = value := by
  rw [payload, toNat_byte (by omega)]
  omega

private theorem between_byte {value : Nat} (small : value < 256)
    (low high : UInt8) :
    (low ≤ UInt8.ofNat value && UInt8.ofNat value ≤ high) =
      decide (low.toNat ≤ value ∧ value ≤ high.toNat) := by
  simp only [UInt8.le_iff_toNat_le, toNat_byte small, Bool.decide_and]

private theorem below_byte {value : Nat} (small : value < 256) (high : UInt8) :
    UInt8.ofNat value < high ↔ value < high.toNat := by
  rw [UInt8.lt_iff_toNat_lt, toNat_byte small]

private theorem eq_byte {value : Nat} (small : value < 256) (other : UInt8) :
    UInt8.ofNat value = other ↔ value = other.toNat := by
  rw [← UInt8.toNat_inj, toNat_byte small]

private theorem second_in_range {lead second : Nat} (first : lead < 256)
    (tail : second < 64)
    (shortest : lead = 0xE0 → 0x20 ≤ second)
    (noSurrogate : lead = 0xED → second < 0x20)
    (shortest4 : lead = 0xF0 → 0x10 ≤ second)
    (last : lead = 0xF4 → second < 0x10) :
    ((secondRange (UInt8.ofNat lead)).1 ≤ UInt8.ofNat (0x80 + second) &&
      UInt8.ofNat (0x80 + second) ≤ (secondRange (UInt8.ofNat lead)).2) =
      true := by
  have small : 0x80 + second < 256 := by omega
  rw [between_byte small, decide_eq_true_eq]
  unfold secondRange
  simp only [eq_byte first]
  have e0 : (0xE0 : UInt8).toNat = 0xE0 := rfl
  have ed : (0xED : UInt8).toNat = 0xED := rfl
  have f0 : (0xF0 : UInt8).toNat = 0xF0 := rfl
  have f4 : (0xF4 : UInt8).toNat = 0xF4 := rfl
  simp only [e0, ed, f0, f4]
  split
  · have := shortest ‹_›
    change 0xA0 ≤ 0x80 + second ∧ 0x80 + second ≤ 0xBF
    omega
  · split
    · have := noSurrogate ‹_›
      change 0x80 ≤ 0x80 + second ∧ 0x80 + second ≤ 0x9F
      omega
    · split
      · have := shortest4 ‹_›
        change 0x90 ≤ 0x80 + second ∧ 0x80 + second ≤ 0xBF
        omega
      · split
        · have := last ‹_›
          change 0x80 ≤ 0x80 + second ∧ 0x80 + second ≤ 0x8F
          omega
        · change 0x80 ≤ 0x80 + second ∧ 0x80 + second ≤ 0xBF
          omega

theorem decodeStep_encodeChar (character : Char) (rest : List UInt8) :
    ∃ lead tail, encodeChar character = lead :: tail ∧
      decodeStep lead (tail ++ rest) = .character character rest := by
  have valid :
      character.toNat < 0xD800 ∨
        0xDFFF < character.toNat ∧ character.toNat < 0x110000 :=
    character.valid
  have back : Char.ofNat character.toNat = character :=
    Char.ofNat_toNat character
  unfold encodeChar
  generalize character.toNat = code at valid back
  have ascii : (0x80 : UInt8).toNat = 0x80 := rfl
  have c2 : (0xC2 : UInt8).toNat = 0xC2 := rfl
  have df : (0xDF : UInt8).toNat = 0xDF := rfl
  have e0 : (0xE0 : UInt8).toNat = 0xE0 := rfl
  have ef : (0xEF : UInt8).toNat = 0xEF := rfl
  have f0 : (0xF0 : UInt8).toNat = 0xF0 := rfl
  have f4 : (0xF4 : UInt8).toNat = 0xF4 := rfl
  by_cases one : code < 0x80
  · have small : code < 256 := by omega
    refine ⟨_, _, if_pos one, ?_⟩
    unfold decodeStep
    rw [if_pos ((below_byte small _).mpr (by omega)), toNat_byte small, back]
    rfl
  by_cases two : code < 0x800
  · have small : 0xC0 + code / 64 < 256 := by omega
    have tail : code % 64 < 64 := by omega
    refine ⟨_, _, (if_neg one).trans (if_pos two), ?_⟩
    unfold decodeStep
    rw [if_neg (by rw [below_byte small]; omega), between_byte small,
      if_pos (by rw [decide_eq_true_eq]; omega)]
    simp only [List.cons_append, List.nil_append, isContinuation_byte tail,
      payload_byte tail, if_true, toNat_byte small]
    rw [show (0xC0 + code / 64) % 32 * 64 + code % 64 = code by omega, back]
  by_cases three : code < 0x10000
  · have small : 0xE0 + code / 4096 < 256 := by omega
    have middle : code / 64 % 64 < 64 := by omega
    have tail : code % 64 < 64 := by omega
    refine ⟨_, _, (if_neg one).trans ((if_neg two).trans (if_pos three)), ?_⟩
    unfold decodeStep
    rw [if_neg (by rw [below_byte small]; omega), between_byte small,
      if_neg (by rw [decide_eq_true_eq]; omega), between_byte small,
      if_pos (by rw [decide_eq_true_eq]; omega)]
    simp only [List.cons_append, List.nil_append,
      second_in_range small middle (by omega) (by omega) (by omega) (by omega),
      isContinuation_byte tail, payload_byte middle, payload_byte tail, if_true,
      toNat_byte small]
    rw [show (0xE0 + code / 4096) % 16 * 4096 + code / 64 % 64 * 64 +
      code % 64 = code by omega, back]
  · have small : 0xF0 + code / 262144 < 256 := by omega
    have second : code / 4096 % 64 < 64 := by omega
    have third : code / 64 % 64 < 64 := by omega
    have tail : code % 64 < 64 := by omega
    refine ⟨_, _, (if_neg one).trans ((if_neg two).trans (if_neg three)), ?_⟩
    unfold decodeStep
    rw [if_neg (by rw [below_byte small]; omega), between_byte small,
      if_neg (by rw [decide_eq_true_eq]; omega), between_byte small,
      if_neg (by rw [decide_eq_true_eq]; omega), between_byte small,
      if_pos (by rw [decide_eq_true_eq]; omega)]
    simp only [List.cons_append, List.nil_append,
      second_in_range small second (by omega) (by omega) (by omega) (by omega),
      isContinuation_byte third, isContinuation_byte tail, payload_byte second,
      payload_byte third, payload_byte tail, if_true, toNat_byte small]
    rw [show (0xF0 + code / 262144) % 8 * 262144 + code / 4096 % 64 * 4096 +
      code / 64 % 64 * 64 +
      code % 64 = code by omega, back]

theorem encodeChar_ne_nil (character : Char) : encodeChar character ≠ [] := by
  obtain ⟨lead, tail, same, -⟩ := decodeStep_encodeChar character []
  rw [same]
  exact List.cons_ne_nil lead tail

theorem decodeChars?_encode (characters : List Char) :
    decodeChars? (characters.flatMap encodeChar) = some characters := by
  induction characters with
  | nil => simp [decodeChars?]
  | cons character characters induction =>
      obtain ⟨lead, tail, bytes, step⟩ :=
        decodeStep_encodeChar character (characters.flatMap encodeChar)
      rw [List.flatMap_cons, bytes, List.cons_append, decodeChars?]
      split
      · next value rest same =>
          cases step.symm.trans same
          rw [induction]
          rfl
      · next rest same => cases step.symm.trans same

theorem encode_append (first second : String) :
    encode (first ++ second) = encode first ++ encode second := by
  rw [encode, String.toList_append, List.flatMap_append]
  rfl

theorem decode?_encode (text : String) : decode? (encode text) = some text := by
  rw [decode?, encode, decodeChars?_encode, Option.map_some,
    String.ofList_toList]

theorem encode_injective {first second : String}
    (same : encode first = encode second) :
    first = second := by
  have decoded := congrArg decode? same
  rw [decode?_encode, decode?_encode] at decoded
  exact Option.some.inj decoded

theorem toNat_ofNat {code : Nat}
    (valid : code < 0xD800 ∨ 0xDFFF < code ∧ code < 0x110000) :
    (Char.ofNat code).toNat = code := by
  rw [Char.ofNat, dif_pos valid]
  rfl

private theorem ofNat_eq {value : Nat} {byte : UInt8}
    (same : value = byte.toNat) :
    UInt8.ofNat value = byte := by
  rw [same, UInt8.ofNat_toNat]

private theorem isContinuation_iff {byte : UInt8} :
    isContinuation byte = true ↔ 0x80 ≤ byte.toNat ∧ byte.toNat ≤ 0xBF := by
  simp only [isContinuation, Bool.and_eq_true, decide_eq_true_eq,
    UInt8.le_iff_toNat_le]
  rfl

private theorem byte_of_secondRange {lead second low high : UInt8}
    (range : secondRange lead = (low, high))
    (inRange : (low ≤ second && second ≤ high) = true) :
    0x80 ≤ second.toNat ∧ second.toNat ≤ 0xBF ∧
      (lead.toNat = 0xE0 → 0xA0 ≤ second.toNat) ∧
      (lead.toNat = 0xED → second.toNat ≤ 0x9F) ∧
        (lead.toNat = 0xF0 → 0x90 ≤ second.toNat) ∧
      (lead.toNat = 0xF4 → second.toNat ≤ 0x8F) := by
  have e0 : (0xE0 : UInt8).toNat = 0xE0 := rfl
  have ed : (0xED : UInt8).toNat = 0xED := rfl
  have f0 : (0xF0 : UInt8).toNat = 0xF0 := rfl
  have f4 : (0xF4 : UInt8).toNat = 0xF4 := rfl
  have a0 : (0xA0 : UInt8).toNat = 0xA0 := rfl
  have bf : (0xBF : UInt8).toNat = 0xBF := rfl
  have b80 : (0x80 : UInt8).toNat = 0x80 := rfl
  have b90 : (0x90 : UInt8).toNat = 0x90 := rfl
  have b9f : (0x9F : UInt8).toNat = 0x9F := rfl
  have b8f : (0x8F : UInt8).toNat = 0x8F := rfl
  unfold secondRange at range
  simp only [Bool.and_eq_true, decide_eq_true_eq,
    UInt8.le_iff_toNat_le] at inRange
  simp only [← UInt8.toNat_inj] at range
  repeat' split at range
  all_goals
    cases range
    omega

private theorem encodeChar_two {character : Char} {lead second : UInt8}
    (first : 0xC2 ≤ lead.toNat ∧ lead.toNat ≤ 0xDF)
    (follows : 0x80 ≤ second.toNat ∧ second.toNat ≤ 0xBF)
    (code : character.toNat = lead.toNat % 32 * 64 + payload second) :
    encodeChar character = [lead, second] := by
  unfold encodeChar
  unfold payload at code
  generalize character.toNat = number at code ⊢
  refine (if_neg (by omega)).trans ((if_pos (by omega)).trans ?_)
  rw [ofNat_eq (show 0xC0 + number / 64 = lead.toNat by omega),
    ofNat_eq (show 0x80 + number % 64 = second.toNat by omega)]

private theorem encodeChar_three {character : Char} {lead second third : UInt8}
    (first : 0xE0 ≤ lead.toNat ∧ lead.toNat ≤ 0xEF)
    (follows : 0x80 ≤ second.toNat ∧ second.toNat ≤ 0xBF)
    (shortest : lead.toNat = 0xE0 → 0xA0 ≤ second.toNat)
    (last : 0x80 ≤ third.toNat ∧ third.toNat ≤ 0xBF) (code : character.toNat =
      lead.toNat % 16 * 4096 + payload second * 64 + payload third) :
    encodeChar character = [lead, second, third] := by
  unfold encodeChar
  unfold payload at code
  generalize character.toNat = number at code ⊢
  refine (if_neg (by omega)).trans
    ((if_neg (by omega)).trans ((if_pos (by omega)).trans ?_))
  rw [ofNat_eq (show 0xE0 + number / 4096 = lead.toNat by omega),
    ofNat_eq (show 0x80 + number / 64 % 64 = second.toNat by omega),
    ofNat_eq (show 0x80 + number % 64 = third.toNat by omega)]

private theorem encodeChar_four {character : Char}
    {lead second third fourth : UInt8}
    (first : 0xF0 ≤ lead.toNat ∧ lead.toNat ≤ 0xF4)
    (follows : 0x80 ≤ second.toNat ∧ second.toNat ≤ 0xBF)
    (shortest : lead.toNat = 0xF0 → 0x90 ≤ second.toNat)
    (next : 0x80 ≤ third.toNat ∧ third.toNat ≤ 0xBF)
    (last : 0x80 ≤ fourth.toNat ∧ fourth.toNat ≤ 0xBF)
    (code : character.toNat = lead.toNat % 8 * 262144 + payload second * 4096 +
      payload third * 64 + payload fourth) :
    encodeChar character = [lead, second, third, fourth] := by
  unfold encodeChar
  unfold payload at code
  generalize character.toNat = number at code ⊢
  refine (if_neg (by omega)).trans
    ((if_neg (by omega)).trans ((if_neg (by omega)).trans ?_))
  rw [ofNat_eq (show 0xF0 + number / 262144 = lead.toNat by omega),
    ofNat_eq (show 0x80 + number / 4096 % 64 = second.toNat by omega),
    ofNat_eq (show 0x80 + number / 64 % 64 = third.toNat by omega),
    ofNat_eq (show 0x80 + number % 64 = fourth.toNat by omega)]

/-- A character that has been read was written with these bytes. -/
theorem encodeChar_of_decodeStep {lead : UInt8} {rest tail : List UInt8}
    {character : Char}
    (step : decodeStep lead rest = .character character tail) :
    lead :: rest = encodeChar character ++ tail := by
  have ascii : (0x80 : UInt8).toNat = 0x80 := rfl
  have c2 : (0xC2 : UInt8).toNat = 0xC2 := rfl
  have df : (0xDF : UInt8).toNat = 0xDF := rfl
  have e0 : (0xE0 : UInt8).toNat = 0xE0 := rfl
  have ef : (0xEF : UInt8).toNat = 0xEF := rfl
  have f0 : (0xF0 : UInt8).toNat = 0xF0 := rfl
  have f4 : (0xF4 : UInt8).toNat = 0xF4 := rfl
  unfold decodeStep at step
  split at step
  · next one =>
      cases step
      rw [UInt8.lt_iff_toNat_lt, ascii] at one
      rw [encodeChar, toNat_ofNat (by omega), if_pos one, UInt8.ofNat_toNat]
      rfl
  split at step
  · next two =>
      simp only [Bool.and_eq_true, decide_eq_true_eq, UInt8.le_iff_toNat_le, c2,
        df] at two
      split at step
      · next second after =>
          split at step
          · next follows =>
              rw [isContinuation_iff] at follows
              cases step
              rw [encodeChar_two two follows
                (toNat_ofNat (by unfold payload; omega))]
              rfl
          · cases step
      · cases step
  split at step
  · next three =>
      simp only [Bool.and_eq_true, decide_eq_true_eq, UInt8.le_iff_toNat_le, e0,
        ef] at three
      rcases range : secondRange lead with ⟨least, most⟩
      simp only [range] at step
      split at step
      · next second after =>
          split at step
          · next inRange =>
              obtain ⟨low, high, shortest, noSurrogate, -⟩ :=
                byte_of_secondRange range inRange
              split at step
              · next third last =>
                  split at step
                  · next follows =>
                      rw [isContinuation_iff] at follows
                      cases step
                      rw [encodeChar_three three ⟨low, high⟩ shortest follows
                        (toNat_ofNat (by unfold payload; omega))]
                      rfl
                  · cases step
              · cases step
          · cases step
      · cases step
  split at step
  · next four =>
      simp only [Bool.and_eq_true, decide_eq_true_eq, UInt8.le_iff_toNat_le, f0,
        f4] at four
      rcases range : secondRange lead with ⟨least, most⟩
      simp only [range] at step
      split at step
      · next second after =>
          split at step
          · next inRange =>
              obtain ⟨low, high, -, -, shortest, greatest⟩ :=
                byte_of_secondRange range inRange
              split at step
              · next third later =>
                  split at step
                  · next follows =>
                      rw [isContinuation_iff] at follows
                      split at step
                      · next fourth last =>
                          split at step
                          · next ends =>
                              rw [isContinuation_iff] at ends
                              cases step
                              rw [encodeChar_four four ⟨low, high⟩ shortest
                                follows ends
                                (toNat_ofNat (by unfold payload; omega))]
                              rfl
                          · cases step
                      · cases step
                  · cases step
              · cases step
          · cases step
      · cases step
  · cases step

private theorem flatMap_encodeChar_of_decodeChars? {size : Nat}
    {bytes : List UInt8} {characters : List Char} (bound : bytes.length ≤ size)
    (decoded : decodeChars? bytes = some characters) :
    characters.flatMap encodeChar = bytes := by
  induction size generalizing bytes characters with
  | zero =>
      obtain rfl := List.length_eq_zero_iff.mp (Nat.le_zero.mp bound)
      rw [decodeChars?] at decoded
      cases decoded
      rfl
  | succ size induction =>
      cases bytes with
      | nil =>
          rw [decodeChars?] at decoded
          cases decoded
          rfl
      | cons lead rest =>
          rw [decodeChars?] at decoded
          split at decoded
          · next character tail step =>
              obtain ⟨others, decodedTail, rfl⟩ :=
                Option.map_eq_some_iff.mp decoded
              have shorter := rest_length_decodeStep lead rest
              rw [step] at shorter
              have small : tail.length ≤ size := by
                simp only [List.length_cons, Step.rest] at bound shorter
                omega
              rw [List.flatMap_cons, induction small decodedTail,
                encodeChar_of_decodeStep step]
          · cases decoded

theorem encode_of_decode? {bytes : List UInt8} {text : String}
    (decoded : decode? bytes = some text) :
    encode text = bytes := by
  obtain ⟨characters, some_, rfl⟩ := Option.map_eq_some_iff.mp decoded
  rw [encode, String.toList_ofList]
  exact flatMap_encodeChar_of_decodeChars? (Nat.le_refl _) some_

end LessonSite.Utf8
