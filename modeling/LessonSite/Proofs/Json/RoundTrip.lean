import LessonSite.Json.Reader
import LessonSite.Json.Writer
import LessonSite.Number.Basic

/-!
# JSON there and back

The text of a value is read back as this value, when its numbers are integers
that fit 64 bits and it is not nested too deeply.
-/

namespace LessonSite.Json

/-- The value can be written and read without loss, with so many containers open
at once. -/
inductive IsExact : Nat → Json → Prop where
  | null (depth : Nat) : IsExact depth .null
  | bool (depth : Nat) (value : Bool) : IsExact depth (.bool value)
  | integer (depth : Nat) {value : Int} (above : -(Nat.pow 2 63 : Int) ≤ value)
      (below : value < UInt64.size) : IsExact depth (.integer value)
  | string (depth : Nat) (value : String) : IsExact depth (.string value)
  | array {depth : Nat} {items : List Json}
      (inner : ∀ item ∈ items, IsExact depth item) :
      IsExact (depth + 1) (.array items)
  | object {depth : Nat} {members : List (String × Json)}
      (inner : ∀ member ∈ members, IsExact depth member.2) :
      IsExact (depth + 1) (.object members)

/-- The text after a value begins with a mark that belongs to no number. -/
def Ends (rest : List Char) : Prop :=
  ∀ mark ∈ rest.head?, mark = ',' ∨ mark = ']' ∨ mark = '}'

theorem ends_nil : Ends [] := by
  simp [Ends]

theorem ends_cons {mark : Char} (isMark : mark = ',' ∨ mark = ']' ∨ mark = '}')
    (rest : List Char) :
    Ends (mark :: rest) := by
  simpa [Ends] using isMark

private theorem hexValue?_hexDigit {value : Nat} (small : value < 16) :
    hexValue? (hexDigit value) = some value := by
  have all :
      ∀ digit : Fin 16,
        hexValue? (hexDigit digit.val) = some digit.val := by decide
  exact all ⟨value, small⟩

private theorem readHex4_escape {code : Nat} (small : code < 32)
    (rest : List Char) :
    readHex4
        ('0' :: '0' :: hexDigit (code / 16) :: hexDigit (code % 16) :: rest) =
      some (code, rest) := by
  have zero : hexValue? '0' = some 0 := by decide
  simp only [readHex4, zero, hexValue?_hexDigit (show code / 16 < 16 by omega),
    hexValue?_hexDigit (show code % 16 < 16 by omega), Option.bind_eq_bind,
    Option.bind_some, Option.pure_def]
  congr 2
  omega

/-- An escaped character is read back, whatever follows it. -/
theorem readString_escapeChar (character : Char) (fuel : Nat)
    (rest : List Char) :
    readString (fuel + 1) (escapeChar character ++ rest) =
      (readString fuel rest).map fun (text, rest) =>
        (character :: text, rest) := by
  have escaped :
      ∀ code : List Char, readEscape (code ++ rest) = some (character, rest) →
        readString (fuel + 1) ('\\' :: code ++ rest) =
          (readString fuel rest).map fun (text, rest) =>
            (character :: text, rest) := by
    intro code reads
    simp only [List.cons_append, readString, reads, Option.bind_eq_bind,
      Option.bind_some]
    cases readString fuel rest <;> rfl
  unfold escapeChar
  split
  · next same => exact escaped ['"'] (by rw [same]; rfl)
  split
  · next same => exact escaped ['\\'] (by rw [same]; rfl)
  split
  · next same => exact escaped ['b'] (by rw [same]; rfl)
  split
  · next same => exact escaped ['f'] (by rw [same]; rfl)
  split
  · next same => exact escaped ['n'] (by rw [same]; rfl)
  split
  · next same => exact escaped ['r'] (by rw [same]; rfl)
  split
  · next same => exact escaped ['t'] (by rw [same]; rfl)
  split
  · next small =>
      refine escaped
        ['u', '0', '0', hexDigit (character.toNat / 16),
          hexDigit (character.toNat % 16)] ?_
      have notHigh :
          ¬(0xD800 ≤ character.toNat ∧ character.toNat < 0xDC00) := by omega
      have notLow :
          ¬(0xDC00 ≤ character.toNat ∧ character.toNat < 0xE000) := by omega
      simp only [List.cons_append, List.nil_append, readEscape,
        readHex4_escape small, Option.bind_eq_bind, Option.bind_some, notHigh,
        notLow, if_false, Option.pure_def, Char.ofNat_toNat]
  · next notQuote notBackslash _ _ _ _ _ visible =>
      rw [List.cons_append, List.nil_append, readString]
      · rw [if_neg visible]
        cases readString fuel rest <;> rfl
      · exact notQuote
      · exact notBackslash

theorem readString_escape (text : List Char) {fuel : Nat}
    (enough : text.length < fuel) (rest : List Char) :
    readString fuel (text.flatMap escapeChar ++ '"' :: rest) =
      some (text, rest) := by
  induction text generalizing fuel with
  | nil =>
      cases fuel with
      | zero => simp at enough
      | succ fuel => rfl
  | cons character text induction =>
      cases fuel with
      | zero => simp at enough
      | succ fuel =>
          rw [List.flatMap_cons, List.append_assoc, readString_escapeChar,
            induction (by simpa using enough)]
          rfl

theorem length_le_escape (text : List Char) :
    text.length ≤ (text.flatMap escapeChar).length := by
  induction text with
  | nil => simp
  | cons character text induction =>
      have some_ : 1 ≤ (escapeChar character).length := by
        unfold escapeChar
        repeat' split
        all_goals simp
      rw [List.flatMap_cons, List.length_append, List.length_cons]
      omega

private theorem not_isDigit_of_ends {rest : List Char} (ends : Ends rest) :
    rest.takeWhile Char.isDigit = [] ∧ rest.dropWhile Char.isDigit = rest := by
  cases rest with
  | nil => exact ⟨rfl, rfl⟩
  | cons mark rest =>
      have noDigit : mark.isDigit = false := by
        rcases ends mark rfl with rfl | rfl | rfl <;> decide
      simp [noDigit]

theorem readNumber_digits (negative : Bool) (number : Nat) {rest : List Char}
    (ends : Ends rest) :
    readNumber negative (Nat.toDigits 10 number ++ rest) =
      some (wholeNumber negative (Nat.toDigits 10 number), rest) := by
  have digits : ∀ digit ∈ Nat.toDigits 10 number, digit.isDigit = true :=
    fun digit member => isDigit_of_mem_toDigits member
  obtain ⟨noDigits, stays⟩ := not_isDigit_of_ends ends
  have taken :
      (Nat.toDigits 10 number ++ rest).takeWhile Char.isDigit =
        Nat.toDigits 10 number := by
    rw [List.takeWhile_append_of_pos digits, noDigits, List.append_nil]
  have left :
      (Nat.toDigits 10 number ++ rest).dropWhile Char.isDigit = rest := by
    rw [List.dropWhile_append_of_pos digits, stays]
  have whole :
      readWhole (Nat.toDigits 10 number ++ rest) =
        some (Nat.toDigits 10 number, rest) := by
    unfold readWhole
    rw [taken, left]
    split
    · next none_ => exact absurd none_ Nat.toDigits_ne_nil
    · next second others zero =>
        have positive : 0 < number := by
          refine Nat.pos_of_ne_zero ?_
          rintro rfl
          simp at zero
        exact absurd (by rw [zero]; rfl) (head?_toDigits_ne_zero positive)
    · rfl
  have fraction : readFraction rest = some ([], rest) := by
    cases rest with
    | nil => rfl
    | cons mark rest => rcases ends mark rfl with rfl | rfl | rfl <;> rfl
  have exponent : readExponent rest = some (none, rest) := by
    cases rest with
    | nil => rfl
    | cons mark rest => rcases ends mark rfl with rfl | rfl | rfl <;> rfl
  simp only [readNumber, whole, fraction, exponent, Option.bind_eq_bind,
    Option.bind_some, and_self, if_true, Option.pure_def]

private theorem skipSpace_cons {first : Char} (visible : isSpace first = false)
    (rest : List Char) :
    skipSpace (first :: rest) = first :: rest := by
  rw [skipSpace, List.dropWhile_cons_of_neg (by simp [visible])]

private theorem isSpace_of_isDigit {digit : Char}
    (isDigit : digit.isDigit = true) :
    isSpace digit = false := by
  rw [← Bool.not_eq_true]
  simp only [isSpace, Bool.or_eq_true, decide_eq_true_eq]
  rintro (((rfl | rfl) | rfl) | rfl) <;> cases isDigit

private theorem readValue_natural (depth fuel number : Nat)
    (fits : number < UInt64.size) {rest : List Char} (ends : Ends rest) :
    readValue depth (fuel + 1) (Nat.toDigits 10 number ++ rest) =
      some (.integer number, rest) := by
  have reads := readNumber_digits false number ends
  rw [show wholeNumber false (Nat.toDigits 10 number) = .integer number by
    simp only [wholeNumber, decimalValue_toDigits, Bool.false_eq_true, if_false,
      fits, if_true]] at reads
  obtain ⟨first, others, digits, isDigit⟩ := exists_toDigits_eq_cons number
  rw [digits, List.cons_append] at reads ⊢
  rw [readValue, skipSpace_cons (isSpace_of_isDigit isDigit)]
  split
  all_goals first
    | exact reads
    | next same => cases (List.cons.inj same).1; cases isDigit

private theorem readValue_negative (depth fuel number : Nat)
    (fits : number + 1 ≤ Nat.pow 2 63) {rest : List Char} (ends : Ends rest) :
    readValue depth (fuel + 1) ('-' :: (Nat.toDigits 10 (number + 1) ++ rest)) =
      some (.integer (Int.negSucc number), rest) := by
  rw [readValue, skipSpace_cons (by decide)]
  simp only [readNumber_digits true (number + 1) ends, wholeNumber,
    decimalValue_toDigits, if_true]
  rw [if_pos ⟨by omega, fits⟩]
  rfl

theorem writeChars_natural (number : Nat) :
    writeChars (.integer (Int.ofNat number)) = Nat.toDigits 10 number := by
  rw [writeChars]
  exact toList_toString number

theorem writeChars_negative (number : Nat) :
    writeChars (.integer (Int.negSucc number)) =
      '-' :: Nat.toDigits 10 (number + 1) := by
  rw [writeChars, ← toList_toString]
  exact String.toList_append

private theorem IsExact.exists_writeChars {depth : Nat} {value : Json}
    (exact_ : IsExact depth value) :
    ∃ first rest,
      writeChars value = first :: rest ∧ isSpace first = false ∧
        first ≠ ']' := by
  cases exact_ with
  | null => exact ⟨_, _, rfl, by decide, by decide⟩
  | bool _ value => cases value <;> exact ⟨_, _, rfl, by decide, by decide⟩
  | @integer _ value =>
      cases value with
      | negSucc number =>
          exact ⟨_, _, writeChars_negative number, by decide, by decide⟩
      | ofNat number =>
          obtain ⟨first, others, digits, isDigit⟩ :=
            exists_toDigits_eq_cons number
          refine ⟨first, others, (writeChars_natural number).trans digits,
            isSpace_of_isDigit isDigit, ?_⟩
          rintro rfl
          cases isDigit
  | string => exact ⟨_, _, rfl, by decide, by decide⟩
  | array => exact ⟨_, _, by rw [writeChars], by decide, by decide⟩
  | object => exact ⟨_, _, by rw [writeChars], by decide, by decide⟩

theorem readString_quote (text : String) (rest : List Char) :
    readString ((text.toList.flatMap escapeChar ++ '"' :: rest).length + 1)
      (text.toList.flatMap escapeChar ++ '"' :: rest) =
      some (text.toList, rest) := by
  refine readString_escape text.toList ?_ rest
  have longer := length_le_escape text.toList
  rw [List.length_append]
  omega

private def ReadsBack (depth : Nat) (value : Json) : Prop :=
  ∀ fuel rest, Ends rest → (writeChars value).length ≤ fuel →
    readValue depth fuel (writeChars value ++ rest) = some (value, rest)

private theorem writeItems_cons (item : Json) (items : List Json) :
    writeItems (item :: items) =
      writeChars item ++ items.flatMap fun item => ',' :: writeChars item := by
  induction items generalizing item with
  | nil => simp [writeItems]
  | cons next items induction =>
      rw [writeItems, induction, List.flatMap_cons, List.cons_append]

private theorem readMoreItems_write {depth : Nat} {items : List Json}
    (back : ∀ item ∈ items, ReadsBack depth item) (rest : List Char)
    (fuel : Nat)
    (enough : (items.flatMap fun item => ',' :: writeChars item).length <
      fuel) :
    readMoreItems depth fuel
        ((items.flatMap fun item => ',' :: writeChars item) ++ ']' :: rest) =
      some (items, rest) := by
  induction items generalizing fuel with
  | nil =>
      cases fuel with
      | zero => simp at enough
      | succ fuel =>
          rw [List.flatMap_nil, List.nil_append, readMoreItems,
            skipSpace_cons (by decide)]
          rfl
  | cons item items induction =>
      cases fuel with
      | zero => simp at enough
      | succ fuel =>
          rw [List.flatMap_cons, List.length_append, List.length_cons] at enough
          rw [List.flatMap_cons, List.append_assoc, List.cons_append,
            readMoreItems, skipSpace_cons (by decide)]
          have ends :
              Ends
                ((items.flatMap fun item => ',' :: writeChars item) ++
                  ']' :: rest) := by
            cases items <;> exact ends_cons (by decide) _
          have first := back item List.mem_cons_self fuel _ ends (by omega)
          have later :=
            induction (fun other member =>
                back other (List.mem_cons_of_mem _ member))
              fuel (by omega)
          simp only [first, later, Option.bind_eq_bind, Option.bind_some,
            Option.pure_def]

private theorem readItems_write {depth : Nat} {items : List Json}
    (exact_ : ∀ item ∈ items, IsExact depth item)
    (back : ∀ item ∈ items, ReadsBack depth item)
    (rest : List Char) {fuel : Nat}
    (enough : (writeItems items).length < fuel) :
    readItems depth fuel (writeItems items ++ ']' :: rest) =
      some (items, rest) := by
  cases fuel with
  | zero => simp at enough
  | succ fuel =>
      cases items with
      | nil =>
          rw [writeItems, List.nil_append, readItems,
            skipSpace_cons (by decide)]
          rfl
      | cons item items =>
          obtain ⟨first, others, text, visible, notEnd⟩ :=
            (exact_ item List.mem_cons_self).exists_writeChars
          rw [writeItems_cons, List.length_append] at enough
          have ends :
              Ends
                ((items.flatMap fun item => ',' :: writeChars item) ++
                  ']' :: rest) := by
            cases items <;> exact ends_cons (by decide) _
          have reads := back item List.mem_cons_self fuel _ ends (by omega)
          have some_ : 1 ≤ (writeChars item).length := by simp [text]
          have later := readMoreItems_write
            (fun other member => back other (List.mem_cons_of_mem _ member))
            rest fuel (by omega)
          rw [writeItems_cons, List.append_assoc]
          rw [text, List.cons_append] at reads ⊢
          rw [readItems, skipSpace_cons visible]
          split
          · next same => exact absurd (List.cons.inj same).1 notEnd
          · simp only [reads, later, Option.bind_eq_bind, Option.bind_some,
              Option.pure_def]

private def writeMember (member : String × Json) : List Char :=
  quote member.1 ++ ':' :: writeChars member.2

private theorem writeMembers_cons (member : String × Json)
    (members : List (String × Json)) :
    writeMembers (member :: members) =
      writeMember member ++
        members.flatMap fun member => ',' :: writeMember member := by
  induction members generalizing member with
  | nil => simp [writeMembers, writeMember]
  | cons next members induction =>
      rw [writeMembers, induction, List.flatMap_cons]
      simp only [writeMember, List.append_assoc, List.cons_append]

private theorem readMember_write {depth : Nat} {member : String × Json}
    (back : ReadsBack depth member.2) {rest : List Char} (ends : Ends rest)
    (fuel : Nat) (enough : (writeMember member).length ≤ fuel) :
    readMember depth fuel (writeMember member ++ rest) =
      some (member, rest) := by
  obtain ⟨name, value⟩ := member
  change ReadsBack depth value at back
  simp only [writeMember, List.length_append, List.length_cons] at enough
  cases fuel with
  | zero => simp at enough
  | succ fuel =>
      have reads := back fuel rest ends (by omega)
      have named := readString_quote name (':' :: (writeChars value ++ rest))
      simp only [writeMember, quote, List.append_assoc, List.cons_append,
        List.nil_append]
      rw [readMember, skipSpace_cons (by decide)]
      simp only [named, Option.bind_eq_bind, Option.bind_some,
        skipSpace_cons (show isSpace ':' = false by decide), reads,
        Option.pure_def, String.ofList_toList]

private theorem readMoreMembers_write {depth : Nat}
    {members : List (String × Json)}
    (back : ∀ member ∈ members, ReadsBack depth member.2) (rest : List Char)
    (fuel : Nat)
    (enough : (members.flatMap fun member => ',' :: writeMember member).length <
      fuel) :
    readMoreMembers depth fuel
        ((members.flatMap fun member => ',' :: writeMember member) ++
          '\x7d' :: rest) =
      some (members, rest) := by
  induction members generalizing fuel with
  | nil =>
      cases fuel with
      | zero => simp at enough
      | succ fuel =>
          rw [List.flatMap_nil, List.nil_append, readMoreMembers,
            skipSpace_cons (by decide)]
          rfl
  | cons member members induction =>
      cases fuel with
      | zero => simp at enough
      | succ fuel =>
          rw [List.flatMap_cons, List.length_append, List.length_cons] at enough
          rw [List.flatMap_cons, List.append_assoc, List.cons_append,
            readMoreMembers, skipSpace_cons (by decide)]
          have ends :
              Ends ((members.flatMap fun member => ',' :: writeMember member) ++
                '\x7d' :: rest) := by
            cases members <;> exact ends_cons (by decide) _
          have first :=
            readMember_write (back member List.mem_cons_self) ends
              fuel (by omega)
          have later :=
            induction (fun other inside =>
                back other (List.mem_cons_of_mem _ inside))
              fuel (by omega)
          simp only [first, later, Option.bind_eq_bind, Option.bind_some,
            Option.pure_def]

private theorem readMembers_write {depth : Nat} {members : List (String × Json)}
    (back : ∀ member ∈ members, ReadsBack depth member.2) (rest : List Char)
    (fuel : Nat) (enough : (writeMembers members).length < fuel) :
    readMembers depth fuel (writeMembers members ++ '\x7d' :: rest) =
      some (members, rest) := by
  cases fuel with
  | zero => simp at enough
  | succ fuel =>
      cases members with
      | nil =>
          rw [writeMembers, List.nil_append, readMembers,
            skipSpace_cons (by decide)]
          rfl
      | cons member members =>
          rw [writeMembers_cons, List.length_append] at enough
          have ends :
              Ends ((members.flatMap fun member => ',' :: writeMember member) ++
                '\x7d' :: rest) := by
            cases members <;> exact ends_cons (by decide) _
          have reads :=
            readMember_write (back member List.mem_cons_self) ends
              fuel (by omega)
          have some_ : 1 ≤ (writeMember member).length := by
            simp [writeMember, quote]
          have later := readMoreMembers_write
            (fun other inside => back other (List.mem_cons_of_mem _ inside))
            rest fuel (by omega)
          rw [writeMembers_cons, List.append_assoc]
          have text :
              writeMember member = '"' :: (writeMember member).tail := by
            simp [writeMember, quote]
          rw [text, List.cons_append] at reads ⊢
          rw [readMembers, skipSpace_cons (by decide)]
          split
          · next same => cases (List.cons.inj same).1
          · simp only [reads, later, Option.bind_eq_bind, Option.bind_some,
              Option.pure_def]

private theorem IsExact.readsBack_of_succ {depth : Nat} {value : Json}
    (exact_ : IsExact depth value)
    (reads : ∀ fuel rest, Ends rest → (writeChars value).length ≤ fuel + 1 →
      readValue depth (fuel + 1) (writeChars value ++ rest) =
        some (value, rest)) :
    ReadsBack depth value := by
  intro fuel rest ends enough
  cases fuel with
  | zero =>
      obtain ⟨first, others, text, -⟩ := exact_.exists_writeChars
      simp [text] at enough
  | succ fuel => exact reads fuel rest ends enough

private theorem IsExact.readsBack {depth : Nat} {value : Json}
    (exact_ : IsExact depth value) :
    ReadsBack depth value := by
  induction exact_ with
  | null depth =>
      refine IsExact.readsBack_of_succ (.null depth) ?_
      intro fuel rest ends enough
      have text : writeChars .null = ['n', 'u', 'l', 'l'] := by decide
      rw [text, List.cons_append, readValue, skipSpace_cons (by decide)]
      rfl
  | bool depth value =>
      refine IsExact.readsBack_of_succ (.bool depth value) ?_
      intro fuel rest ends enough
      cases value with
      | false =>
          have text :
              writeChars (.bool false) = ['f', 'a', 'l', 's', 'e'] := by decide
          rw [text, List.cons_append, readValue, skipSpace_cons (by decide)]
          rfl
      | true =>
          have text :
              writeChars (.bool true) = ['t', 'r', 'u', 'e'] := by decide
          rw [text, List.cons_append, readValue, skipSpace_cons (by decide)]
          rfl
  | @integer depth value above below =>
      refine IsExact.readsBack_of_succ (.integer depth above below) ?_
      intro fuel rest ends enough
      cases value with
      | ofNat number =>
          rw [writeChars_natural]
          exact readValue_natural depth fuel number (Int.ofNat_lt.mp below) ends
      | negSucc number =>
          have fits : number + 1 ≤ Nat.pow 2 63 := by
            rw [Int.negSucc_eq] at above
            omega
          rw [writeChars_negative]
          exact readValue_negative depth fuel number fits ends
  | string depth value =>
      refine IsExact.readsBack_of_succ (.string depth value) ?_
      intro fuel rest ends enough
      have text : writeChars (.string value) ++ rest =
          '"' :: (value.toList.flatMap escapeChar ++ '"' :: rest) := by
        rw [writeChars, quote, List.cons_append, List.append_assoc]
        rfl
      rw [text, readValue, skipSpace_cons (by decide)]
      simp only [readString_quote, Option.bind_eq_bind, Option.bind_some,
        Option.pure_def, String.ofList_toList]
  | @array depth items inner induction =>
      refine IsExact.readsBack_of_succ (.array inner) ?_
      intro fuel rest ends enough
      rw [writeChars, List.length_cons, List.length_append,
        List.length_singleton] at enough
      rw [writeChars, List.cons_append, List.append_assoc, readValue,
        skipSpace_cons (by decide)]
      simp only [List.cons_append, List.nil_append,
        readItems_write inner induction rest (show _ < fuel by omega),
        Option.bind_eq_bind, Option.bind_some, Option.pure_def]
  | @object depth members inner induction =>
      refine IsExact.readsBack_of_succ (.object inner) ?_
      intro fuel rest ends enough
      rw [writeChars, List.length_cons, List.length_append,
        List.length_singleton] at enough
      rw [writeChars, List.cons_append, List.append_assoc, readValue,
        skipSpace_cons (by decide)]
      simp only [List.cons_append, List.nil_append,
        readMembers_write induction rest fuel (by omega), Option.bind_eq_bind,
        Option.bind_some, Option.pure_def]

theorem IsExact.parse_write {value : Json} (exact_ : IsExact depthLimit value) :
    parse value.write = some value := by
  have reads :=
    exact_.readsBack (3 * (writeChars value).length + 3) [] ends_nil (by omega)
  rw [List.append_nil] at reads
  simp only [parse, parseWithin, write, String.toList_ofList, reads]
  rfl

end LessonSite.Json
