import LessonSite.Number.Basic
import LessonSite.Proofs.Url.Domain
import LessonSite.Url.Reader

/-!
# Hosts as they are written

The text of a host ends where its address goes on, whatever the kind of the host
is.  Every host that has been read is read again from its text.
-/

namespace LessonSite.Url

/-- The text of the host is read as this host, as it is for every host that has
been read. -/
def Host.ReadsBack (host : Host) : Prop :=
  Host.read host.write.toList = .ok host

/-- The character is shown and does not end an authority or its user name. -/
def isHostCharacter (character : Char) : Bool :=
  decide (0x20 < character.toNat) && !endsAuthority true character &&
    character != '@'

/-- The text holds no colon outside of brackets around it. -/
inductive IsHostText : List Char → Prop where
  | name {text : List Char}
      (plain : ∀ character ∈ text, isHostCharacter character = true ∧
        character ≠ ':' ∧ character ≠ '[' ∧ character ≠ ']') : IsHostText text
  | bracketed {inside : List Char}
      (plain : ∀ character ∈ inside, isHostCharacter character = true ∧
        character ≠ '[' ∧ character ≠ ']') : IsHostText ('[' :: inside ++ [']'])

theorem isHostCharacter_of_mem {text : List Char} (isHost : IsHostText text) :
    ∀ character ∈ text, isHostCharacter character = true := by
  intro character member
  cases isHost with
  | name plain => exact (plain character member).1
  | bracketed plain =>
      rcases List.mem_append.mp member with first | last
      · rcases List.mem_cons.mp first with rfl | inside
        · decide
        · exact (plain character inside).1
      · cases List.mem_singleton.mp last
        decide

private theorem digit_cases {base number : Nat} (two : 1 < base) {digit : Char}
    (member : digit ∈ Nat.toDigits base number) :
    ∃ value < base, digit = value.digitChar := by
  induction number using Nat.strongRecOn with
  | ind number smaller =>
      by_cases single : number < base
      · rw [Nat.toDigits_of_lt_base single] at member
        exact ⟨number, single, List.mem_singleton.mp member⟩
      · rw [Nat.toDigits_of_base_le two (Nat.not_lt.mp single)] at member
        rcases List.mem_append.mp member with first | last
        · exact smaller _ (Nat.div_lt_self (by omega) two) first
        · exact ⟨number % base, Nat.mod_lt _ (Nat.zero_lt_of_lt two),
            List.mem_singleton.mp last⟩

private theorem isHostCharacter_digit {base number : Nat} (two : 1 < base)
    (small : base ≤ 16)
    {digit : Char} (member : digit ∈ Nat.toDigits base number) :
    isHostCharacter digit = true ∧ digit ≠ ':' ∧ digit ≠ '[' ∧ digit ≠ ']' := by
  obtain ⟨value, bound, rfl⟩ := digit_cases two member
  have all : ∀ digit : Fin 16, isHostCharacter digit.val.digitChar = true ∧
      digit.val.digitChar ≠ ':' ∧ digit.val.digitChar ≠ '[' ∧
      digit.val.digitChar ≠ ']' := by decide
  exact all ⟨value, Nat.lt_of_lt_of_le bound small⟩

theorem isHostCharacter_toString {number : Nat} {digit : Char}
    (member : digit ∈ (toString number).toList) :
    isHostCharacter digit = true ∧ digit ≠ ':' ∧ digit ≠ '[' ∧ digit ≠ ']' := by
  rw [toList_toString] at member
  exact isHostCharacter_digit (by decide) (by decide) member

private theorem mem_intercalate {separator : String} {parts : List String}
    {character : Char}
    (member : character ∈ (separator.intercalate parts).toList) :
    character ∈ separator.toList ∨ ∃ part ∈ parts, character ∈ part.toList := by
  rw [String.toList_intercalate] at member
  refine (Text.mem_intercalate member).imp_right ?_
  rintro ⟨characters, isPart, inside⟩
  obtain ⟨part, found, rfl⟩ := List.mem_map.mp isPart
  exact ⟨part, found, inside⟩

private theorem isHostText_ipv4 (number : Nat) :
    IsHostText (Host.ipv4 number).write.toList := by
  refine .name ?_
  intro character member
  rw [Host.write] at member
  rcases mem_intercalate member with dot | ⟨part, isPart, inside⟩
  · cases List.mem_singleton.mp dot
    decide
  · obtain ⟨position, -, rfl⟩ := List.mem_map.mp isPart
    exact isHostCharacter_toString inside

private theorem isHostCharacter_writeGroups {groups : List Nat}
    {character : Char} (member : character ∈ (writeGroups groups).toList) :
    isHostCharacter character = true ∧ character ≠ '[' ∧ character ≠ ']' := by
  rw [writeGroups] at member
  rcases mem_intercalate member with colon | ⟨part, isPart, inside⟩
  · cases List.mem_singleton.mp colon
    decide
  · obtain ⟨group, -, rfl⟩ := List.mem_map.mp isPart
    rw [String.toList_ofList] at inside
    obtain ⟨isHost, -, noOpen, noClose⟩ :=
      isHostCharacter_digit (by decide) (by decide) inside
    exact ⟨isHost, noOpen, noClose⟩

private theorem isHostText_ipv6 (groups : List Nat) :
    IsHostText (Host.ipv6 groups).write.toList := by
  have text :
      (Host.ipv6 groups).write.toList =
        '[' :: (writeIpv6 groups).toList ++ [']'] := by
    rw [Host.write, String.toList_append, String.toList_append]
    rfl
  rw [text]
  refine .bracketed ?_
  intro character member
  unfold writeIpv6 at member
  dsimp only at member
  split at member
  · exact isHostCharacter_writeGroups member
  · rw [String.toList_append, String.toList_append] at member
    rcases List.mem_append.mp member with earlier | later
    · rcases List.mem_append.mp earlier with first | colons
      · exact isHostCharacter_writeGroups first
      · rcases List.mem_cons.mp colons with rfl | second
        · decide
        · cases List.mem_singleton.mp second
          decide
    · exact isHostCharacter_writeGroups later

private theorem isHostCharacter_of_allowed {character : Char}
    (allowed : forbiddenInDomain character = false) :
    isHostCharacter character = true ∧ character ≠ ':' ∧ character ≠ '[' ∧
      character ≠ ']' := by
  simp only [forbiddenInDomain, EscapeSet.control, Bool.or_eq_false_iff,
    decide_eq_false_iff_not, List.contains_eq_mem, List.mem_cons,
    List.not_mem_nil, or_false, not_or] at allowed
  obtain ⟨⟨visible, -⟩, blank, hash, slash, colon, -, -, question, at_, opens,
      backslash, closes, -⟩ :=
    allowed
  have shown : character.toNat ≠ 0x20 := fun same =>
    blank (Char.toNat_inj.mp same)
  refine ⟨?_, colon, opens, closes⟩
  simp only [isHostCharacter, endsAuthority, isSlash, Bool.true_and,
    Bool.and_eq_true, decide_eq_true_eq, Bool.not_eq_true',
    Bool.or_eq_false_iff, beq_eq_false_iff_ne, bne_iff_ne]
  exact ⟨⟨by omega, ⟨⟨slash, backslash⟩, question⟩, hash⟩, at_⟩

private theorem readBracketed_ne_domain (inside : List Char) (name : String) :
    readBracketed inside ≠ .ok (.domain name) := by
  unfold readBracketed
  split
  · split <;> simp
  · simp

theorem Host.ReadsBack.isHostText {host : Host} (back : host.ReadsBack) :
    IsHostText host.write.toList := by
  cases host with
  | ipv4 number => exact isHostText_ipv4 number
  | ipv6 groups => exact isHostText_ipv6 groups
  | domain name =>
      refine .name ?_
      intro character member
      refine isHostCharacter_of_allowed ?_
      unfold Host.ReadsBack Host.read at back
      split at back
      · exact absurd back (readBracketed_ne_domain _ _)
      · split at back
        · cases back
        · next read =>
            split at back
            · cases back
            · split at back
              · split at back <;> cases back
              · cases back
                have allowed := (readDomain_readDomain read).2
                exact eq_false_of_ne_true
                  (List.any_eq_false.mp allowed character member)

theorem Host.ReadsBack.ne_nil {host : Host} (back : host.ReadsBack) :
    host.write.toList ≠ [] := by
  intro empty
  have plain : Utf8.decode? (unescape []) = some "" := by
    simp [Utf8.decode?, Utf8.decodeChars?, unescape]
  have named : readDomain [] = .ok "" := by
    rw [readDomain, plain]
    rfl
  rw [Host.ReadsBack, empty, Host.read, named] at back
  · cases back
  · intro inside same
    cases same

private theorem foldl_toDigits_option (base : Nat) (two : 1 < base)
    (value? : Char → Option Nat)
    (values : ∀ value < base, value? value.digitChar = some value)
    (number : Nat) :
    (Nat.toDigits base number).foldl (fun (total : Option Nat) digit =>
      match total, value? digit with
      | some total, some value => some (total * base + value)
      | _, _ => none) (some 0) = some number := by
  induction number using Nat.strongRecOn with
  | ind number smaller =>
      by_cases single : number < base
      · rw [Nat.toDigits_of_lt_base single, List.foldl_cons, List.foldl_nil,
          values number single]
        simp
      · have last := Nat.mod_lt number (Nat.zero_lt_of_lt two)
        rw [Nat.toDigits_of_base_le two (Nat.not_lt.mp single),
          List.foldl_append, smaller _ (Nat.div_lt_self (by omega) two),
          List.foldl_cons, List.foldl_nil, values _ last]
        exact congrArg some (Nat.div_add_mod' number base)

private theorem addressNumber?_toDigits (number : Nat) :
    addressNumber? (Nat.toDigits 10 number) = some number := by
  have values :
      ∀ value < 10,
        (hexValue? value.digitChar).filter (· < 10) = some value := by decide
  have read :=
    foldl_toDigits_option 10 (by decide)
      (fun digit => (hexValue? digit).filter (· < 10)) values number
  have noZero :
      ∀ second rest, Nat.toDigits 10 number ≠ '0' :: second :: rest := by
    intro second rest digits
    by_cases zero : number = 0
    · rw [zero, Nat.toDigits_of_lt_base (by decide)] at digits
      cases digits
    · exact head?_toDigits_ne_zero (Nat.pos_of_ne_zero zero)
        (by rw [digits]; rfl)
  have some_ : Nat.toDigits 10 number ≠ [] := Nat.toDigits_ne_nil
  unfold addressNumber?
  dsimp only
  split
  · next empty => exact absurd empty some_
  · next digits => exact absurd digits (noZero _ _)
  · next digits => exact absurd digits (noZero _ _)
  · next digits => exact absurd digits (noZero _ _)
  · exact read

private theorem length_toDigits_le (places : Nat) {number : Nat}
    (small : number < 16 ^ (places + 1)) :
    (Nat.toDigits 16 number).length ≤ places + 1 := by
  induction places generalizing number with
  | zero => rw [Nat.toDigits_of_lt_base (by simpa using small)]; rfl
  | succ places induction =>
      by_cases single : number < 16
      · rw [Nat.toDigits_of_lt_base single]
        exact Nat.succ_le_succ (Nat.zero_le _)
      · rw [Nat.toDigits_of_base_le (by decide) (Nat.not_lt.mp single),
          List.length_append]
        have shorter := induction (show number / 16 < 16 ^ (places + 1) by
          rw [Nat.pow_succ] at small
          exact Nat.div_lt_of_lt_mul (by omega))
        exact Nat.succ_le_succ shorter

private theorem group?_toDigits {number : Nat} (small : number < 65536) :
    group? (Nat.toDigits 16 number) = some number := by
  have values :
      ∀ value < 16, hexValue? value.digitChar = some value := by decide
  have short := length_toDigits_le 3 small
  have some_ : (Nat.toDigits 16 number).isEmpty = false :=
    List.isEmpty_eq_false_iff.mpr Nat.toDigits_ne_nil
  have fits : ¬ (Nat.toDigits 16 number).length > 4 := Nat.not_lt.mpr short
  simp only [group?, some_, fits, decide_false, Bool.or_self,
    Bool.false_eq_true, if_false]
  exact foldl_toDigits_option 16 (by decide) hexValue? values number

def addressBytes (number : Nat) : List Nat :=
  [3, 2, 1, 0].map fun position => number / Nat.pow 2 (8 * position) % 256

/-- The bytes of an address with dots between them. -/
def addressText (number : Nat) : List Char :=
  ['.'].intercalate ((addressBytes number).map (Nat.toDigits 10))

private theorem toList_write_ipv4 (number : Nat) :
    (Host.ipv4 number).write.toList = addressText number := by
  have texts :
      ([3, 2, 1, 0].map fun position =>
          toString (number / Nat.pow 2 (8 * position) % 256)).map
        String.toList = (addressBytes number).map (Nat.toDigits 10) := by
    rw [addressBytes, List.map_map, List.map_map]
    exact List.map_congr_left fun position _ => toList_toString _
  rw [Host.write, String.toList_intercalate, texts]
  rfl

private theorem mem_toDigits {number : Nat} {digit : Char}
    (member : digit ∈ Nat.toDigits 10 number) :
    digit ≠ '.' ∧ digit ≠ 'x' ∧ digit.toNat < 0x80 ∧
      domainCharacter digit = [digit] ∧
        forbiddenInDomain digit = false := by
  obtain ⟨value, bound, rfl⟩ := digit_cases (by decide) member
  have all :
      ∀ value : Fin 10, value.val.digitChar ≠ '.' ∧ value.val.digitChar ≠ 'x' ∧
        value.val.digitChar.toNat < 0x80 ∧
          domainCharacter value.val.digitChar = [value.val.digitChar] ∧
            forbiddenInDomain value.val.digitChar = false := by decide
  exact all ⟨value, bound⟩

private theorem isDomainLabel_toDigits (number : Nat) :
    IsDomainLabel (Nat.toDigits 10 number) := by
  refine isDomainLabel_of_ascii (fun dot => (mem_toDigits dot).1 rfl)
    (fun digit member => (mem_toDigits member).2.2.2.1) ?_
    (fun digit member => (mem_toDigits member).2.2.1)
  rw [Option.eq_none_iff_forall_ne_some]
  intro rest starts
  have begins : 'x' ∈ Nat.toDigits 10 number := by
    rw [Text.stripStart?_eq_some_iff.mp starts]
    exact List.mem_append_left _ (by decide)
  exact (mem_toDigits begins).2.1 rfl

private theorem foldl_bytes_lt (numbers : List Nat)
    (bytes : ∀ number ∈ numbers, number ≤ 255) (start : Nat) :
    numbers.foldl (fun (total : Nat) number => total * 256 + number) start <
      (start + 1) * 2 ^ (8 * numbers.length) := by
  induction numbers generalizing start with
  | nil => simp
  | cons number numbers induction =>
      obtain ⟨small, others⟩ := List.forall_mem_cons.mp bytes
      have later := induction others (start * 256 + number)
      have power :
          2 ^ (8 * (numbers.length + 1)) = 256 * 2 ^ (8 * numbers.length) := by
        rw [Nat.mul_succ, Nat.pow_add, Nat.mul_comm]
      calc numbers.foldl (fun (total : Nat) number => total * 256 + number)
            (start * 256 + number)
          < (start * 256 + number + 1) * 2 ^ (8 * numbers.length) := later
        _ ≤ ((start + 1) * 256) * 2 ^ (8 * numbers.length) :=
          Nat.mul_le_mul_right _ (by omega)
        _ = (start + 1) * 2 ^ (8 * (numbers.length + 1)) := by
          rw [power, Nat.mul_assoc]

private theorem lt_of_ipv4? {domain : List Char} {number : Nat}
    (read : ipv4? domain = some number) :
    number < 2 ^ 32 := by
  unfold ipv4? at read
  obtain ⟨numbers, -, read⟩ := Option.bind_eq_some_iff.mp read
  obtain ⟨last, ends, read⟩ := Option.bind_eq_some_iff.mp read
  dsimp only at read
  split at read
  · cases read
  · next fits =>
      cases read
      simp only [Bool.or_eq_true, decide_eq_true_eq, List.any_eq_true, not_or,
        not_exists, not_and, Nat.not_lt, Nat.not_le] at fits
      obtain ⟨⟨few, bytes⟩, rest⟩ := fits
      have some_ : numbers ≠ [] := by
        rintro rfl
        cases ends
      have length : numbers.dropLast.length ≤ 3 := by
        rw [List.length_dropLast]
        omega
      have high := foldl_bytes_lt numbers.dropLast bytes 0
      rw [Nat.zero_add, Nat.one_mul] at high
      generalize
        numbers.dropLast.foldl
          (fun (total : Nat) number => total * 256 + number) 0 = total at high ⊢
      generalize numbers.dropLast.length = count at length high rest ⊢
      have whole : 2 ^ (8 * count) * 2 ^ (8 * (4 - count)) = 2 ^ 32 := by
        rw [← Nat.pow_add]
        congr 1
        omega
      calc total * Nat.pow 2 (8 * (4 - count)) + last
          < total * 2 ^ (8 * (4 - count)) + 2 ^ (8 * (4 - count)) :=
          Nat.add_lt_add_left rest _
        _ = (total + 1) * 2 ^ (8 * (4 - count)) := (Nat.succ_mul _ _).symm
        _ ≤ 2 ^ (8 * count) * 2 ^ (8 * (4 - count)) :=
          Nat.mul_le_mul_right _ high
        _ = 2 ^ 32 := whole

/-- A text without forbidden characters is read as a domain first. -/
theorem Host.read_of_readDomain {text : List Char} {name : String}
    (allowed : text.any forbiddenInDomain = false)
    (read : readDomain text = .ok name) :
    Host.read text =
      if name = "" then .error .emptyHost
      else if endsInNumber name.toList then
        match ipv4? name.toList with
        | some number => .ok (.ipv4 number)
        | none => .error .invalidIpv4
      else .ok (.domain name) := by
  unfold Host.read
  split
  · cases allowed
  · rewrite [read]
    rfl

private theorem isDomainLabel_of_mem_addressBytes {number : Nat} :
    ∀ label ∈ (addressBytes number).map (Nat.toDigits 10),
      IsDomainLabel label := by
  intro label member
  obtain ⟨byte, -, rfl⟩ := List.mem_map.mp member
  exact isDomainLabel_toDigits byte

private theorem readDomain_addressText (number : Nat) :
    readDomain (addressText number) = .ok (String.ofList (addressText number)) ∧
      (addressText number).any forbiddenInDomain = false := by
  have allowed : (addressText number).any forbiddenInDomain = false := by
    rw [List.any_eq_false]
    intro character member
    rcases Text.mem_intercalate member with dot | ⟨label, isLabel_, inside⟩
    · cases List.mem_singleton.mp dot
      decide
    · obtain ⟨byte, -, rfl⟩ := List.mem_map.mp isLabel_
      rw [(mem_toDigits inside).2.2.2.2]
      exact Bool.false_ne_true
  exact ⟨readDomain_intercalate (List.cons_ne_nil _ _)
    isDomainLabel_of_mem_addressBytes allowed, allowed⟩

private theorem getLast?_addressBytes (number : Nat) :
    ((addressBytes number).map (Nat.toDigits 10)).getLast? =
      some (Nat.toDigits 10 (number / Nat.pow 2 (8 * 0) % 256)) :=
  rfl

private theorem addressLabels_addressText (number : Nat) :
    addressLabels (addressText number) =
      (addressBytes number).map (Nat.toDigits 10) := by
  have labels :
      Text.splitChars '.' (addressText number) =
        (addressBytes number).map (Nat.toDigits 10) :=
    Text.splitChars_intercalate (List.cons_ne_nil _ _) fun label member =>
      (isDomainLabel_of_mem_addressBytes label member).noDot
  rw [addressLabels, labels]
  refine if_neg fun empty => ?_
  exact Nat.toDigits_ne_nil
    (Option.some.inj ((getLast?_addressBytes number).symm.trans empty))

private theorem endsInNumber_addressText (number : Nat) :
    endsInNumber (addressText number) = true := by
  have digits :
      (Nat.toDigits 10 (number / Nat.pow 2 (8 * 0) % 256)).all
        Char.isDigit = true :=
    List.all_eq_true.mpr fun digit member => isDigit_of_mem_toDigits member
  have some_ :
      (Nat.toDigits 10 (number / Nat.pow 2 (8 * 0) % 256)).isEmpty = false :=
    List.isEmpty_eq_false_iff.mpr Nat.toDigits_ne_nil
  rw [endsInNumber, addressLabels_addressText, getLast?_addressBytes]
  dsimp only
  rw [digits, some_]
  rfl

private theorem ipv4?_addressText {number : Nat} (small : number < 2 ^ 32) :
    ipv4? (addressText number) = some number := by
  have numbers :
      (addressLabels (addressText number)).mapM addressNumber? =
        some (addressBytes number) := by
    rw [addressLabels_addressText]
    exact mapM_map_eq_some fun byte _ => addressNumber?_toDigits byte
  have bytes : addressBytes number =
      [number / 16777216 % 256, number / 65536 % 256, number / 256 % 256,
        number % 256] := by
    simp [addressBytes]
  rw [ipv4?, numbers, bytes]
  simp
  omega

private theorem readsBack_ipv4 {number : Nat} (small : number < 2 ^ 32) :
    (Host.ipv4 number).ReadsBack := by
  obtain ⟨read, allowed⟩ := readDomain_addressText number
  have ends := endsInNumber_addressText number
  have shown : String.ofList (addressText number) ≠ "" := by
    intro empty
    have nothing : addressText number = [] := by simpa using empty
    rw [nothing] at ends
    exact absurd ends (by decide)
  rw [Host.ReadsBack, toList_write_ipv4, Host.read_of_readDomain allowed read,
    if_neg shown, String.toList_ofList, ends, if_pos rfl,
    ipv4?_addressText small]

private theorem toList_writeGroups (groups : List Nat) :
    (writeGroups groups).toList =
      [':'].intercalate (groups.map (Nat.toDigits 16)) := by
  rw [writeGroups, String.toList_intercalate, List.map_map]
  have same :
      groups.map
          (String.toList ∘ fun group => String.ofList (Nat.toDigits 16 group)) =
        groups.map (Nat.toDigits 16) :=
    List.map_congr_left fun group _ => String.toList_ofList
  rw [same]
  rfl

private theorem mem_hexDigits {number : Nat} {digit : Char}
    (member : digit ∈ Nat.toDigits 16 number) :
    digit ≠ ':' ∧ digit ≠ '.' := by
  obtain ⟨value, bound, rfl⟩ := digit_cases (by decide) member
  have all :
      ∀ value : Fin 16,
        value.val.digitChar ≠ ':' ∧ value.val.digitChar ≠ '.' := by decide
  exact all ⟨value, bound⟩

private theorem groups?_writeGroups (atEnd : Bool) {groups : List Nat}
    (small : ∀ group ∈ groups, group < 65536) :
    groups? atEnd (writeGroups groups).toList = some groups := by
  have reads : (groups.map (Nat.toDigits 16)).mapM group? = some groups :=
    mapM_map_eq_some fun group member => group?_toDigits (small group member)
  rw [toList_writeGroups]
  by_cases none_ : groups = []
  · rw [none_]
    rfl
  · have some_ : groups.map (Nat.toDigits 16) ≠ [] := by simpa using none_
    have parts :
        Text.splitChars ':' ([':'].intercalate (groups.map (Nat.toDigits 16))) =
          groups.map (Nat.toDigits 16) := by
      refine Text.splitChars_intercalate some_ fun part isPart colon => ?_
      obtain ⟨group, -, rfl⟩ := List.mem_map.mp isPart
      exact (mem_hexDigits colon).1 rfl
    have shown :
        ([':'].intercalate (groups.map (Nat.toDigits 16))).isEmpty = false := by
      rw [List.isEmpty_eq_false_iff]
      intro empty
      rw [empty] at parts
      have blank : [] ∈ groups.map (Nat.toDigits 16) :=
        parts ▸ List.mem_singleton_self _
      obtain ⟨group, -, none_⟩ := List.mem_map.mp blank
      exact Nat.toDigits_ne_nil none_
    unfold groups?
    simp only [shown, Bool.false_eq_true, if_false, parts]
    split
    · next _ _ last ends =>
        have noDot : last.contains '.' = false := by
          obtain ⟨group, -, rfl⟩ := List.mem_map.mp (List.mem_of_getLast? ends)
          rw [Bool.eq_false_iff, Ne, List.contains_iff_mem]
          exact fun dot => (mem_hexDigits dot).2 rfl
        rw [noDot, if_neg Bool.false_ne_true, reads]
    · exact reads

private theorem splitAtGap_append {part : List Char} (noColon : ':' ∉ part)
    (rest : List Char) :
    splitAtGap (part ++ rest) =
      (part ++ (splitAtGap rest).1, (splitAtGap rest).2) := by
  induction part with
  | nil => rfl
  | cons character part induction =>
      rw [List.mem_cons, not_or] at noColon
      rw [List.cons_append, splitAtGap, induction noColon.2]
      · rfl
      · exact fun _ same _ => noColon.1 same.symm

private theorem splitAtGap_intercalate {parts : List (List Char)}
    (areParts : ∀ part ∈ parts, part ≠ [] ∧ ':' ∉ part) (rest : List Char) :
    splitAtGap ([':'].intercalate parts ++ rest) =
      ([':'].intercalate parts ++ (splitAtGap rest).1,
        (splitAtGap rest).2) := by
  induction parts with
  | nil => rfl
  | cons part parts induction =>
      obtain ⟨⟨-, noColon⟩, others⟩ := List.forall_mem_cons.mp areParts
      cases parts with
      | nil =>
          rw [List.intercalate_singleton]
          exact splitAtGap_append noColon rest
      | cons next parts =>
          have later := induction others
          obtain ⟨some_, apart⟩ := others next List.mem_cons_self
          obtain ⟨first, more, rfl⟩ := List.exists_cons_of_ne_nil some_
          have different : first ≠ ':' := fun colon =>
            apart (colon ▸ List.mem_cons_self)
          have begins :
              ∃ others,
                [':'].intercalate ((first :: more) :: parts) ++ rest =
                  first :: others := by
            cases parts with
            | nil => exact ⟨_, by rw [List.intercalate_singleton]; rfl⟩
            | cons => exact ⟨_, by rw [List.intercalate_cons_cons]; rfl⟩
          obtain ⟨tail, starts⟩ := begins
          have single :
              splitAtGap
                  (':' ::
                    ([':'].intercalate ((first :: more) :: parts) ++ rest)) =
                (':' :: [':'].intercalate ((first :: more) :: parts) ++
                    (splitAtGap rest).1,
                  (splitAtGap rest).2) := by
            rw [splitAtGap, later]
            · rfl
            · intro other _ same
              rw [starts] at same
              exact different (List.cons.inj same).1
          rw [List.intercalate_cons_cons, List.append_assoc, List.append_assoc,
            splitAtGap_append noColon, List.singleton_append, single]
          simp only [List.append_assoc, List.cons_append, List.nil_append]

private theorem take_longestZeros (groups : List Nat) :
    (groups.drop (longestZeros groups).1).take (longestZeros groups).2 =
      List.replicate (longestZeros groups).2 0 := by
  have run : ∀ others : List Nat, others.take (leadingZeros others) =
      List.replicate (leadingZeros others) 0 := by
    intro others
    have start :=
      List.prefix_iff_eq_take.mp
        (List.takeWhile_prefix (l := others) fun group => decide (group = 0))
    rw [leadingZeros, ← start, List.eq_replicate_iff]
    exact ⟨rfl, fun group member =>
      of_decide_eq_true (List.all_eq_true.mp List.all_takeWhile group member)⟩
  have steps : ∀ (starts : List Nat) (best : Nat × Nat),
      (groups.drop best.1).take best.2 = List.replicate best.2 0 →
        let found := starts.foldl (fun best start =>
          let length := leadingZeros (groups.drop start)
          if length > best.2 then (start, length) else best) best
        (groups.drop found.1).take found.2 = List.replicate found.2 0 := by
    intro starts
    induction starts with
    | nil => exact fun _ zeros => zeros
    | cons start starts induction =>
        intro best zeros
        refine induction _ ?_
        dsimp only
        split
        · exact run _
        · exact zeros
  exact steps _ _ rfl

/-- Eight groups of sixteen bits. -/
structure AreGroups (groups : List Nat) : Prop where
  length : groups.length = 8
  small : ∀ group ∈ groups, group < 65536

private theorem hexValue?_lt {digit : Char} {value : Nat}
    (read : hexValue? digit = some value) :
    value < 16 := by
  unfold hexValue? at read
  dsimp only at read
  split at read
  · cases read
    omega
  · split at read
    · cases read
      omega
    · split at read
      · cases read
        omega
      · cases read

private theorem lt_of_foldl {text : List Char} {start total : Nat}
    (read : text.foldl (fun (total : Option Nat) digit =>
      match total, hexValue? digit with
      | some total, some value => some (total * 16 + value)
      | _, _ => none) (some start) = some total) :
    total < (start + 1) * 16 ^ text.length := by
  induction text generalizing start with
  | nil =>
      cases read
      simp
  | cons digit text induction =>
      rw [List.foldl_cons] at read
      cases value? : hexValue? digit with
      | none =>
          rw [value?] at read
          have stays :
              ∀ others : List Char,
                others.foldl (fun (total : Option Nat) digit =>
                  match total, hexValue? digit with
                  | some total, some value => some (total * 16 + value)
                  | _, _ => none) none = none := by
            intro others
            induction others with
            | nil => rfl
            | cons other others induction => rwa [List.foldl_cons]
          exact absurd ((stays text).symm.trans read)
            (Option.some_ne_none total).symm
      | some value =>
          rw [value?] at read
          have small := hexValue?_lt value?
          calc total < (start * 16 + value + 1) * 16 ^ text.length :=
              induction read
            _ ≤ ((start + 1) * 16) * 16 ^ text.length :=
              Nat.mul_le_mul_right _ (by omega)
            _ = (start + 1) * 16 ^ (text.length + 1) := by
              rw [Nat.pow_succ', Nat.mul_assoc]

private theorem lt_of_group? {text : List Char} {group : Nat}
    (read : group? text = some group) :
    group < 65536 := by
  unfold group? at read
  split at read
  · cases read
  · next short =>
      have places : text.length ≤ 4 := by
        simp only [Bool.or_eq_true, decide_eq_true_eq, not_or,
          Nat.not_lt] at short
        exact short.2
      have bound := lt_of_foldl read
      have power := Nat.pow_le_pow_right (show 0 < 16 by decide) places
      omega

private theorem lt_of_decimalGroups? {text : List Char} {groups : List Nat}
    (read : decimalGroups? text = some groups) :
    ∀ group ∈ groups, group < 65536 := by
  obtain ⟨numbers, parts, read⟩ := Option.bind_eq_some_iff.mp read
  have bytes : ∀ number ∈ numbers, number < 256 := by
    intro number member
    obtain ⟨part, -, one⟩ := mem_of_mapM_eq_some parts member
    split at one
    · cases one
    · exact of_decide_eq_true (Option.filter_eq_some_iff.mp one).2
  split at read
  · next first second third fourth =>
      cases read
      simp only [List.forall_mem_cons, List.not_mem_nil, false_imp_iff,
        implies_true, and_true] at bytes ⊢
      omega
  · cases read

private theorem lt_of_groups? {atEnd : Bool} {text : List Char}
    {groups : List Nat}
    (read : groups? atEnd text = some groups) :
    ∀ group ∈ groups, group < 65536 := by
  have each :
      ∀ {parts : List (List Char)} {groups : List Nat},
        parts.mapM group? = some groups →
          ∀ group ∈ groups, group < 65536 := by
    intro parts groups read group member
    obtain ⟨part, -, one⟩ := mem_of_mapM_eq_some read member
    exact lt_of_group? one
  unfold groups? at read
  split at read
  · cases read
    exact List.forall_mem_nil _
  · dsimp only at read
    split at read
    · split at read
      · obtain ⟨before, first, read⟩ := Option.bind_eq_some_iff.mp read
        obtain ⟨after, last, read⟩ := Option.bind_eq_some_iff.mp read
        cases read
        exact List.forall_mem_append.mpr ⟨each first, lt_of_decimalGroups? last⟩
      · exact each read
    · exact each read

private theorem areGroups_of_ipv6? {text : List Char} {groups : List Nat}
    (read : ipv6? text = some groups) : AreGroups groups := by
  unfold ipv6? at read
  split at read
  · split at read
    · cases read
    · obtain ⟨read, eight⟩ := Option.filter_eq_some_iff.mp read
      exact ⟨of_decide_eq_true eight, lt_of_groups? read⟩
  · obtain ⟨left, first, read⟩ := Option.bind_eq_some_iff.mp read
    obtain ⟨right, last, read⟩ := Option.bind_eq_some_iff.mp read
    split at read
    · cases read
    · cases read
      refine ⟨?_, ?_⟩
      · simp only [List.length_append, List.length_replicate]
        omega
      · refine List.forall_mem_append.mpr
          ⟨List.forall_mem_append.mpr ⟨lt_of_groups? first, ?_⟩,
            lt_of_groups? last⟩
        intro group member
        rw [List.eq_of_mem_replicate member]
        decide

private theorem areParts_groups (groups : List Nat) :
    ∀ part ∈ groups.map (Nat.toDigits 16), part ≠ [] ∧ ':' ∉ part := by
  intro part isPart
  obtain ⟨group, -, rfl⟩ := List.mem_map.mp isPart
  exact ⟨Nat.toDigits_ne_nil, fun colon => (mem_hexDigits colon).1 rfl⟩

private theorem ipv6?_writeGroups {groups : List Nat}
    (areGroups : AreGroups groups) :
    ipv6? (writeGroups groups).toList = some groups := by
  have noGap :
      splitAtGap (writeGroups groups).toList =
        ((writeGroups groups).toList, none) := by
    have whole := splitAtGap_intercalate (areParts_groups groups) []
    rw [← toList_writeGroups, List.append_nil] at whole
    rw [whole, splitAtGap, List.append_nil]
  have read := groups?_writeGroups true areGroups.small
  have shown : (writeGroups groups).toList.isEmpty = false := by
    rw [List.isEmpty_eq_false_iff]
    intro empty
    rw [empty] at read
    cases read
    exact absurd areGroups.length (by decide)
  simp only [ipv6?, noGap, shown, Bool.false_eq_true, if_false, read]
  exact Option.filter_eq_some_iff.mpr ⟨rfl, decide_eq_true areGroups.length⟩

private theorem ipv6?_writeIpv6 {groups : List Nat}
    (areGroups : AreGroups groups) :
    ipv6? (writeIpv6 groups).toList = some groups := by
  have zeros := take_longestZeros groups
  unfold writeIpv6
  generalize longestZeros groups = best at zeros
  obtain ⟨start, length⟩ := best
  dsimp only at zeros ⊢
  split
  · exact ipv6?_writeGroups areGroups
  · next long =>
      have inside := congrArg List.length zeros
      rw [List.length_take, List.length_drop, List.length_replicate,
        areGroups.length] at inside
      have left :=
        groups?_writeGroups
          false fun group (member : group ∈ groups.take start) =>
            areGroups.small group (List.mem_of_mem_take member)
      have right :=
        groups?_writeGroups
          true fun group (member : group ∈ groups.drop (start + length)) =>
            areGroups.small group (List.mem_of_mem_drop member)
      have gap : splitAtGap (writeGroups (groups.take start) ++ "::" ++
          writeGroups (groups.drop (start + length))).toList =
          ((writeGroups (groups.take start)).toList,
            some (writeGroups (groups.drop (start + length))).toList) := by
        have whole :=
          splitAtGap_intercalate (areParts_groups (groups.take start))
            (':' :: ':' :: (writeGroups (groups.drop (start + length))).toList)
        rw [← toList_writeGroups, splitAtGap, List.append_nil] at whole
        rw [String.toList_append, String.toList_append, List.append_assoc]
        exact whole
      have fits :
          ¬ (groups.take start).length + (groups.drop (start + length)).length >
            7 := by
        rw [List.length_take, List.length_drop, areGroups.length]
        omega
      have missing :
          8 - (groups.take start).length -
            (groups.drop (start + length)).length = length := by
        rw [List.length_take, List.length_drop, areGroups.length]
        omega
      have parts :
          groups.take start ++ List.replicate length 0 ++
            groups.drop (start + length) = groups := by
        rw [← zeros, ← List.drop_drop, List.append_assoc, List.take_append_drop,
          List.take_append_drop]
      simp only [ipv6?, gap, left, right, Option.bind_eq_bind, Option.bind_some,
        fits, if_false, missing, parts]

private theorem readsBack_ipv6 {groups : List Nat}
    (areGroups : AreGroups groups) :
    (Host.ipv6 groups).ReadsBack := by
  have text :
      (Host.ipv6 groups).write.toList =
        '[' :: ((writeIpv6 groups).toList ++ [']']) := by
    rw [Host.write, String.toList_append, String.toList_append]
    rfl
  rw [Host.ReadsBack, text, Host.read, readBracketed, List.reverse_append,
    List.reverse_singleton, List.singleton_append]
  simp only [List.reverse_reverse, ipv6?_writeIpv6 areGroups]

theorem Host.readsBack_of_read {text : List Char} {host : Host}
    (read : Host.read text = .ok host) :
    host.ReadsBack := by
  unfold Host.read at read
  split at read
  · unfold readBracketed at read
    split at read
    · split at read
      · next groups isAddress =>
          cases read
          exact readsBack_ipv6 (areGroups_of_ipv6? isAddress)
      · cases read
    · cases read
  · split at read
    · cases read
    · next name isName =>
        obtain ⟨again, allowed⟩ := readDomain_readDomain isName
        split at read
        · cases read
        · next some_ =>
            split at read
            · split at read
              · next number isAddress =>
                  cases read
                  exact readsBack_ipv4 (lt_of_ipv4? isAddress)
              · cases read
            · next noNumber =>
                cases read
                rw [Host.ReadsBack, Host.write,
                  Host.read_of_readDomain allowed again, if_neg some_,
                  if_neg noNumber]

end LessonSite.Url
