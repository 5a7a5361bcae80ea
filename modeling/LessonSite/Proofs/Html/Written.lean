import LessonSite.Html.Dom
import LessonSite.Html.Token.Reader
import LessonSite.Proofs.Html.Reference

/-!
# Written trees

A tree is written with both tags of every element, with quoted values and with
escaped texts.  This module reads such a text token by token.
-/

namespace LessonSite.Html

open Markup (escapeChar)

/-- A character of names that no reader changes and that ends no part of a
tag. -/
def isNamePart (character : Char) : Bool :=
  ('a' ≤ character && character ≤ 'z') ||
    ('0' ≤ character && character ≤ '9') || character == '-'

/-- A name as it is written and known. -/
def isName (name : String) : Bool :=
  name.toList.head?.any isLetter && name.toList.all isNamePart

/-- The text has none of the characters that reading changes. -/
def IsClean (text : String) : Prop :=
  '\x00' ∉ text.toList ∧ '\r' ∉ text.toList

instance (text : String) : Decidable (IsClean text) :=
  inferInstanceAs (Decidable (_ ∧ _))

/-- An attribute that is read as it is written. -/
def Attribute.IsWritable (entry : Attribute) : Prop :=
  isName entry.name = true ∧ IsClean entry.value

instance (entry : Attribute) : Decidable entry.IsWritable :=
  inferInstanceAs (Decidable (_ ∧ _))

/-- The attributes of an element that is read as it is written. -/
structure AreWritable (attributes : List Attribute) : Prop where
  each : ∀ entry ∈ attributes, entry.IsWritable
  differ : attributes.Pairwise fun first second => first.name ≠ second.name

instance (attributes : List Attribute) : Decidable (AreWritable attributes) :=
  decidable_of_iff (_ ∧ _)
    ⟨fun both => ⟨both.1, both.2⟩, fun both => ⟨both.each, both.differ⟩⟩

private theorem isName_cases {name : String} (named : isName name = true) :
    ∃ first others, name.toList = first :: others ∧ isLetter first = true ∧
      ∀ character ∈ first :: others, isNamePart character = true := by
  unfold isName at named
  rw [Bool.and_eq_true, List.all_eq_true] at named
  obtain ⟨starts, parts⟩ := named
  cases characters : name.toList with
  | nil => simp [characters] at starts
  | cons first others =>
      refine ⟨first, others, rfl, ?_, ?_⟩
      · simpa [characters] using starts
      · rwa [characters] at parts

private theorem isNamePart_iff {character : Char} :
    isNamePart character = true ↔
      (97 ≤ character.toNat ∧ character.toNat ≤ 122) ∨
        (48 ≤ character.toNat ∧ character.toNat ≤ 57) ∨
        character.toNat = 45 := by
  simp only [isNamePart, Bool.or_eq_true, Bool.and_eq_true, decide_eq_true_eq,
    beq_iff_eq, or_assoc]
  rw [show character = '-' ↔ character.toNat = 45 from
    ⟨fun same => by rw [same]; rfl, fun same => Char.toNat_inj.mp same⟩]
  rfl

private theorem isNamePart_ne {character other : Char}
    (part : isNamePart character = true)
    (none : isNamePart other = false) : (character == other) = false := by
  rw [beq_eq_false_iff_ne]
  rintro rfl
  exact Bool.noConfusion (part.symm.trans none)

private theorem endsTagName_part {character : Char}
    (part : isNamePart character = true) :
    endsTagName character = false := by
  have differs :
      ∀ other, isNamePart other = false → (character == other) = false :=
    fun _ => isNamePart_ne part
  simp only [endsTagName, isSpace, Bool.or_eq_false_iff]
  exact ⟨⟨⟨⟨⟨differs _ (by decide), differs _ (by decide)⟩,
      differs _ (by decide)⟩,
    differs _ (by decide)⟩, differs _ (by decide)⟩, differs _ (by decide)⟩

private theorem endsAttributeName_part {character : Char}
    (part : isNamePart character = true) :
    endsAttributeName character = false := by
  have outside : endsTagName character = false := endsTagName_part part
  unfold endsTagName at outside
  unfold endsAttributeName
  rw [outside, Bool.false_or]
  exact isNamePart_ne part (by decide)

private theorem fold_part {character : Char}
    (part : isNamePart character = true) :
    Text.toLowerAscii (replaceNul character) = character := by
  have range := isNamePart_iff.mp part
  have noNul : character ≠ '\x00' := by
    rintro rfl
    exact absurd part (by decide)
  rw [replaceNul, if_neg noNul, Text.toLowerAscii, if_neg]
  intro capital
  have codes : 65 ≤ character.toNat ∧ character.toNat ≤ 90 := capital
  omega

private theorem foldName_parts {characters : List Char}
    (parts : ∀ character ∈ characters, isNamePart character = true) :
    foldName characters = String.ofList characters := by
  have same :
      (characters.map fun character =>
          Text.toLowerAscii (replaceNul character)) =
        characters.map id :=
    List.map_congr_left fun character member =>
      fold_part (parts character member)
  rw [foldName, same, List.map_id]

theorem replaceNul_clean {characters : List Char}
    (noNul : '\x00' ∉ characters) :
    characters.map replaceNul = characters := by
  have same : characters.map replaceNul = characters.map id :=
    List.map_congr_left fun character member =>
      if_neg (ne_of_mem_of_not_mem member noNul)
  rw [same, List.map_id]

theorem not_mem_escape {text : List Char} {character : Char}
    (absent : character ∉ text)
    (other : character ∉ "&amp;&lt;&gt;&quot;".toList) :
    character ∉ text.flatMap escapeChar :=
  fun member => (mem_escape member).2.2.elim absent other

/-- An attribute after the blank that separates it from what is before. -/
def Attribute.write (entry : Attribute) : List Char :=
  ' ' ::
    (entry.name.toList ++
      '=' :: '"' :: (entry.value.toList.flatMap escapeChar ++ ['"']))

/-- The opening tag of an element. -/
def openingTag (name : String) (attributes : List Attribute) : List Char :=
  '<' :: (name.toList ++ (attributes.flatMap Attribute.write ++ ['>']))

/-- An attribute with its value as it stands between the quotes. -/
structure RawAttribute where
  name : String
  value : List Char
deriving DecidableEq, Repr

/-- An opening tag as it is written. -/
structure RawTag where
  name : String
  attributes : List RawAttribute
  selfClosing : Bool
deriving DecidableEq, Repr

namespace RawAttribute

/-- The attribute after the blank that separates it from what is before. -/
def markup (entry : RawAttribute) : List Char :=
  ' ' :: (entry.name.toList ++ '=' :: '"' :: (entry.value ++ ['"']))

def read (entry : RawAttribute) : Attribute :=
  ⟨entry.name, decodeValue entry.value⟩

/-- The value ends with the closing quote. -/
def IsValid (entry : RawAttribute) : Prop :=
  isName entry.name = true ∧ '"' ∉ entry.value

instance (entry : RawAttribute) : Decidable entry.IsValid :=
  inferInstanceAs (Decidable (_ ∧ _))

end RawAttribute

namespace RawTag

def ending (tag : RawTag) : List Char :=
  if tag.selfClosing then [' ', '/', '>'] else ['>']

def markup (tag : RawTag) : List Char :=
  '<' ::
    (tag.name.toList ++
      (tag.attributes.flatMap RawAttribute.markup ++ tag.ending))

def read (tag : RawTag) : Tag :=
  ⟨tag.name, tag.attributes.map RawAttribute.read, tag.selfClosing⟩

/-- The tag is read as one. -/
structure IsValid (tag : RawTag) : Prop where
  named : isName tag.name = true
  each : ∀ entry ∈ tag.attributes, entry.IsValid
  differ : tag.attributes.Pairwise fun first second => first.name ≠ second.name

instance (tag : RawTag) : Decidable tag.IsValid :=
  decidable_of_iff (_ ∧ _ ∧ _)
    ⟨fun all => ⟨all.1, all.2.1, all.2.2⟩, fun valid =>
      ⟨valid.named, valid.each, valid.differ⟩⟩

end RawTag

/-- An attribute whose value is escaped. -/
def Attribute.raw (entry : Attribute) : RawAttribute :=
  ⟨entry.name, entry.value.toList.flatMap escapeChar⟩

/-- The closing tag of an element. -/
def closingTag (name : String) : List Char :=
  '<' :: '/' :: (name.toList ++ ['>'])

mutual

def Node.write : Node → List Char
  | .element name attributes children =>
      openingTag name.name attributes ++
        (writeAll children ++ closingTag name.name)
  | .text content => content.toList.flatMap escapeChar

def Node.writeAll : List Node → List Char
  | [] => []
  | node :: nodes => write node ++ writeAll nodes

end

/-- The content of an element that holds a text; an empty text leaves no
node. -/
def Node.ofText (text : String) : List Node :=
  if text = "" then [] else [.text text]

theorem writeAll_ofText (text : String) :
    Node.writeAll (Node.ofText text) = text.toList.flatMap escapeChar := by
  rw [Node.ofText]
  split
  · next empty => rw [empty]; rfl
  · rw [Node.writeAll, Node.write, Node.writeAll, List.append_nil]

theorem writeAll_map {α : Type} (node : α → Node) (entries : List α) :
    Node.writeAll (entries.map node) =
      entries.flatMap fun entry => (node entry).write := by
  induction entries with
  | nil => rfl
  | cons entry entries induction =>
      rw [List.map_cons, Node.writeAll, induction, List.flatMap_cons]

theorem not_mem_name {name : String} (named : isName name = true)
    {character : Char}
    (other : isNamePart character = false) : character ∉ name.toList := by
  obtain ⟨first, others, characters, -, parts⟩ := isName_cases named
  intro member
  exact Bool.noConfusion
    ((parts character (characters ▸ member)).symm.trans other)

private theorem not_mem_attribute {entry : Attribute}
    (writable : entry.IsWritable) :
    '\r' ∉ entry.write := by
  have name := not_mem_name writable.1 (show isNamePart '\r' = false by decide)
  have value := not_mem_escape writable.2.2 (by decide)
  simp [Attribute.write, name, value]

theorem not_mem_openingTag {name : String} (named : isName name = true)
    {attributes : List Attribute}
    (writable : ∀ entry ∈ attributes, entry.IsWritable) :
    '\r' ∉ openingTag name attributes := by
  have none : '\r' ∉ attributes.flatMap Attribute.write := by
    intro member
    obtain ⟨entry, inside, member⟩ := List.mem_flatMap.mp member
    exact not_mem_attribute (writable entry inside) member
  have inName := not_mem_name named (show isNamePart '\r' = false by decide)
  simp [openingTag, inName, none]

theorem not_mem_closingTag {name : String} (named : isName name = true) :
    '\r' ∉ closingTag name := by
  have inName := not_mem_name named (show isNamePart '\r' = false by decide)
  simp [closingTag, inName]

theorem lines_eq_self {input : List Char} (noReturn : '\r' ∉ input) :
    normalizeInput.lines input = input := by
  induction input with
  | nil => rfl
  | cons character rest induction =>
      rw [List.mem_cons, not_or] at noReturn
      rw [normalizeInput.lines, induction noReturn.2]
      · intro _ same
        exact absurd same.symm noReturn.1
      · intro same
        exact absurd same.symm noReturn.1

/-- A text that begins with a tag is not changed before it is read. -/
theorem normalizeInput_eq_self {rest : List Char}
    (noReturn : '\r' ∉ '<' :: rest) :
    normalizeInput ('<' :: rest) = '<' :: rest :=
  lines_eq_self noReturn

private theorem span_part {inClass : Char → Bool} {part : List Char}
    {stop : Char}
    (inside : ∀ character ∈ part, inClass character = true)
    (outside : inClass stop = false) (rest : List Char) :
    (part ++ stop :: rest).takeWhile inClass = part ∧
      (part ++ stop :: rest).dropWhile inClass = stop :: rest := by
  have stops : ¬ inClass stop = true := by simp [outside]
  constructor
  · rw [List.takeWhile_append_of_pos inside, List.takeWhile_cons_of_neg stops,
      List.append_nil]
  · rw [List.dropWhile_append_of_pos inside, List.dropWhile_cons_of_neg stops]

private theorem decodeValue_escape {value : String} (clean : IsClean value) :
    decodeValue (value.toList.flatMap escapeChar) = value := by
  rw [decodeValue, replaceNul_clean (not_mem_escape clean.1 (by decide)),
    decodeReferences_escape, String.ofList_toList]

private theorem readAttributes_quoted {found : List Attribute}
    {input others after text more : List Char} {first : Char}
    (trimmed : input.dropWhile isSpace = first :: others) (noEnd : first ≠ '>')
    (noSlash : first ≠ '/')
    (named : (others.dropWhile fun character =>
        !endsAttributeName character).dropWhile isSpace =
      '=' :: after)
    (valued : after.dropWhile isSpace = '"' :: text)
    (quoted : text.dropWhile (· != '"') = '"' :: more) :
    readAttributes found input = readAttributes
      (⟨foldName
          (first ::
            others.takeWhile fun character => !endsAttributeName character),
        decodeValue (text.takeWhile (· != '"'))⟩ :: found) more := by
  rw [readAttributes]
  split
  · next same => cases trimmed.symm.trans same
  · next same => exact absurd (List.cons.inj (trimmed.symm.trans same)).1 noEnd
  · next same =>
      exact absurd (List.cons.inj (trimmed.symm.trans same)).1 noSlash
  · next same =>
      exact absurd (List.cons.inj (trimmed.symm.trans same)).1 noSlash
  · next same =>
      cases trimmed.symm.trans same
      split
      · next same =>
          cases named.symm.trans same
          split
          · next same => cases valued.symm.trans same
          · next same => cases valued.symm.trans same
          · next same =>
              cases valued.symm.trans same
              dsimp only
              split
              · next same => cases quoted.symm.trans same
              · next same =>
                  cases quoted.symm.trans same
                  rfl
          · next same => cases valued.symm.trans same
          · next other _ => exact absurd valued (other text)
      · next other => exact absurd named (other after)

private theorem readAttributes_parts (found : List Attribute) {first : Char}
    {others text : List Char}
    (parts : ∀ character ∈ first :: others, isNamePart character = true)
    (unquoted : ∀ character ∈ text, (character != '"') = true)
    (rest : List Char) :
    readAttributes found
        (' ' :: first :: (others ++ '=' :: '"' :: (text ++ '"' :: rest))) =
      readAttributes
        (⟨String.ofList (first :: others), decodeValue text⟩ :: found)
        rest := by
  have part : isNamePart first = true := parts first List.mem_cons_self
  have solid : ¬ isSpace first = true := by
    have outside : endsTagName first = false := endsTagName_part part
    simp only [endsTagName, Bool.or_eq_false_iff] at outside
    rw [outside.1.1]
    exact Bool.false_ne_true
  have inName :
      ∀ character ∈ others, (!endsAttributeName character) = true := by
    intro character member
    rw [endsAttributeName_part
      (parts character (List.mem_cons_of_mem _ member)), Bool.not_false]
  obtain ⟨nameTaken, nameDropped⟩ := span_part inName
    (show (!endsAttributeName '=') = false by decide)
    ('"' :: (text ++ '"' :: rest))
  obtain ⟨valueTaken, valueDropped⟩ :=
    span_part unquoted (show ('"' != '"') = false by decide) rest
  have trimmed :
      (' ' :: first ::
          (others ++ '=' :: '"' :: (text ++ '"' :: rest))).dropWhile
        isSpace = first :: (others ++ '=' :: '"' :: (text ++ '"' :: rest)) := by
    rw [List.dropWhile_cons_of_pos (by decide),
      List.dropWhile_cons_of_neg solid]
  have equals : ('=' :: '"' :: (text ++ '"' :: rest)).dropWhile isSpace =
      '=' :: '"' :: (text ++ '"' :: rest) :=
    List.dropWhile_cons_of_neg (by decide)
  have quote :
      ('"' :: (text ++ '"' :: rest)).dropWhile isSpace =
        '"' :: (text ++ '"' :: rest) :=
    List.dropWhile_cons_of_neg (by decide)
  rw [readAttributes_quoted trimmed
    (fun same => absurd (same ▸ part) (by decide))
    (fun same => absurd (same ▸ part) (by decide))
    ((congrArg _ nameDropped).trans equals) quote
    valueDropped, nameTaken, valueTaken, foldName_parts parts]

private theorem readAttributes_raw {entry : RawAttribute}
    (valid : entry.IsValid) (found : List Attribute) (rest : List Char) :
    readAttributes found (entry.markup ++ rest) =
      readAttributes (entry.read :: found) rest := by
  obtain ⟨named, unquoted⟩ := valid
  obtain ⟨first, others, characters, -, parts⟩ := isName_cases named
  have written : entry.markup ++ rest = ' ' :: first :: (others ++ '=' :: '"' ::
      (entry.value ++ '"' :: rest)) := by
    simp [RawAttribute.markup, characters]
  rw [written, readAttributes_parts found parts
    (fun character member =>
      bne_iff_ne.mpr (ne_of_mem_of_not_mem member unquoted)), ← characters,
    String.ofList_toList, RawAttribute.read]

private theorem readAttributes_ending (tag : RawTag) (found : List Attribute)
    (rest : List Char) :
    readAttributes found (tag.ending ++ rest) =
      some (found.reverse, tag.selfClosing, rest) := by
  unfold RawTag.ending
  cases tag.selfClosing with
  | false =>
      have trimmed : ('>' :: rest).dropWhile isSpace = '>' :: rest :=
        List.dropWhile_cons_of_neg (by decide)
      rw [if_neg Bool.false_ne_true, List.singleton_append, readAttributes]
      split
      · next same => cases trimmed.symm.trans same
      · next same =>
          cases trimmed.symm.trans same
          rfl
      · next same => cases trimmed.symm.trans same
      · next same => cases trimmed.symm.trans same
      · next other _ _ same =>
          exact absurd (List.cons.inj (trimmed.symm.trans same)).1.symm other
  | true =>
      have trimmed :
          (' ' :: '/' :: '>' :: rest).dropWhile isSpace = '/' :: '>' :: rest :=
        (List.dropWhile_cons_of_pos (by decide)).trans
          (List.dropWhile_cons_of_neg (by decide))
      rw [if_pos rfl, List.cons_append, List.cons_append, List.singleton_append,
        readAttributes]
      split
      · next same => cases trimmed.symm.trans same
      · next same => cases trimmed.symm.trans same
      · next same =>
          cases trimmed.symm.trans same
          rfl
      · next other same =>
          cases trimmed.symm.trans same
          exact absurd rfl (other rest)
      · next _ _ other same =>
          exact absurd (List.cons.inj (trimmed.symm.trans same)).1.symm other

private theorem readAttributes_all (tag : RawTag)
    {attributes : List RawAttribute}
    (valid : ∀ entry ∈ attributes, entry.IsValid) (found : List Attribute)
    (rest : List Char) :
    readAttributes found
        (attributes.flatMap RawAttribute.markup ++ (tag.ending ++ rest)) =
      some
        (found.reverse ++ attributes.map RawAttribute.read, tag.selfClosing,
          rest) := by
  induction attributes generalizing found with
  | nil =>
      rw [List.flatMap_nil, List.nil_append, readAttributes_ending,
        List.map_nil, List.append_nil]
  | cons entry attributes induction =>
      rw [List.flatMap_cons, List.append_assoc,
        readAttributes_raw (valid entry List.mem_cons_self),
        induction fun other member =>
          valid other (List.mem_cons_of_mem _ member)]
      simp

private theorem distinct_of_pairwise {attributes : List Attribute}
    (differ : attributes.Pairwise fun first second =>
      first.name ≠ second.name) :
    Attribute.distinct attributes = attributes := by
  induction attributes with
  | nil => rfl
  | cons first rest induction =>
      obtain ⟨fromFirst, differ⟩ := List.pairwise_cons.mp differ
      rw [Attribute.distinct, induction differ, List.filter_eq_self.mpr]
      intro entry member
      exact bne_iff_ne.mpr (fromFirst entry member).symm

private theorem readTag_raw {tag : RawTag} (valid : tag.IsValid)
    (rest : List Char) :
    readTag (tag.name.toList ++ (tag.attributes.flatMap RawAttribute.markup ++
      (tag.ending ++ rest))) = some (tag.read, rest) := by
  obtain ⟨first, others, characters, -, parts⟩ := isName_cases valid.named
  obtain ⟨stop, more, follows, stops⟩ : ∃ stop more,
      tag.attributes.flatMap RawAttribute.markup ++ (tag.ending ++ rest) =
          stop :: more ∧
        endsTagName stop = true := by
    cases tag.attributes with
    | nil =>
        unfold RawTag.ending
        cases tag.selfClosing with
        | false => exact ⟨'>', rest, rfl, by decide⟩
        | true => exact ⟨' ', _, rfl, by decide⟩
    | cons entry attributes => exact ⟨' ', _, rfl, by decide⟩
  have inName :
      ∀ character ∈ tag.name.toList, (!endsTagName character) = true := by
    intro character member
    rw [endsTagName_part (parts character (characters ▸ member)),
      Bool.not_false]
  have differ : (tag.attributes.map RawAttribute.read).Pairwise
      fun first second => first.name ≠ second.name :=
    List.pairwise_map.mpr valid.differ
  obtain ⟨taken, dropped⟩ := span_part inName
    (show (!endsTagName stop) = false by rw [stops, Bool.not_true]) more
  rw [follows, readTag, taken, dropped, ← follows,
    readAttributes_all tag valid.each, characters, foldName_parts parts,
    ← characters, String.ofList_toList]
  simp [distinct_of_pairwise differ, RawTag.read]

theorem readTokens_raw {tag : RawTag} (valid : tag.IsValid) (rest : List Char) :
    readTokens .markup false (tag.markup ++ rest) =
      ([.opening tag.read], rest) := by
  have read := readTag_raw valid rest
  obtain ⟨first, others, characters, letter, -⟩ := isName_cases valid.named
  rw [characters, List.cons_append] at read
  have input : tag.markup ++ rest = '<' :: first :: (others ++
      (tag.attributes.flatMap RawAttribute.markup ++
        (tag.ending ++ rest))) := by
    simp [RawTag.markup, characters]
  rw [input, readTokens, readMark]
  · rw [if_pos letter, read]
  all_goals
    intros
    subst first
    exact absurd letter (by decide)

private theorem readTag_closing {name : String} (named : isName name = true)
    (rest : List Char) :
    readTag (name.toList ++ '>' :: rest) = some (⟨name, [], false⟩, rest) := by
  have valid : RawTag.IsValid ⟨name, [], false⟩ :=
    ⟨named, List.forall_mem_nil _, .nil⟩
  exact readTag_raw valid rest

theorem readClosing_closingTag {name : String} (named : isName name = true)
    (rest : List Char) :
    readClosing (closingTag name ++ rest) = ([.closing name], rest) := by
  have input :
      closingTag name ++ rest = '<' :: '/' :: (name.toList ++ '>' :: rest) := by
    simp [closingTag]
  rw [input, readClosing, readTag_closing named]

theorem readTokens_closingTag {name : String} (named : isName name = true)
    (rest : List Char) :
    readTokens .markup false (closingTag name ++ rest) =
      ([.closing name], rest) := by
  have read := readTag_closing named rest
  obtain ⟨first, others, characters, letter, -⟩ := isName_cases named
  rw [characters, List.cons_append] at read
  have input :
      closingTag name ++ rest =
        '<' :: '/' :: first :: (others ++ '>' :: rest) := by
    simp [closingTag, characters]
  rw [input, readTokens, readMark]
  · rw [if_pos letter, read]
  all_goals
    intros
    subst first
    exact absurd letter (by decide)

theorem readTokens_run {text rest : List Char} (nonempty : text ≠ [])
    (noLess : '<' ∉ text) (ends : ∀ mark ∈ rest.head?, mark = '<') :
    readTokens .markup false (text ++ rest) =
      (characters (decodeReferences false text), rest) := by
  have inside : ∀ character ∈ text, (character != '<') = true :=
    fun character member => bne_iff_ne.mpr (ne_of_mem_of_not_mem member noLess)
  have noMark :
      rest.takeWhile (· != '<') = [] ∧ rest.dropWhile (· != '<') = rest := by
    cases rest with
    | nil => exact ⟨rfl, rfl⟩
    | cons mark rest =>
        cases ends mark rfl
        exact ⟨rfl, rfl⟩
  rw [readTokens]
  · rw [List.takeWhile_append_of_pos inside,
      List.dropWhile_append_of_pos inside, noMark.1, noMark.2, List.append_nil]
  · intro others starts
    obtain ⟨first, more, written⟩ := List.exists_cons_of_ne_nil nonempty
    rw [written, List.cons_append] at starts
    cases starts
    exact noLess (written ▸ List.mem_cons_self)

theorem openingTag_eq_raw (name : String) (attributes : List Attribute) :
    openingTag name attributes =
      RawTag.markup ⟨name, attributes.map Attribute.raw, false⟩ := by
  rw [openingTag, RawTag.markup, List.flatMap_map]
  rfl

theorem isValid_raw {name : String} (named : isName name = true)
    {attributes : List Attribute} (writable : AreWritable attributes) :
    RawTag.IsValid ⟨name, attributes.map Attribute.raw, false⟩ := by
  refine ⟨named, ?_, List.pairwise_map.mpr writable.differ⟩
  intro entry member
  obtain ⟨source, inside, rfl⟩ := List.mem_map.mp member
  exact ⟨(writable.each source inside).1, fun quote =>
    (mem_escape quote).2.1 rfl⟩

theorem read_raw {attributes : List Attribute}
    (writable : ∀ entry ∈ attributes, entry.IsWritable) :
    (attributes.map Attribute.raw).map RawAttribute.read = attributes := by
  rw [List.map_map]
  have same :
      attributes.map (RawAttribute.read ∘ Attribute.raw) =
        attributes.map id := by
    apply List.map_congr_left
    intro entry member
    exact congrArg (Attribute.mk entry.name)
      (decodeValue_escape (writable entry member).2)
  rw [same, List.map_id]

end LessonSite.Html
