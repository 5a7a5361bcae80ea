import LessonSite.Html.CharacterReference

/-!
# Reading tokens

The next tokens of a text, and the text after them.  Inside markup a run of
characters up to the next `<` is read at once; inside an element whose text is
literal, everything up to the closing tag of that element.  A tag that the end
of the text cuts off is no token.
-/

namespace LessonSite.Html

private theorem length_dropWhile_le (inClass : Char → Bool)
    (input : List Char) :
    (input.dropWhile inClass).length ≤ input.length :=
  (List.dropWhile_sublist inClass).length_le

/-- The end of an attribute's name. -/
def endsAttributeName (character : Char) : Bool :=
  isSpace character || character == '/' || character == '>' || character == '='

/-- A value as it is meant: its references are decoded. -/
def decodeValue (characters : List Char) : String :=
  String.ofList (decodeReferences true (characters.map replaceNul))

/-- Reads the attributes and the end of an opening tag. -/
def readAttributes (found : List Attribute) (input : List Char) :
    Option (List Attribute × Bool × List Char) :=
  match _trimmed : input.dropWhile isSpace with
  | [] => none
  | '>' :: rest => some (found.reverse, false, rest)
  | '/' :: '>' :: rest => some (found.reverse, true, rest)
  | '/' :: rest => readAttributes found rest
  | first :: rest =>
      let name :=
        foldName
          (first ::
            rest.takeWhile fun character => !endsAttributeName character)
      match _named :
        (rest.dropWhile fun character => !endsAttributeName character).dropWhile
          isSpace with
      | '=' :: after =>
          match _valued : after.dropWhile isSpace with
          | [] => none
          | '>' :: rest => some ((⟨name, ""⟩ :: found).reverse, false, rest)
          | '"' :: text =>
              match _quoted : text.dropWhile (· != '"') with
              | [] => none
              | _ :: more =>
                  readAttributes
                    (⟨name, decodeValue (text.takeWhile (· != '"'))⟩ :: found)
                    more
          | '\'' :: text =>
              match _quoted : text.dropWhile (· != '\'') with
              | [] => none
              | _ :: more =>
                  readAttributes
                    (⟨name, decodeValue (text.takeWhile (· != '\''))⟩ :: found)
                    more
          | text =>
              let inValue := fun character =>
                !(isSpace character || character == '>')
              readAttributes
                (⟨name, decodeValue (text.takeWhile inValue)⟩ :: found)
                (text.dropWhile inValue)
      | more => readAttributes (⟨name, ""⟩ :: found) more
termination_by input.length
decreasing_by
  all_goals
    have h1 := length_dropWhile_le isSpace input
    rw [_trimmed] at h1
    simp only [List.length_cons] at h1
  · omega
  all_goals
    have h2 :=
      length_dropWhile_le (fun character => !endsAttributeName character) rest
    have h3 := length_dropWhile_le isSpace
      (rest.dropWhile fun character => !endsAttributeName character)
    rw [_named] at h3
  · have h4 := length_dropWhile_le isSpace after
    rw [_valued] at h4
    have h5 := length_dropWhile_le (· != '"') text
    rw [_quoted] at h5
    simp only [List.length_cons] at h3 h4 h5
    omega
  · have h4 := length_dropWhile_le isSpace after
    rw [_valued] at h4
    have h5 := length_dropWhile_le (· != '\'') text
    rw [_quoted] at h5
    simp only [List.length_cons] at h3 h4 h5
    omega
  · have h4 := length_dropWhile_le isSpace after
    rw [_valued] at h4
    have h5 := length_dropWhile_le
      (fun character => !(isSpace character || character == '>')) text
    simp only [List.length_cons] at h3
    omega
  · omega

def endsTagName (character : Char) : Bool :=
  isSpace character || character == '/' || character == '>'

/-- Reads a tag from its name on. -/
def readTag (input : List Char) : Option (Tag × List Char) :=
  let name := foldName (input.takeWhile fun character => !endsTagName character)
  (readAttributes []
      (input.dropWhile fun character => !endsTagName character)).map
    fun (attributes, selfClosing, rest) =>
      (⟨name, Attribute.distinct attributes, selfClosing⟩, rest)

/-- What follows a comment that was begun by `<!--`. -/
def afterComment : List Char → List Char
  | [] => []
  | '-' :: '-' :: '>' :: rest => rest
  | '-' :: '-' :: '!' :: '>' :: rest => rest
  | _ :: rest => afterComment rest

/-- The start of a list, letters being compared without case. -/
def stripFolded? (start : String) (input : List Char) : Option (List Char) :=
  if (input.take start.length).map Text.toLowerAscii = start.toList then
    some (input.drop start.length)
  else none

/-- Starts of public identifiers that ask for the old way of layout. -/
def oldPublicStarts : List String :=
  ["-//advasoft ltd//dtd html 3.0 aswedit + extensions//",
    "-//as//dtd html 3.0 aswedit + extensions//",
    "-//ietf//dtd html 2.0 level 1//",
    "-//ietf//dtd html 2.0 level 2//",
    "-//ietf//dtd html 2.0 strict level 1//",
    "-//ietf//dtd html 2.0 strict level 2//",
    "-//ietf//dtd html 2.0 strict//",
    "-//ietf//dtd html 2.0//",
    "-//ietf//dtd html 2.1e//",
    "-//ietf//dtd html 3.0//",
    "-//ietf//dtd html 3.2 final//",
    "-//ietf//dtd html 3.2//",
    "-//ietf//dtd html 3//",
    "-//ietf//dtd html level 0//",
    "-//ietf//dtd html level 1//",
    "-//ietf//dtd html level 2//",
    "-//ietf//dtd html level 3//",
    "-//ietf//dtd html strict level 0//",
    "-//ietf//dtd html strict level 1//",
    "-//ietf//dtd html strict level 2//",
    "-//ietf//dtd html strict level 3//",
    "-//ietf//dtd html strict//",
    "-//ietf//dtd html//",
    "-//metrius//dtd metrius presentational//",
    "-//microsoft//dtd internet explorer 2.0 html strict//",
    "-//microsoft//dtd internet explorer 2.0 html//",
    "-//microsoft//dtd internet explorer 2.0 tables//",
    "-//microsoft//dtd internet explorer 3.0 html strict//",
    "-//microsoft//dtd internet explorer 3.0 html//",
    "-//microsoft//dtd internet explorer 3.0 tables//",
    "-//netscape comm. corp.//dtd html//",
    "-//netscape comm. corp.//dtd strict html//",
    "-//o'reilly and associates//dtd html 2.0//",
    "-//o'reilly and associates//dtd html extended 1.0//",
    "-//o'reilly and associates//dtd html extended relaxed 1.0//",
    "-//softquad software//dtd hotmetal pro 6.0::19990601::extensions to html 4.0//",
    "-//softquad//dtd hotmetal pro 4.0::19971010::extensions to html 4.0//",
    "-//spyglass//dtd html 2.0 extended//",
    "-//sq//dtd html 2.0 hotmetal + extensions//",
    "-//sun microsystems corp.//dtd hotjava html//",
    "-//sun microsystems corp.//dtd hotjava strict html//",
    "-//w3c//dtd html 3 1995-03-24//",
    "-//w3c//dtd html 3.2 draft//",
    "-//w3c//dtd html 3.2 final//",
    "-//w3c//dtd html 3.2//",
    "-//w3c//dtd html 3.2s draft//",
    "-//w3c//dtd html 4.0 frameset//",
    "-//w3c//dtd html 4.0 transitional//",
    "-//w3c//dtd html experimental 19960712//",
    "-//w3c//dtd html experimental 970421//",
    "-//w3c//dtd w3 html//",
    "-//w3o//dtd w3 html 3.0//",
    "-//webtechs//dtd mozilla html 2.0//",
    "-//webtechs//dtd mozilla html//"]

/-- Starts of public identifiers that ask for the old layout when no system
identifier follows. -/
def halfOldPublicStarts : List String :=
  ["-//w3c//dtd html 4.01 frameset//", "-//w3c//dtd html 4.01 transitional//"]

/-- Identifiers of a document type that ask for the old way of layout. -/
def asksOldLayout (publicName systemName : Option String) : Bool :=
  let publicName := publicName.map Text.lowerAscii
  let systemName := systemName.map Text.lowerAscii
  match publicName with
  | none =>
      systemName ==
        some "http://www.ibm.com/data/dtd/v11/ibmxhtml1-transitional.dtd"
  | some name =>
      ["-//w3o//dtd w3 html strict 3.0//en//",
        "-/w3c/dtd html 4.0 transitional/en", "html"].contains name ||
      systemName ==
        some "http://www.ibm.com/data/dtd/v11/ibmxhtml1-transitional.dtd" ||
      oldPublicStarts.any (Text.startsWith · name) ||
      (systemName.isNone && halfOldPublicStarts.any (Text.startsWith · name))

/-- A quoted identifier and what follows it. -/
def readIdentifier? (input : List Char) : Option (String × List Char) :=
  match input.dropWhile isSpace with
  | '"' :: rest =>
      match rest.dropWhile (· != '"') with
      | [] => none
      | _ :: more => some (String.ofList (rest.takeWhile (· != '"')), more)
  | '\'' :: rest =>
      match rest.dropWhile (· != '\'') with
      | [] => none
      | _ :: more => some (String.ofList (rest.takeWhile (· != '\'')), more)
  | _ => none

/-- Whether the inside of a document type mark asks for the old way of
layout. -/
def doctypeIsOld (inside : List Char) : Bool :=
  match inside.dropWhile isSpace with
  | [] => true
  | named =>
      let rest :=
        (named.dropWhile fun character => !isSpace character).dropWhile isSpace
      if rest.isEmpty then false
      else
        match stripFolded? "public" rest, stripFolded? "system" rest with
        | some after, _ =>
            match readIdentifier? after with
            | none => true
            | some (publicName, more) =>
                if (more.dropWhile isSpace).isEmpty then
                  asksOldLayout (some publicName) none
                else
                  match readIdentifier? more with
                  | none => true
                  | some (systemName, _) =>
                      asksOldLayout (some publicName) (some systemName)
        | none, some after =>
            match readIdentifier? after with
            | none => true
            | some (systemName, _) => asksOldLayout none (some systemName)
        | none, none => true

/-- The tokens that begin with `<!`, read from what follows it. -/
def readDeclaration (foreign : Bool) (input : List Char) :
    List Token × List Char :=
  match input with
  | '-' :: '-' :: '>' :: rest => ([.comment], rest)
  | '-' :: '-' :: '-' :: '>' :: rest => ([.comment], rest)
  | '-' :: '-' :: rest => ([.comment], afterComment rest)
  | _ =>
      match stripFolded? "doctype" input, foreign,
        Text.stripStart? "[CDATA[".toList input with
      | some rest, _, _ =>
          let after := rest.dropWhile (· != '>')
          ([.doctype
            (after.isEmpty || doctypeIsOld (rest.takeWhile (· != '>')))],
            after.drop 1)
      | none, true, some rest => literalSection [] rest
      | _, _, _ => ([.comment], (input.dropWhile (· != '>')).drop 1)
where
  /-- The characters up to the end of a literal section. -/
  literalSection (found : List Token) : List Char → List Token × List Char
    | [] => (found.reverse, [])
    | ']' :: ']' :: '>' :: rest => (found.reverse, rest)
    | character :: rest => literalSection (.character character :: found) rest

/-- The tokens that begin with `<`, read from what follows it. -/
def readMark (foreign : Bool) (input : List Char) : List Token × List Char :=
  match input with
  | '!' :: rest => readDeclaration foreign rest
  | '?' :: rest => ([.comment], (rest.dropWhile (· != '>')).drop 1)
  | '/' :: '>' :: rest => ([], rest)
  | ['/'] => ([.character '<', .character '/'], [])
  | '/' :: first :: rest =>
      if isLetter first then
        match readTag (first :: rest) with
        | some (tag, after) => ([.closing tag.name], after)
        | none => ([], [])
      else ([.comment], ((first :: rest).dropWhile (· != '>')).drop 1)
  | first :: rest =>
      if isLetter first then
        match readTag (first :: rest) with
        | some (tag, after) => ([.opening tag], after)
        | none => ([], [])
      else ([.character '<'], first :: rest)
  | [] => ([.character '<'], [])

/-- The text begins with the closing tag of an element. -/
def atClosing (name : String) : List Char → Bool
  | '<' :: '/' :: rest =>
      match stripFolded? name rest with
      | some (next :: _) => endsTagName next
      | _ => false
  | _ => false

/-- The characters before the closing tag of an element, and the rest from that
tag on. -/
def splitAtClosing (name : String) : List Char → List Char × List Char
  | [] => ([], [])
  | character :: rest =>
      if atClosing name (character :: rest) then ([], character :: rest)
      else
        let (content, after) := splitAtClosing name rest
        (character :: content, after)

/-- Where a script stands with respect to its comments and the scripts written
in them. -/
inductive ScriptPlace where
  | outside
  | commented (dashes : Nat)
  | nested (dashes : Nat)
deriving Repr, DecidableEq

/-- The place after one more character of a script. -/
def ScriptPlace.next (place : ScriptPlace) (character : Char)
    (rest : List Char) : ScriptPlace :=
  let opensScript : Bool :=
    match stripFolded? "script" rest with
    | some (after :: _) => endsTagName after
    | _ => false
  match place with
  | .outside => .outside
  | .commented dashes =>
      if character = '-' then .commented (min 2 (dashes + 1))
      else if character = '>' ∧ dashes = 2 then .outside
      else if character = '<' ∧ opensScript then .nested 0
      else .commented 0
  | .nested dashes =>
      if character = '-' then .nested (min 2 (dashes + 1))
      else if character = '>' ∧ dashes = 2 then .outside
      else if character = '<' ∧ atClosing "script" (character :: rest) then
        .commented 0
      else .nested 0

def ScriptPlace.afterDashes : ScriptPlace → ScriptPlace
  | .nested _ => .nested 2
  | _ => .commented 2

/-- The closing tag of a script counts here. -/
def ScriptPlace.closes : ScriptPlace → Bool
  | .nested _ => false
  | _ => true

/-- The characters of a script, and the rest from its closing tag on. -/
def splitScript (place : ScriptPlace) : List Char → List Char × List Char
  | [] => ([], [])
  | '<' :: '!' :: '-' :: '-' :: rest =>
      let (content, after) := splitScript place.afterDashes rest
      ('<' :: '!' :: '-' :: '-' :: content, after)
  | character :: rest =>
      if place.closes && atClosing "script" (character :: rest) then
        ([], character :: rest)
      else
        let (content, after) := splitScript (place.next character rest) rest
        (character :: content, after)

/-- The closing tag that ends a literal text. -/
def readClosing : List Char → List Token × List Char
  | '<' :: '/' :: rest =>
      match readTag rest with
      | some (tag, after) => ([.closing tag.name], after)
      | none => ([], [])
  | _ => ([], [])

def characters (text : List Char) : List Token :=
  text.map .character

/-- The next tokens of a text that has not ended, and the text after them. -/
def readTokens (kind : TextKind) (foreign : Bool) (input : List Char) :
    List Token × List Char :=
  match kind with
  | .markup =>
      match input with
      | '<' :: rest => readMark foreign rest
      | _ =>
          (characters (decodeReferences false (input.takeWhile (· != '<'))),
            input.dropWhile (· != '<'))
  | .referenced name =>
      let (content, rest) := splitAtClosing name input
      let (ending, after) := readClosing rest
      (characters (decodeReferences false (content.map replaceNul)) ++ ending,
        after)
  | .literal name =>
      let (content, rest) := splitAtClosing name input
      let (ending, after) := readClosing rest
      (characters (content.map replaceNul) ++ ending, after)
  | .script =>
      let (content, rest) := splitScript .outside input
      let (ending, after) := readClosing rest
      (characters (content.map replaceNul) ++ ending, after)
  | .plain => (characters (input.map replaceNul), [])

/-- Line ends are written as a line feed, and a mark of the byte order at the
start is dropped. -/
def normalizeInput (input : List Char) : List Char :=
  lines (match input with
    | '\ufeff' :: rest => rest
    | _ => input)
where
  /-- Line ends written as a line feed. -/
  lines : List Char → List Char
    | [] => []
    | '\r' :: '\n' :: rest => '\n' :: lines rest
    | '\r' :: rest => '\n' :: lines rest
    | character :: rest => character :: lines rest

end LessonSite.Html
