/-!
# UTF-8

Decoding of bytes to characters.  `decodeStep` reads one character or, on a
malformed sequence, the longest part of it that could still have become a
character; the strict reading stops there and the tolerant one writes a
replacement character.
-/

namespace LessonSite.Utf8

/-- Result of reading one character at the start of a list of bytes. -/
inductive Step where
  | character (value : Char) (rest : List UInt8)
  | malformed (rest : List UInt8)

/-- A byte that follows the first one of a character. -/
def isContinuation (byte : UInt8) : Bool :=
  0x80 ≤ byte && byte ≤ 0xBF

/-- The part of a following byte that counts. -/
def payload (byte : UInt8) : Nat :=
  byte.toNat % 64

/-- Bounds of the second byte after a lead byte of a sequence of three or four
bytes. -/
def secondRange (lead : UInt8) : UInt8 × UInt8 :=
  if lead = 0xE0 then (0xA0, 0xBF)
  else if lead = 0xED then (0x80, 0x9F)
  else if lead = 0xF0 then (0x90, 0xBF)
  else if lead = 0xF4 then (0x80, 0x8F)
  else (0x80, 0xBF)

/-- Reads the character at the start of `lead :: rest`. -/
def decodeStep (lead : UInt8) (rest : List UInt8) : Step :=
  if lead < 0x80 then
    .character (Char.ofNat lead.toNat) rest
  else if 0xC2 ≤ lead && lead ≤ 0xDF then
    match rest with
    | second :: tail =>
        if isContinuation second then
          .character (Char.ofNat (lead.toNat % 32 * 64 + payload second)) tail
        else .malformed rest
    | [] => .malformed []
  else if 0xE0 ≤ lead && lead ≤ 0xEF then
    let (low, high) := secondRange lead
    match rest with
    | second :: tail =>
        if low ≤ second && second ≤ high then
          match tail with
          | third :: tail' =>
              if isContinuation third then
                .character
                  (Char.ofNat
                    (lead.toNat % 16 * 4096 + payload second * 64 +
                      payload third)) tail'
              else .malformed tail
          | [] => .malformed []
        else .malformed rest
    | [] => .malformed []
  else if 0xF0 ≤ lead && lead ≤ 0xF4 then
    let (low, high) := secondRange lead
    match rest with
    | second :: tail =>
        if low ≤ second && second ≤ high then
          match tail with
          | third :: tail' =>
              if isContinuation third then
                match tail' with
                | fourth :: tail'' =>
                    if isContinuation fourth then
                      .character
                        (Char.ofNat
                          (lead.toNat % 8 * 262144 + payload second * 4096 +
                            payload third * 64 + payload fourth)) tail''
                    else .malformed tail'
                | [] => .malformed []
              else .malformed tail
          | [] => .malformed []
        else .malformed rest
    | [] => .malformed []
  else .malformed rest

def Step.rest : Step → List UInt8
  | .character _ rest => rest
  | .malformed rest => rest

theorem rest_length_decodeStep (lead : UInt8) (rest : List UInt8) :
    (decodeStep lead rest).rest.length ≤ rest.length := by
  unfold decodeStep
  repeat' split
  all_goals simp_all [Step.rest]
  all_goals omega

/-- The characters of well-formed bytes; none when a sequence is malformed. -/
def decodeChars? (bytes : List UInt8) : Option (List Char) :=
  match bytes with
  | [] => some []
  | lead :: rest =>
      match _step : decodeStep lead rest with
      | .character value tail => (decodeChars? tail).map (value :: ·)
      | .malformed _ => none
termination_by bytes.length
decreasing_by
  have bound := rest_length_decodeStep lead rest
  rw [_step] at bound
  exact Nat.lt_succ_of_le bound

/-- The characters of any bytes, with U+FFFD for each malformed sequence. -/
def decodeLossyChars (bytes : List UInt8) : List Char :=
  match bytes with
  | [] => []
  | lead :: rest =>
      match _step : decodeStep lead rest with
      | .character value tail => value :: decodeLossyChars tail
      | .malformed tail => '\uFFFD' :: decodeLossyChars tail
termination_by bytes.length
decreasing_by
  all_goals
    have bound := rest_length_decodeStep lead rest
    rw [_step] at bound
    exact Nat.lt_succ_of_le bound

/-- The text written by well-formed bytes. -/
def decode? (bytes : List UInt8) : Option String :=
  (decodeChars? bytes).map String.ofList

/-- The text written by any bytes, malformed sequences replaced. -/
def decodeLossy (bytes : List UInt8) : String :=
  String.ofList (decodeLossyChars bytes)

def encodeChar (character : Char) : List UInt8 :=
  let code := character.toNat
  if code < 0x80 then [UInt8.ofNat code]
  else if code < 0x800 then
    [UInt8.ofNat (0xC0 + code / 64), UInt8.ofNat (0x80 + code % 64)]
  else if code < 0x10000 then
    [UInt8.ofNat (0xE0 + code / 4096), UInt8.ofNat (0x80 + code / 64 % 64),
      UInt8.ofNat (0x80 + code % 64)]
  else
    [UInt8.ofNat (0xF0 + code / 262144), UInt8.ofNat (0x80 + code / 4096 % 64),
      UInt8.ofNat (0x80 + code / 64 % 64), UInt8.ofNat (0x80 + code % 64)]

def encode (text : String) : List UInt8 :=
  text.toList.flatMap encodeChar

end LessonSite.Utf8
