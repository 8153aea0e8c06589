import SecondaryIndex.Bytes

namespace SecondaryIndex.Text.Utf8

/-!
# Reading UTF-8

A byte string is cut into segments: the characters it encodes and, between
them, the longest parts that begin like a character and cannot go on as one.
Strict reading stops at the first part that is no character and says where it
is; lenient reading puts one replacement character in the place of each.
-/

/-- A character of several bytes of which the first have been read. -/
structure Started where
  code : Nat
  owed : Nat
  low : UInt8
  high : UInt8
  seen : Nat
  deriving Repr, DecidableEq

/-- What a byte means where a character may begin. -/
inductive Lead where
  | complete (char : Char)
  | opens (started : Started)
  | refused
  deriving Repr, DecidableEq

/-- A piece of a byte string. -/
inductive Segment where
  | character (char : Char)
  | malformed (width : Nat)
  | truncated
  deriving Repr, DecidableEq

/--
Classify a first byte.  The range of the second byte is narrower after some
first bytes, so that a character has one spelling only and surrogates have none.
-/
def lead
    (byte : UInt8) :
    Lead :=
  if byte < 0x80 then
    .complete (Char.ofNat byte.toNat)
  else if byte < 0xC2 then
    .refused
  else if byte < 0xE0 then
    .opens ⟨byte.toNat - 0xC0, 1, 0x80, 0xBF, 1⟩
  else if byte < 0xF0 then
    let low := if byte = 0xE0 then 0xA0 else 0x80
    let high := if byte = 0xED then 0x9F else 0xBF
    .opens ⟨byte.toNat - 0xE0, 2, low, high, 1⟩
  else if byte < 0xF5 then
    let low := if byte = 0xF0 then 0x90 else 0x80
    let high := if byte = 0xF4 then 0x8F else 0xBF
    .opens ⟨byte.toNat - 0xF0, 3, low, high, 1⟩
  else
    .refused

/-- Read a byte where a character may begin. -/
def enter
    (byte : UInt8) :
    List Segment × Option Started :=
  match lead byte with
  | .complete char =>
      ([.character char], none)
  | .opens started =>
      ([], some started)
  | .refused =>
      ([.malformed 1], none)

/-- Read a byte, inside a character that has been started or outside. -/
def step
    (state : Option Started)
    (byte : UInt8) :
    List Segment × Option Started :=
  match state with
  | none =>
      enter byte
  | some started =>
      if started.low ≤ byte ∧ byte ≤ started.high then
        let code := started.code * 64 + (byte.toNat - 0x80)
        if started.owed ≤ 1 then
          ([.character (Char.ofNat code)], none)
        else
          ([], some ⟨code, started.owed - 1, 0x80, 0xBF, started.seen + 1⟩)
      else
        let (segments, next) := enter byte
        (.malformed started.seen :: segments, next)

/-- The segments of a byte string, after a character that may have been started. -/
def segmentsFrom
    (state : Option Started) :
    Bytes → List Segment
  | [] =>
      if state.isSome then [.truncated] else []
  | byte :: rest =>
      let (segments, next) := step state byte
      segments ++ segmentsFrom next rest

/-- The segments of a byte string. -/
def segments
    (bytes : Bytes) :
    List Segment :=
  segmentsFrom none bytes

/-- Where and how a byte string stops being UTF-8. -/
inductive Fault where
  | malformed (width position : Nat)
  | truncated (position : Nat)
  deriving Repr, DecidableEq

namespace Fault

/-- The text of a fault. -/
def message :
    Fault → String
  | .malformed width position =>
      s!"invalid utf-8 sequence of {width} bytes from index {position}"
  | .truncated position =>
      s!"incomplete utf-8 byte sequence from index {position}"

end Fault

/-- The characters of segments that start at a position, if all are characters. -/
def characters
    (position : Nat) :
    List Segment → Except Fault (List Char)
  | [] =>
      .ok []
  | .character char :: rest =>
      (characters (position + char.utf8Size) rest).map (char :: ·)
  | .malformed width :: _ =>
      .error (.malformed width position)
  | .truncated :: _ =>
      .error (.truncated position)

/-- Read a text, or say where the byte string is no UTF-8. -/
def decode
    (bytes : Bytes) :
    Except Fault String :=
  (characters 0 (segments bytes)).map String.ofList

/-- The replacement character stands for a part that is no character. -/
def replacement :
    Char :=
  '\uFFFD'

/-- Read a text with every part that is no character replaced. -/
def decodeLenient
    (bytes : Bytes) :
    List Char :=
  (segments bytes).map fun
    | .character char => char
    | .malformed _ => replacement
    | .truncated => replacement

/-- Lenient reading agrees with strict reading wherever the latter succeeds. -/
theorem decodeLenient_of_decode
    {bytes : Bytes}
    {text : String}
    (decoded : decode bytes = .ok text) :
    decodeLenient bytes = text.toList := by
  have charactersMap :
      ∀ (pieces : List Segment) (position : Nat) (chars : List Char),
        characters position pieces = .ok chars →
          (pieces.map fun
            | .character char => char
            | .malformed _ => replacement
            | .truncated => replacement) = chars := by
    intro pieces
    induction pieces with
    | nil =>
        intro position chars read
        cases read
        rfl
    | cons piece rest inductionHypothesis =>
        intro position chars read
        cases piece with
        | character char =>
            rw [characters] at read
            cases tail : characters (position + char.utf8Size) rest with
            | error fault =>
                rw [tail] at read
                cases read
            | ok others =>
                rw [tail] at read
                cases read
                simp [inductionHypothesis _ _ tail]
        | malformed width =>
            cases read
        | truncated =>
            cases read
  rw [decode] at decoded
  cases read : characters 0 (segments bytes) with
  | error fault =>
      rw [read] at decoded
      cases decoded
  | ok chars =>
      rw [read] at decoded
      cases decoded
      rw [String.toList_ofList]
      exact charactersMap _ _ _ read

end SecondaryIndex.Text.Utf8
