/-!
# UTF-8 decoding

Tools and files hand over bytes. `decodeLossy` reads them as UTF-8 and puts one replacement
character for every maximal invalid part: as many bytes as could still have begun a character, and
at least one. `decode?` accepts well-formed UTF-8 only.
-/

namespace Workload.Text

/-- The character that stands for an invalid part of a byte string. -/
def replacement : Char := '\ufffd'

/-- Whether a byte continues a character of several bytes. -/
def isContinuation (byte : UInt8) : Bool :=
  0x80 ≤ byte && byte ≤ 0xBF

/-- Whether `second` may follow the first byte of a character of three bytes. -/
def secondOfThree (first second : UInt8) : Bool :=
  if first = 0xE0 then 0xA0 ≤ second && second ≤ 0xBF
  else if first = 0xED then 0x80 ≤ second && second ≤ 0x9F
  else isContinuation second

/-- Whether `second` may follow the first byte of a character of four bytes. -/
def secondOfFour (first second : UInt8) : Bool :=
  if first = 0xF0 then 0x90 ≤ second && second ≤ 0xBF
  else if first = 0xF4 then 0x80 ≤ second && second ≤ 0x8F
  else isContinuation second

/-- The number of payload bits a continuation byte carries, added below the bits read so far. -/
def withContinuation (bits : Nat) (byte : UInt8) : Nat :=
  bits * 64 + (byte.toNat - 0x80)

/--
Reads one character or one maximal invalid part, which is `none`, and gives the bytes after it.
-/
def decodeNext (first : UInt8) (rest : List UInt8) : Option Char × List UInt8 :=
  if first < 0x80 then (some (Char.ofNat first.toNat), rest)
  else if 0xC2 ≤ first && first ≤ 0xDF then
    match rest with
    | second :: after =>
        if isContinuation second then
          (some (Char.ofNat (withContinuation (first.toNat - 0xC0) second)), after)
        else (none, rest)
    | [] => (none, rest)
  else if 0xE0 ≤ first && first ≤ 0xEF then
    match rest with
    | second :: after =>
        if secondOfThree first second then
          match after with
          | third :: final =>
              if isContinuation third then
                (some (Char.ofNat
                  (withContinuation (withContinuation (first.toNat - 0xE0) second) third)), final)
              else (none, after)
          | [] => (none, after)
        else (none, rest)
    | [] => (none, rest)
  else if 0xF0 ≤ first && first ≤ 0xF4 then
    match rest with
    | second :: after =>
        if secondOfFour first second then
          match after with
          | third :: more =>
              if isContinuation third then
                match more with
                | fourth :: final =>
                    if isContinuation fourth then
                      (some (Char.ofNat (withContinuation
                        (withContinuation (withContinuation (first.toNat - 0xF0) second) third)
                        fourth)), final)
                    else (none, more)
                | [] => (none, more)
              else (none, after)
          | [] => (none, after)
        else (none, rest)
    | [] => (none, rest)
  else (none, rest)

/-- Reading a character never gives bytes back. -/
theorem decodeNext_length (first : UInt8) (rest : List UInt8) :
    (decodeNext first rest).2.length ≤ rest.length := by
  unfold decodeNext
  repeat' split
  all_goals simp_all <;> omega

/-- Decodes bytes, with one replacement character for every maximal invalid part. -/
def decodeLossyChars (bytes : List UInt8) : List Char :=
  match bytes with
  | [] => []
  | first :: rest =>
      (decodeNext first rest).1.getD replacement :: decodeLossyChars (decodeNext first rest).2
termination_by bytes.length
decreasing_by
  have := decodeNext_length first rest
  simp only [List.length_cons]
  omega

/-- Decodes bytes that are well-formed UTF-8. -/
def decodeChars? (bytes : List UInt8) : Option (List Char) :=
  match bytes with
  | [] => some []
  | first :: rest =>
      match (decodeNext first rest).1 with
      | none => none
      | some char => (decodeChars? (decodeNext first rest).2).map (char :: ·)
termination_by bytes.length
decreasing_by
  have := decodeNext_length first rest
  simp only [List.length_cons]
  omega

/-- Decodes bytes, with one replacement character for every maximal invalid part. -/
def decodeLossy (bytes : List UInt8) : String :=
  String.ofList (decodeLossyChars bytes)

/-- Decodes bytes that are well-formed UTF-8. -/
def decode? (bytes : List UInt8) : Option String :=
  (decodeChars? bytes).map String.ofList

/-- The UTF-8 bytes of a text. -/
def encode (text : String) : List UInt8 :=
  text.toUTF8.toList

end Workload.Text
