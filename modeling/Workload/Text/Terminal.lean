import Workload.Text.Utf8

/-!
# Text without terminal control

Terminals take some characters for orders: an escape character begins a sequence that goes on until
a character ends it, and the control characters have effects of their own. `withoutControl` leaves
out of a text what a terminal would not show. White space is kept, also inside a sequence, and once
a character was shown everything that can be seen is shown until the next control character, even
where the sequence before it has not ended.
-/

namespace Workload.Text

namespace Terminal

/-- What a terminal takes the next character for. -/
inductive Mode where
  /-- Text to be shown. -/
  | text
  /-- The character after an escape character. -/
  | escape
  /-- The rest of an escape sequence that has begun with an intermediate character. -/
  | escapeIntermediate
  /-- The rest of a control sequence. -/
  | control
  /-- The beginning of an order to a device. -/
  | deviceEntry
  | deviceParameters
  | deviceIntermediate
  /-- A string that nobody sees, up to the byte `9C`. -/
  | string
  /-- A command to the system around the terminal, up to a bell. -/
  | command
deriving Repr, DecidableEq

/-- Whether a control character is white space. -/
def isControlSpace (char : Char) : Bool :=
  char = '\t' || char = '\n' || char = '\x0c' || char = '\r'

/-- Whether a code point lies between two others, or is one of them. -/
def within (low high : Nat) (char : Char) : Bool :=
  low ≤ char.toNat && char.toNat ≤ high

/-- The byte that ends a string. -/
def stringEnd : UInt8 := 0x9C

/-- Whether the UTF-8 form of a character contains the byte that ends a string. -/
def endsString (char : Char) : Bool :=
  0x80 ≤ char.toNat && (encode char.toString).contains stringEnd

namespace Mode

/-- Whether a character is shown. -/
def shows (mode : Mode) (char : Char) : Bool :=
  match mode with
  | .text => isControlSpace char || within 0x20 0x7E char || 0x80 ≤ char.toNat
  | .escape => isControlSpace char
  | .escapeIntermediate => isControlSpace char
  | .control => isControlSpace char
  | _ => false

/-- What a character after an escape character begins. -/
def ofIntroducer (char : Char) : Mode :=
  if within 0x20 0x2F char then .escapeIntermediate
  else if char = '[' then .control
  else if char = ']' then .command
  else if char = 'P' then .deviceEntry
  else if char = 'X' || char = '^' || char = '_' then .string
  else if within 0x30 0x7E char then .text
  else .escape

/-- What follows a character of an order to a device; `fits` tells the parameters it may have. -/
def device (mode : Mode) (fits : Char → Bool) (char : Char) : Mode :=
  if within 0x20 0x2F char then .deviceIntermediate
  else if fits char then .deviceParameters
  else if within 0x30 0x7E char then .string
  else mode

/-- What a terminal takes the character after a hidden one for. -/
def after (mode : Mode) (char : Char) : Mode :=
  if char = '\x18' || char = '\x1a' then .text
  else if char = '\x1b' then .escape
  else
    match mode with
    | .text => .text
    | .escape => ofIntroducer char
    | .escapeIntermediate => if within 0x30 0x7E char then .text else .escapeIntermediate
    | .control => if within 0x40 0x7E char then .text else .control
    | .deviceEntry => device .deviceEntry (within 0x30 0x3F) char
    | .deviceParameters => device .deviceParameters (within 0x30 0x3B) char
    | .deviceIntermediate => device .deviceIntermediate (fun _ => false) char
    | .string => if endsString char then .text else .string
    | .command => if char = '\x07' then .text else .command

end Mode

/-- The characters of a text that are shown; `shown` tells whether the one before them was. -/
def visible (shown : Bool) (mode : Mode) : List Char → List Char
  | [] => []
  | char :: rest =>
      if (if shown then Mode.text else mode).shows char then
        char :: visible true (if 0x80 ≤ char.toNat then .text else mode) rest
      else visible false (mode.after char) rest

end Terminal

/-- A text without what a terminal would not show of it. -/
def withoutControl (text : String) : String :=
  String.ofList (Terminal.visible false .text text.toList)

end Workload.Text
