import Workload.Text.Pattern

/-!
# Notation of patterns

Patterns are written in the common notation: characters stand for themselves, a period for any
character of a line, classes are enumerated between brackets, groups stand between parentheses and
branches at both sides of a bar, and `*`, `+` and `?` repeat what stands before them, lazily if
another `?` follows. A backslash takes the special meaning from a sign and gives one to a letter.
Repetitions with counts, properties by their names, options of groups and boundaries of words are
not part of the notation here.
-/

namespace Workload.Text.Pattern

/-- A class that a letter stands for after a backslash. -/
def classOfLetter? : Char → Option CharClass
  | 'd' => some .digit
  | 'D' => some (.complement .digit)
  | 's' => some .blank
  | 'S' => some (.complement .blank)
  | 'w' => some .word
  | 'W' => some (.complement .word)
  | _ => none

/-- A control character that a letter stands for after a backslash. -/
def controlOfLetter? : Char → Option Char
  | 'a' => some '\x07'
  | 'f' => some '\x0c'
  | 'n' => some '\n'
  | 'r' => some '\r'
  | 't' => some '\t'
  | 'v' => some '\x0b'
  | _ => none

/-- Whether a sign stands for itself after a backslash. -/
def isSign (char : Char) : Bool :=
  0x21 ≤ char.toNat && char.toNat ≤ 0x7E && !char.isAlphanum && char ≠ '<' && char ≠ '>'

/-- The character that stands after a backslash, if it is no class. -/
def escapedChar? (char : Char) : Option Char :=
  if isSign char then some char else controlOfLetter? char

/-- The class that stands after a backslash. -/
def escapedClass? (char : Char) : Option CharClass :=
  (classOfLetter? char).or ((escapedChar? char).map CharClass.single)

/-! ## Enumerated classes -/

/-- Reads the last character of a range and gives what follows it. -/
def readRangeEnd : List Char → Option (Char × List Char)
  | '\\' :: char :: rest => (escapedChar? char).map fun escaped => (escaped, rest)
  | '[' :: _ => none
  | char :: rest => some (char, rest)
  | [] => none

/-- The range between two characters, if they are in order. -/
def rangeOf? (first last : Char) : Option CharClass :=
  if first ≤ last then some (.range first last) else none

/--
Reads the rest of an enumerated class up to its closing bracket, with what was read before it;
`bound` limits the number of its members.
-/
def readMembers : Nat → CharClass → List Char → Option (CharClass × List Char)
  | 0, _, _ => none
  | _, _, [] => none
  | bound + 1, before, char :: rest =>
      let member (single : Option Char) (others : CharClass) (rest : List Char) :
          Option (CharClass × List Char) :=
        match single, rest with
        | some first, '-' :: next :: more =>
            if next = ']' then readMembers bound (.union before others) rest
            else do
              let (last, after) ← readRangeEnd (next :: more)
              let range ← rangeOf? first last
              readMembers bound (.union before range) after
        | _, _ => readMembers bound (.union before others) rest
      if char = ']' then some (before, rest)
      else if char = '[' || (char = '&' && rest.head? = some '&') ||
          (char = '~' && rest.head? = some '~') then none
      else if char = '\\' then
        match rest with
        | escaped :: more => do
            let others ← escapedClass? escaped
            member (escapedChar? escaped) others more
        | [] => none
      else member (some char) (.single char) rest

/-- Reads an enumerated class from what follows its opening bracket. -/
def readEnumerated (text : List Char) : Option (CharClass × List Char) :=
  let (isComplement, members) := match text with
    | '^' :: rest => (true, rest)
    | _ => (false, text)
  let (before, members) := match members with
    | ']' :: rest => (CharClass.single ']', rest)
    | _ => (CharClass.none, members)
  (readMembers (members.length + 1) before members).map fun (charClass, rest) =>
    (if isComplement then .complement charClass else charClass, rest)

/-! ## Patterns -/

/-- A group that is being read, with everything in reverse order. -/
structure Group where
  /-- The branches that are complete. -/
  branches : List Pattern := []
  /-- The items of the present branch. -/
  items : List Pattern := []

namespace Group

/-- Adds an item to the present branch. -/
def add (group : Group) (item : Pattern) : Group :=
  { group with items := item :: group.items }

/-- Completes the present branch. -/
def branch (group : Group) : Group :=
  { branches := ofSequence group.items.reverse :: group.branches }

/-- The pattern of a group that is complete. -/
def pattern (group : Group) : Pattern :=
  ofChoices group.branch.branches.reverse

/-- Repeats the last item. -/
def repeatLast? (group : Group) (repetition : Pattern → Pattern) : Option Group :=
  match group.items with
  | [] => none
  | item :: earlier => some { group with items := repetition item :: earlier }

end Group

/-- The repetition that a sign stands for. -/
def repetitionOf? (isLazy : Bool) : Char → Option (Pattern → Pattern)
  | '*' => some (.many isLazy)
  | '+' => some (atLeastOnce isLazy)
  | '?' => some (optional isLazy)
  | _ => none

/-- The pattern that stands after a backslash. -/
def escaped? : Char → Option Pattern
  | 'A' => some .start
  | 'z' => some .finish
  | char => (escapedClass? char).map Pattern.one

/-- The pattern that a character stands for without a backslash. -/
def ofChar : Char → Pattern
  | '.' => .one .inLine
  | '^' => .start
  | '$' => .finish
  | char => .one (.single char)

/--
Reads the rest of a pattern inside of `group` and the groups around it; `bound` limits the number
of items.
-/
def readFrom : Nat → List Group → Group → List Char → Option Pattern
  | 0, _, _, _ => none
  | _, [], group, [] => some group.pattern
  | _, _ :: _, _, [] => none
  | bound + 1, around, group, char :: rest =>
      match char with
      | '(' =>
          match rest with
          | '?' :: ':' :: inner => readFrom bound (group :: around) {} inner
          | '?' :: _ => none
          | inner => readFrom bound (group :: around) {} inner
      | ')' =>
          match around with
          | outer :: others => readFrom bound others (outer.add group.pattern) rest
          | [] => none
      | '|' => readFrom bound around group.branch rest
      | '\x7b' => none
      | '[' => do
          let (charClass, after) ← readEnumerated rest
          readFrom bound around (group.add (.one charClass)) after
      | '\\' =>
          match rest with
          | next :: after => do
              let item ← escaped? next
              readFrom bound around (group.add item) after
          | [] => none
      | sign =>
          let isLazy := rest.head? = some '?'
          match repetitionOf? isLazy sign with
          | some repetition => do
              let repeated ← group.repeatLast? repetition
              readFrom bound around repeated (if isLazy then rest.drop 1 else rest)
          | none => readFrom bound around (group.add (ofChar sign)) rest

/-- Reads a pattern. -/
def read (text : List Char) : Option Pattern :=
  readFrom (text.length + 1) [] {} text

end Workload.Text.Pattern
