import Workload.Text.Alphanumeric
import Workload.Text.Blank

/-!
# Patterns

A pattern describes texts. Its branches are tried in order, and a repetition goes on as long as it
can unless it is a lazy one: of the beginnings of a text that a pattern fits, the first one found in
this order is its match. A pattern describes a text if its match is the whole text.

`Pattern.paths` lists what a pattern can do next, in order: end here, or take a character of a class
and go on with another pattern. Matching follows all paths at once and drops those that come after
one that ends.
-/

namespace Workload.Text

/-- A class of characters. -/
inductive CharClass where
  | none
  | range (first last : Char)
  | digit
  | blank
  | word
  | union (first second : CharClass)
  | complement (excluded : CharClass)
deriving Repr, DecidableEq

namespace CharClass

/-- The class of a single character. -/
def single (char : Char) : CharClass := .range char char

/-- The class of all characters but the end of a line. -/
def inLine : CharClass := .complement (single '\n')

/-- Whether a character belongs to a class. -/
def contains (char : Char) : CharClass → Bool
  | .none => false
  | .range first last => first ≤ char && char ≤ last
  | .digit => char.isDigit
  | .blank => isBlank char
  | .word => isAlphanumeric char || char = '_'
  | .union first second => first.contains char || second.contains char
  | .complement excluded => !excluded.contains char

end CharClass

/-- A description of texts. -/
inductive Pattern where
  | empty
  | one (charClass : CharClass)
  | sequence (first second : Pattern)
  /-- Either of two patterns, of which the first is preferred. -/
  | choice (preferred other : Pattern)
  /-- Any number of repetitions: as many as possible, or as few if it is lazy. -/
  | many (isLazy : Bool) (body : Pattern)
  /-- The empty text at the beginning. -/
  | start
  /-- The empty text at the end. -/
  | finish
deriving Repr, DecidableEq

namespace Pattern

/-- What a pattern can do next. -/
inductive Path where
  | ends
  | takes (charClass : CharClass) (rest : Pattern)
deriving Repr, DecidableEq

/-- A path that is followed by another pattern. -/
def Path.andThen (following : Pattern) : Path → List Path → List Path
  | .ends, continued => continued
  | .takes charClass rest, _ => [.takes charClass (.sequence rest following)]

/-- What a pattern can do next, the preferred paths first. -/
def paths (atStart atEnd : Bool) : Pattern → List Path
  | .empty => [.ends]
  | .one charClass => [.takes charClass .empty]
  | .sequence first second =>
      (first.paths atStart atEnd).eraseDups.flatMap fun path =>
        path.andThen second (second.paths atStart atEnd)
  | .choice preferred other => preferred.paths atStart atEnd ++ other.paths atStart atEnd
  | .many isLazy body =>
      let again := (body.paths atStart atEnd).flatMap fun path =>
        path.andThen (.many isLazy body) []
      if isLazy then .ends :: again else again ++ [.ends]
  | .start => if atStart then [.ends] else []
  | .finish => if atEnd then [.ends] else []

/-- The paths before the first one that ends. -/
def goingOn : List Path → List (CharClass × Pattern)
  | [] => []
  | .ends :: _ => []
  | .takes charClass rest :: more => (charClass, rest) :: goingOn more

/-- Whether the match of several patterns, the preferred ones first, is the whole text. -/
def matchesFrom (atStart : Bool) (patterns : List Pattern) : List Char → Bool
  | [] => (patterns.flatMap (paths atStart true)).contains .ends
  | char :: rest =>
      let taken := (goingOn (patterns.flatMap (paths atStart false))).filterMap
        fun (charClass, following) =>
          if charClass.contains char then some following else none
      matchesFrom false taken.eraseDups rest

/-- Whether a pattern describes a text. -/
def describes (pattern : Pattern) (text : String) : Bool :=
  matchesFrom true [pattern] text.toList

/-- One or more repetitions. -/
def atLeastOnce (isLazy : Bool) (body : Pattern) : Pattern :=
  .sequence body (.many isLazy body)

/-- At most one occurrence. -/
def optional (isLazy : Bool) (body : Pattern) : Pattern :=
  if isLazy then .choice .empty body else .choice body .empty

/-- Patterns one after the other. -/
def ofSequence (patterns : List Pattern) : Pattern :=
  patterns.foldr .sequence .empty

/-- The first of several patterns that fits; a list without members describes nothing. -/
def ofChoices : List Pattern → Pattern
  | [] => .one .none
  | [pattern] => pattern
  | preferred :: others => .choice preferred (ofChoices others)

end Pattern

end Workload.Text
