import Workload.Text.Utf8

/-!
# Lines of a byte stream

A container writes bytes in pieces of any size. Its output is shown line by line: a line ends with a
newline byte or with the stream, and its text is the line decoded for itself, without the newline
and the carriage returns before it. A text that is printed takes up several lines if it holds
newlines.
-/

namespace Workload.Text

/-- The newline byte. -/
def newlineByte : UInt8 := 0x0A

/-- The lines of a byte string, each with the newline that ends it; the last may lack one. -/
def byteLines : List UInt8 → List (List UInt8)
  | [] => []
  | byte :: rest =>
      if byte = newlineByte then [byte] :: byteLines rest
      else
        match byteLines rest with
        | [] => [[byte]]
        | line :: lines => (byte :: line) :: lines

/-- Whether a character ends a line: a newline or a carriage return. -/
def isLineEnd (char : Char) : Bool :=
  char = '\n' || char = '\r'

/-- A text without the newlines and carriage returns at its end. -/
def trimLineEnd (text : List Char) : List Char :=
  (text.reverse.dropWhile isLineEnd).reverse

/-- The text shown for one line of bytes. -/
def lineText (line : List UInt8) : String :=
  String.ofList (trimLineEnd (decodeLossyChars line))

/--
What has been read of a stream: the texts of the finished lines and the bytes of an open line.
-/
structure LineReader where
  shown : List String := []
  pending : List UInt8 := []
deriving Repr, DecidableEq

namespace LineReader

/-- Takes one byte from the stream; a newline finishes the open line. -/
def takeByte (reader : LineReader) (byte : UInt8) : LineReader :=
  if byte = newlineByte then
    { shown := reader.shown ++ [lineText (reader.pending ++ [byte])], pending := [] }
  else { reader with pending := reader.pending ++ [byte] }

/-- Takes one piece of the stream. -/
def takePiece (reader : LineReader) (piece : List UInt8) : LineReader :=
  piece.foldl takeByte reader

/-- Ends the stream: an open line that holds something is shown too. -/
def finish (reader : LineReader) : List String :=
  if reader.pending.isEmpty then reader.shown
  else reader.shown ++ [lineText reader.pending]

end LineReader

/-- The texts shown for a stream that arrives in the given pieces. -/
def shownLines (pieces : List (List UInt8)) : List String :=
  (pieces.foldl LineReader.takePiece {}).finish

/-- The lines of a text split at newlines, without the empty piece after a final newline. -/
def textLines : List Char → List (List Char)
  | [] => []
  | char :: rest =>
      if char = '\n' then [] :: textLines rest
      else
        match textLines rest with
        | [] => [[char]]
        | line :: lines => (char :: line) :: lines

/-- The lines of a text between its newlines. -/
def splitLines : List Char → List (List Char)
  | [] => [[]]
  | char :: rest =>
      if char = '\n' then [] :: splitLines rest
      else
        match splitLines rest with
        | [] => [[char]]
        | line :: lines => (char :: line) :: lines

/-- A line without the carriage return that belongs to the newline after it. -/
def withoutReturn (line : List Char) : List Char :=
  if line.getLast? = some '\r' then line.dropLast else line

/-- The lines that a text takes up when it is printed with a newline after it. -/
def printedLines (text : String) : List String :=
  (splitLines text.toList).map fun line => String.ofList (withoutReturn line)

end Workload.Text
