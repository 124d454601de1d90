import Workload.Error
import Workload.Text.Blank
import Workload.Text.Lines
import Workload.Text.Numeral

/-!
# Reporting errors to the operator

An error that ends the program is reported with the causes behind it, each on lines of its own;
several causes are numbered.
-/

namespace Workload.Report

/-- The lines of a text before the first one that is empty or blank. -/
def firstPart (text : String) : List String :=
  (Text.printedLines text).takeWhile fun line => !line.toList.all Text.isBlank

/-- A text with `first` before its first line and `following` before each further one. -/
def indent (first following text : String) : String :=
  first ++ ("\n" ++ following).intercalate ((Text.splitLines text.toList).map String.ofList)

/-- A number with blanks before it, so that it takes up five places. -/
def padded (number : Nat) : String :=
  let digits := Text.decimalDigits number
  String.ofList (List.replicate (5 - digits.length) ' ' ++ digits)

/-- The causes behind an error. -/
def causes : List String → String
  | [] => ""
  | [cause] => "\n\nCaused by:\n" ++ indent "    " "    " cause
  | several =>
      "\n\nCaused by:" ++ String.join (several.mapIdx fun index cause =>
        "\n" ++ indent (padded index ++ ": ") "       " cause)

/-- The report of an error that ends the program. -/
def ofError (fault : RunError) : String :=
  "Error: " ++ fault.message ++ causes fault.sources

/-- The exit status of a program that ended with an error. -/
def failureCode : Nat := 1

/-- The exit status of a program whose command line was wrong. -/
def usageCode : Nat := 2

end Workload.Report
