/-!
# Lower case for comparison with words of ASCII letters

Keywords are compared without regard to case. All of them are made of ASCII letters, so the only
characters outside ASCII that matter are the two whose lower-case form contains an ASCII letter:
the Kelvin sign, which lowers to `k`, and the capital I with a dot, which lowers to `i` followed by
a combining dot. Every other character outside ASCII is kept, and no keyword contains one.
-/

namespace Workload.Text

/-- The lower-case form of a character, as far as it concerns words of ASCII letters. -/
def lowerChar (char : Char) : List Char :=
  if char = '\u212a' then ['k']
  else if char = '\u0130' then ['i', '\u0307']
  else [char.toLower]

/-- The lower-case form of a text, as far as it concerns words of ASCII letters. -/
def lowerCase (text : String) : String :=
  String.ofList (text.toList.flatMap lowerChar)

/-- Whether a text occurs somewhere in another one. -/
def occursIn (part whole : List Char) : Bool :=
  match whole with
  | [] => part.isEmpty
  | _ :: rest => part.isPrefixOf whole || occursIn part rest

end Workload.Text
