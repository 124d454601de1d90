import Workload.Text.Split

/-!
# Words of the command line
-/

namespace Workload.CommandLine

/-- What a word of the command line looks like. -/
inductive Word where
  /-- Two dashes: no options follow. -/
  | endOfOptions
  /-- An option by its long name, with the value after an equals sign. -/
  | long (name : List Char) (value : Option (List Char))
  /-- One or more options by their letters, perhaps with a value. -/
  | letters (chars : List Char)
  | plain
deriving Repr, DecidableEq

/-- What a word looks like; a single dash is no option. -/
def Word.ofChars : List Char → Word
  | ['-', '-'] => .endOfOptions
  | '-' :: '-' :: rest =>
      match Text.splitFirstChars '=' rest with
      | some (name, value) => .long name (some value)
      | none => .long rest none
  | '-' :: char :: rest => .letters (char :: rest)
  | _ => .plain

end Workload.CommandLine
