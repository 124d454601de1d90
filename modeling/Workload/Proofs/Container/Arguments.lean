import Workload.Container.Specification
import Workload.Proofs.Environment.Override
import Workload.Proofs.Text.Numeral
import Workload.Table

/-!
# What the engine's arguments tell

The engine reads its arguments from the left: a word that begins with a dash is an option, the word
after it is the value of the option, and the first word in the place of an option that does not begin
with a dash is the image. All that follows is the command, whatever it looks like. So the options
end where the image begins as long as no image begins with a dash, and a variable is told from a
secret by the equals sign as long as no name holds one. Then nothing that the arguments should carry
is lost in them, which is said by reading them back.
-/

namespace Workload.Container

open Text

/-- What the arguments tell of a container: all but the values of secrets and what concerns the
display of its output. -/
structure Outline where
  container : String := ""
  network : Option String := none
  ports : List PublishedPort := []
  plainVariables : List (String × String) := []
  secrets : List String := []
  image : String
  command : List String
deriving DecidableEq

/-- An option of the command that runs a container. -/
inductive RunOption where
  | name (container : String)
  | network (container : String)
  | publish (port : PublishedPort)
  | assign (key value : String)
  | pass (key : String)

namespace RunOption

def flag : RunOption → String
  | name _ => "--name"
  | network _ => "--network"
  | publish _ => "--publish"
  | assign _ _ => "--env"
  | pass _ => "--env"

def value : RunOption → String
  | name container => container
  | network container => "container:" ++ container
  | publish port => decimal port.host.toNat ++ ":" ++ decimal port.container.toNat
  | assign key value => key ++ "=" ++ value
  | pass key => key

def words (option : RunOption) : List String := [option.flag, option.value]

/-- The names in an option are told from what stands beside them. -/
def IsReadable : RunOption → Prop
  | assign key _ => '=' ∉ key.toList
  | pass key => '=' ∉ key.toList
  | _ => True

/-! ## Reading -/

def portOf? (text : String) : Option UInt16 :=
  (readNumeral? 65535 text.toList).map Nat.toUInt16

/-- The option that a flag and its value stand for. -/
def read? (flag value : String) : Option RunOption :=
  match flag with
  | "--name" => some (name value)
  | "--network" =>
      match splitFirst ':' value with
      | some ("container", container) => some (network container)
      | _ => none
  | "--publish" => do
      let (host, container) ← splitFirst ':' value
      return publish ⟨← portOf? host, ← portOf? container⟩
  | "--env" =>
      match splitFirst '=' value with
      | some (key, value) => some (assign key value)
      | none => some (pass value)
  | _ => none

theorem head?_flag (option : RunOption) : option.flag.toList.head? = some '-' := by
  cases option <;> simp [flag]

theorem portOf?_decimal (port : UInt16) : portOf? (decimal port.toNat) = some port := by
  have found : readNumeral? 65535 (decimalDigits port.toNat) = some port.toNat :=
    readNumeral?_eq_some_iff.mpr
      ⟨numeral_decimalDigits _, Nat.le_of_lt_succ port.toNat_lt⟩
  simp [portOf?, decimal, found]

theorem read?_words {option : RunOption} (readable : option.IsReadable) :
    read? option.flag option.value = some option := by
  cases option with
  | name container => rfl
  | network container =>
      have cut : splitFirst ':' ("container:" ++ container) = some ("container", container) :=
        splitFirst_eq_some_iff.mpr ⟨rfl, by decide⟩
      simp only [flag, value, read?, cut]
  | publish port =>
      have cut : splitFirst ':' (decimal port.host.toNat ++ ":" ++ decimal port.container.toNat) =
          some (decimal port.host.toNat, decimal port.container.toNat) := by
        refine splitFirst_eq_some_iff.mpr ⟨rfl, ?_⟩
        rw [decimal, String.toList_ofList]
        exact colon_not_mem_decimalDigits _
      simp only [flag, value, read?, cut]
      simp [portOf?_decimal]
  | assign key value =>
      have cut : splitFirst '=' (key ++ "=" ++ value) = some (key, value) :=
        splitFirst_eq_some_iff.mpr ⟨rfl, readable⟩
      simp only [flag, RunOption.value, read?, cut]
  | pass key =>
      have uncut : splitFirst '=' key = none := splitFirst_eq_none_iff.mpr readable
      simp only [flag, value, read?, uncut]

end RunOption

/-- An outline with one more option in front. -/
def Outline.add : RunOption → Outline → Outline
  | .name container, outline => { outline with container }
  | .network container, outline => { outline with network := some container }
  | .publish port, outline => { outline with ports := port :: outline.ports }
  | .assign key value, outline =>
      { outline with plainVariables := (key, value) :: outline.plainVariables }
  | .pass key, outline => { outline with secrets := key :: outline.secrets }

/-- Reads options up to the image. -/
def readWords? : List String → Option Outline
  | [] => none
  | word :: rest =>
      if word.toList.head? = some '-' then
        match rest with
        | [] => none
        | value :: rest => do
            let option ← RunOption.read? word value
            return (← readWords? rest).add option
      else some { image := word, command := rest }

/-- Reads the arguments that run a container. -/
def readArguments? : List String → Option Outline
  | "run" :: words => readWords? words
  | _ => none

/-! ## The arguments of a specification -/

namespace Specification

variable {specification : Specification}

/-- What of a specification has to be passed on the command line. -/
def outline (specification : Specification) : Outline where
  container := specification.container
  network := specification.network
  ports := specification.ports
  plainVariables := specification.plainVariables
  secrets := Table.keys specification.secrets
  image := specification.image
  command := specification.command

/-- The options of a specification, in the order of its arguments. -/
def options (specification : Specification) : List RunOption :=
  .name specification.container :: (specification.network.toList.map .network ++
    specification.ports.map .publish ++
    specification.plainVariables.map (fun (key, value) => .assign key value) ++
    (Table.keys specification.secrets).map .pass)

/-- The names of a specification can be told from what stands beside them. -/
structure IsReadable (specification : Specification) : Prop where
  plain : ∀ key ∈ Table.keys specification.plainVariables, '=' ∉ key.toList
  secrets : ∀ key ∈ Table.keys specification.secrets, '=' ∉ key.toList
  image : specification.image.toList.head? ≠ some '-'

theorem arguments_eq (specification : Specification) :
    specification.arguments =
      "run" :: (specification.options.flatMap RunOption.words ++
        specification.image :: specification.command) := by
  rcases specification with ⟨_, _, network, _, _, _, _, _, _⟩
  cases network <;>
    simp [arguments, options, networkArguments, portArguments, variableArguments, secretArguments,
      List.flatMap_map, Table.keys, RunOption.words, RunOption.flag, RunOption.value]

theorem IsReadable.of_mem_options {option : RunOption} (readable : specification.IsReadable)
    (member : option ∈ specification.options) : option.IsReadable := by
  simp only [options, List.mem_cons, List.mem_append, List.mem_map, or_assoc] at member
  rcases member with rfl | ⟨_, _, rfl⟩ | ⟨_, _, rfl⟩ | ⟨entry, present, rfl⟩ | ⟨key, present, rfl⟩
  · trivial
  · trivial
  · trivial
  · exact readable.plain entry.1 (List.mem_map_of_mem present)
  · exact readable.secrets key present

end Specification

/-! ## Reading the arguments back -/

namespace Outline

/-- Options of one kind fill the field that each of them adds to. -/
theorem foldr_map_option {Item : Type} {option : Item → RunOption} (put : List Item → Outline)
    (adds : ∀ item items, (put items).add (option item) = put (item :: items))
    (items : List Item) : (items.map option).foldr add (put []) = put items := by
  induction items with
  | nil => rfl
  | cons item items hypothesis => rw [List.map_cons, List.foldr_cons, hypothesis, adds]

theorem foldr_options (specification : Specification) :
    specification.options.foldr add
        { image := specification.image, command := specification.command } =
      specification.outline := by
  rcases specification with
    ⟨image, container, network, ports, command, plainVariables, secrets, _, _⟩
  -- The options are added from the last to the first, so the sections are filled backwards.
  have secretsAdded : ((Table.keys secrets).map .pass).foldr add { image, command } =
      { image, command, secrets := Table.keys secrets } :=
    foldr_map_option (fun keys => { image, command, secrets := keys }) (fun _ _ => rfl) _
  have variablesAdded :
      (plainVariables.map fun (key, value) => .assign key value).foldr add
          { image, command, secrets := Table.keys secrets } =
        { image, command, plainVariables, secrets := Table.keys secrets } :=
    foldr_map_option (fun entries => { image, command, plainVariables := entries, secrets := _ })
      (fun _ _ => rfl) _
  have portsAdded :
      (ports.map .publish).foldr add
          { image, command, plainVariables, secrets := Table.keys secrets } =
        { image, command, ports, plainVariables, secrets := Table.keys secrets } :=
    foldr_map_option
      (fun others => { image, command, ports := others, plainVariables, secrets := _ })
      (fun _ _ => rfl) _
  simp only [Specification.options, List.foldr_cons, List.foldr_append, secretsAdded,
    variablesAdded, portsAdded]
  cases network <;> rfl

end Outline

/-- What is left after the options is read as it is read alone, and the options are added to it. -/
theorem readWords?_append {options : List RunOption}
    (readable : ∀ option ∈ options, option.IsReadable) (rest : List String) :
    readWords? (options.flatMap RunOption.words ++ rest) =
      (readWords? rest).map fun outline => options.foldr Outline.add outline := by
  -- The value of an option is taken as it is, so only the flags have to begin with a dash.
  induction options with
  | nil => simp
  | cons option options hypothesis =>
      rw [List.forall_mem_cons] at readable
      simp only [List.flatMap_cons, RunOption.words, List.cons_append, List.nil_append, readWords?]
      rw [if_pos option.head?_flag, RunOption.read?_words readable.1]
      change (do return (← readWords? (options.flatMap RunOption.words ++ rest)).add option) = _
      rw [hypothesis readable.2]
      cases readWords? rest <;> rfl

theorem readWords?_image {image : String} (plain : image.toList.head? ≠ some '-')
    (command : List String) : readWords? (image :: command) = some { image, command } := by
  cases command <;> simp [readWords?, plain]

theorem readArguments?_arguments {specification : Specification}
    (readable : specification.IsReadable) :
    readArguments? specification.arguments = some specification.outline := by
  rw [specification.arguments_eq, readArguments?,
    readWords?_append fun option member => readable.of_mem_options member,
    readWords?_image readable.image, Option.map_some, Outline.foldr_options]

/--
The arguments of a specification are its options, its image and its command in this order, and from
them all is read back that the specification has to pass. So specifications with the same arguments
differ at most in the values of their secrets and in the display of their output. The keys that the
operator writes are among the names for which this holds.
-/
theorem arguments_tell_what_they_pass :
    (∀ specification : Specification, specification.arguments =
      "run" :: (specification.options.flatMap RunOption.words ++
        specification.image :: specification.command)) ∧
    (∀ specification : Specification, specification.IsReadable →
      readArguments? specification.arguments = some specification.outline) ∧
    (∀ first second : Specification, first.IsReadable → second.IsReadable →
      first.arguments = second.arguments →
        first.container = second.container ∧ first.network = second.network ∧
        first.ports = second.ports ∧ first.plainVariables = second.plainVariables ∧
        Table.keys first.secrets = Table.keys second.secrets ∧ first.image = second.image ∧
        first.command = second.command) ∧
    ∀ text override, Environment.Override.parse text = .ok override →
      '=' ∉ override.key.toList := by
  refine ⟨Specification.arguments_eq, fun _ => readArguments?_arguments, ?_, ?_⟩
  · intro first second firstReadable secondReadable same
    have outlines : some first.outline = some second.outline := by
      rw [← readArguments?_arguments firstReadable, same, readArguments?_arguments secondReadable]
    simpa [Specification.outline] using outlines
  · intro text override read
    exact (Environment.Override.text_of_parse read).1.key_free

/-- A container of whose arguments the command and a value look like options. -/
def lookalike (secret : String) : Specification where
  image := "shop/web:1"
  container := "web-shop"
  network := some "pause-shop"
  ports := [⟨8080, 80⟩]
  command := ["--env", "PORT=1"]
  plainVariables := [("FLAGS", "--name=web")]
  secrets := [("TOKEN", secret)]
  label := secret

theorem lookalike_told :
    (lookalike "old").IsReadable ∧ (lookalike "new").IsReadable ∧
      (lookalike "old").arguments = (lookalike "new").arguments ∧
      readArguments? (lookalike "old").arguments = some (lookalike "old").outline ∧
      (lookalike "old").command = (lookalike "new").command ∧
      Environment.Override.parse "web:FLAGS=--name=web" =
        .ok ⟨some "web", "FLAGS", "--name=web"⟩ ∧
      '=' ∉ "FLAGS".toList := by
  have readable (secret : String) : (lookalike secret).IsReadable :=
    ⟨by simp [lookalike, Table.keys], by simp [lookalike, Table.keys], by simp [lookalike]⟩
  have same : (lookalike "old").arguments = (lookalike "new").arguments := rfl
  have read : Environment.Override.parse "web:FLAGS=--name=web" =
    .ok ⟨some "web", "FLAGS", "--name=web"⟩ := rfl
  rcases arguments_tell_what_they_pass with ⟨_, told, determined, free⟩
  rcases determined _ _ (readable "old") (readable "new") same with ⟨_, _, _, _, _, _, command⟩
  exact ⟨readable _, readable _, same, told _ (readable _), command, read, free _ _ read⟩

/-- A secret with an equals sign in its name is taken for a variable. -/
example :
    ({ image := "web", container := "c", plainVariables := [("A", "B")] } :
        Specification).arguments =
      ({ image := "web", container := "c", secrets := [("A=B", "")] } : Specification).arguments :=
  rfl

end Workload.Container
