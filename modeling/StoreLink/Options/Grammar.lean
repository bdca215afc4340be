/-!
# Command lines

How the words of a command line set the options of a program:

* an option has a long name, `--name value` or `--name=value`, and may have a letter, `-n value`,
  `-nvalue` or `-n=value`; its value must not look like an option where it is a word of its own;
* `--` ends the options, and `-` alone is a value;
* any other word takes the next place, as long as there is one;
* nothing may be given twice, and every value is checked as it is read;
* `--version`, `-V`, `--help` and `-h` end the reading where they stand.

What the command line does not set is taken from the environment, and there too a value that cannot
be read is an error.
-/

namespace StoreLink.Options

/-- The options of a program: `ι` names them, `ω` holds their values. -/
structure Grammar (ι ω : Type) where
  /-- The option with a long name. -/
  long : String → Option ι
  /-- The option with a letter. -/
  short : Char → Option ι
  /-- The places for words that are no options, in their order. -/
  places : List ι
  /-- The environment variables that stand in for options. -/
  fromEnvironment : List (String × ι)
  /-- Sets an option, unless its value cannot be read. -/
  assign : ι → String → ω → Option ω

/-- What a command line asks for. -/
inductive Parsed (ω : Type) where
  /-- It cannot be understood. -/
  | usageError
  /-- How to use the program. -/
  | help
  /-- The version of the program. -/
  | version
  /-- To run with these options. -/
  | run (options : ω)

/-- What was read of a command line: the options set, their values, and the places left. -/
structure Progress (ι ω : Type) where
  given : List ι := []
  options : ω
  places : List ι

variable {ι ω : Type} [DecidableEq ι]

/-- Sets an option that is not set yet. -/
def Grammar.give (g : Grammar ι ω) (i : ι) (value : String) (p : Progress ι ω) :
    Option (Progress ι ω) :=
  if i ∈ p.given then none
  else
    match g.assign i value p.options with
    | none => none
    | some options => some { p with given := i :: p.given, options }

/-- Sets the option at the next place. -/
def Grammar.givePlace (g : Grammar ι ω) (value : String) (p : Progress ι ω) :
    Option (Progress ι ω) :=
  match p.places with
  | [] => none
  | i :: places => g.give i value { p with places }

/-- What one word is. -/
inductive Word (ι : Type) where
  /-- A value for the next place. -/
  | value (text : String)
  /-- The end of the options. -/
  | endOfOptions
  /-- An option, with its value when that is part of the word. -/
  | option (i : ι) (attached : Option String)
  | help
  | version
  | unknown

/-- The word could not be the value of an option before it. -/
def looksLikeOption : List Char → Bool
  | '-' :: _ :: _ => true
  | _ => false

/-- The parts of a word before and after its first `=`. -/
def splitAtEquals (cs : List Char) : List Char × Option String :=
  match cs.dropWhile (· != '=') with
  | [] => (cs, none)
  | _ :: value => (cs.takeWhile (· != '='), some (String.ofList value))

/-- A word that starts with two dashes, given what follows them. -/
def Grammar.longWord (g : Grammar ι ω) (cs : List Char) : Word ι :=
  let (name, attached) := splitAtEquals cs
  let name := String.ofList name
  if name = "version" then if attached.isSome then .unknown else .version
  else if name = "help" then if attached.isSome then .unknown else .help
  else
    match g.long name with
    | some i => .option i attached
    | none => .unknown

/-- A word that starts with one dash, given its letter and what follows. -/
def Grammar.shortWord (g : Grammar ι ω) (letter : Char) (rest : List Char) : Word ι :=
  if letter = 'V' then .version
  else if letter = 'h' then .help
  else
    match g.short letter with
    | none => .unknown
    | some i =>
      match rest with
      | [] => .option i none
      | '=' :: value => .option i (some (String.ofList value))
      | value => .option i (some (String.ofList value))

/-- What a word is, before the end of the options. -/
def Grammar.word (g : Grammar ι ω) (text : String) : Word ι :=
  match text.toList with
  | ['-', '-'] => .endOfOptions
  | '-' :: '-' :: rest => g.longWord rest
  | '-' :: letter :: rest => g.shortWord letter rest
  | _ => .value text

/-- Reads the words after the end of the options, which are all values. -/
def Grammar.readValues (g : Grammar ι ω) (p : Progress ι ω) : List String → Option (Progress ι ω)
  | [] => some p
  | text :: rest =>
    match g.givePlace text p with
    | none => none
    | some p => readValues g p rest

/-- What reading the words gives: the progress at the end, or why the reading ended before. -/
inductive Reading (ι ω : Type) where
  | done (p : Progress ι ω)
  | usageError
  | help
  | version

/-- The reading of all words as values. -/
def Reading.ofProgress : Option (Progress ι ω) → Reading ι ω
  | some p => .done p
  | none => .usageError

/-- Reads the words of a command line. -/
def Grammar.read (g : Grammar ι ω) (p : Progress ι ω) : List String → Reading ι ω
  | [] => .done p
  | text :: rest =>
    match g.word text with
    | .unknown => .usageError
    | .help => .help
    | .version => .version
    | .endOfOptions => .ofProgress (g.readValues p rest)
    | .value value =>
      match g.givePlace value p with
      | none => .usageError
      | some p => read g p rest
    | .option i (some value) =>
      match g.give i value p with
      | none => .usageError
      | some p => read g p rest
    | .option i none =>
      match rest with
      | [] => .usageError
      | value :: rest =>
        if looksLikeOption value.toList then .usageError
        else
          match g.give i value p with
          | none => .usageError
          | some p => read g p rest

/-- Takes from the environment what the command line did not set. -/
def Grammar.readEnvironment (g : Grammar ι ω) (environment : List (String × String)) :
    List (String × ι) → Progress ι ω → Option (Progress ι ω)
  | [], p => some p
  | (name, i) :: rest, p =>
    match environment.lookup name with
    | none => readEnvironment g environment rest p
    | some value =>
      if i ∈ p.given then readEnvironment g environment rest p
      else
        match g.give i value p with
        | none => none
        | some p => readEnvironment g environment rest p

/-- Reads a command line and its environment, starting from the options that hold unless set. -/
def Grammar.parse (g : Grammar ι ω) (defaults : ω) (environment : List (String × String))
    (args : List String) : Parsed ω :=
  match g.read { options := defaults, places := g.places } args with
  | .usageError => .usageError
  | .help => .help
  | .version => .version
  | .done p =>
    match g.readEnvironment environment g.fromEnvironment p with
    | none => .usageError
    | some p => .run p.options

end StoreLink.Options
