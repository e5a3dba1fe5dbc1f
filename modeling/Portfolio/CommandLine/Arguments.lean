/-
Module: Portfolio.CommandLine.Arguments
Purpose: What the words of a command line ask for.
Main exports: CommandLine.Command, CommandLine.Invocation, CommandLine.Topic,
  CommandLine.Request, CommandLine.parse
-/

namespace Portfolio.CommandLine

/-- What is to be done, and with which documents. -/
inductive Command where
  /-- Build and write a whole site. Without a schema, that of the content is used. -/
  | generate (schema content design : Option String)
  | validate (schema : String)
  | blueprints (schema : String)
  | content (content : String)
  | theme (design : String)
  /-- Print a configuration file that explains itself. -/
  | printConfig
  deriving DecidableEq, Repr, Inhabited

/-- A command with what holds for all commands. -/
structure Invocation where
  config : String := "folio.toml"
  output : String := "site"
  command : Command
  deriving DecidableEq, Repr, Inhabited

/-- Why a command line cannot be understood. -/
inductive UsageError where
  | unknownWord (word : String)
  | missingValue (option : String)
  | emptyValue (option : String)
  | repeatedOption (option : String)
  | missingOption (option : String)
  | missingCommand
  deriving DecidableEq, Repr, Inhabited

def UsageError.message : UsageError → String
  | .unknownWord word => "unexpected argument '" ++ word ++ "'"
  | .missingValue option => "a value is required for '--" ++ option ++ "'"
  | .emptyValue option => "the value for '--" ++ option ++ "' is empty"
  | .repeatedOption option => "'--" ++ option ++ "' cannot be used more than once"
  | .missingOption option => "'--" ++ option ++ "' is required"
  | .missingCommand => "a command is required"

/-- What help is asked for. -/
inductive Topic where
  | program (long : Bool)
  | command (name : String)
  deriving DecidableEq, Repr, Inhabited

/-- What a command line asks for. -/
inductive Request where
  | run (invocation : Invocation)
  | help (topic : Topic)
  | version
  deriving DecidableEq, Repr, Inhabited

/-! ### Options -/

/-- Why reading options ends early. -/
inductive Stop where
  | help (topic : Topic)
  | version
  | misuse (error : UsageError)
  deriving DecidableEq, Repr, Inhabited

/-- An error that ends the reading. -/
def misuse {α : Type} (e : UsageError) : Except Stop α := .error (.misuse e)

/-- Options with their values, in the order they were given. -/
abbrev Options := List (String × String)

/-- The options that are known at some place of a command line. -/
structure Vocabulary where
  options : List String
  /-- The command before that place. -/
  command : Option String := none

/-- What help is asked for at a place of a command line. -/
def Vocabulary.topic (vocabulary : Vocabulary) (long : Bool) : Topic :=
  match vocabulary.command with
  | some name => .command name
  | none => .program long

/-- Options whose value may be empty. All others name files. -/
def mayBeEmpty (option : String) : Bool := option == "log-level"

/-- Adds an option to those before it. -/
def addOption (given : Options) (option value : String) : Except Stop Options :=
  if value.isEmpty && !mayBeEmpty option then misuse (.emptyValue option)
  else if (given.lookup option).isSome then misuse (.repeatedOption option)
  else .ok (given ++ [(option, value)])

/-- A word that starts an option. A lone dash does not. -/
def isOptionWord (word : String) : Bool := word.startsWith "-" && word != "-"

/-- The name of a long option, and its value if that is part of the word. -/
def splitLong (word : String) : String × Option String :=
  let body := word.toList.drop 2
  let value := body.dropWhile (· != '=')
  (String.ofList (body.takeWhile (· != '=')),
    match value with
    | [] => none
    | _ :: value => some (String.ofList value))

/-- A word that asks for help or for the version. The version is not known behind a
command. -/
def special? (vocabulary : Vocabulary) (word : String) : Option Stop :=
  let version := if vocabulary.command.isNone then some Stop.version else none
  match word.toList with
  | '-' :: '-' :: name =>
      if name = "help".toList then some (.help (vocabulary.topic true))
      else if name = "version".toList then version
      else none
  | '-' :: 'h' :: _ => some (.help (vocabulary.topic false))
  | '-' :: 'V' :: _ => version
  | _ => none

/-- Reads options up to the first word that is none. Behind a double dash no option can
follow, and so no word at all. -/
def readOptions (vocabulary : Vocabulary) (given : Options) :
    List String → Except Stop (Options × List String)
  | [] => .ok (given, [])
  | word :: rest =>
      if !isOptionWord word then .ok (given, word :: rest)
      else if word = "--" then
        match rest with
        | [] => .ok (given, [])
        | word :: _ => misuse (.unknownWord word)
      else
        match special? vocabulary word with
        | some stop => .error stop
        | none =>
            let (name, value) := splitLong word
            if !(word.startsWith "--" && vocabulary.options.contains name) then
              misuse (.unknownWord word)
            else
              match value with
              | some value =>
                  match addOption given name value with
                  | .ok given => readOptions vocabulary given rest
                  | .error stop => .error stop
              | none =>
                  match rest with
                  | [] => misuse (.missingValue name)
                  | value :: rest =>
                      if isOptionWord value then misuse (.missingValue name)
                      else
                        match addOption given name value with
                        | .ok given => readOptions vocabulary given rest
                        | .error stop => .error stop

/-! ### Commands -/

/-- The options that hold for all commands. -/
def sharedOptions : List String := ["config", "output", "log-level"]

/-- The names of the commands and their own options. -/
def commandOptions : List (String × List String) := [
  ("generate", ["schema", "content", "design"]),
  ("validate", ["schema"]),
  ("blueprints", ["schema"]),
  ("content", ["content"]),
  ("theme", ["design"]),
  ("gen-config", [])]

/-- The value of an option that has to be given. -/
def needed (given : Options) (option : String) : Except Stop String :=
  match given.lookup option with
  | some value => .ok value
  | none => misuse (.missingOption option)

def commandOf (name : String) (given : Options) : Except Stop Command :=
  match name with
  | "generate" =>
      .ok (.generate (given.lookup "schema") (given.lookup "content") (given.lookup "design"))
  | "validate" => .validate <$> needed given "schema"
  | "blueprints" => .blueprints <$> needed given "schema"
  | "content" => .content <$> needed given "content"
  | "theme" => .theme <$> needed given "design"
  | "gen-config" => .ok .printConfig
  | _ => misuse (.unknownWord name)

/-- A request for help, about the program or about one command. -/
def readHelp : List String → Stop
  | [] => .help (.program true)
  | word :: rest =>
      if (commandOptions.lookup word).isSome ∧ rest = [] then .help (.command word)
      else .misuse (.unknownWord word)

/-- Reads the words of a command line. Options for all commands may stand before and
behind the command's name, and those behind it win. -/
def readInvocation (words : List String) : Except Stop Invocation := do
  let (outer, rest) ← readOptions ⟨sharedOptions, none⟩ [] words
  match rest with
  | [] => misuse .missingCommand
  | "help" :: rest => .error (readHelp rest)
  | name :: rest =>
      match commandOptions.lookup name with
      | none => misuse (.unknownWord name)
      | some options =>
          let (inner, rest) ← readOptions ⟨options ++ sharedOptions, some name⟩ [] rest
          match rest with
          | word :: _ => misuse (.unknownWord word)
          | [] =>
              let command ← commandOf name inner
              let shared (option other : String) : String :=
                ((inner.lookup option) <|> (outer.lookup option)).getD other
              return ⟨shared "config" "folio.toml", shared "output" "site", command⟩

def parse (words : List String) : Except UsageError Request :=
  match readInvocation words with
  | .ok invocation => .ok (.run invocation)
  | .error (.help topic) => .ok (.help topic)
  | .error .version => .ok .version
  | .error (.misuse e) => .error e

end Portfolio.CommandLine
