import Tenancy.CommandLine.Page
import Tenancy.Text.Decimal

/-! What the words of a command line ask for. Words are taken from the left, and the first that
decides is the answer. -/

namespace Tenancy.CommandLine

open Tenancy.Text

inductive Command where
  | serve
  | sampleConfig
  | issueToken (user : Int64)
  deriving DecidableEq, Repr

inductive Misuse where
  | unexpectedArgument (word : String)
  /-- A value given to a flag, which takes none. -/
  | unexpectedValue (value flag : String)
  | unknownCommand (word : String)
  | missingUser
  | invalidUser (word : String) (fault : DecimalFault)
  deriving DecidableEq, Repr

def Misuse.text : Misuse → String
  | unexpectedArgument word => "unexpected argument '" ++ word ++ "' found"
  | unexpectedValue value flag =>
      "unexpected value '" ++ value ++ "' for '" ++ flag ++ "' found; no more were accepted"
  | unknownCommand word => "unrecognized subcommand '" ++ word ++ "'"
  | missingUser => "the following required arguments were not provided:\n  <USER_ID>"
  | invalidUser word fault =>
      "invalid value '" ++ word ++ "' for '<USER_ID>': " ++ fault.message

inductive Invocation where
  | run (command : Command)
  | showHelp (page : Page)
  | showVersion (page : Page)
  | misused (page : Page) (misuse : Misuse)
  deriving DecidableEq, Repr

/-! ## Flags -/

/-- A word with dashes before it. A dash alone is a value like any other. -/
inductive Flag where
  | help
  | version
  | helpWith (value : String)
  | versionWith (value : String)
  | unknown (shown : String)
  deriving DecidableEq, Repr

def longFlag (name : List Char) (value : Option (List Char)) : Flag :=
  match String.ofList name, value with
  | "help", none => .help
  | "help", some value => .helpWith (.ofList value)
  | "version", none => .version
  | "version", some value => .versionWith (.ofList value)
  | name, _ => .unknown ("--" ++ name)

/-- Of several letters behind one dash the first decides. -/
def shortFlag : Char → Flag
  | 'h' => .help
  | 'V' => .version
  | letter => .unknown (.ofList ['-', letter])

def flag? (word : String) : Option Flag :=
  match word.toList with
  | '-' :: '-' :: rest =>
      match rest.span (· != '=') with
      | (name, []) => some (longFlag name none)
      | (name, _ :: value) => some (longFlag name (some value))
  | '-' :: letter :: _ => some (shortFlag letter)
  | _ => none

def Flag.invocation (page : Page) : Flag → Invocation
  | help => .showHelp page
  | version => .showVersion page
  | helpWith value => .misused page (.unexpectedValue value "--help")
  | versionWith value => .misused page (.unexpectedValue value "--version")
  | unknown shown => .misused page (.unexpectedArgument shown)

/-- Behind two dashes alone nothing counts as a flag. -/
def isSeparator (word : String) : Bool := word == "--"

/-! ## Commands -/

/-- The words after a command that takes none. -/
def plainCommand (page : Page) (command : Command) (escaped : Bool) : List String → Invocation
  | [] => .run command
  | word :: rest =>
      if !escaped && isSeparator word then plainCommand page command true rest
      else
        match if escaped then none else flag? word with
        | some flag => flag.invocation page
        | none => .misused page (.unexpectedArgument word)

def checkUser (word : String) (next : Int64 → Invocation) : Invocation :=
  match readInt64 word with
  | .ok user => next user
  | .error fault => .misused .issueToken (.invalidUser word fault)

/-- A wrong id is reported at the end of the words, or before help or the version is shown. -/
def tokenCommand (user : Option String) (escaped : Bool) : List String → Invocation
  | [] =>
      match user with
      | some word => checkUser word fun user => .run (.issueToken user)
      | none => .misused .issueToken .missingUser
  | word :: rest =>
      if !escaped && isSeparator word then tokenCommand user true rest
      else
        match if escaped then none else flag? word with
        | some flag =>
            match flag, user with
            | .help, some word | .version, some word =>
                checkUser word fun _ => flag.invocation .issueToken
            | _, _ => flag.invocation .issueToken
        | none =>
            if user.isSome then .misused .issueToken (.unexpectedArgument word)
            else tokenCommand (some word) escaped rest

/-- The page of the command that the words after `help` name. No command has commands of its own. -/
def helpCommand : List String → Invocation
  | [] => .showHelp .program
  | word :: rest =>
      match Page.ofCommand? word with
      | none => .misused .program (.unknownCommand word)
      | some page =>
          match rest with
          | [] => .showHelp page
          | extra :: _ => .misused page (.unknownCommand extra)

def command (page : Page) (rest : List String) : Invocation :=
  match page with
  | .program => .run .serve
  | .serve => plainCommand page .serve false rest
  | .sampleConfig => plainCommand page .sampleConfig false rest
  | .issueToken => tokenCommand none false rest
  | .help => helpCommand rest

/-- Without a command the server runs. -/
def invocation : List String → Invocation
  | [] => .run .serve
  | word :: rest =>
      match Page.ofCommand? word, flag? word with
      | some page, _ => command page rest
      | none, some flag => if isSeparator word then escaped rest else flag.invocation .program
      | none, none => .misused .program (.unknownCommand word)
where
  escaped : List String → Invocation
    | [] => .run .serve
    | word :: _ =>
        .misused .program
          (if (Page.ofCommand? word).isSome then .unexpectedArgument word else .unknownCommand word)

example : invocation ["issue-token", "x", "--help"] =
    .misused .issueToken (.invalidUser "x" .invalidDigit) := by decide +kernel

example : invocation ["issue-token", "x", "y"] =
    .misused .issueToken (.unexpectedArgument "y") := by decide +kernel

end Tenancy.CommandLine
