/-! What the command line says about itself: one page for the program and one for each command. -/

namespace Tenancy.CommandLine

inductive Page where
  | program
  | serve
  | sampleConfig
  | issueToken
  | help
  deriving DecidableEq, Repr

namespace Page

def programName : String := "nsregistry-api"

def version : String := "0.1.0"

/-- The commands, in the order of the list in the program's page. -/
def commands : List Page := [serve, sampleConfig, issueToken, help]

def command : Page → String
  | program => ""
  | serve => "serve"
  | sampleConfig => "sample-config"
  | issueToken => "issue-token"
  | help => "help"

def ofCommand? (word : String) : Option Page :=
  commands.find? (·.command == word)

def about : Page → String
  | program => "Kubernetes namespace registry"
  | serve => "Run the HTTP server (default)"
  | sampleConfig => "Print a sample configuration file"
  | issueToken => "Issue a bearer token for an existing user"
  | help => "Print this message or the help of the given subcommand(s)"

/-! ## Usage -/

/-- What a command takes, with what it is for. -/
def arguments : Page → List (String × String)
  | issueToken => [("<USER_ID>", "Registry user id")]
  | help => [("[COMMAND]...", "Print help for the subcommand(s)")]
  | program | serve | sampleConfig => []

/-- The words that call for the page's command. -/
def words : Page → List String
  | program => [programName]
  | page => [programName, page.command]

def usage (page : Page) : String :=
  let taken := match page with
    | program => ["[COMMAND]"]
    | _ => page.arguments.map (·.1)
  "Usage: " ++ " ".intercalate (page.words ++ taken)

/-- What the command is called where its version is told. -/
def versionLine (page : Page) : String :=
  "-".intercalate page.words ++ " " ++ version

/-! ## Pages -/

def padded (width : Nat) (text : String) : String :=
  text ++ .ofList (List.replicate (width - text.length) ' ')

/-- Rows of two columns under a title. -/
def block (title : String) (rows : List (String × String)) : String :=
  let width := rows.foldl (fun width row => max width row.1.length) 0
  let lines := rows.map fun (left, right) => "\n  " ++ padded width left ++ "  " ++ right
  "\n\n" ++ title ++ ":" ++ String.join lines

def blocks (page : Page) : List (String × List (String × String)) :=
  let options := ("Options", [("-h, --help", "Print help"), ("-V, --version", "Print version")])
  match page with
  | program => [("Commands", commands.map fun page => (page.command, page.about)), options]
  | issueToken => [("Arguments", page.arguments), options]
  | help => [("Arguments", page.arguments)]
  | serve | sampleConfig => [options]

def text (page : Page) : String :=
  page.about ++ "\n\n" ++ page.usage ++
    String.join (page.blocks.map fun (title, rows) => block title rows) ++ "\n"

end Page

end Tenancy.CommandLine
