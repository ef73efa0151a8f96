import NoteTemplate.CommandLine.Request

/-!
# Help

What the program tells about itself: its version, its commands and their options.
-/

namespace NoteTemplate.CommandLine

/-- The name of the program. -/
def programName : String := "vaultscribe"

/-- The version of the program. -/
def versionText : String := programName ++ " 0.3.2\n"

/-- What a command does. -/
def Topic.summary : Topic → String
  | .render => "Render a template"
  | .validate => "Check templates for problems"
  | .list => "List available templates"
  | .install => "Install the built-in templates without overwriting existing ones"
  | .help => "Print this message or the help of the given subcommand(s)"

/-- The words that can follow the name of the program. -/
def usage : Option Topic → String
  | none => "[OPTIONS] <COMMAND>"
  | some .render => "render [OPTIONS] <NAME>"
  | some .validate => "validate [OPTIONS] [NAME]"
  | some .list => "list [OPTIONS]"
  | some .install => "init [OPTIONS]"
  | some .help => "help [COMMAND]"

/-- How the program is called. -/
def usageLine (topic : Option Topic) : String := "Usage: " ++ programName ++ " " ++ usage topic

/-- Entries of a list in two columns. -/
abbrev Columns := List (String × String)

/-- The commands, in the help on the program. -/
def commandEntries : Option Topic → Columns
  | none => Topic.all.map fun topic => (topic.word, topic.summary)
  | some _ => []

/-- The words of a topic that are no options. -/
def plainEntries : Option Topic → Columns
  | some .render => [("<NAME>", "Template name")]
  | some .validate => [("[NAME]", "Template name; all templates when omitted")]
  | _ => []

/-- The option for more output. -/
def verboseEntry : String × String := ("-v, --verbose", "Enable verbose output")

/-- The option for the configuration file, with the one named in the environment. -/
def configEntry (configurationFile : String) : String × String :=
  ("-c, --config <CONFIG>",
    "Path to configuration file [env: VAULTSCRIBE_CONFIG=" ++ configurationFile ++ "]")

/-- The option for help. -/
def helpEntry : String × String := ("-h, --help", "Print help")

/-- The options of a topic. -/
def optionEntries (topic : Option Topic) (configurationFile : String) : Columns :=
  let config := configEntry configurationFile
  match topic with
  | none => [verboseEntry, config, helpEntry, ("-V, --version", "Print version")]
  | some .render =>
    [("    --context <CONTEXT>", "JSON file with context values"), verboseEntry, config,
      ("    --var <KEY=VALUE>",
        "Context value as \x60key=value\x60; values are parsed as JSON when possible. Repeatable"),
      ("    --json", "Print the rendered document as JSON"),
      ("    --note", "Print the assembled vault note with header defaults filled in"), helpEntry]
  | some _ => [verboseEntry, config, helpEntry]

/-- A list in two columns below a title; nothing without entries. -/
def columnLines (title : String) (entries : Columns) : List String :=
  let width := entries.foldl (fun width (left, _) => max width left.length) 0
  if entries.isEmpty then []
  else
    ["", title ++ ":"] ++ entries.map fun (left, right) =>
      "  " ++ left ++ String.ofList (List.replicate (width - left.length + 2) ' ') ++ right

/-- The summary of the program. -/
def programSummary : String := "Template-driven note rendering for a personal knowledge vault"

/-- The help on a topic or on the program. -/
def helpText (topic : Option Topic) (configurationFile : String) : String :=
  let lines :=
    [(topic.map Topic.summary).getD programSummary, "", usageLine topic] ++
    columnLines "Commands" (commandEntries topic) ++
    columnLines "Arguments" (plainEntries topic) ++
    columnLines "Options" (optionEntries topic configurationFile)
  String.join (lines.map (· ++ "\n"))

end NoteTemplate.CommandLine
