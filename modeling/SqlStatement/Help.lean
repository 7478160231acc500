import SqlStatement.Arguments

/-!
# Help

What the program says about itself and about its command.
-/

namespace SqlStatement

namespace HelpTopic

def lines : HelpTopic → List String
  | program => [
      "sqlkit - render SQL statements described in TOML",
      "",
      "USAGE:",
      "  sqlkit <COMMAND> [OPTIONS]",
      "",
      "COMMANDS:",
      "  render        Validate and render statements from a config file",
      "",
      "Run `sqlkit <command> --help` for more."]
  | render => [
      "USAGE:",
      "  sqlkit render [OPTIONS]",
      "",
      "OPTIONS:",
      "  --config <FILE>       Config file path (default: sqlkit.toml)",
      "  --name <CSV>          Only render the named statements (repeatable)",
      "  --json                One JSON object per line: \x7b\"name\": ..., \"sql\": ...\x7d",
      "  -v, --verbose         Log config and build events to stderr",
      "  -h, --help            Print help"]

def text (topic : HelpTopic) : String :=
  String.join (topic.lines.map (· ++ "\n"))

end HelpTopic

end SqlStatement
