import SqlTemplate.CommandLine.Options

/-! The help texts of the command line. -/

namespace SqlTemplate.CommandLine.HelpTopic

def lines : HelpTopic → List String
  | .root =>
    ["sqltpl - render SQL query templates",
      "",
      "USAGE:",
      "    sqltpl <COMMAND> [OPTIONS]",
      "",
      "COMMANDS:",
      "    render    Render a template with JSON arguments",
      "    check     Validate a template and list its placeholders",
      "",
      "Run `sqltpl <COMMAND> --help` for details.",
      "Set SQLTPL_LOG (e.g. `debug`) to see build events on stderr."]
  | .render =>
    ["sqltpl render - render a template with JSON arguments",
      "",
      "USAGE:",
      "    sqltpl render <TEMPLATE> [--args <JSON>] [OPTIONS]",
      "",
      "OPTIONS:",
      "    --template <T>          Template text (alternative to the positional form)",
      "    --template-file <PATH>  Read the template from a file (`-` for stdin)",
      "    --args <JSON>           JSON array of arguments (default: [])",
      "    --args-file <PATH>      Read the JSON array from a file (`-` for stdin)",
      "    --dialect <NAME>        mysql (default) or ansi",
      "    --skip-token <S>        Top-level string treated as skip() (default: __SKIP__)",
      "    --config <PATH>         Config file (default: sqltpl.toml if present)"]
  | .check =>
    ["sqltpl check - validate a template without arguments",
      "",
      "USAGE:",
      "    sqltpl check <TEMPLATE>",
      "    sqltpl check --template-file <PATH>"]

def text (topic : HelpTopic) : String :=
  String.join (topic.lines.map (· ++ "\n"))

end SqlTemplate.CommandLine.HelpTopic
