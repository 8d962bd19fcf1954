/-
# Help

The texts that the program shows about itself.

Key definitions: `Help.short`, `Help.long`, `Help.version`,
`Help.formatLines`.
-/
import ThriftPages.Formats.Registry

namespace ThriftPages.Help

/-- Lines, each with its end. -/
def lines (texts : List String) : String := String.join (texts.map (· ++ "\n"))

/-- The version of the program. -/
def version : String := lines ["thriftdoc 0.1.0"]

/-- The line that shows how the program is called. -/
def usage : String := "Usage: thriftdoc [OPTIONS] [input]"

/-- The options at a glance. -/
def short : String := lines [
  "Render parsed Thrift IDL documents as markdown",
  "",
  usage,
  "",
  "Arguments:",
  "  [input]  Path to the parsed Thrift document (JSON)",
  "",
  "Options:",
  "      --to <to>          Output format (defaults to the configured format)",
  "  -o, --output <output>  Output file path (defaults to stdout)",
  "      --name <name>      Document name used for the title (defaults to the input file name)",
  "      --no-toc           Do not emit the table-of-contents marker",
  "      --config <PATH>    Path to a thriftdoc.toml configuration file",
  "      --list-formats     List available output formats",
  "  -h, --help             Print help (see more with '--help')",
  "  -V, --version          Print version"]

/-- What the program does, with examples, and its options one by one. -/
def long : String := lines [
  "thriftdoc turns the JSON syntax tree of a Thrift IDL file into a markdown",
  "reference page: namespaces, typedefs, constants, enumerations, structures",
  "and services.",
  "",
  "Examples:",
  "  thriftdoc meta.thrift.json                    # Markdown to stdout",
  "  thriftdoc meta.thrift.json -o meta.md         # Markdown to a file",
  "  thriftdoc meta.thrift.json --to json          # Document tree as JSON",
  "  thriftdoc meta.thrift.json --no-toc           # Without the TOC marker",
  "",
  usage,
  "",
  "Arguments:",
  "  [input]",
  "          Path to the parsed Thrift document (JSON)",
  "",
  "Options:",
  "      --to <to>",
  "          Output format (defaults to the configured format)",
  "",
  "  -o, --output <output>",
  "          Output file path (defaults to stdout)",
  "",
  "      --name <name>",
  "          Document name used for the title (defaults to the input file name)",
  "",
  "      --no-toc",
  "          Do not emit the table-of-contents marker",
  "",
  "      --config <PATH>",
  "          Path to a thriftdoc.toml configuration file",
  "",
  "      --list-formats",
  "          List available output formats",
  "",
  "  -h, --help",
  "          Print help (see a summary with '-h')",
  "",
  "  -V, --version",
  "          Print version"]

/-- The width of the column of names. -/
def nameWidth : Nat := 10

/-- A name, filled up with blanks to the width of its column. -/
def padded (name : String) : String :=
  name ++ String.ofList (List.replicate (nameWidth - name.length) ' ')

/-- The line of a format; one without a description has its name alone. -/
def formatLine (format : Format) : String :=
  if format.description.isEmpty then "  " ++ format.name
  else "  " ++ padded format.name ++ " " ++ format.description

/-- The formats of a registry, line by line. -/
def formatLines (registry : Registry) : List String :=
  "Available formats:" :: registry.formats.map formatLine

end ThriftPages.Help
