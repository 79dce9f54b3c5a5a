import SyntaxCheck.Text.Lines

/-!
# Help

The texts that explain the command line, in brief and at length.
-/

namespace SyntaxCheck.CommandLine

def shortHelp : String :=
  unlines [
    "Recursively check Python files for syntax errors",
    "",
    "Usage: pycheck [OPTIONS] [ROOT]",
    "",
    "Arguments:",
    "  [ROOT]  Directory to scan [default: .]",
    "",
    "Options:",
    "  -v, --verbose             Enable verbose output",
    "      --json                Output in JSON format (machine-readable)",
    "      --ignore <FRAGMENT>   Skip paths containing this fragment (repeatable)",
    "      --no-default-ignores  Do not apply the built-in ignore fragments",
    "      --config <FILE>       Load settings from a TOML file",
    "      --no-color            Disable colored output",
    "  -h, --help                Print help (see more with '--help')",
    "  -V, --version             Print version"]

def longHelp : String :=
  unlines [
    "Recursively check Python files for syntax errors.",
    "",
    "Every .py file under ROOT is parsed without being executed.",
    "Paths containing an ignore fragment (.git, __pycache__, .venv,",
    "venv, node_modules) are skipped. Exits 1 if any file fails.",
    "",
    "Usage: pycheck [OPTIONS] [ROOT]",
    "",
    "Arguments:",
    "  [ROOT]",
    "          Directory to scan",
    "          ",
    "          [default: .]",
    "",
    "Options:",
    "  -v, --verbose",
    "          Enable verbose output",
    "",
    "      --json",
    "          Output in JSON format (machine-readable)",
    "",
    "      --ignore <FRAGMENT>",
    "          Skip paths containing this fragment (repeatable)",
    "",
    "      --no-default-ignores",
    "          Do not apply the built-in ignore fragments",
    "",
    "      --config <FILE>",
    "          Load settings from a TOML file",
    "",
    "      --no-color",
    "          Disable colored output",
    "",
    "  -h, --help",
    "          Print help (see a summary with '-h')",
    "",
    "  -V, --version",
    "          Print version"]

def versionText : String :=
  "pycheck 0.1.0\n"

end SyntaxCheck.CommandLine
