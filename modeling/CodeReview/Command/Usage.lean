import CodeReview.Command.Arguments
import CodeReview.Severity

/-!
What can stand on the command line, and the help about it.
-/

namespace CodeReview.Command

/-- The names among which one is chosen, as the help writes them. -/
def oneOf (choices : List Text) : Text :=
  "\x7b" ++ Text.join "," choices ++ "\x7d"

def formats : List Text :=
  ["terminal", "json", "markdown", "html"]

def severities : List Text :=
  Severity.all.map Severity.toText

def commands : List Text :=
  ["review", "check", "init"]

def versionText : Text :=
  "Paila SDK v0.1.0"

def helpOption : OptionSpec :=
  { key := "help", names := ["-h", "--help"], effect := .help }

def switch (key name : Text) : OptionSpec :=
  { key := key, names := [name], effect := .switch }

/-- The part before a command. -/
def general : Grammar where
  program := "paila"
  version := versionText
  options := [helpOption, { key := "version", names := ["--version", "-v"], effect := .version }]
  operand := .command commands
  usage := ["usage: paila [-h] [--version] " ++ oneOf commands ++ " ..."]
  details :=
    ["AI-Powered Code Review SDK",
      [],
      "positional arguments:",
      "  " ++ oneOf commands ++ "  Commands",
      "    review             Review code for issues",
      "    check              Quick check with pass/fail exit code",
      "    init               Initialize Paila configuration file",
      [],
      "options:",
      "  -h, --help           show this help message and exit",
      "  --version, -v        show program's version number and exit",
      [],
      "Created by Saikrishna Paila"]

def review : Grammar where
  program := "paila review"
  version := versionText
  options :=
    [helpOption,
      { key := "format", names := ["--format", "-f"], effect := .value (some formats) },
      { key := "output", names := ["--output", "-o"], effect := .value none },
      { key := "analyzers", names := ["--analyzers", "-a"], effect := .value none },
      { key := "min-severity", names := ["--min-severity"], effect := .value (some severities) },
      switch "no-parallel" "--no-parallel",
      switch "ai" "--ai",
      switch "strict" "--strict",
      switch "relaxed" "--relaxed",
      switch "security-only" "--security-only"]
  operand := .one "path"
  usage :=
    ["usage: paila review [-h] [--format " ++ oneOf formats ++ "]",
      "                    [--output OUTPUT] [--analyzers ANALYZERS]",
      "                    [--min-severity " ++ oneOf severities ++ "]",
      "                    [--no-parallel] [--ai] [--strict] [--relaxed]",
      "                    [--security-only]",
      "                    path"]
  details :=
    ["positional arguments:",
      "  path                  File or directory to review",
      [],
      "options:",
      "  -h, --help            show this help message and exit",
      "  --format " ++ oneOf formats ++ ", -f " ++ oneOf formats,
      "                        Output format (default: terminal)",
      "  --output OUTPUT, -o OUTPUT",
      "                        Output file path",
      "  --analyzers ANALYZERS, -a ANALYZERS",
      "                        Comma-separated list of analyzers to use",
      "  --min-severity " ++ oneOf severities,
      "                        Minimum severity to report",
      "  --no-parallel         Disable parallel processing",
      "  --ai                  Enable AI-powered explanations",
      "  --strict              Use strict configuration",
      "  --relaxed             Use relaxed configuration",
      "  --security-only       Only run security analyzer"]

def check : Grammar where
  program := "paila check"
  version := versionText
  options :=
    [helpOption, { key := "fail-on", names := ["--fail-on"], effect := .value (some severities) }]
  operand := .one "path"
  usage := ["usage: paila check [-h] [--fail-on " ++ oneOf severities ++ "] path"]
  details :=
    ["positional arguments:",
      "  path                  File or directory to check",
      [],
      "options:",
      "  -h, --help            show this help message and exit",
      "  --fail-on " ++ oneOf severities,
      "                        Minimum severity to fail on"]

def init : Grammar where
  program := "paila init"
  version := versionText
  options := [helpOption]
  operand := .none
  usage := ["usage: paila init [-h]"]
  details := ["options:", "  -h, --help  show this help message and exit"]

end CodeReview.Command
