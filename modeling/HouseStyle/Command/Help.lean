import HouseStyle.Command.Arguments

/-!
# Help

The explanation of the program: how it is called, what each argument does and what the exit codes
mean.
-/

namespace HouseStyle

/-- What a switch does. -/
def Switch.summary : Switch → String
  | verbose => "Increase output verbosity (may be repeated)"
  | quiet => "Suppress the report on stdout"
  | noConfig => "Skip loading configuration file"
  | requireHeader => "Require the header marker on the first line"
  | requireLog => "Require the log marker somewhere in the file"
  | magicNumbers => "Report numeric literals other than 0 and 1"
  | warnOnly => "Report violations but exit with success"
  | help => "Print help"
  | version => "Print version"

/-- What a parameter does. -/
def Parameter.summary : Parameter → String
  | colour => "Control color output: auto, always or never"
  | config => "Path to configuration file"
  | maxLineLength => "Maximum characters per line (overrides config)"
  | maxMethodLength => "Maximum body lines per method (overrides config)"
  | format => "Output format: text or json"
  | output => "Write output to file instead of stdout"

/-- What a named argument does. -/
def Named.summary : Named → String
  | switch s => s.summary
  | parameter p => p.summary

/-- The two lines on a named argument. -/
def Named.help (a : Named) : String :=
  let short :=
    match a.letter? with
    | some c => "  -" ++ String.ofList [c] ++ ", "
    | none => "      "
  short ++ a.shown ++ "\n          " ++ a.summary ++ "\n"

/-- The explanation of the program. -/
def helpText : String :=
  "Check a source file against the house-style commandments\n\n"
    ++ "Usage: commandments [OPTIONS] [FILES]...\n\nOptions:\n"
    ++ String.join (Named.all.map Named.help)
    ++ "\nExit codes:\n  0 - No violations\n  1 - Violations found\n"
    ++ "  2 - Usage, file or configuration error\n"

end HouseStyle
