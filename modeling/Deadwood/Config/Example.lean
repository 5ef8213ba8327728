/-
An example of a configuration file.
-/
import Deadwood.Files.Path

namespace Deadwood.Config

/-- The name under which the example is written. -/
def examplePath : Path := .ofText "deadfn.yaml"

/-- The lines of the example. -/
def exampleLines : List String := [
  "# deadfn configuration",
  "paths:",
  "  - \".\"",
  "format: \"report\"       # plain | json | report",
  "# output: \"deadfn_results\"",
  "strict: false",
  "",
  "exclude:",
  "  - \"vendor/**\"",
  "  - \"**/generated/**\"",
  "",
  "# Functions that must never be reported (fnmatch on the full path)",
  "ignore:",
  "  - \"*::__private_*\"",
  "",
  "roots:",
  "  # visibilities that make a function an entry point",
  "  visibilities: [\"public\"]",
  "  entry_names: [\"main\"]",
  "  include_tests: true        # #[test], #[tokio::test], #[bench] ...",
  "  include_ffi: true          # #[no_mangle], #[export_name]",
  "  include_trait_impls: true  # methods of `impl Trait for Type` and trait defaults",
  "  # extra roots: exact path, path suffix or fnmatch pattern",
  "  keep_alive:",
  "    - \"plugin::register\""]

/-- The text of the example. -/
def exampleText : String :=
  String.join (exampleLines.map (· ++ "\n"))

end Deadwood.Config
