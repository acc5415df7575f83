import BenchChart.Path
import BenchChart.Toml.Value

/-!
# What can be wrong with the configuration
-/

namespace BenchChart

namespace Config

inductive Error where
  | unreadable (file : Path) (cause : Toml.Error)
  | unconvertible (key expected : String)
  deriving DecidableEq

def Error.message : Error → String
  | .unreadable file cause => file.display ++ ": " ++ cause.message
  | .unconvertible key expected => "value of '" ++ key ++ "' is not " ++ expected

end Config

end BenchChart
