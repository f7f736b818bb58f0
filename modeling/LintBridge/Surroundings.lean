import LintBridge.Config.Environment
import LintBridge.Console.Table
import LintBridge.Path.Lexical
/-!
What stands around the program while it runs and does not change.
-/
namespace LintBridge

structure Surroundings where
  /-- The user's configuration file. -/
  userFile : FilePath
  environment : Config.Environment
  /-- The linter that comes with the program. -/
  packaged : String
  /-- What the reports for people are written on. -/
  console : Console.Writer

end LintBridge
