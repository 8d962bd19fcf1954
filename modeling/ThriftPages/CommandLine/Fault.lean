/-
# Faults of a run

Why a run fails: its command line is not understood, or something goes wrong on
the way from the settings to the output.

Key definitions: `RunFault`, `RunFault.message`, `Report`.
-/
import ThriftPages.CommandLine.Arguments
import ThriftPages.Formats.Registry
import ThriftPages.Settings.Fault
import ThriftPages.SyntaxTree.Load

namespace ThriftPages

/-- What can go wrong with a command line that was understood. -/
inductive RunFault
  | settings (fault : SettingsFault)
  | inputRequired
  | format (fault : FormatError)
  | reading (path : String) (fault : FileFault)
  | loading (error : LoadError)
  | writing (path : String) (fault : FileFault)

/-- The fault in words. -/
def RunFault.message : RunFault → String
  | settings fault => "Failed to load configuration: " ++ fault.message
  | inputRequired => "Error: an input file is required. Use --help for usage information."
  | format fault => "Error: " ++ fault.message
  | reading path fault => "Error reading file '" ++ path ++ "': " ++ fault.message
  | loading error => "Error: Parse error: " ++ error.message
  | writing path fault => "Error writing file '" ++ path ++ "': " ++ fault.message

/-- What is reported of a run that fails. -/
inductive Report
  | usage (fault : UsageFault)
  | fault (fault : RunFault)

end ThriftPages
