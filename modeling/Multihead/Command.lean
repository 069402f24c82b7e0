import Multihead.Edit

/-!
# Commands

What the program can be asked to do.
-/

namespace Multihead

/-- A request to the program. Where a layout file is not given, the one of the settings is used. -/
inductive Command
  /-- List the monitors of a layout. -/
  | layout (file : Option FilePath)
  /-- Show the frame buffer for a selection, which is the saved one unless another is given. -/
  | resolve (file : Option FilePath) (selection : Option String)
  /-- Check a selection text and show its canonical form. -/
  | parse (text : String)
  /-- Edit the saved selection. In a dry run the result is only shown. -/
  | select (file : Option FilePath) (edit : Edit) (dryRun : Bool)
  /-- Show the settings in use. -/
  | check
deriving DecidableEq, Repr

/-- A command and what is said about its surroundings. -/
structure Invocation where
  /-- Whether to log more than the settings ask for. -/
  verbose : Bool
  /-- The settings file to use instead of the usual one. -/
  settingsFile : Option FilePath
  command : Command
deriving DecidableEq, Repr

end Multihead
