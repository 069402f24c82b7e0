import Multihead.Host
import Multihead.Layout.Json

/-!
# Layout files
-/

namespace Multihead.Layout

variable {m : Type → Type} [Monad m] [Host m]

/-- The record that a layout was read. -/
def loaded (path : FilePath) (layout : Layout) : Log.Record :=
  ⟨.debug, .displaySource, "Loaded display layout",
    [("path", .text path), ("displays", .number layout.displays.length)]⟩

def load (path : FilePath) : ExceptT Failure m Layout := do
  let text ← Host.settle (.layoutUnreadable path) (← Host.readText path)
  let layout ← Host.settle (.layoutMalformed path) (Json.parse reader text)
  Host.log (loaded path layout)
  return layout

end Multihead.Layout
