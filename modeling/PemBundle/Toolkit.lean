import PemBundle.Logging
import PemBundle.Session
import PemBundle.Settings

/-!
# Toolkits

A toolkit is bound to settings: they decide the order of certificates in bundles and the format hint
for keys. Making one configures logging at the level of the settings, for the whole process.
-/

namespace PemBundle

/-- A toolkit: what it reads bundles by, and its format hint for keys. -/
structure Toolkit where
  chainOrder : ChainOrder
  keyFormat : CodeText
  deriving DecidableEq

namespace Toolkit

/-- The event that tells of a toolkit of the given settings. -/
def configured (s : Settings) : Event :=
  .toolkitConfigured s.logLevel s.chainOrder (if s.keyFormat = "" then "default" else s.keyFormat)

/-- Configures logging by the settings and makes a toolkit of them. -/
def create (s : Settings) : Process Toolkit := do
  Process.configure s.logLevel.rank
  report (configured s)
  pure ⟨s.chainOrder, s.keyFormat⟩

/-- The toolkit of the settings that the sources give. -/
def bootstrap (sources : Settings.Sources) : Process (Outcome Toolkit) :=
  (Settings.load sources).mapM create

/-- The step with the toolkit's settings in place of its own. -/
def adapt (toolkit : Toolkit) : Step → Step
  | .build certificate key password _ =>
      .build certificate key password (some toolkit.keyFormat)
  | .addKey key password _ => .addKey key password (some toolkit.keyFormat)
  | .parse _ data => .parse toolkit.chainOrder data
  | .exportBundle _ data => .exportBundle toolkit.chainOrder data
  | step => step

/-- What a step answers under the toolkit's settings. -/
def run (toolkit : Toolkit) (protection : Protection) (current : Credentials) (step : Step) :
    Process Reply :=
  ((toolkit.adapt step).run (KeyEncoder.standard protection) current).replay

end Toolkit

end PemBundle
