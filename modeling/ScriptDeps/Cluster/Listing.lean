import ScriptDeps.Text.Basic

namespace ScriptDeps.Cluster

/-! # The listing script

The script that runs in the container and lists its modules.
-/

/-- The lines of the script. -/
def listingLines : List String :=
  ["'use strict';",
   "",
   "// Runs inside the target container and reports every module a webtask can",
   "// require without declaring it.",
   "",
   "const Path = require('path');",
   "",
   "const nativeModuleNames = Object.keys(process.binding('natives'));",
   "const verquireModules = require(",
   "    Path.join(process.env.VERQUIRE_DIR, 'packages.json')",
   ");",
   "",
   "module.exports = cb => cb(null, \x7b nativeModuleNames, verquireModules \x7d);"]

/-- The script. -/
def listingScript : Text := listingLines.flatMap fun l => Text.lit l ++ [0x0A]

end ScriptDeps.Cluster
