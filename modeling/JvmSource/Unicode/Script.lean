import JvmSource.Unicode.CharSet
import JvmSource.Unicode.Script.Current
import JvmSource.Unicode.Script.Extensions
import JvmSource.Unicode.Script.Historic

/-!
# Scripts and the characters used with them

Every character belongs to one script. Some characters of one script are used with others; those
have a list of scripts, which then takes the place of their own script.
-/

namespace JvmSource.Unicode.Script

/-- The script with a name. -/
def find? (name : String) : Option Script :=
  (currentScripts ++ historicScripts).find? (·.names.contains name)

/-- The characters of a script. -/
def set (script : Script) : CharSet := .ofRanges script.ranges

/-- The characters that are used with a script. -/
def users (script : Script) : CharSet :=
  let listed : CharSet := .ofRanges (scriptExtensions.flatMap (·.1))
  let users := scriptExtensions.filter fun entry => entry.2.any (script.names.contains ·)
  (script.set.difference listed).union (.ofRanges (users.flatMap (·.1)))

end JvmSource.Unicode.Script
