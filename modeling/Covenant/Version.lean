/-!
# The version of the library

A distribution that is installed knows its version; one that is not reports
the version of nothing released.
-/

namespace Covenant

/-- The name under which the distribution is installed. -/
def distribution : String := "pactum"

/-- The version reported where no distribution is installed. -/
def unknownVersion : String := "0.0.0"

/-- The version of the installed distribution. -/
def installedVersion : String := "0.3.0"

/-- **The version to report**, given what the distribution's metadata
says. -/
def reportedVersion (metadata : Option String) : String := metadata.getD unknownVersion

end Covenant
