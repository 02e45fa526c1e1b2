/-! # The version of the library -/

namespace AssetAccess

/-- The version of the library. -/
def libraryVersion : String := "0.1.0"

end AssetAccess
