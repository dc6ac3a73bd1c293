/-!
# Runtime versions and SA-MP builds

`version.hpp` and `version.cpp`. A scoped enumeration of the source holds any value of its underlying
type, named or not, so the enumerations that travel on the wire wrap that type.
-/

namespace CustomModels.Shared

structure RuntimeVersion where
  major : UInt16
  minor : UInt16
  patch : UInt16
  deriving DecidableEq

def kRuntimeVersion : RuntimeVersion := ⟨0, 2, 0⟩

/-- `enum class SampVersion : std::uint8_t`. -/
structure SampVersion where
  value : UInt8
  deriving DecidableEq

namespace SampVersion

def unknown : SampVersion := ⟨0⟩
def r1 : SampVersion := ⟨1⟩
def r2 : SampVersion := ⟨2⟩
def r3 : SampVersion := ⟨3⟩
def r31 : SampVersion := ⟨4⟩
def r4 : SampVersion := ⟨5⟩
def r42 : SampVersion := ⟨6⟩
def r4Family : SampVersion := ⟨7⟩

end SampVersion

structure SampBuildInfo where
  version : SampVersion
  entryPoint : UInt32
  name : String

def kKnownBuilds : List SampBuildInfo :=
  [⟨.r1, 0x31DF13, "SA-MP 0.3.7 R1"⟩,
   ⟨.r2, 0x3195DD, "SA-MP 0.3.7 R2"⟩,
   ⟨.r31, 0x0CC4D0, "SA-MP 0.3.7 R3-1"⟩,
   ⟨.r4, 0x0CBCB0, "SA-MP 0.3.7 R4"⟩,
   ⟨.r4Family, 0x0CBCD0, "SA-MP 0.3.7 R4-family"⟩]

/-- `FindSampBuild(SampVersion)`: the first record of the build, `none` for the null pointer. -/
def findSampBuild (version : SampVersion) : Option SampBuildInfo :=
  kKnownBuilds.find? fun build => build.version = version

end CustomModels.Shared
