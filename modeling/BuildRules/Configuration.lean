import BuildRules.Artifact
import BuildRules.Digest.Sha256
import BuildRules.NameMap

/-!
# Configurations

A configuration says how a target is built: for which platform, with which make
variables, and whether for the host. Configurations are compared by value. The cache
key is a digest of `keyBytes`, the name, the mnemonic, the two flags and the make
variables in name order, each part closed by a zero byte.
-/

set_option autoImplicit false

namespace BuildRules

/-- How a target is built. -/
structure Configuration where
  name : String
  mnemonic : String
  isHost : Bool := false
  buildRunfiles : Bool := true
  makeVariables : NameMap String := ∅
  deriving DecidableEq

namespace Configuration

def outputBase : String := "ruleview-out"

/-- The configuration with one more make variable; an earlier value of it is replaced. -/
def withMakeVariable (configuration : Configuration) (name value : String) : Configuration :=
  { configuration with makeVariables := configuration.makeVariables.insert name value }

def makeVariable? (configuration : Configuration) (name : String) : Option String :=
  configuration.makeVariables.find? name

def bytesOf (text : String) : List UInt8 := text.toUTF8.data.toList

def flagByte (flag : Bool) : UInt8 := if flag then 1 else 0

/-- The bytes of the make variables in name order. -/
def variableBytes (bindings : List (String × String)) : List UInt8 :=
  bindings.flatMap fun (name, value) => bytesOf name ++ [0x3d] ++ bytesOf value ++ [0]

def keyBytes (configuration : Configuration) : List UInt8 :=
  bytesOf configuration.name ++ [0] ++ bytesOf configuration.mnemonic ++
    [0, flagByte configuration.isHost, flagByte configuration.buildRunfiles] ++
    variableBytes configuration.makeVariables.entries

/-- The number of bytes of the digest that a cache key keeps. -/
def cacheKeyLength : Nat := 8

/-- A byte as two hexadecimal digits in lower case. -/
def hexByte (byte : UInt8) : List Char :=
  [Nat.digitChar (byte.toNat / 16), Nat.digitChar (byte.toNat % 16)]

/-- The short cache key: the first bytes of the digest in hexadecimal. -/
def cacheKey (configuration : Configuration) : String :=
  String.ofList (((Digest.Sha256.digest configuration.keyBytes).take cacheKeyLength).flatMap hexByte)

/-- The root of the binaries that are built in this configuration. -/
def binRoot (configuration : Configuration) : Root :=
  .bin (outputBase ++ "/" ++ configuration.mnemonic ++ "/bin")

/-- The root of the sources that are generated in this configuration. -/
def genfilesRoot (configuration : Configuration) : Root :=
  .genfiles (outputBase ++ "/" ++ configuration.mnemonic ++ "/genfiles")

def display (configuration : Configuration) : String :=
  configuration.name ++ " (" ++ configuration.mnemonic ++ ")"

end Configuration

end BuildRules
