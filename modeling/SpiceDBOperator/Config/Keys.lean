import SpiceDBOperator.Golang.Any

/-!
# Config keys (`pkg/config/keys.go`)

`spec.config` is decoded into a map; each key is popped, with a default and a type. What is left at the
end is passed through to SpiceDB. A pop returns what it read and the map without the key.

| here | there |
| --- | --- |
| `RawConfig.popText`    | `RawConfig.Pop` (config.go:116) |
| `Key.pop`              | `key[string].pop` (keys.go:28) |
| `IntOrStringKey.pop`   | `intOrStringKey[int32].pop` (keys.go:51) |
| `BoolOrStringKey.pop`  | `boolOrStringKey.pop` (keys.go:93) |
| `MetadataSetKey.pop`   | `metadataSetKey.pop` (keys.go:116) |

Errors and warnings are their texts. The nil map `metadataSetKey.pop` returns for an absent key is the
empty one: it is only ever ranged over.
-/

namespace SpiceDBOperator

open Golang

abbrev RawConfig := GoMap Any

def RawConfig.popText (config : RawConfig) (key : String) : String × RawConfig :=
  match config.lookup key with
  | none => ("", config)
  | some v => (v.text, config.erase key)

structure Key where
  key : String
  defaultValue : String := ""
deriving DecidableEq

def Key.pop (k : Key) (config : RawConfig) : String × RawConfig :=
  match config.lookup k.key with
  | some (.string s) => (s, config.erase k.key)
  | _ => (k.defaultValue, config.erase k.key)

structure IntOrStringKey where
  key : String
  defaultValue : Int
deriving DecidableEq

def IntOrStringKey.pop (k : IntOrStringKey) (config : RawConfig) : (Int × Option String) × RawConfig :=
  match config.lookup k.key with
  | none => ((k.defaultValue, none), config.erase k.key)
  | some v =>
    match parseInt32 v.text with
    | .ok n => ((n, none), config.erase k.key)
    | .error err => ((0, some err), config.erase k.key)

structure BoolOrStringKey where
  key : String
  defaultValue : Bool
deriving DecidableEq

def BoolOrStringKey.pop (k : BoolOrStringKey) (config : RawConfig) : (Bool × Option String) × RawConfig :=
  match config.lookup k.key with
  | none => ((k.defaultValue, none), config.erase k.key)
  | some (.string s) =>
    match parseBool s with
    | .ok b => ((b, none), config.erase k.key)
    | .error err => ((false, some err), config.erase k.key)
  | some (.bool b) => ((b, none), config.erase k.key)
  | some _ => ((false, some ("expected bool or string for key " ++ k.key)), config.erase k.key)

/-! ## Labels and annotations -/

abbrev MetadataSetKey := String

/-- What a labels or annotations setting yields. -/
structure MetadataSet where
  metadata : GoMap String := ∅
  warnings : List String := []
  err : Option String := none

/-- One piece of the text form. -/
def metadataPair (objectType metadataType : String) (set : MetadataSet) (piece : String) : MetadataSet :=
  match cut piece '=' with
  | (k, v, true) => { set with metadata := set.metadata.insert k v }
  | (_, _, false) =>
    { set with
      warnings := set.warnings ++
        ["couldn't parse extra " ++ objectType ++ " " ++ metadataType ++ " " ++ quote piece ++
          ": values should be of the form k=v,k2=v2"] }

/-- One field of the object form. -/
def metadataField (objectType metadataType : String) (set : MetadataSet) (field : String × Any) : MetadataSet :=
  match field.2 with
  | .string v => { set with metadata := set.metadata.insert field.1 v }
  | v =>
    { set with
      warnings := set.warnings ++ ["couldn't parse extra " ++ objectType ++ " " ++ metadataType ++ " " ++ v.text] }

def splitComma (s : String) : List String := (s.toList.splitOn ',').map String.ofList

def MetadataSetKey.pop (k : MetadataSetKey) (objectType metadataType : String) (config : RawConfig) :
    MetadataSet × RawConfig :=
  match config.lookup k with
  | none => ({}, config.erase k)
  | some (.string s) =>
    (if s = "" then {} else (splitComma s).foldl (metadataPair objectType metadataType) {}, config.erase k)
  | some (.object fields) => (fields.foldl (metadataField objectType metadataType) {}, config.erase k)
  | some _ => ({ err := some ("expected string or map for key " ++ k) }, config.erase k)

example : (splitComma "a=1,b").length = 2 := by decide

/-! ## The keys (config.go:62-100) -/

namespace Key

def image : Key := { key := "image" }
def tlsSecretName : Key := { key := "tlsSecretName" }
def dispatchCA : Key := { key := "dispatchUpstreamCASecretName" }
def dispatchCAFilePath : Key := { key := "dispatchUpstreamCAFilePath", defaultValue := "tls.crt" }
def telemetryCA : Key := { key := "telemetryCASecretName" }
def envPrefix : Key := { key := "envPrefix", defaultValue := "SPICEDB" }
def spiceDBCmd : Key := { key := "cmd", defaultValue := "spicedb" }
def targetMigration : Key := { key := "targetMigration" }
def targetPhase : Key := { key := "datastoreMigrationPhase" }
def logLevel : Key := { key := "logLevel", defaultValue := "info" }
def migrationLogLevel : Key := { key := "migrationLogLevel", defaultValue := "debug" }
def spannerCredentials : Key := { key := "spannerCredentials" }
def datastoreTLSSecret : Key := { key := "datastoreTLSSecretName" }
def datastoreEngine : Key := { key := "datastoreEngine" }
def serviceAccountName : Key := { key := "serviceAccountName" }

def defaultTLSKeyFile : String := "/tls/tls.key"
def defaultTLSCrtFile : String := "/tls/tls.crt"

/-- The TLS paths passed through when `tlsSecretName` is set (config.go:483-493), in order. -/
def tlsPaths : List Key :=
  [{ key := "grpcTLSKeyPath", defaultValue := defaultTLSKeyFile },
   { key := "grpcTLSCertPath", defaultValue := defaultTLSCrtFile },
   { key := "dispatchClusterTLSKeyPath", defaultValue := defaultTLSKeyFile },
   { key := "dispatchClusterTLSCertPath", defaultValue := defaultTLSCrtFile },
   { key := "httpTLSKeyPath", defaultValue := defaultTLSKeyFile },
   { key := "httpTLSCertPath", defaultValue := defaultTLSCrtFile },
   { key := "dashboardTLSKeyPath", defaultValue := defaultTLSKeyFile },
   { key := "dashboardTLSCertPath", defaultValue := defaultTLSCrtFile }]

def pdb : String := "pdb"
def pdbMaxUnavailable : Key := { key := "maxUnavailable" }
def pdbMinAvailable : Key := { key := "minAvailable" }

end Key

namespace BoolOrStringKey

def projectLabels : BoolOrStringKey := { key := "projectLabels", defaultValue := true }
def projectAnnotations : BoolOrStringKey := { key := "projectAnnotations", defaultValue := true }
def dispatchEnabled : BoolOrStringKey := { key := "dispatchEnabled", defaultValue := true }
def skipMigrations : BoolOrStringKey := { key := "skipMigrations", defaultValue := false }
def skipTLSWarning : BoolOrStringKey := { key := "skipTLSWarning", defaultValue := false }
def pdbDisabled : BoolOrStringKey := { key := "disabled", defaultValue := false }

end BoolOrStringKey

namespace IntOrStringKey

def replicas : IntOrStringKey := { key := "replicas", defaultValue := 2 }
def replicasForMemory : IntOrStringKey := { key := "replicas", defaultValue := 1 }

end IntOrStringKey

namespace MetadataSetKey

def extraPodLabels : MetadataSetKey := "extraPodLabels"
def extraPodAnnotations : MetadataSetKey := "extraPodAnnotations"
def extraServiceAccountAnnotations : MetadataSetKey := "extraServiceAccountAnnotations"

end MetadataSetKey

end SpiceDBOperator
