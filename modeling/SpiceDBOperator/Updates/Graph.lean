import SpiceDBOperator.Api.Types
import SpiceDBOperator.Updates.MemorySource

/-!
# `UpdateGraph` (`pkg/updates/file.go`): channels and `ComputeTarget`

| here | there |
| --- | --- |
| `Channel`, `UpdateGraph` | `Channel`, `UpdateGraph` (file.go:20-34, :94) |
| `defaultChannelForDatastore` | `DefaultChannelForDatastore` (file.go:101) |
| `findChannel`, `sourceForChannel` | `SourceForChannel` (file.go:111) |
| `explodeImage`   | `explodeImage` (file.go:210) |
| `selectChannel`  | the channel fallback of `ComputeTarget` (file.go:242-254) |
| `fetchSource`    | its `updateSource` (file.go:256-263) |
| `locateCurrent`  | its current state and the not-in-channel path (file.go:293-313) |
| `rollOrStep`     | its rollout check (file.go:315-328) and what follows |
| `pinSource`      | its subgraph (file.go:330-342) |
| `takeStep`       | the rest, from the subgraph on (file.go:330-364) |
| `computeTarget`  | `ComputeTarget` (file.go:224); its four results are the fields of `Target` |
| `availableVersions` | `AvailableVersions` (file.go:128); `ownChannelVersions` and `otherChannelVersions` are its two halves |

`updateSource` is an interface and stays nil when the selected channel has the empty name, so each call
through it is a `deref`.
-/

namespace SpiceDBOperator

open Golang

structure Channel where
  name : String := ""
  /-- `none` is the nil map. -/
  metadata : Option (GoMap String) := none
  edges : EdgeSet := ∅
  nodes : List State := []

/-- `c.Metadata[key]`. -/
def Channel.metadataValue (c : Channel) (key : String) : String := (c.metadata.bind (·.lookup key)).getD ""

structure UpdateGraph where
  channels : List Channel := []

inductive UpdateError where
  | noBaseImage
  | noDefaultChannel (datastore : String)
  | noChannel (engine channel : String)
  | source (err : SourceError)
  | channelForDatastore (engine : String) (err : UpdateError)
  | fetchSource (err : UpdateError)
  | versionNotInGraph (version : String)
  | rollingNoState
  | noUpdatePath (current version : String)
  | noSource (channel : String) (err : UpdateError)
deriving DecidableEq, Repr

def UpdateError.textIn (mapsKeys : List String → List String) : UpdateError → String
  | noBaseImage => "no base image specified in cluster spec, startup flag, or operator config"
  | noDefaultChannel datastore => "no channel found for datastore " ++ quote datastore
  | noChannel engine channel => "no channel for " ++ quote engine ++ " found with name " ++ quote channel
  | source err => err.textIn mapsKeys
  | channelForDatastore engine err =>
    "couldn't find channel for datastore " ++ quote engine ++ ": " ++ err.textIn mapsKeys
  | fetchSource err => "error fetching update source: " ++ err.textIn mapsKeys
  | versionNotInGraph version => "version " ++ quote version ++ " is not in the update graph"
  | rollingNoState => "cluster is rolling out, but no current state is defined"
  | noUpdatePath current version => "error finding update path from " ++ current ++ " to " ++ version
  | noSource channel err =>
    "no source found for channel " ++ quote channel ++ ", can't compute available versions: " ++ err.textIn mapsKeys

def UpdateError.text (err : UpdateError) : String := err.textIn id

/-- The results of `ComputeTarget`; the call succeeded when `err` is `none`. -/
structure Target where
  baseImage : String := ""
  target : Option SpiceDBVersion := none
  state : State := {}
  err : Option UpdateError := none
deriving DecidableEq

def explodeImage (image : String) : String × String × String :=
  let (imageMaybeTag, digest, hasDigest) := cut image '@'
  let digest := if hasDigest then digest else ""
  let (baseImage, tag, hasTag) := cut imageMaybeTag ':'
  let tag := if hasTag then tag else ""
  (baseImage, tag, digest)

namespace UpdateGraph

/-! ## Channels -/

def defaultChannelForDatastore (g : UpdateGraph) (datastore : String) : Except UpdateError String :=
  match g.channels.find? fun c =>
      equalFold (c.metadataValue "datastore") datastore && equalFold (c.metadataValue "default") "true" with
  | some c => .ok c.name
  | none => .error (.noDefaultChannel datastore)

def findChannel (g : UpdateGraph) (engine channel : String) : Option Channel :=
  g.channels.find? fun c => equalFold c.name channel && equalFold (c.metadataValue "datastore") engine

def sourceForChannel (g : UpdateGraph) (engine channel : String) : Go (Except UpdateError MemorySource) :=
  match g.findChannel engine channel with
  | some c => do
    match ← newMemorySource c.nodes c.edges with
    | .ok source => .ok (.ok source)
    | .error err => .ok (.error (.source err))
  | none => .ok (.error (.noChannel engine channel))

/-! ## `ComputeTarget` -/

def selectChannel (g : UpdateGraph) (channel engine : String) (currentVersion : Option SpiceDBVersion) :
    Except UpdateError String :=
  let channel := if channel = "" then (currentVersion.map (·.channel)).getD "" else channel
  if channel = "" then
    match g.defaultChannelForDatastore engine with
    | .ok channel => .ok channel
    | .error err => .error (.channelForDatastore engine err)
  else .ok channel

def fetchSource (g : UpdateGraph) (engine channel : String) : Go (Except UpdateError (Option MemorySource)) :=
  if channel ≠ "" then do
    match ← g.sourceForChannel engine channel with
    | .ok source => .ok (.ok (some source))
    | .error err => .ok (.error (.fetchSource err))
  else .ok (.ok none)

/-- The state of the current version, the target to start with, and whether the current version is
missing in the selected channel. -/
def locateCurrent (g : UpdateGraph) (engine : String) (updateSource : Option MemorySource)
    (currentVersion : SpiceDBVersion) (target : SpiceDBVersion) :
    Go (Except UpdateError (State × SpiceDBVersion × Bool)) := do
  let currentState ← (← deref updateSource).state currentVersion.name
  if currentState.id = "" then
    match ← g.sourceForChannel engine currentVersion.channel with
    | .error err => .ok (.error (.fetchSource err))
    | .ok source => do
      let currentState ← source.state currentVersion.name
      .ok (.ok (currentState,
        { target with
          channel := currentVersion.channel
          attributes := target.attributes ++ [SpiceDBVersionAttributes.notInChannel] },
        true))
  else .ok (.ok (currentState, target, false))

/-- Re-root the source at a pinned version. -/
def pinSource (version : String) (updateSource : Option MemorySource) (currentVersion : Option SpiceDBVersion)
    (notInChannel : Bool) : Go (Except SourceError (Option MemorySource)) :=
  if currentVersion.isSome ∧ version ≠ "" ∧ notInChannel = false then do
    match ← (← deref updateSource).subgraph version with
    | .ok sub => .ok (.ok (some sub))
    | .error err => .ok (.error err)
  else .ok (.ok updateSource)

def takeStep (baseImage version : String) (updateSource : Option MemorySource)
    (currentVersion : Option SpiceDBVersion) (currentState : State) (target : SpiceDBVersion) (notInChannel : Bool) :
    Go Target := do
  match ← pinSource version updateSource currentVersion notInChannel with
  | .error _ =>
    .ok { baseImage, target := some target
          err := some (.noUpdatePath ((currentVersion.map (·.name)).getD "") version) }
  | .ok updateSource =>
    let current := (currentVersion.map (·.name)).getD ""
    let updateSource ← deref updateSource
    if current ≠ "" then
      let targetVersion := updateSource.nextVersion current
      if targetVersion = "" then .ok { baseImage, target := some target, state := currentState }
      else
        let direct ← updateSource.nextVersionWithoutMigrations current
        let state ← updateSource.state targetVersion
        let attributes :=
          if targetVersion ≠ direct then [SpiceDBVersionAttributes.migration] else target.attributes
        .ok { baseImage, target := some { target with attributes, name := state.id }, state }
    else
      let state ← updateSource.state (updateSource.latestVersion "")
      .ok { baseImage, state
            target := some { target with attributes := [SpiceDBVersionAttributes.migration], name := state.id } }

/-- The rollout check and, past it, the step. -/
def rollOrStep (baseImage version : String) (updateSource : Option MemorySource) (currentVersion : SpiceDBVersion)
    (rolling : Bool) (currentState : State) (target : SpiceDBVersion) (notInChannel : Bool) : Go Target :=
  if rolling then
    if currentState.id = "" then .ok { baseImage, err := some .rollingNoState }
    else .ok { baseImage, target := some target, state := currentState }
  else takeStep baseImage version updateSource (some currentVersion) currentState target notInChannel

/-- `ComputeTarget` once the channel is selected and its source is there (file.go:265-365). -/
def targetFrom (g : UpdateGraph) (baseImage version channel engine : String)
    (currentVersion : Option SpiceDBVersion) (rolling : Bool) (updateSource : Option MemorySource) : Go Target :=
  let target := currentVersion.getD {}
  let target := if channel ≠ "" then { target with channel } else target
  if version ≠ "" ∧ (currentVersion.map (·.name)).getD "" = "" then do
    let state ← (← deref updateSource).state version
    if state.id = "" then .ok { baseImage, target := some target, err := some (.versionNotInGraph version) }
    else
      .ok { baseImage, state
            target := some { target with name := state.id, attributes := [SpiceDBVersionAttributes.migration] } }
  else match currentVersion with
    | none =>
      if rolling then .ok { baseImage, err := some .rollingNoState }
      else takeStep baseImage version updateSource none {} target false
    | some v =>
      if v.name = version ∧ v.channel = channel then do
        let state ← (← deref updateSource).state v.name
        .ok { baseImage, target := some target, state }
      else do
        match ← g.locateCurrent engine updateSource v target with
        | .error err => .ok { baseImage, target := some target, err := some err }
        | .ok (currentState, target, notInChannel) =>
          rollOrStep baseImage version updateSource v rolling currentState target notInChannel

def computeTarget (g : UpdateGraph) (operatorImageName clusterBaseImage image version channel engine : String)
    (currentVersion : Option SpiceDBVersion) (rolling : Bool) : Go Target :=
  let (explodedBaseImage, tag, digest) := explodeImage image
  if digest ≠ "" ∨ tag ≠ "" then .ok { baseImage := explodedBaseImage, state := { tag, digest } }
  else
    let baseImage := cmpOr [explodedBaseImage, clusterBaseImage, operatorImageName]
    if baseImage = "" then .ok { baseImage, err := some .noBaseImage }
    else match g.selectChannel channel engine currentVersion with
      | .error err => .ok { baseImage, err := some err }
      | .ok channel => do
        match ← g.fetchSource engine channel with
        | .error err => .ok { baseImage, err := some err }
        | .ok updateSource => g.targetFrom baseImage version channel engine currentVersion rolling updateSource

/-! ## `AvailableVersions` -/

/-- The direct update, the next version if that is another one, and the head if it is neither. -/
def ownChannelVersions (channel nextWithoutMigrations next latest : String) : List SpiceDBVersion :=
  let headOfChannel (name : String) (v : SpiceDBVersion) : SpiceDBVersion :=
    if name = latest then
      { v with
        description := v.description ++ ", head of channel"
        attributes := v.attributes ++ [SpiceDBVersionAttributes.latest] }
    else v
  (if nextWithoutMigrations ≠ "" then
    [headOfChannel nextWithoutMigrations
      { name := nextWithoutMigrations, channel, attributes := [SpiceDBVersionAttributes.next]
        description := "direct update with no migrations" }]
  else []) ++
  (if next ≠ "" ∧ next ≠ nextWithoutMigrations then
    [headOfChannel next
      { name := next, channel, attributes := [SpiceDBVersionAttributes.next, SpiceDBVersionAttributes.migration]
        description := "update will run a migration" }]
  else []) ++
  (if latest ≠ "" ∧ next ≠ latest ∧ nextWithoutMigrations ≠ latest then
    [{ name := latest, channel, attributes := [SpiceDBVersionAttributes.latest, SpiceDBVersionAttributes.migration]
       description := "head of the channel, multiple updates will run in sequence" }]
  else [])

/-- The safest update in one other channel. The engine is compared exactly here. -/
def otherChannelVersion (g : UpdateGraph) (engine : String) (v : SpiceDBVersion) (c : Channel) :
    Go (Option SpiceDBVersion) :=
  if c.name = v.channel ∨ c.metadataValue "datastore" ≠ engine then .ok none
  else do
    match ← g.sourceForChannel engine c.name with
    | .error _ => .ok none
    | .ok source => do
      let direct ← source.nextVersionWithoutMigrations v.name
      let next := source.nextVersion v.name
      if direct ≠ "" then
        .ok (some { name := direct, channel := c.name, attributes := [SpiceDBVersionAttributes.next]
                    description := "direct update with no migrations, different channel" })
      else if next ≠ "" then
        .ok (some { name := next, channel := c.name
                    attributes := [SpiceDBVersionAttributes.next, SpiceDBVersionAttributes.migration]
                    description := "update will run a migration, different channel" })
      else .ok none

def otherChannelVersions (g : UpdateGraph) (engine : String) (v : SpiceDBVersion) :
    List Channel → Go (List SpiceDBVersion)
  | [] => .ok []
  | c :: rest => do
    let found ← g.otherChannelVersion engine v c
    let others ← g.otherChannelVersions engine v rest
    .ok (found.toList ++ others)

def availableVersions (g : UpdateGraph) (engine : String) (v : SpiceDBVersion) :
    Go (Except UpdateError (List SpiceDBVersion)) := do
  match ← g.sourceForChannel engine v.channel with
  | .error err => .ok (.error (.noSource v.channel err))
  | .ok source => do
    let nextWithoutMigrations ← source.nextVersionWithoutMigrations v.name
    let own := ownChannelVersions v.channel nextWithoutMigrations (source.nextVersion v.name)
      (source.latestVersion v.name)
    let others ← g.otherChannelVersions engine v g.channels
    .ok (.ok (own ++ others))

end UpdateGraph

end SpiceDBOperator
