import SpiceDBOperator.Golang.Values
import SpiceDBOperator.Golang.Quote

/-!
# `MemorySource` (`pkg/updates/memory.go`): the update oracle of one channel

A channel is a node list, newest first, and an adjacency list for each node. Queries look a node up
in the `Nodes` index and then index `OrderedNodes` without a check, so they can panic on a source that
`NewMemorySource` did not validate: they are modelled in `Go`.

| here | there |
| --- | --- |
| `State`, `EdgeSet`, `NodeSet` | `updates.State` (file.go:82), `EdgeSet`, `NodeSet` (memory.go:10, :13) |
| `MemorySource` and its queries | `MemorySource` and its methods (memory.go:17-106) |
| `chase`        | the inner `for current := …` loop of `validateAllNodesPathToHead` (memory.go:116-124) |
| `pathsToHead`  | its outer loop (memory.go:110-125) |
| `indexNodes`   | the `nodeSet` loop of `Subgraph` (memory.go:81-84) |
| `buildNodeSet` | the `nodeSet` loop of `NewMemorySource` (memory.go:136-142) |
| `checkEdges`   | the loop over the edge map (memory.go:144-163) |

The chase has no bound in the source. It visits each last edge of the channel at most once, so the
`chaseRounds` given to it here always suffice (`chase_halts` in `Updates.Accept`).
-/

namespace SpiceDBOperator

open Golang

/-- A node of a channel: how to run at that release. -/
structure State where
  id : String := ""
  tag : String := ""
  migration : String := ""
  phase : String := ""
  digest : String := ""
  deprecated : Bool := false
deriving DecidableEq, Repr

abbrev EdgeSet := GoMap (List String)

abbrev NodeSet := GoMap Nat

inductive SourceError where
  | missingNodes
  | missingEdges
  | duplicateNode (id : String)
  | missingNode (id : String)
  | noOutgoingEdges (id : String)
  /-- The visited nodes, in the order of the walk, and the one it came back to. -/
  | cycle (chain : List String)
  | noPath (src head : String)
  | notInGraph (version : String)
deriving DecidableEq, Repr

/-- The text of an error, where `mapsKeys` lists a set in the order of an iteration. -/
def SourceError.textIn (mapsKeys : List String → List String) : SourceError → String
  | missingNodes => "missing nodes"
  | missingEdges => "missing edges"
  | duplicateNode id => "more than one node with ID " ++ id
  | missingNode id => "node list is missing node " ++ id
  | noOutgoingEdges id => id ++ " has no outgoing edges, but it is not the head of the channel"
  | cycle chain => "channel cycle detected: " ++ sliceText (mapsKeys chain.dropLast ++ chain.getLast?.toList)
  | noPath src head => "there is no path from " ++ src ++ " to " ++ head
  | notInGraph version => "version " ++ quote version ++ " is not in the update graph"

/-- The text when the set is listed in the order of the walk. -/
def SourceError.text (err : SourceError) : String := err.textIn id

structure MemorySource where
  /-- Lower index is newer. -/
  orderedNodes : List State
  nodes : NodeSet
  edges : EdgeSet

namespace MemorySource

/-! ## Queries -/

/-- The last edge of `src`, or `""`. -/
def nextVersion (m : MemorySource) (src : String) : String :=
  match m.edges.lookup src with
  | some edges => edges.getLast?.getD ""
  | none => ""

/-- `m.OrderedNodes[m.Nodes[id]]`: an id that is not in the index reads node 0. -/
def nodeAt (m : MemorySource) (id : String) : Go State :=
  index m.orderedNodes ((m.nodes.lookup id).getD 0)

/-- The loop of `NextVersionWithoutMigrations`: it stops at the first edge that needs a migration. -/
def scanUnmigrated (m : MemorySource) (initial : State) : List String → String → Go String
  | [], found => .ok found
  | n :: rest, found => do
    let node ← m.nodeAt n
    if initial.phase = node.phase ∧ initial.migration = node.migration then m.scanUnmigrated initial rest n
    else .ok found

def nextVersionWithoutMigrations (m : MemorySource) (src : String) : Go String := do
  let initial ← m.nodeAt src
  match m.edges.lookup src with
  | some toSet => m.scanUnmigrated initial toSet ""
  | none => .ok ""

def latestVersion (m : MemorySource) (id : String) : String :=
  match m.orderedNodes with
  | [] => ""
  | head :: _ => if id = head.id then "" else head.id

def state (m : MemorySource) (id : String) : Go State :=
  match m.nodes.lookup id with
  | none => .ok {}
  | some i => index m.orderedNodes i

/-! ## `Subgraph` -/

/-- Each node's id to its index; a later node wins. -/
def indexNodes (orderedNodes : List State) : NodeSet :=
  orderedNodes.zipIdx.foldl (fun nodeSet p => nodeSet.insert p.1.id p.2) ∅

def subgraph (m : MemorySource) (head : String) : Go (Except SourceError MemorySource) :=
  match if head = "" then some 0 else m.nodes.lookup head with
  | none => .ok (.error (.notInGraph head))
  | some i => do
    let orderedNodes ← sliceFrom m.orderedNodes i
    let nodeSet := indexNodes orderedNodes
    let edges := mapRestrict (fun src => src ∈ nodeSet) (fun toSet => toSet.filter fun n => n ∈ nodeSet) m.edges
    .ok (.ok { orderedNodes, nodes := nodeSet, edges })

/-! ## Validation -/

/-- Follow last edges from `current` until the head: `some none` on arrival, `some (some err)` on a
cycle or a dead end, `none` if `fuel` rounds were not enough. -/
def chase (m : MemorySource) (src head : String) : Nat → String → List String → Option (Option SourceError)
  | 0, _, _ => none
  | fuel + 1, current, visited =>
    if current = head then some none
    else if current ∈ visited then some (some (.cycle (visited ++ [current])))
    else if current = "" then some (some (.noPath src head))
    else m.chase src head fuel (m.nextVersion current) (visited ++ [current])

def pathsToHead (m : MemorySource) (head : String) (fuel : Nat) : List State → Option (Option SourceError)
  | [] => some none
  | n :: rest =>
    if n.id = head then m.pathsToHead head fuel rest
    else match m.chase n.id head fuel (m.nextVersion n.id) [] with
      | some none => m.pathsToHead head fuel rest
      | r => r

def chaseRounds (m : MemorySource) : Nat := m.edges.entries.length + 2

def validateAllNodesPathToHead (m : MemorySource) : Go (Option SourceError) := do
  let head ← index m.orderedNodes 0
  match m.pathsToHead head.id m.chaseRounds m.orderedNodes with
  | some r => .ok r
  | none => .error .hang

end MemorySource

/-! ## `NewMemorySource` -/

def buildNodeSet : List State → Nat → NodeSet → Except SourceError NodeSet
  | [], _, nodeSet => .ok nodeSet
  | n :: rest, i, nodeSet =>
    if n.id ∈ nodeSet then .error (.duplicateNode n.id)
    else buildNodeSet rest (i + 1) (nodeSet.insert n.id i)

/-- One entry of the edge map: it only names nodes, and only the head may have no updates. -/
def checkEdge (nodeSet : NodeSet) (head : State) (src : String) (toSet : List String) : Option SourceError :=
  if src ∉ nodeSet then some (.missingNode src)
  else match toSet.find? fun dst => dst ∉ nodeSet with
    | some dst => some (.missingNode dst)
    | none => if toSet = [] ∧ src ≠ head.id then some (.noOutgoingEdges src) else none

def checkEdges (nodeSet : NodeSet) (head : State) : List (Sigma fun _ : String => List String) → Option SourceError
  | [] => none
  | e :: rest =>
    match checkEdge nodeSet head e.1 e.2 with
    | some err => some err
    | none => checkEdges nodeSet head rest

def newMemorySourceFromValidatedNodes (nodeSet : NodeSet) (edges : EdgeSet) (nodes : List State) :
    Go (Except SourceError MemorySource) := do
  let source : MemorySource := { nodes := nodeSet, edges, orderedNodes := nodes }
  match ← source.validateAllNodesPathToHead with
  | some err => .ok (.error err)
  | none => .ok (.ok source)

def newMemorySource (nodes : List State) (edges : EdgeSet) : Go (Except SourceError MemorySource) :=
  match nodes with
  | [] => .ok (.error .missingNodes)
  | head :: _ =>
    if edges.entries = [] then .ok (.error .missingEdges)
    else match buildNodeSet nodes 0 ∅ with
      | .error err => .ok (.error err)
      | .ok nodeSet =>
        match checkEdges nodeSet head edges.entries with
        | some err => .ok (.error err)
        | none => newMemorySourceFromValidatedNodes nodeSet edges nodes

end SpiceDBOperator
