import Mathlib.Data.Set.Function
import SpiceDBOperator.Config.Types

/-!
# Reloading the operator config

The operator reads its config from a file and again whenever the file changes (`loadConfig`, controller.go:298), while
its workers reconcile clusters with copies of it. A reload takes the lock, stores the config, stores the hash of the
file and then adds every cluster of the caches to the queue, namespace after namespace; syncs and informers run in
between, and nothing but the swap of the config is under the lock.

| here | there |
| --- | --- |
| `Loader`       | where the one goroutine is that runs the handlers of the file informer |
| `Sync`         | where a worker is in `syncOwnedResource` (controller.go:368) |
| `waiting`      | the queue: what was added and not handed to a worker since, whatever the rate limiter delays |
| `undelivered`  | the events of the cluster informers that have changed a cache and not been handled yet |
| `seen`         | what the last sync of a cluster has read |

Of client-go this relies on three things. The handlers of one informer run one after the other. A write to the file is
followed by an event, and a change of a cache by the call of a handler. The queue hands a key to one worker at a time
and keeps a key that is added meanwhile.

`reload_reaches_every_cluster`: no change is lost between a reload and the syncs, as long as its lists succeed.
`left_out_stays_behind`: what a failed list leaves out is lost.
-/

namespace SpiceDBOperator

structure ClusterKey where
  nameSpace : String
  name : String
deriving DecidableEq, Repr

/-- What the operator is started with, and the functions of the libraries it calls. -/
structure Startup where
  /-- `NewYAMLOrJSONDecoder`. -/
  decode : String → Option OperatorConfig
  /-- `xxhash.Sum64`. -/
  sum64 : String → UInt64
  baseImage : String
  watchNamespaces : List String

namespace Startup

variable (o : Startup)

/-- Without a list, all namespaces; their name is empty. -/
def namespaces : List String := if o.watchNamespaces = [] then [""] else o.watchNamespaces

/-- The namespace of the cache in which a sync looks a cluster up. -/
def cacheNamespace (nameSpace : String) : String := if o.namespaces = [""] then "" else nameSpace

/-- Its cache, if it is known. -/
def home (key : ClusterKey) : String × ClusterKey := (o.cacheNamespace key.nameSpace, key)

/-- The informers of a namespace see its clusters. -/
def Sees (nameSpace : String) (key : ClusterKey) : Prop :=
  nameSpace ∈ o.namespaces ∧ (nameSpace = "" ∨ nameSpace = key.nameSpace)

instance (nameSpace : String) (key : ClusterKey) :
    Decidable (o.Sees nameSpace key) := inferInstanceAs (Decidable (_ ∧ _))

/-- The namespaces are all, or some that have names. -/
def Watchable : Prop := o.namespaces = [""] ∨ "" ∉ o.namespaces

/-- The config in use: the flag has precedence over the file. -/
def withBaseImage (cfg : OperatorConfig) : OperatorConfig :=
  if o.baseImage ≠ "" then { cfg with imageName := o.baseImage } else cfg

end Startup

inductive Loader where
  | idle
  | decoded (contents : String) (cfg : OperatorConfig)
  /-- The config is stored, the hash not yet. -/
  | stored (contents : String)
  /-- The namespaces still to be listed, and the clusters still to be added. -/
  | requeuing (namespaces : List String) (clusters : List ClusterKey)

inductive Sync where
  | none
  | started
  /-- The cluster is read. -/
  | fetched
  /-- The config is copied. -/
  | copied
deriving DecidableEq

structure Seen where
  revision : Option Nat := none
  config : Option OperatorConfig := none

structure Process where
  /-- The config file. -/
  file : Option String := none
  /-- An event of the file informer is to come. -/
  fileEvent : Bool := false
  loader : Loader := .idle
  config : OperatorConfig := {}
  lastConfigHash : UInt64 := 0
  /-- The caches of clusters, with the namespace each is for. -/
  cached : List (String × ClusterKey) := []
  /-- The objects of the caches, by a number that every change raises. -/
  revision : String × ClusterKey → Nat := fun _ => 0
  undelivered : List ClusterKey := []
  waiting : List ClusterKey := []
  sync : ClusterKey → Sync := fun _ => .none
  seen : ClusterKey → Seen := fun _ => {}
  /-- The contents the config was decoded from. -/
  loaded : Option String := none
  /-- A list failed, and the clusters that were to come were not added. -/
  unlisted : Bool := false
  crashed : Bool := false

inductive Action where
  /-- The file is written, or removed. -/
  | write (contents : Option String)
  /-- The handler of the file informer opens, reads and decodes the file. -/
  | load
  /-- It compares the hash and stores the config. -/
  | storeConfig
  | storeHash
  /-- It adds the next cluster, or lists the next namespace. -/
  | requeue (listed : Bool)
  /-- A cluster is new in a cache, or has changed there. -/
  | observe (nameSpace : String) (key : ClusterKey)
  /-- A cluster is gone from a cache. -/
  | forget (nameSpace : String) (key : ClusterKey)
  /-- The handler of a cluster informer calls `enqueue`. -/
  | deliver (key : ClusterKey)
  /-- `syncExternalResource` adds the cluster of a dependent. -/
  | external (nameSpace : String) (key : ClusterKey)
  /-- A worker takes a key from the queue. -/
  | take (key : ClusterKey)
  | fetch (key : ClusterKey)
  | copy (key : ClusterKey)
  | finish (key : ClusterKey) (requeue : Bool)
  /-- The handlers of a sync panic. -/
  | fault (key : ClusterKey)

/-- The actions of the goroutine that reloads, and of who writes the file. -/
def Action.ByLoader : Action → Prop
  | .write _ | .load | .storeConfig | .storeHash | .requeue _ => True
  | _ => False

namespace Process

def setSync (s : Process) (key : ClusterKey) (phase : Sync) : Process :=
  { s with sync := Function.update s.sync key phase }

def enqueue (s : Process) (key : ClusterKey) : Process := { s with waiting := key :: s.waiting }

/-- `lister.List` of the cache for a namespace. -/
def listed (s : Process) (nameSpace : String) : List ClusterKey :=
  (s.cached.filter (·.1 = nameSpace)).map (·.2)

section

variable (o : Startup) (s : Process)

/-- The first half of `loadConfig`. -/
def load : Process :=
  match s.file with
  | none => { s with crashed := true }
  | some contents =>
    match o.decode contents with
    | none => { s with crashed := true }
    | some cfg => { s with fileEvent := false, loader := .decoded contents cfg }

def storeConfig (contents : String) (cfg : OperatorConfig) : Process :=
  if o.sum64 contents ≠ s.lastConfigHash then
    { s with config := o.withBaseImage cfg, loader := .stored contents, loaded := some contents, unlisted := false }
  else { s with loader := .idle }

/-- `cluster, err := …Get(name)`: an unknown cluster is done with, and there is no lister for a namespace that is not
watched. -/
def fetch (key : ClusterKey) : Process :=
  if o.cacheNamespace key.nameSpace ∉ o.namespaces then { s with crashed := true }
  else if o.home key ∉ s.cached then s.setSync key .none
  else
    { s.setSync key .fetched with
      seen := Function.update s.seen key { s.seen key with revision := some (s.revision (o.home key)) } }

/-- An action that is not possible in a state changes nothing. -/
def act : Action → Process
  | .write contents => { s with file := contents, fileEvent := true }
  | .load =>
    match s.loader with
    | .idle => load o s
    | _ => s
  | .storeConfig =>
    match s.loader with
    | .decoded contents cfg => storeConfig o s contents cfg
    | _ => s
  | .storeHash =>
    match s.loader with
    | .stored contents => { s with lastConfigHash := o.sum64 contents, loader := .requeuing o.namespaces [] }
    | _ => s
  | .requeue ok =>
    match s.loader with
    | .requeuing namespaces (key :: rest) => { s.enqueue key with loader := .requeuing namespaces rest }
    | .requeuing (nameSpace :: rest) [] =>
      if ok then { s with loader := .requeuing rest (s.listed nameSpace) }
      else { s with loader := .idle, unlisted := true }
    | .requeuing [] [] => { s with loader := .idle }
    | _ => s
  | .observe nameSpace key =>
    if o.Sees nameSpace key then
      { s with
        cached := s.cached.insert (nameSpace, key)
        revision := Function.update s.revision (nameSpace, key) (s.revision (nameSpace, key) + 1)
        undelivered := key :: s.undelivered }
    else s
  | .forget nameSpace key => { s with cached := s.cached.filter (· ≠ (nameSpace, key)) }
  | .deliver key => if key ∈ s.undelivered then { s.enqueue key with undelivered := s.undelivered.erase key } else s
  | .external nameSpace key => if o.Sees nameSpace key then s.enqueue key else s
  | .take key =>
    if key ∈ s.waiting ∧ s.sync key = .none then
      { s.setSync key .started with waiting := s.waiting.filter (· ≠ key) }
    else s
  | .fetch key => if s.sync key = .started then fetch o s key else s
  | .copy key =>
    if s.sync key = .fetched then
      { s.setSync key .copied with seen := Function.update s.seen key { s.seen key with config := some s.config } }
    else s
  | .finish key requeue =>
    if s.sync key = .copied then
      let s := s.setSync key .none
      if requeue then s.enqueue key else s
    else s
  | .fault key => if s.sync key = .copied then { s with crashed := true } else s

def run (actions : List Action) : Process :=
  actions.foldl (fun s action => if s.crashed then s else act o s action) s

end

/-! ## What a sync may have missed -/

section

variable (o : Startup)

def Knows (s : Process) (key : ClusterKey) : Prop := o.home key ∈ s.cached

/-- The reload under way has yet to add the cluster. -/
def Owes (s : Process) (key : ClusterKey) : Prop :=
  match s.loader with
  | .stored _ => True
  | .requeuing namespaces clusters => key ∈ clusters ∨ o.cacheNamespace key.nameSpace ∈ namespaces
  | _ => False

/-- A sync of the cluster is to start, or has to read on. -/
def ToFetch (s : Process) (key : ClusterKey) : Prop :=
  key ∈ s.undelivered ∨ key ∈ s.waiting ∨ s.sync key = .started

/-- A cluster that is not about to be read has been read as it is, and with the config that is in use. -/
def UpToDateAt (s : Process) (key : ClusterKey) : Prop :=
  s.Knows o key → (s.ToFetch key ∨ (s.seen key).revision = some (s.revision (o.home key))) ∧
    (s.unlisted = false → s.ToFetch key ∨ s.sync key = .fetched ∨ s.Owes o key ∨ (s.seen key).config = some s.config)

structure UpToDate (s : Process) : Prop where
  watched : ∀ e ∈ s.cached, o.Sees e.1 e.2
  clusters : ∀ key, s.UpToDateAt o key

end

section

variable {o : Startup} {s : Process}

/-- What the reload and the file have to do with. -/
structure SameConfig (s s' : Process) : Prop where
  file : s'.file = s.file
  fileEvent : s'.fileEvent = s.fileEvent
  loader : s'.loader = s.loader
  config : s'.config = s.config
  lastConfigHash : s'.lastConfigHash = s.lastConfigHash
  loaded : s'.loaded = s.loaded
  unlisted : s'.unlisted = s.unlisted

/-- What the informers and the workers have to do with; the queue may have grown. -/
structure SameClusters (s s' : Process) : Prop where
  cached : s'.cached = s.cached
  revision : s'.revision = s.revision
  undelivered : s'.undelivered = s.undelivered
  waiting : s.waiting ⊆ s'.waiting
  sync : s'.sync = s.sync
  seen : s'.seen = s.seen

variable (o s) in
theorem load_cases : load o s = { s with crashed := true } ∨ ∃ contents cfg, s.file = some contents ∧
    o.decode contents = some cfg ∧ load o s = { s with fileEvent := false, loader := .decoded contents cfg } := by
  unfold load
  split
  · exact Or.inl rfl
  · next contents hfile =>
    split
    · exact Or.inl rfl
    · next cfg hcfg => exact Or.inr ⟨contents, cfg, hfile, hcfg, rfl⟩

theorem act_byLoader {action : Action} (h : action.ByLoader) : SameClusters s (act o s action) := by
  cases action with
  | write => exact ⟨rfl, rfl, rfl, List.Subset.refl _, rfl, rfl⟩
  | load | storeConfig | storeHash =>
    simp only [act, load, storeConfig]
    repeat' split
    all_goals exact ⟨rfl, rfl, rfl, List.Subset.refl _, rfl, rfl⟩
  | requeue =>
    simp only [act]
    repeat' split
    all_goals first
      | exact ⟨rfl, rfl, rfl, List.Subset.refl _, rfl, rfl⟩
      | exact ⟨rfl, rfl, rfl, List.subset_cons_self .., rfl, rfl⟩
  | _ => exact h.elim

theorem act_others {action : Action} (h : ¬ action.ByLoader) : SameConfig s (act o s action) := by
  cases action with
  | write | load | storeConfig | storeHash | requeue => exact absurd trivial h
  | forget => exact ⟨rfl, rfl, rfl, rfl, rfl, rfl, rfl⟩
  | observe | deliver | external | take | copy | finish | fault =>
    simp only [act]
    repeat' split
    all_goals exact ⟨rfl, rfl, rfl, rfl, rfl, rfl, rfl⟩
  | fetch =>
    simp only [act, fetch]
    repeat' split
    all_goals exact ⟨rfl, rfl, rfl, rfl, rfl, rfl, rfl⟩

theorem SameClusters.toFetch {s' : Process} (h : SameClusters s s') {key : ClusterKey} (hkey : s.ToFetch key) :
    s'.ToFetch key := by
  rcases hkey with hkey | hkey | hkey
  · exact Or.inl (h.undelivered ▸ hkey)
  · exact Or.inr (Or.inl (h.waiting hkey))
  · exact Or.inr (Or.inr (h.sync ▸ hkey))

theorem mem_listed {nameSpace : String} {key : ClusterKey} : key ∈ s.listed nameSpace ↔
    (nameSpace, key) ∈ s.cached := by
  simp [listed]

/-- A step of the loader that leaves the config, and owes what was owed before. -/
theorem UpToDateAt.still_owed {s' : Process} {key : ClusterKey} (h : UpToDateAt o s key) (hsame : SameClusters s s')
    (hconfig : s'.config = s.config) (howes : s.Owes o key → s'.ToFetch key ∨ s'.Owes o key)
    (hlisted : s'.unlisted = s.unlisted) : UpToDateAt o s' key := by
  intro hknows
  rw [Knows, hsame.cached] at hknows
  obtain ⟨hrevision, hcopied⟩ := h hknows
  rw [hsame.seen, hsame.revision, hsame.sync, hconfig, hlisted]
  refine ⟨hrevision.imp_left hsame.toFetch, fun hall => ?_⟩
  rcases hcopied hall with hfetch | hfetched | howed | hseen
  · exact Or.inl (hsame.toFetch hfetch)
  · exact Or.inr (Or.inl hfetched)
  · exact (howes howed).imp_right fun howed => Or.inr (Or.inl howed)
  · exact Or.inr (Or.inr (Or.inr hseen))

/-- A reload owes every cluster until it has added it. -/
theorem byLoader_at {action : Action} (hloader : action.ByLoader) (h : UpToDate o s) (key : ClusterKey) :
    UpToDateAt o (act o s action) key := by
  have hsame : SameClusters s (act o s action) := act_byLoader hloader
  have hkey := h.clusters key
  cases action with
  | write contents => exact hkey
  | load =>
    cases hphase : s.loader with
    | idle =>
      simp only [act, hphase] at hsame ⊢
      rcases load_cases o s with hload | ⟨contents, cfg, -, -, hload⟩ <;> rw [hload] at hsame ⊢
      all_goals exact hkey.still_owed hsame rfl (fun howes => by simp [Owes, hphase] at howes) rfl
    | _ =>
      simp only [act, hphase]
      exact hkey
  | storeConfig =>
    cases hphase : s.loader with
    | decoded contents cfg =>
      simp only [act, hphase, storeConfig] at hsame ⊢
      split_ifs at hsame ⊢
      · -- the config is new, and owed to all
        exact fun hknows => ⟨(hkey hknows).1, fun _ => Or.inr (Or.inr (Or.inl trivial))⟩
      · exact hkey.still_owed hsame rfl (fun howes => by simp [Owes, hphase] at howes) rfl
    | _ =>
      simp only [act, hphase]
      exact hkey
  | storeHash =>
    cases hphase : s.loader with
    | stored contents =>
      simp only [act, hphase]
      exact fun hknows => ⟨(hkey hknows).1, fun _ => Or.inr (Or.inr (Or.inl (Or.inr (h.watched _ hknows).1)))⟩
    | _ =>
      simp only [act, hphase]
      exact hkey
  | requeue ok =>
    cases hphase : s.loader with
    | requeuing namespaces clusters =>
      match namespaces, clusters with
      | namespaces, next :: rest =>
        simp only [act, hphase] at hsame ⊢
        refine hkey.still_owed hsame rfl (fun howes => ?_) rfl
        simp only [Owes, hphase, List.mem_cons] at howes
        rcases howes with (rfl | hrest) | hmore
        · exact Or.inl (Or.inr (Or.inl (List.mem_cons_self ..)))
        · exact Or.inr (Or.inl hrest)
        · exact Or.inr (Or.inr hmore)
      | [], [] =>
        simp only [act, hphase] at hsame ⊢
        exact hkey.still_owed hsame rfl (fun howes => by simp [Owes, hphase] at howes) rfl
      | nameSpace :: rest, [] =>
        simp only [act, hphase] at hsame ⊢
        split_ifs at hsame ⊢
        · intro hknows
          refine hkey.still_owed hsame rfl (fun howes => ?_) rfl hknows
          simp only [Owes, hphase, List.not_mem_nil, false_or, List.mem_cons] at howes
          rcases howes with hhere | hmore
          · exact Or.inr (Or.inl (mem_listed.2 (hhere ▸ hknows)))
          · exact Or.inr (Or.inr hmore)
        · exact fun hknows => ⟨(hkey hknows).1, nofun⟩
    | _ =>
      simp only [act, hphase]
      exact hkey
  | _ => exact hloader.elim

variable (o) in
/-- Nothing is lost for the cluster. -/
structure SameAt (s s' : Process) (key : ClusterKey) : Prop where
  knows : s'.Knows o key → s.Knows o key
  toFetch : s.ToFetch key → s'.ToFetch key
  sync : s.sync key = .fetched → s'.sync key = .fetched
  seen : s'.seen key = s.seen key
  revision : s'.revision (o.home key) = s.revision (o.home key)

theorem UpToDateAt.of_toFetch {key : ClusterKey} (h : s.ToFetch key) : UpToDateAt o s key :=
  fun _ => ⟨Or.inl h, fun _ => Or.inl h⟩

theorem SameConfig.owes {s' : Process} (h : SameConfig s s') {key : ClusterKey} : s'.Owes o key ↔ s.Owes o key := by
  rw [Owes, Owes, h.loader]

theorem UpToDateAt.same {s' : Process} {key : ClusterKey} (h : UpToDateAt o s key) (hconfig : SameConfig s s')
    (hsame : SameAt o s s' key) : UpToDateAt o s' key := by
  intro hknows
  obtain ⟨hrevision, hcopied⟩ := h (hsame.knows hknows)
  refine ⟨?_, fun hlisted => ?_⟩
  · rw [hsame.seen, hsame.revision]
    exact hrevision.imp_left hsame.toFetch
  · rw [hsame.seen, hconfig.config, hconfig.owes]
    exact (hcopied (hconfig.unlisted ▸ hlisted)).imp hsame.toFetch (Or.imp_left hsame.sync)

theorem others_watched {action : Action} (hothers : ¬ action.ByLoader) (h : ∀ e ∈ s.cached, o.Sees e.1 e.2) :
    ∀ e ∈ (act o s action).cached, o.Sees e.1 e.2 := by
  cases action with
  | write | load | storeConfig | storeHash | requeue => exact absurd trivial hothers
  | observe nameSpace key =>
    simp only [act]
    split_ifs with hsees
    · intro e he
      rcases List.mem_insert_iff.1 he with rfl | he
      · exact hsees
      · exact h e he
    · exact h
  | forget nameSpace key => exact fun e he => h e (List.mem_of_mem_filter he)
  | deliver | external | take | copy | finish | fault =>
    simp only [act]
    repeat' split
    all_goals exact h
  | fetch key =>
    simp only [act, fetch]
    repeat' split
    all_goals exact h

theorem others_at {action : Action} (hothers : ¬ action.ByLoader) {k : ClusterKey} (h : UpToDateAt o s k) :
    UpToDateAt o (act o s action) k := by
  have hconfig : SameConfig s (act o s action) := act_others hothers
  cases action with
  | write | load | storeConfig | storeHash | requeue => exact absurd trivial hothers
  | observe nameSpace key =>
    simp only [act] at hconfig ⊢
    split_ifs at hconfig ⊢
    · by_cases hkey : k = key
      · exact .of_toFetch (Or.inl (hkey ▸ List.mem_cons_self ..))
      have hhome : o.home k ≠ (nameSpace, key) := fun heq => hkey (congrArg Prod.snd heq)
      refine h.same hconfig ⟨fun hknows => (List.mem_insert_iff.1 hknows).resolve_left hhome, ?_, id, rfl,
        Function.update_of_ne hhome _ _⟩
      exact Or.imp_left (List.mem_cons_of_mem _)
    · exact h
  | forget nameSpace key => exact h.same hconfig ⟨List.mem_of_mem_filter, id, id, rfl, rfl⟩
  | deliver key =>
    simp only [act] at hconfig ⊢
    split_ifs at hconfig ⊢
    · by_cases hkey : k = key
      · exact .of_toFetch (Or.inr (Or.inl (hkey ▸ List.mem_cons_self ..)))
      refine h.same hconfig ⟨id, ?_, id, rfl, rfl⟩
      exact Or.imp (List.mem_erase_of_ne hkey).2 (Or.imp_left (List.mem_cons_of_mem _))
    · exact h
  | external nameSpace key =>
    simp only [act] at hconfig ⊢
    split_ifs at hconfig ⊢
    · exact h.same hconfig ⟨id, Or.imp_right (Or.imp_left (List.mem_cons_of_mem _)), id, rfl, rfl⟩
    · exact h
  | take key =>
    simp only [act] at hconfig ⊢
    split_ifs at hconfig ⊢
    · by_cases hkey : k = key
      · exact .of_toFetch (Or.inr (Or.inr (by simp [setSync, hkey])))
      refine h.same hconfig ⟨id, ?_, ?_, rfl, rfl⟩
      · simp [ToFetch, setSync, hkey]
      · simp [setSync, hkey]
    · exact h
  | fetch key =>
    simp only [act, fetch] at hconfig ⊢
    split_ifs at hconfig ⊢ with hstarted hwatched hknown
    · by_cases hkey : k = key
      · subst hkey
        exact fun _ => ⟨Or.inr (by simp [setSync]), fun _ => Or.inr (Or.inl (by simp [setSync]))⟩
      · exact h.same hconfig ⟨id, by simp [ToFetch, setSync, hkey], by simp [setSync, hkey], by simp [hkey], rfl⟩
    · by_cases hkey : k = key
      · exact fun hknows => absurd (hkey ▸ hknows) hknown
      · exact h.same hconfig ⟨id, by simp [ToFetch, setSync, hkey], by simp [setSync, hkey], rfl, rfl⟩
    · exact h
    · exact h
  | copy key =>
    simp only [act] at hconfig ⊢
    split_ifs at hconfig ⊢ with hfetched
    · by_cases hkey : k = key
      · subst hkey
        intro hknows
        have hrevision := (h hknows).1
        simp only [ToFetch, hfetched, reduceCtorEq, or_false] at hrevision
        refine ⟨?_, fun _ => Or.inr (Or.inr (Or.inr (by simp [setSync])))⟩
        simpa [ToFetch, setSync] using hrevision
      · exact h.same hconfig ⟨id, by simp [ToFetch, setSync, hkey], by simp [setSync, hkey], by simp [hkey], rfl⟩
    · exact h
  | finish key requeue =>
    simp only [act] at hconfig ⊢
    split_ifs at hconfig ⊢ with hcopied hrequeue
    · by_cases hkey : k = key
      · exact .of_toFetch (Or.inr (Or.inl (hkey ▸ List.mem_cons_self ..)))
      · exact h.same hconfig ⟨id, by simp [ToFetch, setSync, enqueue, hkey], by simp [setSync, enqueue, hkey], rfl, rfl⟩
    · refine h.same hconfig ⟨id, ?_, ?_, rfl, rfl⟩
      all_goals
        by_cases hkey : k = key
        · simp [ToFetch, setSync, hkey, hcopied]
        · simp [ToFetch, setSync, hkey]
    · exact h
  | fault key =>
    simp only [act]
    split_ifs
    all_goals exact h

theorem act_upToDate (h : UpToDate o s) (action : Action) : UpToDate o (act o s action) := by
  by_cases hloader : action.ByLoader
  · have hsame : SameClusters s (act o s action) := act_byLoader hloader
    refine ⟨?_, byLoader_at hloader h⟩
    rw [hsame.cached]
    exact h.watched
  · exact ⟨others_watched hloader h.watched, fun key => others_at hloader (h.clusters key)⟩

end

/-! ## Where the config comes from -/

section

variable (o : Startup) (S : Set String)

/-- The contents a reload has read and not finished with. -/
def reading (s : Process) : Option String :=
  match s.loader with
  | .decoded contents _ | .stored contents => some contents
  | _ => none

/-- The config is that of the contents read last, and all contents are in `S`. -/
structure FromFile (s : Process) : Prop where
  file : ∀ contents, s.file = some contents → contents ∈ S
  decoded : ∀ contents cfg, s.loader = .decoded contents cfg → contents ∈ S ∧ o.decode contents = some cfg
  stored : ∀ contents, s.loader = .stored contents → s.loaded = some contents
  /-- The last read came after the last write, unless an event is to come. -/
  read : s.fileEvent = false → ∀ contents, s.file = some contents →
    s.reading = some contents ∨ s.reading = none ∧ s.lastConfigHash = o.sum64 contents
  hash : (∀ contents, s.loader ≠ .stored contents) → s.lastConfigHash = (s.loaded.map o.sum64).getD 0
  loaded : ∀ contents, s.loaded = some contents →
    contents ∈ S ∧ ∃ cfg, o.decode contents = some cfg ∧ s.config = o.withBaseImage cfg

end

section

variable {o : Startup} {s : Process} {S : Set String}

theorem FromFile.same {s' : Process} (h : FromFile o S s) (hsame : SameConfig s s') : FromFile o S s' := by
  obtain ⟨hfile, hevent, hloader, hconfig, hhash, hloaded, -⟩ := hsame
  have hreading : s'.reading = s.reading := by rw [reading, reading, hloader]
  constructor
  · rw [hfile]; exact h.file
  · rw [hloader]; exact h.decoded
  · rw [hloader, hloaded]; exact h.stored
  · rw [hevent, hfile, hreading, hhash]; exact h.read
  · rw [hloader, hhash, hloaded]; exact h.hash
  · rw [hloaded, hconfig]; exact h.loaded

theorem act_fromFile (h : FromFile o S s) {action : Action}
    (hwrite : ∀ contents, action = .write (some contents) → contents ∈ S) : FromFile o S (act o s action) := by
  cases action with
  | write contents =>
    refine ⟨fun c hc => ?_, h.decoded, h.stored, nofun, h.hash, h.loaded⟩
    exact hwrite c (by rw [show contents = some c from hc])
  | load =>
    cases hphase : s.loader with
    | idle =>
      simp only [act, hphase]
      rcases load_cases o s with hload | ⟨contents, cfg, hfile, hcfg, hload⟩ <;> rw [hload]
      · exact h.same ⟨rfl, rfl, rfl, rfl, rfl, rfl, rfl⟩
      · refine ⟨h.file, ?_, nofun, fun _ c hc => Or.inl ?_, fun _ => h.hash (by simp [hphase]), h.loaded⟩
        · rintro _ _ ⟨⟩
          exact ⟨h.file _ hfile, hcfg⟩
        · exact hfile ▸ hc
    | _ =>
      simp only [act, hphase]
      exact h
  | storeConfig =>
    cases hphase : s.loader with
    | decoded contents cfg =>
      obtain ⟨hmem, hcfg⟩ := h.decoded contents cfg hphase
      have hread : s.fileEvent = false → ∀ c, s.file = some c → contents = c := fun hevent c hc => by
        simpa [reading, hphase] using h.read hevent c hc
      simp only [act, hphase, storeConfig]
      split_ifs with hnew
      · refine ⟨h.file, nofun, ?_, fun hevent c hc => Or.inl ?_, fun hno => absurd rfl (hno contents), ?_⟩
        · rintro _ ⟨⟩
          rfl
        · exact congrArg some (hread hevent c hc)
        · rintro _ ⟨⟩
          exact ⟨hmem, cfg, hcfg, rfl⟩
      · refine ⟨h.file, nofun, nofun, fun hevent c hc => Or.inr ⟨rfl, ?_⟩, fun _ => h.hash (by simp [hphase]), h.loaded⟩
        rw [← hread hevent c hc]
        exact (not_not.1 hnew).symm
    | _ =>
      simp only [act, hphase]
      exact h
  | storeHash =>
    cases hphase : s.loader with
    | stored contents =>
      have hread : s.fileEvent = false → ∀ c, s.file = some c → contents = c := fun hevent c hc => by
        simpa [reading, hphase] using h.read hevent c hc
      simp only [act, hphase]
      refine ⟨h.file, nofun, nofun, fun hevent c hc => Or.inr ⟨rfl, ?_⟩, fun _ => ?_, h.loaded⟩
      · exact congrArg o.sum64 (hread hevent c hc)
      · rw [h.stored contents hphase]
        rfl
    | _ =>
      simp only [act, hphase]
      exact h
  | requeue ok =>
    cases hphase : s.loader with
    | requeuing namespaces clusters =>
      have hread : s.fileEvent = false → ∀ c, s.file = some c → s.lastConfigHash = o.sum64 c := fun hevent c hc => by
        simpa [reading, hphase] using h.read hevent c hc
      have hhash : s.lastConfigHash = (s.loaded.map o.sum64).getD 0 := h.hash (by simp [hphase])
      simp only [act, hphase]
      rcases namespaces with _ | ⟨_, _⟩ <;> rcases clusters with _ | ⟨_, _⟩ <;> dsimp only <;> try split_ifs
      all_goals exact ⟨h.file, nofun, nofun, fun hevent c hc => Or.inr ⟨rfl, hread hevent c hc⟩,
        fun _ => hhash, h.loaded⟩
    | _ =>
      simp only [act, hphase]
      exact h
  | _ => exact h.same (act_others id)

end

/-! ## Whole runs -/

/-- Nothing is left to do: no event is to come, the queue is empty, and neither the loader nor a sync is under way. -/
structure Quiescent (s : Process) : Prop where
  fileEvent : s.fileEvent = false
  loader : s.loader = .idle
  undelivered : s.undelivered = []
  waiting : s.waiting = []
  sync : ∀ e ∈ s.cached, s.sync e.2 = .none

section

variable {o : Startup} {s : Process} {S : Set String}

theorem run_keeps {P : Process → Prop} {actions : List Action}
    (hstep : ∀ s, P s → ∀ action ∈ actions, P (act o s action)) (h : P s) : P (run o s actions) := by
  induction actions generalizing s with
  | nil => exact h
  | cons action rest ih =>
    refine ih (fun s hs a ha => hstep s hs a (List.mem_cons_of_mem _ ha)) ?_
    show P (if s.crashed then s else act o s action)
    split
    · exact h
    · exact hstep s h action (List.mem_cons_self ..)

theorem upToDate_start : UpToDate o {} := ⟨nofun, fun _ hknows => absurd hknows List.not_mem_nil⟩

theorem fromFile_start : FromFile o S {} := ⟨nofun, nofun, nofun, nofun, fun _ => rfl, nofun⟩

/-- Once nothing is left to do, every cluster was last synced as it is now, with the config in use. -/
theorem UpToDate.seen_of_quiescent (h : UpToDate o s) (hquiet : s.Quiescent) (hlisted : s.unlisted = false)
    {key : ClusterKey} (hknows : s.Knows o key) :
    s.seen key = { revision := some (s.revision (o.home key)), config := some s.config } := by
  have hsync : s.sync key = .none := hquiet.sync _ hknows
  have hno : ¬ s.ToFetch key := by simp [ToFetch, hquiet.undelivered, hquiet.waiting, hsync]
  obtain ⟨hrevision, hconfig⟩ := h.clusters key hknows
  have hrevision := hrevision.resolve_left hno
  have hconfig := (hconfig hlisted).resolve_left hno
  simp only [hsync, reduceCtorEq, false_or, Owes, hquiet.loader] at hconfig
  rw [← hrevision, ← hconfig]

theorem FromFile.config_of_quiescent (h : FromFile o S s) (hquiet : s.Quiescent) (hinj : Set.InjOn o.sum64 S)
    (hzero : ∀ contents ∈ S, o.sum64 contents ≠ 0) {contents : String} (hfile : s.file = some contents) :
    ∃ cfg, o.decode contents = some cfg ∧ s.config = o.withBaseImage cfg := by
  have hmem := h.file contents hfile
  have hhash : s.lastConfigHash = o.sum64 contents := by
    simpa [reading, hquiet.loader] using h.read hquiet.fileEvent contents hfile
  have hloaded := h.hash (by simp [hquiet.loader])
  cases hl : s.loaded with
  | none =>
    rw [hl] at hloaded
    exact absurd (hhash.symm.trans hloaded) (hzero contents hmem)
  | some last =>
    rw [hl] at hloaded
    obtain ⟨hlast, hcfg⟩ := h.loaded last hl
    rwa [hinj hmem hlast (hhash.symm.trans hloaded)]

/-- A cluster is looked up in the cache it is in. -/
theorem UpToDate.cached_home (h : UpToDate o s) (hwatch : o.Watchable) {nameSpace : String} {key : ClusterKey}
    (hcached : (nameSpace, key) ∈ s.cached) : (nameSpace, key) = o.home key := by
  obtain ⟨hmem, hsees⟩ : o.Sees nameSpace key := h.watched _ hcached
  rw [Startup.home, Startup.cacheNamespace]
  rcases hwatch with hall | hnamed
  · rw [hall, List.mem_singleton] at hmem
    rw [if_pos hall, hmem]
  · have hnot : o.namespaces ≠ [""] := fun hall => hnamed (hall ▸ List.mem_singleton_self _)
    rw [if_neg hnot, hsees.resolve_left fun hempty => hnamed (hempty ▸ hmem)]

end

/-- **A new config reaches every cluster.** However reloads, syncs and events interleave: once nothing is left to do,
the last sync of every cluster read it as its cache has it, and with the config that the file now has. This relies on
the lists of the last reload, and on hashes that tell the contents of the file apart and are not zero. -/
theorem reload_reaches_every_cluster (o : Startup) (hwatch : o.Watchable) (S : Set String) (hinj : Set.InjOn o.sum64 S)
    (hzero : ∀ contents ∈ S, o.sum64 contents ≠ 0) (actions : List Action)
    (hwrites : ∀ contents, .write (some contents) ∈ actions → contents ∈ S) (contents : String)
    (hfile : (run o {} actions).file = some contents) (hquiet : (run o {} actions).Quiescent)
    (hlisted : (run o {} actions).unlisted = false) (nameSpace : String) (key : ClusterKey)
    (hcached : (nameSpace, key) ∈ (run o {} actions).cached) :
    ∃ cfg, o.decode contents = some cfg ∧
      (run o {} actions).seen key =
        { revision := some ((run o {} actions).revision (nameSpace, key)), config := some (o.withBaseImage cfg) } := by
  have hupToDate : UpToDate o (run o {} actions) := run_keeps (fun _ h action _ => act_upToDate h action) upToDate_start
  have hfrom : FromFile o S (run o {} actions) :=
    run_keeps (fun _ h action hmem => act_fromFile h fun c hc => hwrites c (hc ▸ hmem)) fromFile_start
  obtain ⟨cfg, hcfg, hconfig⟩ := hfrom.config_of_quiescent hquiet hinj hzero hfile
  have hhome := hupToDate.cached_home hwatch hcached
  refine ⟨cfg, hcfg, ?_⟩
  rw [hhome] at hcached ⊢
  rw [← hconfig]
  exact hupToDate.seen_of_quiescent hquiet hlisted hcached

/-- One namespace, and a file that holds nothing but the name of the image. -/
def oneNamespace : Startup :=
  { decode := fun contents => some { imageName := contents }
    sum64 := fun contents => .ofNat contents.length
    baseImage := ""
    watchNamespaces := ["test"] }

def someCluster : ClusterKey := ⟨"test", "small"⟩

def firstLoad : List Action := [.write (some "a"), .load, .storeConfig, .storeHash, .requeue true, .requeue true]

def fullSync (key : ClusterKey) : List Action := [.take key, .fetch key, .copy key, .finish key false]

/-- The second load overtakes a sync that has copied the config of the first. -/
def overtaken : List Action :=
  firstLoad ++ [.observe "test" someCluster, .deliver someCluster, .take someCluster, .fetch someCluster,
    .copy someCluster,
    .write (some "bb"), .load, .storeConfig, .storeHash, .requeue true, .requeue true, .requeue true,
    .finish someCluster false] ++ fullSync someCluster

theorem overtaken_reached :
    (run oneNamespace {} (overtaken.take 11)).seen someCluster =
      { revision := some 1, config := some { imageName := "a" } } ∧
      (run oneNamespace {} overtaken).seen someCluster =
        { revision := some 1, config := some { imageName := "bb" } } := by
  have hquiet : (run oneNamespace {} overtaken).Quiescent := ⟨rfl, rfl, rfl, rfl, by decide⟩
  obtain ⟨cfg, hcfg, hseen⟩ := reload_reaches_every_cluster oneNamespace (Or.inr (by decide)) {"a", "bb"}
    (by simp [oneNamespace]; decide) (by simp [oneNamespace]; decide) overtaken
    (by simp [overtaken, firstLoad, fullSync]) "bb" rfl hquiet rfl
    "test" someCluster (by decide)
  cases hcfg
  exact ⟨rfl, hseen⟩

/-! ## A reload that was cut short -/

/-- The loader knows the file, and the cluster is not about to be synced. -/
structure LeftOut (o : Startup) (contents : String) (key : ClusterKey) (before s : Process) : Prop where
  loader : s.loader = .idle ∨ ∃ cfg, s.loader = .decoded contents cfg
  file : s.file = some contents
  hash : s.lastConfigHash = o.sum64 contents
  notToFetch : ¬ s.ToFetch key
  sync : s.sync key = .none
  seen : s.seen key = before.seen key
  config : s.config = before.config

/-- An action that does not change the contents of the file and adds nothing for the cluster. -/
def Unrelated (contents : String) (key : ClusterKey) : Action → Prop
  | .write written => written = some contents
  | .observe _ k | .external _ k => k ≠ key
  | _ => True

section

variable {o : Startup} {s before : Process} {contents : String} {key : ClusterKey}

theorem LeftOut.byLoader (h : LeftOut o contents key before s) {action : Action} (hloader : action.ByLoader)
    (hunrelated : Unrelated contents key action) : LeftOut o contents key before (act o s action) := by
  obtain ⟨hphase, hfile, hhash, hfetch, hsync, hseen, hconfig⟩ := h
  cases action with
  | write written => exact ⟨hphase, hunrelated, hhash, hfetch, hsync, hseen, hconfig⟩
  | load =>
    rcases hphase with hphase | ⟨cfg, hphase⟩ <;> simp only [act, hphase]
    · rcases load_cases o s with hload | ⟨found, cfg, hfound, -, hload⟩ <;> rw [hload]
      · exact ⟨Or.inl hphase, hfile, hhash, hfetch, hsync, hseen, hconfig⟩
      · obtain rfl : contents = found := Option.some.inj (hfile.symm.trans hfound)
        exact ⟨Or.inr ⟨cfg, rfl⟩, hfile, hhash, hfetch, hsync, hseen, hconfig⟩
    · exact ⟨Or.inr ⟨cfg, hphase⟩, hfile, hhash, hfetch, hsync, hseen, hconfig⟩
  | storeConfig =>
    rcases hphase with hphase | ⟨cfg, hphase⟩ <;> simp only [act, hphase]
    · exact ⟨Or.inl hphase, hfile, hhash, hfetch, hsync, hseen, hconfig⟩
    · rw [storeConfig, if_neg (not_not.2 hhash.symm)]
      exact ⟨Or.inl rfl, hfile, hhash, hfetch, hsync, hseen, hconfig⟩
  | storeHash | requeue =>
    have hphase' := hphase
    rcases hphase' with hphase' | ⟨cfg, hphase'⟩ <;> simp only [act, hphase']
    all_goals exact ⟨hphase, hfile, hhash, hfetch, hsync, hseen, hconfig⟩
  | _ => exact hloader.elim

/-- The informers and the workers leave a cluster alone that is neither in the queue nor about to be. -/
theorem others_unrelated {action : Action} (hothers : ¬ action.ByLoader) (hunrelated : Unrelated contents key action)
    (hfetch : ¬ s.ToFetch key) (hsync : s.sync key = .none) :
    ¬ (act o s action).ToFetch key ∧ (act o s action).sync key = .none ∧ (act o s action).seen key = s.seen key := by
  obtain ⟨hundelivered, hwaiting, -⟩ : key ∉ s.undelivered ∧ key ∉ s.waiting ∧ _ := by
    simpa [ToFetch, not_or] using hfetch
  cases action with
  | write | load | storeConfig | storeHash | requeue => exact absurd trivial hothers
  | observe nameSpace k =>
    have hne : key ≠ k := Ne.symm hunrelated
    simp only [act]
    split_ifs
    · exact ⟨by simp [ToFetch, hne, hundelivered, hwaiting, hsync], hsync, rfl⟩
    · exact ⟨hfetch, hsync, rfl⟩
  | forget nameSpace k => exact ⟨hfetch, hsync, rfl⟩
  | deliver k =>
    simp only [act]
    split_ifs with hmem
    · have hne : key ≠ k := fun heq => hundelivered (heq ▸ hmem)
      refine ⟨?_, hsync, rfl⟩
      simp [ToFetch, enqueue, List.mem_erase_of_ne hne, hne, hundelivered, hwaiting, hsync]
    · exact ⟨hfetch, hsync, rfl⟩
  | external nameSpace k =>
    have hne : key ≠ k := Ne.symm hunrelated
    simp only [act]
    split_ifs
    · exact ⟨by simp [ToFetch, enqueue, hne, hundelivered, hwaiting, hsync], hsync, rfl⟩
    · exact ⟨hfetch, hsync, rfl⟩
  | take k =>
    simp only [act]
    split_ifs with htaken
    · have hne : key ≠ k := fun heq => hwaiting (heq ▸ htaken.1)
      exact ⟨by simp [ToFetch, setSync, hne, hundelivered, hwaiting, hsync], by simp [setSync, hne, hsync], rfl⟩
    · exact ⟨hfetch, hsync, rfl⟩
  | fetch k =>
    simp only [act]
    split_ifs with hstarted
    · have hne : key ≠ k := fun heq => by rw [← heq, hsync] at hstarted; cases hstarted
      unfold fetch
      split_ifs
      all_goals simp [ToFetch, setSync, hne, hundelivered, hwaiting, hsync]
    · exact ⟨hfetch, hsync, rfl⟩
  | copy k =>
    simp only [act]
    split_ifs with hfetched
    · have hne : key ≠ k := fun heq => by rw [← heq, hsync] at hfetched; cases hfetched
      simp [ToFetch, setSync, hne, hundelivered, hwaiting, hsync]
    · exact ⟨hfetch, hsync, rfl⟩
  | finish k requeue =>
    simp only [act]
    split_ifs with hcopied
    · have hne : key ≠ k := fun heq => by rw [← heq, hsync] at hcopied; cases hcopied
      simp [ToFetch, setSync, enqueue, hne, hundelivered, hwaiting, hsync]
    · have hne : key ≠ k := fun heq => by rw [← heq, hsync] at hcopied; cases hcopied
      simp [ToFetch, setSync, hne, hundelivered, hwaiting, hsync]
    · exact ⟨hfetch, hsync, rfl⟩
  | fault k =>
    simp only [act]
    split_ifs
    all_goals exact ⟨hfetch, hsync, rfl⟩

theorem LeftOut.others (h : LeftOut o contents key before s) {action : Action} (hothers : ¬ action.ByLoader)
    (hunrelated : Unrelated contents key action) : LeftOut o contents key before (act o s action) := by
  have hsame : SameConfig s (act o s action) := act_others hothers
  obtain ⟨hfetch, hsync, hseen⟩ := others_unrelated (o := o) hothers hunrelated h.notToFetch h.sync
  refine ⟨?_, hsame.file ▸ h.file, hsame.lastConfigHash ▸ h.hash, hfetch, hsync, hseen.trans h.seen,
    hsame.config ▸ h.config⟩
  rw [hsame.loader]
  exact h.loader

end

/-- **A reload that was cut short is not made up for.** The hash is stored before the clusters are added. When a list
fails, a cluster that was to come is not synced with the new config for as long as the file stays the same and nothing
else adds the cluster, however often the file informer fires. -/
theorem left_out_stays_behind (o : Startup) (s : Process) (contents : String) (key : ClusterKey)
    (hloader : s.loader = .idle) (hfile : s.file = some contents) (hhash : s.lastConfigHash = o.sum64 contents)
    (hfetch : ¬ s.ToFetch key) (hsync : s.sync key = .none) (actions : List Action)
    (hunrelated : ∀ action ∈ actions, Unrelated contents key action) :
    (run o s actions).seen key = s.seen key ∧ (run o s actions).config = s.config := by
  have hstart : LeftOut o contents key s s := ⟨Or.inl hloader, hfile, hhash, hfetch, hsync, rfl, rfl⟩
  have hend : LeftOut o contents key s (run o s actions) := by
    refine run_keeps (fun s' h action hmem => ?_) hstart
    by_cases hby : action.ByLoader
    · exact h.byLoader hby (hunrelated action hmem)
    · exact h.others hby (hunrelated action hmem)
  exact ⟨hend.seen, hend.config⟩

/-- The list of the second load fails. -/
def cutShort : List Action :=
  firstLoad ++ [.observe "test" someCluster, .deliver someCluster] ++ fullSync someCluster ++
    [.write (some "bb"), .load, .storeConfig, .storeHash, .requeue false]

/-- The informer fires again, and the file is written anew with the same contents. -/
def firedAgain : List Action := [.load, .storeConfig, .write (some "bb"), .load, .storeConfig]

theorem cutShort_left_behind :
    (run oneNamespace {} cutShort).config = { imageName := "bb" } ∧
      ((run oneNamespace (run oneNamespace {} cutShort) firedAgain).seen someCluster).config =
        some { imageName := "a" } := by
  obtain ⟨hseen, -⟩ := left_out_stays_behind oneNamespace (run oneNamespace {} cutShort) "bb" someCluster rfl rfl rfl
    (by unfold ToFetch; decide) rfl firedAgain (by simp [firedAgain, Unrelated])
  exact ⟨rfl, congrArg Seen.config hseen⟩

end Process

end SpiceDBOperator
