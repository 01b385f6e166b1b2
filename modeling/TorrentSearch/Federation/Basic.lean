import TorrentSearch.Federation.Merge
import TorrentSearch.Search.Pool
import TorrentSearch.Source.Basic
import TorrentSearch.Source.Ibit
import TorrentSearch.Source.Yts

/-!
# Federated search

All sources are asked at once. The fast ones are waited for until they answer. The slow one gets a
grace period on top; after that its check goes on in the background and fills the cache for later.
-/

namespace TorrentSearch

structure Federation where
  fast : List Source
  slow : Option Source
  settings : Config.FederationSettings

namespace Federation

open Search (Pool)

def ofConfig (config : Config) : Federation where
  fast :=
    if config.sources.yts.enabled then
      [(Source.Yts.Access.ofBase config.sources.yts.baseUrl config.sources.timeout.ceilMillis
        config.cache.maxAge).toSource]
    else []
  slow :=
    if config.sources.ibit.enabled then
      some (Source.Ibit.Access.ofBase config.sources.ibit.baseUrl config.sources.timeout.ceilMillis
        config.cache.maxAge config.sources.ibit.pageDelayMs).toSource
    else none
  settings := config.federation

def sources (f : Federation) : List Source := f.fast ++ f.slow.toList

/-- The source of a name, the last one if several have it. -/
def source? (f : Federation) (name : String) : Option Source :=
  f.sources.reverse.find? fun s => s.name = name

/-- The names of the sources in their order, each once. -/
def names (f : Federation) : List String :=
  (f.sources.map (·.name)).eraseDups.mergeSort (· ≤ ·)

/-- A federation at work: the checks that are under way, and those of them that are left in the
background, with their identifiers. -/
structure Session where
  pool : Pool
  background : List (String × Nat)

namespace Session

def start (shared : Search.Shared) : Session := ⟨.idle shared, []⟩

def change (s : Session) (f : Search.Shared → Search.Shared) : Session :=
  { s with pool := { s.pool with shared := f s.pool.shared } }

def forget (s : Session) : Session := { s with pool := { s.pool with finished := [] } }

/-- How many checks in the background are not at their end. -/
def backgroundCount (s : Session) : Nat :=
  s.background.countP fun b => s.pool.isRunning b.2

/-- The checks in the background are no longer listed; and the list of them. -/
def takeBackground (s : Session) : List (String × Nat) × Session :=
  (s.background, { s with background := [] })

/-- Time goes by until no check of a list is left. -/
def await (s : Session) (taken : List (String × Nat)) : Session :=
  let done := fun p : Pool => taken.all fun b => !p.isRunning b.2
  { s with pool := s.pool.runUntil done none }.forget

/-- The checks in the background are waited for; and how many there were. Others see an empty list
meanwhile. -/
def settle (s : Session) : Nat × Session :=
  let (taken, s) := s.takeBackground
  (taken.length, s.await taken)

def sleep (s : Session) (millis : Nat) : Session :=
  { s with pool := s.pool.runUntil (fun _ => false) (some (s.pool.shared.elapsed + millis)) }.forget

/-- Checks that are waited for directly, all at once; and what they bring. -/
def checkAll (s : Session) (works : List (Search.Work Source.Outcome)) :
    List Source.Outcome × Session :=
  let (pool, ids) := s.pool.spawnAll true works
  let pool := pool.runUntil (fun p => ids.all fun id => !p.isRunning id) none
  (ids.map fun id => (pool.outcome? id).getD (.error (.internal "The check never ends")),
    { s with pool := pool }.forget)

end Session

def isQuiet (p : Pool) : Bool :=
  match p.next? with
  | some (_, r) => p.shared.elapsed < r.moment
  | none => true

/-- Time goes by until all fast checks ended and what is due then has been done. -/
def awaitFast (ids : List Nat) (p : Pool) : Pool :=
  if ids.isEmpty then p
  else p.runUntil (fun p => (ids.all fun id => !p.isRunning id) && isQuiet p) none

/-- Time goes by until a check ended, but no longer than the grace period. -/
def awaitSlow (id grace : Nat) (p : Pool) : Pool :=
  p.runUntil (fun p => !p.isRunning id) (some (p.shared.elapsed + grace))

/-- What ended checks brought, in the order of their ends. `names` tells the sources of the
checks. -/
def arrivals (names : List (Nat × String)) (p : Pool) : List Arrival :=
  p.finished.filterMap fun (id, outcome) => (names.lookup id).map fun name => ⟨name, outcome⟩

/-- A check goes on in the background. Those that ended there are no longer listed. -/
def detach (id name : String) (job : Nat) (s : Session) : Session :=
  let s := s.change (·.count (·.observeDetached name))
  { s with background := (s.background.filter fun b => s.pool.isRunning b.2) ++ [(id, job)] }

/-- All sources are asked for an identifier that is not blank. -/
def ask (f : Federation) (id : String) (s : Session) :
    Except Error (List Torrent) × Session :=
  let attempts := f.settings.attempts
  let (pool, fast) := s.pool.spawnAll false (f.fast.map fun source => source.run attempts id)
  let fastNames := fast.zip (f.fast.map (·.name))
  match f.slow with
  | none =>
    let pool := awaitFast fast pool
    let answer := conclude (arrivals fastNames pool) none
    (answer, ({ s with pool := pool }.change (·.count (observe answer))).forget)
  | some source =>
    let (pool, slow) := pool.spawn false (source.run attempts id)
    let pool := awaitFast fast pool
    let first := arrivals fastNames pool
    let pool := awaitSlow slow f.settings.gracePeriodMs pool
    let s := { s with pool := pool }
    match pool.outcome? slow with
    | some outcome =>
      let answer := conclude (first ++ [⟨source.name, outcome⟩]) none
      (answer, (s.change (·.count (observe answer))).forget)
    | none =>
      let answer := conclude first (some source.name)
      (answer, ((detach id source.name slow s).change (·.count (observe answer))).forget)

def find (f : Federation) (id : String) (s : Session) : Except Error (List Torrent) × Session :=
  if Text.isBlankText id then (.error (.invalidIdentifier id), s)
  else if f.sources.isEmpty then (.error .noSources, s)
  else f.ask id s

end Federation

end TorrentSearch
