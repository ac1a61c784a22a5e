import HorovodBasics.Python
import Mathlib.Logic.Function.Basic
import Mathlib.Data.List.SplitLengths

/-!
# `HorovodBasics.init`

`init(comm, process_sets)` normalises its two arguments, sets the dynamic-mode switch in the
environment when asked to, builds the ctypes arrays describing the initial process sets,
registers `shutdown` with `atexit`, and then calls exactly one of the engine's initialisers,
chosen by what `comm` holds: rank integers, one mpi4py communicator, or several.

The Python process is modelled by what `init` changes in it: `os.environ`, the number of
`shutdown` hooks registered with `atexit`, and the log of engine functions called, each with
the environment it was called under (the engine reads the dynamic-mode switch while it
initialises).

## Main definitions

* `Horovod.CommArg`, `Horovod.ProcessSetsArg` — the two arguments
* `Horovod.processSetArgs` — lines 61-73, the three ctypes arrays for the process sets
* `Horovod.init` — lines 57-107
* `Horovod.decodeProcessSets` — how the engine reads the three arrays back
-/

namespace Horovod

/-! ## Arguments and process state -/

/-- An element of `comm`, as `init` tells them apart: an `int` (`isinstance(rk, int)`), an
`mpi4py.MPI.Comm` with its MPI handle, or anything else (a string, a float, a nested list). -/
inductive CommElem
  | int (n : Int)
  | comm (handle : Nat)
  | other
  deriving DecidableEq, Repr

/-- The `comm` argument: `None`, one value that is not a list, or a list. -/
inductive CommArg
  | none
  | single (e : CommElem)
  | list (es : List CommElem)
  deriving DecidableEq, Repr

/-- The `process_sets` argument: `None`, a string, or a list of rank lists. -/
inductive ProcessSetsArg
  | none
  | str (s : String)
  | sets (p : List (List Int))
  deriving DecidableEq, Repr

/-- The process's `os.environ`. -/
abbrev Environ := String → Option String

/-- The variable line 65 sets. -/
def dynamicProcessSetsVar : String := "HOROVOD_DYNAMIC_PROCESS_SETS"

/-- The engine functions `init` calls: `horovod_mpi_built()`,
`horovod_init(ranks, nranks, process_set_ranks, process_set_sizes, nsets)`,
`horovod_init_comm(comm)` (line 101, which line 100 never lets `init` reach) and
`horovod_init_multi_comm(comms, ncomms)`. -/
inductive EngineCall
  | mpiBuilt
  | init (ranks : List Int) (nranks : Int) (psRanks psSizes : List Int) (nsets : Int)
  | initComm (handle : Nat)
  | initMultiComm (handles : List Nat) (ncomms : Int)
  deriving DecidableEq, Repr

/-- What `init` can change in the Python process. -/
structure Process where
  environ : Environ
  /-- How many times `self.shutdown` was registered with `atexit`. -/
  exitHooks : Nat
  /-- The engine functions called so far, each with the environment it saw. -/
  calls : List (EngineCall × Environ)

/-- The engine function `c` is called under the current environment. -/
def Process.call (p : Process) (c : EngineCall) : Process :=
  { p with calls := p.calls ++ [(c, p.environ)] }

/-- The engine functions called in `p'` since the process was `p`. -/
def Process.callsSince (p' p : Process) : List EngineCall :=
  (p'.calls.drop p.calls.length).map Prod.fst

/-- What the installation answers: `horovod_mpi_built()`, and whether `mpi4py` imports. -/
structure Host where
  mpiBuilt : Bool
  mpi4py : Bool

/-! ## The normalisation of the arguments -/

/-- Lines 57-60: `comm` as a list. -/
def CommArg.toList : CommArg → List CommElem
  | .none => []
  | .single e => [e]
  | .list es => es

/-- The rank an element carries, if it is an `int`. -/
def CommElem.rank? : CommElem → Option Int
  | .int n => some n
  | _ => none

/-- The handle an element carries, if it is an `mpi4py.MPI.Comm`. -/
def CommElem.handle? : CommElem → Option Nat
  | .comm h => some h
  | _ => none

/-- Python's `str.lower()`. It agrees with Python's on whether the result reads "dynamic": no other
character than `A`-`Z` lowers to one of its letters. -/
def pyLower (s : String) : String := ⟨s.data.map Char.toLower⟩

/-- Line 63: `process_sets` is a string reading "dynamic" in any letter case. -/
def ProcessSetsArg.isDynamic : ProcessSetsArg → Bool
  | .str s => pyLower s == "dynamic"
  | _ => false

/-- Line 65: the environment after the normalisation of `process_sets`. -/
def ProcessSetsArg.environAfter (ps : ProcessSetsArg) (env : Environ) : Environ :=
  if ps.isDynamic then Function.update env dynamicProcessSetsVar (some "1") else env

/-- The three ctypes arguments describing the initial process sets. -/
structure ProcessSetArgs where
  ranks : List Int
  sizes : List Int
  count : Int
  deriving DecidableEq, Repr

/-- Lines 67-73 on a list of rank lists: the flat ranks, the sizes, and their count. -/
def processSetArgsOf (p : List (List Int)) : ProcessSetArgs where
  ranks := cIntArray p.flatten
  sizes := cIntArray (p.map fun ps => (ps.length : Int))
  count := cInt p.length

/-- Lines 61-73: the arrays built from `process_sets`. A string that is not "dynamic" is
iterated as a sequence of one-character strings, which ctypes refuses as `c_int`s. -/
def processSetArgs : ProcessSetsArg → Except PyError ProcessSetArgs
  | .none => .ok (processSetArgsOf [])
  | .str s =>
    if pyLower s = "dynamic" then .ok (processSetArgsOf [])
    else if s = "" then .ok (processSetArgsOf [])
    else .error .typeError
  | .sets p => .ok (processSetArgsOf p)

/-! ## `init` -/

/-- The error of line 84. -/
def mpiNotBuiltError : PyError :=
  .valueError ("Horovod has not been built with MPI support. Ensure MPI is installed and " ++
    "reinstall Horovod with HOROVOD_WITH_MPI=1 to debug the build error.")

/-- The error of line 90. -/
def invalidCommError : PyError :=
  .valueError ("Invalid type of argument comm. Expected list of rank integers, " ++
    "mpi4py.MPI.Comm object or list of mpi4py.MPI.Comm objects.")

/-- Lines 82-107, the branch for a `comm` list that is not all integers. Line 100 passes
the list itself, not its element, to `MPI._addressof`, which raises `TypeError` for
anything but an MPI handle object. -/
def initWithComms (host : Host) (comm : List CommElem) (p : Process) :
    Except PyError Unit × Process :=
  let p := p.call .mpiBuilt
  if !host.mpiBuilt then (.error mpiNotBuiltError, p)
  else if !host.mpi4py then (.error .importError, p)
  else
    match comm.mapM CommElem.handle? with
    | none => (.error invalidCommError, p)
    | some handles =>
      if comm.length = 1 then (.error .typeError, p)
      else (.ok (), p.call (.initMultiComm handles (cInt comm.length)))

/-- The method `HorovodBasics.init(comm, process_sets)` (lines 57-107). -/
def init (host : Host) (comm : CommArg) (ps : ProcessSetsArg) (p : Process) :
    Except PyError Unit × Process :=
  let comm := comm.toList
  let p := { p with environ := ps.environAfter p.environ }
  match processSetArgs ps with
  | .error e => (.error e, p)
  | .ok psArgs =>
    let p := { p with exitHooks := p.exitHooks + 1 }
    match comm.mapM CommElem.rank? with
    | some ranks =>
      (.ok (), p.call (.init (cIntArray ranks) (cInt comm.length) psArgs.ranks psArgs.sizes
        psArgs.count))
    | none => initWithComms host comm p

/-- How the engine reads the process-set arrays back: the flat ranks cut into consecutive
chunks of the given sizes. -/
def decodeProcessSets (psRanks psSizes : List Int) : List (List Int) :=
  (psSizes.map Int.toNat).splitLengths psRanks

end Horovod
