import HorovodBasics.Init

/-!
# Sentinel translation

Every query of `HorovodBasics` passes the engine's integer answer through an `if`/`elif`
chain that raises `ValueError` on a few negative codes and returns any other answer as it
is. `checkResult` is that chain, given as its ordered table of codes and messages; each
wrapper is `checkResult` applied to its own table, as the source writes it.

## Main definitions

* `Horovod.checkResult` — the shared chain
* the tables `initializedSentinels`, `timelineSentinels`, `addSentinels`,
  `removeSentinels`, `processSetSentinels`, `commProcessSetSentinels`
* `size`, `localSize`, `crossSize`, `rank`, `localRank`, `crossRank`, `startTimeline`,
  `stopTimeline`, `mpiThreadsSupported`, `commProcessSet`

## Main results

* `checkResult_eq_ok_iff` — the chain returns exactly the answers outside its table
* `checkResult_error_of_mem` — every code of the table raises
* `checkResult_of_nonneg` — a table of negative codes lets every non-negative answer through
* `checkResult_eq_ok_congr` — what a table lets through depends only on its codes
-/

namespace Horovod

/-- The `if result == code: raise ValueError(msg)` chain of a wrapper, its codes tested in
order; any other answer is returned. -/
def checkResult (sentinels : List (Int × String)) (result : Int) : Except PyError Int :=
  match sentinels.lookup result with
  | some msg => .error (.valueError msg)
  | none => .ok result

theorem checkResult_eq_ok_iff {sentinels : List (Int × String)} {result v : Int} :
    checkResult sentinels result = .ok v ↔ sentinels.lookup result = none ∧ result = v := by
  cases h : sentinels.lookup result <;> simp [checkResult, h]

/-- A code of the table raises. -/
theorem checkResult_error_of_mem {sentinels : List (Int × String)} {result : Int}
    (h : result ∈ sentinels.map Prod.fst) : ∃ err, checkResult sentinels result = .error err := by
  cases hl : sentinels.lookup result with
  | none => exact absurd h (PyDict.lookup_eq_none_iff.mp hl)
  | some msg => exact ⟨.valueError msg, by simp [checkResult, hl]⟩

/-- Tables with the same codes let the same answers through, whatever their messages. -/
theorem checkResult_eq_ok_congr {t t' : List (Int × String)} (h : t.map Prod.fst = t'.map Prod.fst)
    {result v : Int} : checkResult t result = .ok v ↔ checkResult t' result = .ok v := by
  simp only [checkResult_eq_ok_iff, PyDict.lookup_eq_none_iff, h]

/-- A non-negative answer passes a table of negative codes unchanged. -/
theorem checkResult_of_nonneg {sentinels : List (Int × String)}
    (negative : ∀ p ∈ sentinels, p.1 < 0) {result : Int} (h : 0 ≤ result) :
    checkResult sentinels result = .ok result := by
  induction sentinels with
  | nil => rfl
  | cons p sentinels ih =>
    obtain ⟨code, msg⟩ := p
    have hcode : result ≠ code := by
      have := negative _ (List.mem_cons_self _ _)
      simp only at this
      omega
    have hrest := ih fun q hq => negative q (List.mem_cons_of_mem _ hq)
    simpa only [checkResult, lookup_cons_pair, hcode, if_false] using hrest

/-! ## The tables -/

/-- The message every wrapper raises for the engine's -1. -/
def notInitializedMsg : String := "Horovod has not been initialized; use hvd.init()."

/-- The message for -10: process sets need an MPI controller. -/
def glooMsg : String := "Multiple process sets are only supported with MPI controllers, not Gloo."

/-- Lines 151, 164, 179, 191, 205, 220, 141 and 249: -1 means Horovod is not initialised. -/
def initializedSentinels : List (Int × String) := [(-1, notInitializedMsg)]

/-- Lines 130-133. -/
def timelineSentinels : List (Int × String) :=
  [(-1, notInitializedMsg), (-2, "Set HOROVOD_TIMELINE=DYNAMIC to enable dynamic timeline usage.")]

/-- Lines 344-350. -/
def addSentinels : List (Int × String) :=
  [(-1, notInitializedMsg),
   (-2, "Set HOROVOD_DYNAMIC_PROCESS_SETS=1 to allow adding process sets after Horovod initialization."),
   (-10, glooMsg)]

/-- Lines 363-371, naming the id the caller asked to remove. -/
def removeSentinels (processSetId : Int) : List (Int × String) :=
  [(-1, notInitializedMsg),
   (-2, "Set HOROVOD_DYNAMIC_PROCESS_SETS=1 to allow removing process sets after Horovod initialization."),
   (-3, s!"Tried to remove unknown process set id {processSetId}"),
   (-10, glooMsg)]

/-- Lines 379-386 and 394-401, shared by `process_set_rank` and `process_set_size`. -/
def processSetSentinels (processSetId : Int) : List (Int × String) :=
  [(-1, notInitializedMsg),
   (-2, s!"Process is not part of process set {processSetId}"),
   (-3, s!"Unknown process set id {processSetId}"),
   (-10, glooMsg)]

/-- Lines 437-440. -/
def commProcessSetSentinels : List (Int × String) :=
  [(-1, "Horovod has not been initialized or MPI has not been enabled; use hvd.init()."),
   (-2, "MPI communicator does not correspond to any registered process set.")]

theorem addSentinels_negative : ∀ p ∈ addSentinels, p.1 < 0 := by decide

theorem removeSentinels_codes (processSetId : Int) :
    (removeSentinels processSetId).map Prod.fst = [-1, -2, -3, -10] :=
  rfl

theorem processSetSentinels_codes (processSetId : Int) :
    (processSetSentinels processSetId).map Prod.fst = [-1, -2, -3, -10] :=
  rfl

theorem processSetSentinels_negative (processSetId : Int) :
    ∀ p ∈ processSetSentinels processSetId, p.1 < 0 := by
  simp [processSetSentinels]

/-! ## The global queries -/

/-- The wrapper `HorovodBasics.size()` on the engine's answer to `horovod_size()`. -/
def size (horovodSize : Int) : Except PyError Int := checkResult initializedSentinels horovodSize

/-- The wrapper `HorovodBasics.local_size()` on the engine's answer to `horovod_local_size()`. -/
def localSize (horovodLocalSize : Int) : Except PyError Int :=
  checkResult initializedSentinels horovodLocalSize

/-- The wrapper `HorovodBasics.cross_size()` on the engine's answer to `horovod_cross_size()`. -/
def crossSize (horovodCrossSize : Int) : Except PyError Int :=
  checkResult initializedSentinels horovodCrossSize

/-- The wrapper `HorovodBasics.rank()` on the engine's answer to `horovod_rank()`. -/
def rank (horovodRank : Int) : Except PyError Int := checkResult initializedSentinels horovodRank

/-- The wrapper `HorovodBasics.local_rank()` on the engine's answer to `horovod_local_rank()`. -/
def localRank (horovodLocalRank : Int) : Except PyError Int :=
  checkResult initializedSentinels horovodLocalRank

/-- The wrapper `HorovodBasics.cross_rank()` on the engine's answer to `horovod_cross_rank()`. -/
def crossRank (horovodCrossRank : Int) : Except PyError Int :=
  checkResult initializedSentinels horovodCrossRank

/-- The wrapper `HorovodBasics.start_timeline(file_path, mark_cycles)` on the engine's answer. -/
def startTimeline (result : Int) : Except PyError Unit :=
  (checkResult timelineSentinels result).map fun _ => ()

/-- The wrapper `HorovodBasics.stop_timeline()` on the engine's answer: only -1 is checked. -/
def stopTimeline (result : Int) : Except PyError Unit :=
  (checkResult initializedSentinels result).map fun _ => ()

/-- The error of line 245. -/
def mpiNotEnabledError : PyError :=
  .valueError "Horovod MPI is not enabled; Please make sure it\x27s installed and enabled."

/-- The wrapper `HorovodBasics.mpi_threads_supported()` (lines 234-252) on the engine's answers to
`horovod_mpi_enabled()` and, once MPI is enabled, `horovod_mpi_threads_supported()`. -/
def mpiThreadsSupported (mpiEnabled threadsSupported : Int) : Except PyError Bool :=
  if mpiEnabled = 0 then .error mpiNotEnabledError
  else (checkResult initializedSentinels threadsSupported).map fun r => r != 0

/-- The wrapper `HorovodBasics.comm_process_set(comm)` (lines 421-441); `horovodCommProcessSet`
is the engine's answer for an MPI handle. `MPI._addressof` raises `TypeError` on anything but
an MPI object. -/
def commProcessSet (host : Host) (comm : CommElem) (horovodCommProcessSet : Nat → Int) :
    Except PyError Int :=
  if !host.mpiBuilt then .error mpiNotBuiltError
  else if !host.mpi4py then .error .importError
  else
    match comm.handle? with
    | none => .error .typeError
    | some handle => checkResult commProcessSetSentinels (horovodCommProcessSet handle)

end Horovod
