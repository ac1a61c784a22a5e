import HorovodBasics.GetProcessSets
import HorovodBasics.Sentinels

/-!
# Adding and removing process sets

`add_process_set`, `remove_process_set`, `process_set_rank` and `process_set_size` hand
their argument to the engine as `c_int`s and translate its answer. The engine side is not
in the Python sources and is modelled from the specification: the calls need an initialised
engine, dynamic mode for add and remove, and an MPI controller; a new set gets the next id,
ids only grow, and id 0 is never removed.

## Main definitions

* `Horovod.Engine` — the engine state the four calls read and change
* `Engine.horovodAddProcessSet`, `Engine.horovodRemoveProcessSet`,
  `Engine.horovodProcessSetRank`, `Engine.horovodProcessSetSize` — the engine functions, the
  last two through their shared `Engine.scopedQuery`
* `addProcessSet`, `removeProcessSet`, `processSetRank`, `processSetSize` — lines 334-402
* `Horovod.TableCall` — one add or remove call, made by any process

## Main results

* `TableCall.run_cases` — a call raises and changes nothing, or returns and changes the table
  by one `Mutation`: a set added under an id never handed out, or one other than the global
  set removed
* `runTableCalls_global` — no run of calls changes the ranks of the global set
* `dynamicCalls_wrap_id` — an id acts as every id equal to it modulo 2^32
-/

namespace Horovod

/-- Modelled from the spec: the engine state behind the dynamic process-set calls. -/
structure Engine where
  initialized : Bool
  /-- Whether `HOROVOD_DYNAMIC_PROCESS_SETS=1` held when the engine was initialised. -/
  dynamic : Bool
  /-- The controller is MPI, not Gloo. -/
  mpiController : Bool
  /-- The global rank of the calling process. -/
  rank : Int
  table : Registry
  /-- The id the next added set gets; ids are handed out in increasing order. -/
  nextId : Int
  used_lt : ∀ u ∈ table.used, u < nextId

namespace Engine

/-- The engine with `ranks` registered under the next id. -/
def register (e : Engine) (ranks : List Int) : Engine :=
  { e with
    table := e.table.add e.nextId ranks fun h => Int.lt_irrefl _ (e.used_lt _ h)
    nextId := e.nextId + 1
    used_lt := fun u hu => by
      rcases List.mem_cons.mp hu with rfl | hu
      · omega
      · have := e.used_lt u hu
        omega }

/-- The engine with set `id` removed. -/
def unregister (e : Engine) (id : Int) (h0 : id ≠ 0) : Engine :=
  { e with table := e.table.remove id h0, used_lt := e.used_lt }

/-- Modelled from the spec: `horovod_add_process_set(ranks, nrank)`, the new id, or -1 (not
initialised), -2 (not in dynamic mode), -10 (not an MPI controller). -/
def horovodAddProcessSet (e : Engine) (ranks : List Int) : Int × Engine :=
  if !e.initialized then (-1, e)
  else if !e.dynamic then (-2, e)
  else if !e.mpiController then (-10, e)
  else (e.nextId, e.register ranks)

/-- Modelled from the spec: `horovod_remove_process_set(id)`, 0, or -1, -2, -10 as for add,
or -3 for an id that is not registered or is the global set. -/
def horovodRemoveProcessSet (e : Engine) (id : Int) : Int × Engine :=
  if !e.initialized then (-1, e)
  else if !e.dynamic then (-2, e)
  else if !e.mpiController then (-10, e)
  else if h : id ≠ 0 ∧ id ∈ e.table.ids then (0, e.unregister id h.1)
  else (-3, e)

/-- Modelled from the spec: the checks `horovod_process_set_rank` and
`horovod_process_set_size` share, answering -1 (not initialised), -10 (not an MPI
controller), -3 (unknown id) or -2 (the caller is not a member), and `answer` on the ranks
of a set that holds the caller. -/
def scopedQuery (answer : List Int → Int) (e : Engine) (id : Int) : Int :=
  if !e.initialized then -1
  else if !e.mpiController then -10
  else
    match e.table.sets.lookup id with
    | none => -3
    | some m => if e.rank ∈ m then answer m else -2

/-- Modelled from the spec: `horovod_process_set_rank(id)`, the caller's position in the
set. -/
def horovodProcessSetRank (e : Engine) (id : Int) : Int :=
  e.scopedQuery (fun m => m.indexOf e.rank) id

/-- Modelled from the spec: `horovod_process_set_size(id)`, the number of processes in the
set. -/
def horovodProcessSetSize (e : Engine) (id : Int) : Int :=
  e.scopedQuery (fun m => m.length) id

/-- Modelled from the spec: `horovod_size()`, the number of processes in the global set, or
-1 before `init`. -/
def horovodSize (e : Engine) : Int :=
  if !e.initialized then -1 else ((e.table.sets.lookup 0).getD []).length

/-- Modelled from the spec: `horovod_rank()`, the calling process's rank, or -1 before
`init`. -/
def horovodRank (e : Engine) : Int := if !e.initialized then -1 else e.rank

@[simp] theorem register_table (e : Engine) (ranks : List Int) :
    (e.register ranks).table = e.table.add e.nextId ranks fun h => Int.lt_irrefl _ (e.used_lt _ h) :=
  rfl

@[simp] theorem register_nextId (e : Engine) (ranks : List Int) :
    (e.register ranks).nextId = e.nextId + 1 :=
  rfl

@[simp] theorem unregister_table (e : Engine) (id : Int) (h0 : id ≠ 0) :
    (e.unregister id h0).table = e.table.remove id h0 :=
  rfl

@[simp] theorem unregister_nextId (e : Engine) (id : Int) (h0 : id ≠ 0) :
    (e.unregister id h0).nextId = e.nextId :=
  rfl

theorem mem_register_ids (e : Engine) {y : Int} (ranks : List Int) :
    y ∈ (e.register ranks).table.ids ↔ y ∈ e.table.ids ∨ y = e.nextId := by
  simp [Registry.ids]

theorem mem_unregister_ids (e : Engine) {x y : Int} (h0 : x ≠ 0) :
    y ∈ (e.unregister x h0).table.ids ↔ y ∈ e.table.ids ∧ y ≠ x := by
  simp only [Registry.ids, unregister_table, Registry.remove_sets, List.mem_map,
    List.mem_filter, bne_iff_ne, ne_eq]
  constructor
  · rintro ⟨p, ⟨hp, hx⟩, rfl⟩
    exact ⟨⟨p, hp, rfl⟩, hx⟩
  · rintro ⟨⟨p, hp, rfl⟩, hx⟩
    exact ⟨p, ⟨hp, hx⟩, rfl⟩

/-- A registered id is below the engine's next id. -/
theorem lt_nextId_of_mem_ids (e : Engine) {id : Int} (h : id ∈ e.table.ids) : id < e.nextId := by
  obtain ⟨p, hp, rfl⟩ := List.mem_map.mp h
  exact e.used_lt _ (e.table.sets_used p hp)

/-- The global set's id 0 was handed out, so every new id is positive. -/
theorem nextId_pos (e : Engine) : 0 < e.nextId := by
  obtain ⟨p, hp, hp0⟩ := List.mem_map.mp e.table.global_mem
  exact hp0 ▸ e.used_lt _ (e.table.sets_used p hp)

/-- What `horovod_add_process_set` can do: answer a code and change nothing, or register the
ranks under the next id. -/
theorem horovodAddProcessSet_cases (e : Engine) (ranks : List Int) :
    ((e.horovodAddProcessSet ranks).1 ∈ [-1, -2, -10] ∧ (e.horovodAddProcessSet ranks).2 = e) ∨
      e.horovodAddProcessSet ranks = (e.nextId, e.register ranks) := by
  by_cases hi : e.initialized = false
  · simp [horovodAddProcessSet, hi]
  by_cases hd : e.dynamic = false
  · simp [horovodAddProcessSet, hi, hd]
  by_cases hm : e.mpiController = false
  · simp [horovodAddProcessSet, hi, hd, hm]
  · exact .inr (by simp [horovodAddProcessSet, hi, hd, hm])

/-- What `horovod_remove_process_set` can do: answer a code and change nothing, or remove a
registered set other than the global one and answer 0. -/
theorem horovodRemoveProcessSet_cases (e : Engine) (id : Int) :
    ((e.horovodRemoveProcessSet id).1 ∈ [-1, -2, -3, -10] ∧
        (e.horovodRemoveProcessSet id).2 = e) ∨
      ∃ h : id ≠ 0 ∧ id ∈ e.table.ids, e.horovodRemoveProcessSet id = (0, e.unregister id h.1) := by
  by_cases hi : e.initialized = false
  · simp [horovodRemoveProcessSet, hi]
  by_cases hd : e.dynamic = false
  · simp [horovodRemoveProcessSet, hi, hd]
  by_cases hm : e.mpiController = false
  · simp [horovodRemoveProcessSet, hi, hd, hm]
  by_cases h : id ≠ 0 ∧ id ∈ e.table.ids
  · exact .inr ⟨h, by simp [horovodRemoveProcessSet, hi, hd, hm, h]⟩
  · simp [horovodRemoveProcessSet, hi, hd, hm, h]

end Engine

/-- An initialised engine in dynamic mode with an MPI controller, on rank 0, holding
`{0: [0, 1], 1: [0]}`. -/
def twoSetsEngine : Engine where
  initialized := true
  dynamic := true
  mpiController := true
  rank := 0
  table := twoSets
  nextId := 2
  used_lt := by decide

/-! ## The wrappers -/

/-- The wrapper `HorovodBasics.add_process_set(ranks)` (lines 334-351). -/
def addProcessSet (e : Engine) (ranks : List Int) : Except PyError Int × Engine :=
  let (result, e) := e.horovodAddProcessSet (cIntArray ranks)
  (checkResult addSentinels result, e)

/-- The error of line 360. -/
def globalSetError : PyError := .valueError "Attempted to remove the global process set with id 0."

/-- The wrapper `HorovodBasics.remove_process_set(process_set_id)` (lines 353-372): the id is
compared with 0 as a Python int, then handed to the engine as a `c_int`. -/
def removeProcessSet (e : Engine) (processSetId : Int) : Except PyError Int × Engine :=
  if processSetId = 0 then (.error globalSetError, e)
  else
    let (result, e) := e.horovodRemoveProcessSet (cInt processSetId)
    (checkResult (removeSentinels processSetId) result, e)

/-- The wrapper `HorovodBasics.process_set_rank(process_set_id)` (lines 374-387). -/
def processSetRank (e : Engine) (processSetId : Int) : Except PyError Int :=
  checkResult (processSetSentinels processSetId) (e.horovodProcessSetRank (cInt processSetId))

/-- The wrapper `HorovodBasics.process_set_size(process_set_id)` (lines 389-402). -/
def processSetSize (e : Engine) (processSetId : Int) : Except PyError Int :=
  checkResult (processSetSentinels processSetId) (e.horovodProcessSetSize (cInt processSetId))

/-! ## What one call can do -/

section Calls

variable (e : Engine)

theorem addProcessSet_eq (ranks : List Int) :
    addProcessSet e ranks = (checkResult addSentinels (e.horovodAddProcessSet (cIntArray ranks)).1,
      (e.horovodAddProcessSet (cIntArray ranks)).2) :=
  rfl

theorem removeProcessSet_eq {processSetId : Int} (h0 : processSetId ≠ 0) :
    removeProcessSet e processSetId = (checkResult (removeSentinels processSetId)
      (e.horovodRemoveProcessSet (cInt processSetId)).1,
      (e.horovodRemoveProcessSet (cInt processSetId)).2) := by
  rw [removeProcessSet, if_neg h0]

/-- Either `add_process_set` raises and leaves the engine as it was, or registers the ranks, as
`c_int`s, under the next id and returns that id. -/
theorem addProcessSet_cases (ranks : List Int) :
    (∃ err, addProcessSet e ranks = (.error err, e)) ∨
      addProcessSet e ranks = (.ok e.nextId, e.register (cIntArray ranks)) := by
  rw [addProcessSet_eq]
  rcases e.horovodAddProcessSet_cases (cIntArray ranks) with ⟨hcode, he⟩ | he
  · obtain ⟨err, herr⟩ := checkResult_error_of_mem (show _ ∈ addSentinels.map Prod.fst from hcode)
    exact .inl ⟨err, by rw [herr, he]⟩
  · rw [he]
    exact .inr (congrArg (fun r => (r, e.register (cIntArray ranks)))
      (checkResult_of_nonneg addSentinels_negative e.nextId_pos.le))

theorem addProcessSet_of_ready (initialized : e.initialized = true) (dynamic : e.dynamic = true)
    (mpi : e.mpiController = true) (ranks : List Int) :
    addProcessSet e ranks = (.ok e.nextId, e.register (cIntArray ranks)) := by
  simp only [addProcessSet, Engine.horovodAddProcessSet, initialized, dynamic, mpi, Bool.not_true]
  exact congrArg (fun r => (r, e.register (cIntArray ranks)))
    (checkResult_of_nonneg addSentinels_negative e.nextId_pos.le)

/-- Either `remove_process_set` raises and leaves the engine as it was, or removes a registered set
other than the global one, under the id as a `c_int`, and returns 0. -/
theorem removeProcessSet_cases (processSetId : Int) :
    (∃ err, removeProcessSet e processSetId = (.error err, e)) ∨
      ∃ h : cInt processSetId ≠ 0 ∧ cInt processSetId ∈ e.table.ids,
        removeProcessSet e processSetId = (.ok 0, e.unregister (cInt processSetId) h.1) := by
  by_cases h0 : processSetId = 0
  · exact .inl ⟨_, by rw [removeProcessSet, if_pos h0]⟩
  rw [removeProcessSet_eq e h0]
  rcases e.horovodRemoveProcessSet_cases (cInt processSetId) with ⟨hcode, he⟩ | ⟨h, he⟩
  · have hmem : (e.horovodRemoveProcessSet (cInt processSetId)).1 ∈
        (removeSentinels processSetId).map Prod.fst := by
      rwa [removeSentinels_codes]
    obtain ⟨err, herr⟩ := checkResult_error_of_mem hmem
    exact .inl ⟨err, by rw [herr, he]⟩
  · exact .inr ⟨h, by rw [he]; rfl⟩

end Calls

/-- One call of `add_process_set` or `remove_process_set`. -/
inductive TableCall
  | add (ranks : List Int)
  | remove (processSetId : Int)
  deriving DecidableEq, Repr

/-- The call made on the engine: what it returns, and the engine after it. -/
def TableCall.run : TableCall → Engine → Except PyError Int × Engine
  | .add ranks, e => addProcessSet e ranks
  | .remove processSetId, e => removeProcessSet e processSetId

/-- A call raises and changes nothing, or returns and changes the table by one `Mutation`. -/
theorem TableCall.run_cases (c : TableCall) (e : Engine) :
    (∃ err, c.run e = (.error err, e)) ∨
      ∃ v, (c.run e).1 = .ok v ∧ Mutation e.table (c.run e).2.table := by
  cases c with
  | add ranks =>
    rcases addProcessSet_cases e ranks with he | he
    · exact .inl he
    · refine .inr ⟨_, by rw [run, he], ?_⟩
      rw [run, he]
      exact .add _ _ _ fun h => Int.lt_irrefl _ (e.used_lt _ h)
  | remove processSetId =>
    rcases removeProcessSet_cases e processSetId with he | ⟨h, he⟩
    · exact .inl he
    · refine .inr ⟨_, by rw [run, he], ?_⟩
      rw [run, he]
      exact .remove _ _ h.1

/-! ## Runs of calls -/

/-- The engine after the calls `cs`, made one after another. -/
def runTableCalls (cs : List TableCall) (e : Engine) : Engine :=
  cs.foldl (fun e c => (c.run e).2) e

/-- One call moves the table along `Reach`: it stays, or changes by one `Mutation`. -/
theorem TableCall.reach_run (c : TableCall) (e : Engine) : Reach e.table (c.run e).2.table := by
  rcases c.run_cases e with ⟨_, he⟩ | ⟨_, _, hm⟩
  · rw [he]
    exact Reach.refl _
  · exact Relation.ReflTransGen.single hm

theorem runTableCalls_reach (cs : List TableCall) (e : Engine) :
    Reach e.table (runTableCalls cs e).table := by
  induction cs generalizing e with
  | nil => exact Reach.refl _
  | cons c cs ih => exact (c.reach_run e).trans (ih _)

/-- Whatever add and remove calls are made, the global set keeps its ranks: id 0 maps to the
same ranks after any run of calls as before it. -/
theorem runTableCalls_global (cs : List TableCall) (e : Engine) {g : List Int}
    (h : e.table.sets.lookup 0 = some g) : (runTableCalls cs e).table.sets.lookup 0 = some g := by
  obtain ⟨m, hm⟩ := Option.isSome_iff_exists.mp
    (Registry.lookup_isSome_of_mem_ids (runTableCalls cs e).table.global_mem)
  rw [hm, (runTableCalls_reach cs e).lookup_eq_of_lookup h hm]

theorem runTableCalls_global_twoSets :
    twoSetsEngine.table.sets.lookup 0 = some [0, 1] ∧
      (runTableCalls [.add [1], .remove 1, .remove 0] twoSetsEngine).table.sets.lookup 0 =
        some [0, 1] :=
  ⟨rfl, runTableCalls_global _ _ rfl⟩

/-! ## Ids as C ints -/

/-- Ids reach the engine as `c_int`s: `remove_process_set`, `process_set_rank` and
`process_set_size` act on an id as on every id that differs from it by a multiple of 2^32;
only the check for the global set sees the Python integer. -/
theorem dynamicCalls_wrap_id (e : Engine) {processSetId : Int} (j : Int)
    (h0 : processSetId ≠ 0) (hj0 : processSetId + 4294967296 * j ≠ 0) :
    (removeProcessSet e (processSetId + 4294967296 * j)).2 = (removeProcessSet e processSetId).2 ∧
      ((removeProcessSet e (processSetId + 4294967296 * j)).1 = .ok 0 ↔
        (removeProcessSet e processSetId).1 = .ok 0) ∧
      (∀ v, processSetRank e (processSetId + 4294967296 * j) = .ok v ↔
        processSetRank e processSetId = .ok v) ∧
      (∀ v, processSetSize e (processSetId + 4294967296 * j) = .ok v ↔
        processSetSize e processSetId = .ok v) := by
  have hc : cInt (processSetId + 4294967296 * j) = cInt processSetId := cInt_add_mul _ _
  have hremove : ∀ a b : Int, (removeSentinels a).map Prod.fst = (removeSentinels b).map Prod.fst :=
    fun a b => by rw [removeSentinels_codes, removeSentinels_codes]
  have hquery : ∀ a b : Int,
      (processSetSentinels a).map Prod.fst = (processSetSentinels b).map Prod.fst :=
    fun a b => by rw [processSetSentinels_codes, processSetSentinels_codes]
  refine ⟨by rw [removeProcessSet_eq e h0, removeProcessSet_eq e hj0, hc], ?_, fun v => ?_,
    fun v => ?_⟩
  · rw [removeProcessSet_eq e h0, removeProcessSet_eq e hj0, hc]
    exact checkResult_eq_ok_congr (hremove _ _)
  · rw [processSetRank, processSetRank, hc]
    exact checkResult_eq_ok_congr (hquery _ _)
  · rw [processSetSize, processSetSize, hc]
    exact checkResult_eq_ok_congr (hquery _ _)

/-- Calling `remove_process_set(2**32 + 1)` on `{0: [0, 1], 1: [0]}`: no set has id 2^32 + 1,
yet the call returns 0 and removes set 1. -/
theorem removeProcessSet_wraps_twoSets :
    (removeProcessSet twoSetsEngine (1 + 4294967296 * 1)).1 = .ok 0 ∧
      (removeProcessSet twoSetsEngine (1 + 4294967296 * 1)).2 =
        (removeProcessSet twoSetsEngine 1).2 ∧
      (removeProcessSet twoSetsEngine 1).2.table.sets = [(0, [0, 1])] :=
  have h := dynamicCalls_wrap_id twoSetsEngine 1 (by decide : (1 : Int) ≠ 0) (by decide)
  ⟨h.2.1.mpr rfl, h.1, rfl⟩

end Horovod
