import HorovodBasics.Dynamic

/-!
# The wrappers refine the specification's registry

The specification describes the process-set registry abstractly: a mapping from ids to
members, ids assigned in increasing order and never reused, and a taxonomy of typed errors
(`NotInitialized`, `DynamicModeDisabled`, `UnsupportedController`, `UnknownProcessSet`,
`NotAMember`, `GlobalSetImmutable`), each raised only when its condition holds, a failure
leaving the registry unchanged. This module states those operations in the specification's
words, as relations (the specification fixes neither the order in which conditions are
checked nor the id handed out), and proves that `add_process_set`, `remove_process_set`,
`process_set_rank` and `process_set_size` refine them: every value the wrappers return is
one the specification allows, and every `ValueError` they raise names a specification error
whose condition holds. The ids and ranks must fit a C `int`; outside that range the
`c_int` conversion breaks the refinement (`dynamicCalls_wrap_id`).

## Main definitions

* `Horovod.SpecState`, `Engine.abs` — the specification's view of a process, and the
  abstraction of the engine state to it
* `Horovod.SpecAdd`, `Horovod.SpecRemove`, `Horovod.SpecQuery` — the operations of §4.3
* `Horovod.NamesSpecError` — which specification error each message of the wrappers names

## Main results

* `Engine.abs_register`, `Engine.abs_unregister` — the engine's changes are the
  specification's updates of the mapping
* `wrappers_refine_spec` — the four wrappers refine the specification's operations
-/

namespace Horovod

/-! ## The specification's registry -/

/-- The error conditions of the specification's taxonomy (§7) that the registry calls
raise. -/
inductive SpecError
  | notInitialized
  | dynamicModeDisabled
  | unsupportedController
  | unknownProcessSet
  | notAMember
  | globalSetImmutable
  deriving DecidableEq, Repr

/-- The specification's view of one process (§3, §4.3): whether Horovod is initialised, in
dynamic mode and on an MPI-class controller, the calling process's global rank, the
registry as a mapping from ids to members, and every id ever assigned. -/
structure SpecState where
  initialized : Bool
  dynamic : Bool
  mpiController : Bool
  caller : Int
  registry : Int → Option (List Int)
  assigned : List Int

/-- The specification's `addProcessSet(ranks)`: a fresh id, above every id assigned before,
mapped to the ranks as sent; or one of three errors, each only when its condition holds,
leaving the state unchanged. -/
def SpecAdd (s : SpecState) (ranks : List Int) : Except SpecError Int → SpecState → Prop
  | .ok id, s' => s.initialized ∧ s.dynamic ∧ s.mpiController ∧ (∀ u ∈ s.assigned, u < id) ∧
      s' = { s with registry := Function.update s.registry id (some ranks),
                    assigned := id :: s.assigned }
  | .error .notInitialized, s' => s.initialized = false ∧ s' = s
  | .error .dynamicModeDisabled, s' => s.dynamic = false ∧ s' = s
  | .error .unsupportedController, s' => s.mpiController = false ∧ s' = s
  | .error _, _ => False

/-- The specification's `removeProcessSet(id)`: id 0 always fails with `GlobalSetImmutable`;
another registered id is unmapped and 0 returned; otherwise one of the errors of add, or
`UnknownProcessSet` for an id never assigned or already removed, each only when its
condition holds, leaving the state unchanged. -/
def SpecRemove (s : SpecState) (id : Int) : Except SpecError Int → SpecState → Prop
  | .ok v, s' => v = 0 ∧ id ≠ 0 ∧ s.initialized ∧ s.dynamic ∧ s.mpiController ∧
      s.registry id ≠ none ∧ s' = { s with registry := Function.update s.registry id none }
  | .error .globalSetImmutable, s' => id = 0 ∧ s' = s
  | .error .notInitialized, s' => id ≠ 0 ∧ s.initialized = false ∧ s' = s
  | .error .dynamicModeDisabled, s' => id ≠ 0 ∧ s.dynamic = false ∧ s' = s
  | .error .unsupportedController, s' => id ≠ 0 ∧ s.mpiController = false ∧ s' = s
  | .error .unknownProcessSet, s' => id ≠ 0 ∧ s.registry id = none ∧ s' = s
  | .error _, _ => False

/-- The specification's scoped lookups `processSetRank(id)` and `processSetSize(id)`:
`answer` on the members of the set when the caller is one of them, or one of four errors,
each only when its condition holds. -/
def SpecQuery (s : SpecState) (answer : List Int → Int) (id : Int) : Except SpecError Int → Prop
  | .ok v => s.initialized ∧ s.mpiController ∧ ∃ m, s.registry id = some m ∧ s.caller ∈ m ∧
      v = answer m
  | .error .notInitialized => s.initialized = false
  | .error .unsupportedController => s.mpiController = false
  | .error .unknownProcessSet => s.registry id = none
  | .error .notAMember => ∃ m, s.registry id = some m ∧ s.caller ∉ m
  | .error _ => False

/-- The specification's `processSetRank(id)`: the caller's position in the set. -/
def SpecProcessSetRank (s : SpecState) : Int → Except SpecError Int → Prop :=
  SpecQuery s fun m => m.indexOf s.caller

/-- The specification's `processSetSize(id)`: the number of members. -/
def SpecProcessSetSize (s : SpecState) : Int → Except SpecError Int → Prop :=
  SpecQuery s fun m => m.length

/-- The specification error a `ValueError` of the wrappers names, for the id
`processSetId` the call was given. -/
inductive NamesSpecError (processSetId : Int) : PyError → SpecError → Prop
  | notInitialized : NamesSpecError processSetId (.valueError notInitializedMsg) .notInitialized
  | dynamicAdd : NamesSpecError processSetId
      (.valueError "Set HOROVOD_DYNAMIC_PROCESS_SETS=1 to allow adding process sets after Horovod initialization.")
      .dynamicModeDisabled
  | dynamicRemove : NamesSpecError processSetId
      (.valueError "Set HOROVOD_DYNAMIC_PROCESS_SETS=1 to allow removing process sets after Horovod initialization.")
      .dynamicModeDisabled
  | gloo : NamesSpecError processSetId (.valueError glooMsg) .unsupportedController
  | unknownRemove : NamesSpecError processSetId
      (.valueError s!"Tried to remove unknown process set id {processSetId}") .unknownProcessSet
  | unknown : NamesSpecError processSetId
      (.valueError s!"Unknown process set id {processSetId}") .unknownProcessSet
  | notAMember : NamesSpecError processSetId
      (.valueError s!"Process is not part of process set {processSetId}") .notAMember
  | globalSet : NamesSpecError processSetId globalSetError .globalSetImmutable

/-- A wrapper's result is one the specification's operation `spec` allows: a value it
allows, or a `ValueError` naming an error it allows. -/
def Allowed (processSetId : Int) (spec : Except SpecError Int → Prop) : Except PyError Int → Prop
  | .ok v => spec (.ok v)
  | .error err => ∃ k, NamesSpecError processSetId err k ∧ spec (.error k)

/-! ## The abstraction -/

/-- The specification's view of the engine state. -/
def Engine.abs (e : Engine) : SpecState where
  initialized := e.initialized
  dynamic := e.dynamic
  mpiController := e.mpiController
  caller := e.rank
  registry := fun id => e.table.sets.lookup id
  assigned := e.table.used

theorem lookup_append_fresh {l : PyDict} {n : Int} (h : n ∉ l.map Prod.fst) (r : List Int)
    (k : Int) : (l ++ [(n, r)]).lookup k = Function.update (fun k => l.lookup k) n (some r) k := by
  rw [List.lookup_append, Function.update_apply]
  by_cases hk : k = n
  · subst hk
    simp [PyDict.lookup_eq_none_iff.mpr h]
  · cases l.lookup k <;> simp [hk]

theorem lookup_filter_ne (l : PyDict) (x k : Int) :
    (l.filter (fun p => p.1 != x)).lookup k = Function.update (fun k => l.lookup k) x none k := by
  rw [Function.update_apply]
  induction l with
  | nil => simp
  | cons p l ih =>
    obtain ⟨a, w⟩ := p
    by_cases ha : a = x
    · subst ha
      rw [List.filter_cons_of_neg (by simp), ih]
      by_cases hk : k = a <;> simp [hk]
    · rw [List.filter_cons_of_pos (by simpa using ha), lookup_cons_pair, lookup_cons_pair, ih]
      by_cases hk : k = a
      · simp [hk, ha]
      · simp [hk]

/-- Registering under the next id is the specification's fresh assignment. -/
theorem Engine.abs_register (e : Engine) (ranks : List Int) :
    (e.register ranks).abs = { e.abs with
      registry := Function.update e.abs.registry e.nextId (some ranks),
      assigned := e.nextId :: e.abs.assigned } := by
  have hfresh : e.nextId ∉ e.table.sets.map Prod.fst :=
    fun h => Int.lt_irrefl _ (e.lt_nextId_of_mem_ids h)
  simp only [Engine.abs, SpecState.mk.injEq]
  exact ⟨rfl, rfl, rfl, rfl, funext (lookup_append_fresh hfresh ranks), rfl⟩

/-- Removing a set unmaps its id and keeps it assigned. -/
theorem Engine.abs_unregister (e : Engine) (id : Int) (h0 : id ≠ 0) :
    (e.unregister id h0).abs = { e.abs with registry := Function.update e.abs.registry id none } := by
  simp only [Engine.abs, SpecState.mk.injEq]
  exact ⟨rfl, rfl, rfl, rfl, funext (lookup_filter_ne e.table.sets id), rfl⟩

theorem Engine.abs_registry_ne_none (e : Engine) {id : Int} :
    e.abs.registry id ≠ none ↔ id ∈ e.table.ids := by
  rw [Ne, Engine.abs]
  simp only [PyDict.lookup_eq_none_iff, not_not, Registry.ids]

/-! ## Refinement -/

section Refines

variable (e : Engine)

/-- `add_process_set` refines the specification's add, for ranks that fit a C `int`. -/
theorem addProcessSet_refines {ranks : List Int} (hranks : ∀ r ∈ ranks, InCIntRange r) :
    Allowed 0 (fun o => SpecAdd e.abs ranks o (addProcessSet e ranks).2.abs)
      (addProcessSet e ranks).1 := by
  by_cases hi : e.initialized = false
  · have h : addProcessSet e ranks = (.error (.valueError notInitializedMsg), e) := by
      simp [addProcessSet, Engine.horovodAddProcessSet, hi, checkResult, addSentinels]
    rw [h]
    exact ⟨_, .notInitialized, hi, rfl⟩
  by_cases hd : e.dynamic = false
  · have h : addProcessSet e ranks = (.error (.valueError
        "Set HOROVOD_DYNAMIC_PROCESS_SETS=1 to allow adding process sets after Horovod initialization."),
          e) := by
      simp [addProcessSet, Engine.horovodAddProcessSet, hi, hd, checkResult, addSentinels]
    rw [h]
    exact ⟨_, .dynamicAdd, hd, rfl⟩
  by_cases hm : e.mpiController = false
  · have h : addProcessSet e ranks = (.error (.valueError glooMsg), e) := by
      simp [addProcessSet, Engine.horovodAddProcessSet, hi, hd, hm, checkResult, addSentinels]
    rw [h]
    exact ⟨_, .gloo, hm, rfl⟩
  simp only [Bool.not_eq_false] at hi hd hm
  rw [addProcessSet_of_ready e hi hd hm ranks, cIntArray_of_inCIntRange hranks]
  exact ⟨hi, hd, hm, e.used_lt, e.abs_register ranks⟩

/-- `remove_process_set` refines the specification's remove, for ids that fit a C `int`. -/
theorem removeProcessSet_refines {processSetId : Int} (hid : InCIntRange processSetId) :
    Allowed processSetId
      (fun o => SpecRemove e.abs processSetId o (removeProcessSet e processSetId).2.abs)
      (removeProcessSet e processSetId).1 := by
  by_cases h0 : processSetId = 0
  · rw [removeProcessSet, if_pos h0]
    exact ⟨_, .globalSet, h0, rfl⟩
  have hc := cInt_of_inCIntRange hid
  by_cases hi : e.initialized = false
  · have h : removeProcessSet e processSetId = (.error (.valueError notInitializedMsg), e) := by
      simp [removeProcessSet, h0, hc, Engine.horovodRemoveProcessSet, hi, checkResult,
        removeSentinels]
    rw [h]
    exact ⟨_, .notInitialized, h0, hi, rfl⟩
  by_cases hd : e.dynamic = false
  · have h : removeProcessSet e processSetId = (.error (.valueError
        "Set HOROVOD_DYNAMIC_PROCESS_SETS=1 to allow removing process sets after Horovod initialization."),
          e) := by
      simp [removeProcessSet, h0, hc, Engine.horovodRemoveProcessSet, hi, hd, checkResult,
        removeSentinels]
    rw [h]
    exact ⟨_, .dynamicRemove, h0, hd, rfl⟩
  by_cases hm : e.mpiController = false
  · have h : removeProcessSet e processSetId = (.error (.valueError glooMsg), e) := by
      simp [removeProcessSet, h0, hc, Engine.horovodRemoveProcessSet, hi, hd, hm, checkResult,
        removeSentinels]
    rw [h]
    exact ⟨_, .gloo, h0, hm, rfl⟩
  by_cases hmem : processSetId ∈ e.table.ids
  · have h : removeProcessSet e processSetId = (.ok 0, e.unregister processSetId h0) := by
      simp [removeProcessSet, h0, hc, Engine.horovodRemoveProcessSet, hi, hd, hm, hmem,
        checkResult, removeSentinels]
    simp only [Bool.not_eq_false] at hi hd hm
    rw [h]
    exact ⟨rfl, h0, hi, hd, hm, e.abs_registry_ne_none.mpr hmem, e.abs_unregister processSetId h0⟩
  · have h : removeProcessSet e processSetId =
        (.error (.valueError s!"Tried to remove unknown process set id {processSetId}"), e) := by
      simp [removeProcessSet, h0, hc, Engine.horovodRemoveProcessSet, hi, hd, hm, hmem,
        checkResult, removeSentinels]
    rw [h]
    exact ⟨_, .unknownRemove, h0, not_not.mp (mt e.abs_registry_ne_none.mp hmem), rfl⟩

/-- The checks `process_set_rank` and `process_set_size` share refine the specification's
scoped lookup, for ids that fit a C `int` and answers the engine gives as non-negative. -/
theorem scopedQuery_refines (answer : List Int → Int) (nonneg : ∀ m, 0 ≤ answer m)
    {processSetId : Int} (hid : InCIntRange processSetId) :
    Allowed processSetId (SpecQuery e.abs answer processSetId)
      (checkResult (processSetSentinels processSetId) (e.scopedQuery answer (cInt processSetId))) := by
  rw [cInt_of_inCIntRange hid]
  by_cases hi : e.initialized = false
  · have h : e.scopedQuery answer processSetId = -1 := by simp [Engine.scopedQuery, hi]
    rw [h]
    exact ⟨_, .notInitialized, hi⟩
  by_cases hm : e.mpiController = false
  · have h : e.scopedQuery answer processSetId = -10 := by simp [Engine.scopedQuery, hi, hm]
    rw [h]
    exact ⟨_, .gloo, hm⟩
  cases hl : e.table.sets.lookup processSetId with
  | none =>
    have h : e.scopedQuery answer processSetId = -3 := by simp [Engine.scopedQuery, hi, hm, hl]
    rw [h]
    exact ⟨_, .unknown, hl⟩
  | some m =>
    by_cases hr : e.rank ∈ m
    · have h : e.scopedQuery answer processSetId = answer m := by
        simp [Engine.scopedQuery, hi, hm, hl, hr]
      simp only [Bool.not_eq_false] at hi hm
      rw [h, checkResult_of_nonneg (processSetSentinels_negative processSetId) (nonneg m)]
      exact ⟨hi, hm, m, hl, hr, rfl⟩
    · have h : e.scopedQuery answer processSetId = -2 := by
        simp [Engine.scopedQuery, hi, hm, hl, hr]
      rw [h]
      exact ⟨_, .notAMember, m, hl, hr⟩

/-- The wrappers refine the specification's registry. For ranks and ids that fit a C `int`,
every value `add_process_set`, `remove_process_set`, `process_set_rank` and
`process_set_size` return is one the specification's operation allows in that state, with
the registry changed as the specification says; and every `ValueError` they raise names a
specification error (`NotInitialized`, `DynamicModeDisabled`, `UnsupportedController`,
`UnknownProcessSet`, `NotAMember`, `GlobalSetImmutable`) whose condition holds, the registry
left unchanged. -/
theorem wrappers_refine_spec {ranks : List Int} (hranks : ∀ r ∈ ranks, InCIntRange r)
    {processSetId : Int} (hid : InCIntRange processSetId) :
    Allowed 0 (fun o => SpecAdd e.abs ranks o (addProcessSet e ranks).2.abs)
        (addProcessSet e ranks).1 ∧
      Allowed processSetId
        (fun o => SpecRemove e.abs processSetId o (removeProcessSet e processSetId).2.abs)
        (removeProcessSet e processSetId).1 ∧
      Allowed processSetId (SpecProcessSetRank e.abs processSetId)
        (processSetRank e processSetId) ∧
      Allowed processSetId (SpecProcessSetSize e.abs processSetId)
        (processSetSize e processSetId) :=
  ⟨addProcessSet_refines e hranks, removeProcessSet_refines e hid,
    scopedQuery_refines e _ (fun _ => Int.ofNat_zero_le _) hid,
    scopedQuery_refines e _ (fun _ => Int.ofNat_zero_le _) hid⟩

end Refines

/-- On `{0: [0, 1], 1: [0]}`: adding `[1]`, removing set 1, and the rank and size of set 1. -/
theorem wrappers_refine_spec_twoSets :
    Allowed 0 (fun o => SpecAdd twoSetsEngine.abs [1] o (addProcessSet twoSetsEngine [1]).2.abs)
        (addProcessSet twoSetsEngine [1]).1 ∧
      Allowed 1 (fun o => SpecRemove twoSetsEngine.abs 1 o (removeProcessSet twoSetsEngine 1).2.abs)
        (removeProcessSet twoSetsEngine 1).1 ∧
      Allowed 1 (SpecProcessSetRank twoSetsEngine.abs 1) (processSetRank twoSetsEngine 1) ∧
      Allowed 1 (SpecProcessSetSize twoSetsEngine.abs 1) (processSetSize twoSetsEngine 1) :=
  wrappers_refine_spec twoSetsEngine (by decide) (by decide)

end Horovod
