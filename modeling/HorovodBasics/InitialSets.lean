import HorovodBasics.Dynamic
import HorovodBasics.InitOutcome
import Mathlib.Data.List.Sort

/-!
# The table `horovod_init` builds

`init` hands the declared process sets to `horovod_init` as three flat arrays. The engine is
not in the Python sources; how it fills its table is modelled from the specification (§4.1,
§4.2): the whole job is the global set under id 0, and the declared sets follow in
declaration order under ids 1, 2, ..., each with its ranks as declared, an entry whose
processes are, as an unordered set, those of a set already registered being dropped.

`test_static` declares its sets through `hvd.ProcessSet`, which is not in the sources either.
Its result is stated for every rank list `hvd.ProcessSet` may hand `init` that holds the
processes it was given: the test passes exactly when set 1 reaches `init` in increasing order.

## Main definitions

* `Horovod.sameMembers` — two rank lists hold the same processes
* `Horovod.Registry.global`, `Horovod.Engine.start` — the table and the engine before any
  declared set is registered
* `Engine.registerInitial` — the declared sets registered in order
* `Horovod.horovodInit` — the engine a `horovod_init` call sets up
* `staticTestSet1`, `staticTestSets`, `staticTestExpected` — what `test_static` declares and
  expects

## Main results

* `Engine.registerInitial_sets` — registration appends a sublist of the declared sets, each as
  declared, under consecutive ids from the next id on
* `Engine.registerInitial_members` — every declared set is registered up to the order and
  repetition of its ranks, and no two registered sets hold the same processes
* `init_registers_process_sets` — after `init` with rank integers, id 0 holds the whole job,
  ids 1, 2, ... hold declared sets in declaration order, every declared set is registered,
  and no two ids hold the same processes
* `staticTest_getProcessSets` — what `test_static` reads back on every job of two or more
  processes and every rank, and that it passes exactly when set 1 reaches `init` in
  increasing order
-/

namespace Horovod

/-- Modelled from the spec (§4.1): two rank lists hold the same processes, compared as
unordered sets. -/
def sameMembers (a b : List Int) : Bool := a.all (fun x => decide (x ∈ b)) && b.all (fun x => decide (x ∈ a))

theorem sameMembers_iff {a b : List Int} : sameMembers a b = true ↔ ∀ x, x ∈ a ↔ x ∈ b := by
  simp only [sameMembers, Bool.and_eq_true, List.all_eq_true, decide_eq_true_eq]
  exact ⟨fun h x => ⟨h.1 x, h.2 x⟩, fun h => ⟨fun x => (h x).1, fun x => (h x).2⟩⟩

theorem sameMembers_comm (a b : List Int) : sameMembers a b = sameMembers b a := by
  simp only [sameMembers, Bool.and_comm]

/-- A process in one list and not the other tells the lists apart. -/
theorem sameMembers_eq_false {a b : List Int} {x : Int} (ha : x ∈ a) (hb : x ∉ b) :
    sameMembers a b = false := by
  rw [← Bool.not_eq_true, sameMembers_iff]
  exact fun h => hb ((h x).mp ha)

/-- Python's `list(range(a, a + n))`. -/
def intRange (a n : Nat) : List Int := (List.range' a n).map Int.ofNat

@[simp] theorem length_intRange (a n : Nat) : (intRange a n).length = n := by
  simp [intRange]

@[simp] theorem mem_intRange {a n : Nat} {x : Int} : x ∈ intRange a n ↔ a ≤ x ∧ x < a + n := by
  simp only [intRange, List.mem_map, List.mem_range'_1, Int.ofNat_eq_coe]
  constructor
  · rintro ⟨i, hi, rfl⟩
    omega
  · intro h
    exact ⟨x.toNat, by omega, by omega⟩

theorem intRange_succ (a n : Nat) : intRange a (n + 1) = (a : Int) :: intRange (a + 1) n := by
  simp [intRange, List.range'_succ]

theorem intRange_eq_map_range (a n : Nat) :
    intRange a n = (List.range n).map fun i : Nat => (a : Int) + i := by
  simp [intRange, List.range'_eq_map_range, Function.comp_def]

/-- Modelled from the spec: the table holding only the global set, under id 0. -/
def Registry.global (ranks : List Int) : Registry where
  sets := [(0, ranks)]
  used := [0]
  ids_nodup := List.nodup_singleton _
  sets_used := by simp
  global_mem := by simp

namespace Engine

/-- Modelled from the spec: the engine `horovod_init` sets up on a job of `size` processes,
before the declared sets: the global set `[0, size)` under id 0, the next id 1. -/
def start (size : Nat) (rank : Int) (dynamic mpiController : Bool) : Engine where
  initialized := true
  dynamic := dynamic
  mpiController := mpiController
  rank := rank
  table := Registry.global (intRange 0 size)
  nextId := 1
  used_lt := by simp [Registry.global]

@[simp] theorem start_initialized (size : Nat) (rank : Int) (dynamic mpiController : Bool) :
    (start size rank dynamic mpiController).initialized = true :=
  rfl

@[simp] theorem start_dynamic (size : Nat) (rank : Int) (dynamic mpiController : Bool) :
    (start size rank dynamic mpiController).dynamic = dynamic :=
  rfl

@[simp] theorem start_rank (size : Nat) (rank : Int) (dynamic mpiController : Bool) :
    (start size rank dynamic mpiController).rank = rank :=
  rfl

@[simp] theorem start_sets (size : Nat) (rank : Int) (dynamic mpiController : Bool) :
    (start size rank dynamic mpiController).table.sets = [(0, intRange 0 size)] :=
  rfl

@[simp] theorem start_nextId (size : Nat) (rank : Int) (dynamic mpiController : Bool) :
    (start size rank dynamic mpiController).nextId = 1 :=
  rfl

/-- Modelled from the spec (§4.1, §4.2): the declared sets registered in declaration order
under the next id, each with its ranks as declared; an entry whose processes are, as an
unordered set, those of a set already registered (the global set included) is dropped. -/
def registerInitial (e : Engine) : List (List Int) → Engine
  | [] => e
  | ranks :: rest =>
    if (e.table.sets.map Prod.snd).any (sameMembers ranks) then e.registerInitial rest
    else (e.register ranks).registerInitial rest

/-- Registration changes only the table and the next id. -/
theorem registerInitial_flags (e : Engine) (P : List (List Int)) :
    (e.registerInitial P).initialized = e.initialized ∧ (e.registerInitial P).dynamic = e.dynamic ∧
      (e.registerInitial P).mpiController = e.mpiController ∧ (e.registerInitial P).rank = e.rank := by
  induction P generalizing e with
  | nil => exact ⟨rfl, rfl, rfl, rfl⟩
  | cons ranks rest ih =>
    unfold registerInitial
    split_ifs
    · exact ih e
    · exact ih _

/-- Registration appends, under consecutive ids from the next id on, a sublist of the declared
sets, each as declared, and moves the next id past them. -/
theorem registerInitial_sets (e : Engine) (P : List (List Int)) :
    ∃ Q, Q.Sublist P ∧ (e.registerInitial P).table.sets =
        e.table.sets ++ ((List.range Q.length).map fun i : Nat => e.nextId + i).zip Q ∧
      (e.registerInitial P).nextId = e.nextId + Q.length := by
  induction P generalizing e with
  | nil => exact ⟨[], List.Sublist.slnil, by simp [registerInitial], by simp [registerInitial]⟩
  | cons ranks rest ih =>
    unfold registerInitial
    split_ifs
    · obtain ⟨Q, hQ, hs, hn⟩ := ih e
      exact ⟨Q, hQ.cons _, hs, hn⟩
    · obtain ⟨Q, hQ, hs, hn⟩ := ih (e.register ranks)
      have hstep : (fun i : Nat => e.nextId + ((i + 1 : Nat) : Int)) =
          fun i : Nat => e.nextId + 1 + i := funext fun i => by omega
      refine ⟨ranks :: Q, hQ.cons₂ _, ?_, ?_⟩
      · simp only [hs, register_table, Registry.add_sets, register_nextId, List.length_cons,
          List.range_succ_eq_map, List.map_cons, List.map_map, Function.comp_def, hstep,
          Nat.cast_zero, Int.add_zero, List.zip_cons_cons, List.append_assoc, List.singleton_append]
      · simp only [hn, register_nextId, List.length_cons, Nat.cast_succ]
        omega

/-- Registration keeps every set already registered, under its id and in place. -/
theorem registerInitial_extends (e : Engine) (P : List (List Int)) :
    e.table.sets <+: (e.registerInitial P).table.sets := by
  obtain ⟨Q, -, hs, -⟩ := registerInitial_sets e P
  rw [hs]
  exact List.prefix_append _ _

/-- Every declared set is registered up to the order and repetition of its ranks, and no two
registered sets hold the same processes if none did before. -/
theorem registerInitial_members (e : Engine) (P : List (List Int)) :
    (∀ s ∈ P, ∃ m ∈ (e.registerInitial P).table.sets.map Prod.snd, sameMembers s m = true) ∧
      ((e.table.sets.map Prod.snd).Pairwise (fun a b => sameMembers a b = false) →
        ((e.registerInitial P).table.sets.map Prod.snd).Pairwise
          (fun a b => sameMembers a b = false)) := by
  induction P generalizing e with
  | nil => exact ⟨by simp, id⟩
  | cons ranks rest ih =>
    have hkeep : ∀ e' : Engine, ∀ m ∈ e'.table.sets.map Prod.snd,
        m ∈ (e'.registerInitial rest).table.sets.map Prod.snd :=
      fun e' _ hm => ((registerInitial_extends e' rest).map Prod.snd).subset hm
    unfold registerInitial
    split_ifs with h
    · obtain ⟨hall, hnd⟩ := ih e
      refine ⟨fun s hs => ?_, hnd⟩
      rcases List.mem_cons.mp hs with rfl | hs
      · obtain ⟨m, hm, hsm⟩ := List.any_eq_true.mp h
        exact ⟨m, hkeep e m hm, hsm⟩
      · exact hall s hs
    · obtain ⟨hall, hnd⟩ := ih (e.register ranks)
      refine ⟨fun s hs => ?_, fun hnd₀ => hnd ?_⟩
      · rcases List.mem_cons.mp hs with rfl | hs
        · exact ⟨s, hkeep _ s (by simp), sameMembers_iff.mpr fun _ => Iff.rfl⟩
        · exact hall s hs
      · simp only [register_table, Registry.add_sets, List.map_append, List.map_cons, List.map_nil]
        refine List.pairwise_append.mpr ⟨hnd₀, List.pairwise_singleton _ _, fun a ha b hb => ?_⟩
        rw [List.mem_singleton.mp hb, sameMembers_comm]
        simpa using List.any_eq_false.mp (Bool.not_eq_true _ ▸ h) a ha

/-- The global set keeps its place and its ranks. -/
theorem start_registerInitial_lookup_zero (size : Nat) (rank : Int) (dynamic mpiController : Bool)
    (P : List (List Int)) :
    ((start size rank dynamic mpiController).registerInitial P).table.sets.lookup 0 =
      some (intRange 0 size) :=
  Registry.lookup_eq_some_iff.mpr ((registerInitial_extends _ P).subset (by simp))

/-- The specification's example: `[2, 1, 0]` and the second `[0]` are dropped. -/
example : ((start 3 0 false true).registerInitial [[0], [1, 2], [2, 1, 0], [0]]).table.sets =
    [(0, [0, 1, 2]), (1, [0]), (2, [1, 2])] := by
  decide

/-- Repeated and reordered ranks are the same processes: only `[2, 1]` is registered, as
declared. -/
example : ((start 3 0 false true).registerInitial [[2, 1], [1, 1, 2], [1, 2]]).table.sets =
    [(0, [0, 1, 2]), (1, [2, 1])] := by
  decide

end Engine

/-- Modelled from the spec: the engine `horovod_init(ranks, nranks, process_set_ranks,
process_set_sizes, nsets)` sets up, called under `env` on a job of `worldSize` processes, on
the process of rank `worldRank` in `MPI_COMM_WORLD`. The global set is the whole job, or the
`nranks` processes listed, each ranked by its place in the list as `MPI_Group_incl` does; the
engine reads the dynamic switch from the environment. The communicator initialisers are not
modelled. -/
def horovodInit (worldSize : Nat) (worldRank : Int) (mpiController : Bool) :
    EngineCall × Environ → Option Engine
  | (.init ranks nranks psRanks psSizes nsets, env) =>
    some ((Engine.start (if nranks = 0 then worldSize else nranks.toNat)
      (if nranks = 0 then worldRank else ranks.indexOf worldRank)
      (env dynamicProcessSetsVar == some "1") mpiController).registerInitial
        ((decodeProcessSets psRanks psSizes).take nsets.toNat))
  | _ => none

/-! ## After `init` -/

/-- Calling `init` with `comm` rank integers or `None` returns after one engine call,
`horovod_init`, and when the declared sets fit C `int`s the engine it sets up is the start
engine with the declared sets registered. -/
theorem init_horovodInit (host : Host) (comm : CommArg) {ps : ProcessSetsArg} (p : Process)
    {P : List (List Int)} (hP : ps.Declares P)
    (hranks : ∀ e ∈ P, ∀ r ∈ e, InCIntRange r) (hsizes : ∀ e ∈ P, e.length < 2147483648)
    (hcount : P.length < 2147483648) {ranks : List Int}
    (hcomm : comm.toList.mapM CommElem.rank? = some ranks) (hlen : ranks.length < 2147483648)
    (worldSize : Nat) (worldRank : Int) (mpiController : Bool) :
    (init host comm ps p).1 = .ok () ∧ ∃ c, (init host comm ps p).2.calls = p.calls ++ [c] ∧
      horovodInit worldSize worldRank mpiController c = some
        ((Engine.start (if ranks = [] then worldSize else ranks.length)
          (if ranks = [] then worldRank else (cIntArray ranks).indexOf worldRank)
          (ps.environAfter p.environ dynamicProcessSetsVar == some "1")
          mpiController).registerInitial P) := by
  obtain ⟨hcnt, -, -, hdec⟩ := processSetArgsOf_decode hranks hsizes hcount
  rw [init_of_ranks (processSetArgs_of_declares hP) hcomm]
  refine ⟨rfl, _, rfl, ?_⟩
  simp only [horovodInit, hdec, hcnt, cInt_natCast_of_lt hlen, Int.toNat_ofNat, List.take_length,
    Nat.cast_eq_zero, List.length_eq_zero, Process.prepared_environ]

/-- Calling `init` with `comm` rank integers or `None` makes one engine call, `horovod_init`.
When the declared sets fit C `int`s, the engine it sets up holds the whole job under id 0 and,
under ids 1, 2, ..., declared sets as declared and in declaration order; every declared set
is registered up to the order and repetition of its ranks, and no two ids hold the same
processes; and the engine is in dynamic mode when `process_sets` was "dynamic". -/
theorem init_registers_process_sets (host : Host) (comm : CommArg) {ps : ProcessSetsArg}
    (p : Process) {P : List (List Int)} (hP : ps.Declares P)
    (hranks : ∀ e ∈ P, ∀ r ∈ e, InCIntRange r) (hsizes : ∀ e ∈ P, e.length < 2147483648)
    (hcount : P.length < 2147483648) {ranks : List Int}
    (hcomm : comm.toList.mapM CommElem.rank? = some ranks) (hlen : ranks.length < 2147483648)
    (worldSize : Nat) (worldRank : Int) (mpiController : Bool) :
    ∃ c e, (init host comm ps p).2.calls = p.calls ++ [c] ∧
      horovodInit worldSize worldRank mpiController c = some e ∧
      e.table.sets.lookup 0 = some (intRange 0 (if ranks = [] then worldSize else ranks.length)) ∧
      e.table.ids = intRange 0 e.table.sets.length ∧
      (e.table.sets.map Prod.snd).tail.Sublist P ∧
      (∀ s ∈ P, ∃ m ∈ e.table.sets.map Prod.snd, ∀ x, x ∈ s ↔ x ∈ m) ∧
      (e.table.sets.map Prod.snd).Pairwise (fun a b => ¬ ∀ x, x ∈ a ↔ x ∈ b) ∧
      (ps.isDynamic = true → e.dynamic = true) := by
  obtain ⟨-, c, hcalls, he⟩ :=
    init_horovodInit host comm p hP hranks hsizes hcount hcomm hlen worldSize worldRank mpiController
  set s₀ := Engine.start (if ranks = [] then worldSize else ranks.length)
    (if ranks = [] then worldRank else (cIntArray ranks).indexOf worldRank)
    (ps.environAfter p.environ dynamicProcessSetsVar == some "1") mpiController
  obtain ⟨Q, hQ, hs, -⟩ := Engine.registerInitial_sets s₀ P
  obtain ⟨hall, hnd⟩ := Engine.registerInitial_members s₀ P
  have hzip : ((List.range Q.length).map fun i : Nat => (1 : Int) + i).zip Q =
      ((intRange 1 Q.length).zip Q) := by rw [intRange_eq_map_range, Nat.cast_one]
  refine ⟨c, _, hcalls, he, Engine.start_registerInitial_lookup_zero .., ?_, ?_,
    fun s hs => ?_, (hnd (by simp [s₀])).imp fun h => by rw [← sameMembers_iff, h]; decide,
    fun hdyn => ?_⟩
  · simp only [Registry.ids, hs, s₀, Engine.start_sets, Engine.start_nextId, hzip, List.map_append, List.map_cons,
      List.map_nil, List.map_fst_zip _ _ (by simp : (intRange 1 Q.length).length ≤ Q.length),
      List.length_append, List.length_cons, List.length_nil, List.length_zip, length_intRange,
      min_self, Nat.zero_add, intRange_succ, Nat.cast_zero, Nat.add_comm 1, List.singleton_append]
  · simp only [hs, s₀, Engine.start_sets, Engine.start_nextId, hzip, List.map_append, List.map_cons, List.map_nil,
      List.singleton_append, List.tail_cons,
      List.map_snd_zip _ _ (by simp : Q.length ≤ (intRange 1 Q.length).length)]
    exact hQ
  · obtain ⟨m, hm, hsm⟩ := hall s hs
    exact ⟨m, hm, sameMembers_iff.mp hsm⟩
  · simp [s₀, (Engine.registerInitial_flags _ P).2.1, environAfter_of_isDynamic hdyn]

/-- The spec's example on three processes, `process_sets = [[0], [1, 2], [2, 1, 0], [0]]`:
`init` makes one call, after which id 0 holds `[0, 1, 2]` and the first two sets follow. -/
theorem init_registers_process_sets_spec :
    ∃ c e, (init ⟨true, true⟩ .none (.sets [[0], [1, 2], [2, 1, 0], [0]]) Process.empty).2.calls =
        Process.empty.calls ++ [c] ∧
      horovodInit 3 0 true c = some e ∧
      e.table.sets.lookup 0 = some (intRange 0 (if ([] : List Int) = [] then 3 else 0)) ∧
      e.table.ids = intRange 0 e.table.sets.length ∧
      (e.table.sets.map Prod.snd).tail.Sublist [[0], [1, 2], [2, 1, 0], [0]] ∧
      (∀ s ∈ [[0], [1, 2], [2, 1, 0], [0]], ∃ m ∈ e.table.sets.map Prod.snd, ∀ x, x ∈ s ↔ x ∈ m) ∧
      (e.table.sets.map Prod.snd).Pairwise (fun a b => ¬ ∀ x, x ∈ a ↔ x ∈ b) ∧
      ((ProcessSetsArg.sets [[0], [1, 2], [2, 1, 0], [0]]).isDynamic = true → e.dynamic = true) :=
  init_registers_process_sets ⟨true, true⟩ .none Process.empty (.sets _) (by decide) (by decide)
    (by decide) rfl (by decide) 3 0 true

/-! ## `test_static` -/

/-- Set 1 of `test_static` as a rank lists it before `hvd.ProcessSet`: `range(1, size)` on
rank 0, `reversed(range(1, size))` on the others. -/
def staticTestSet1 (size : Nat) (rankZero : Bool) : List Int :=
  if rankZero then intRange 1 (size - 1) else (intRange 1 (size - 1)).reverse

/-- The process sets `test_static` declares on a job of `size` processes, before
`hvd.ProcessSet`. -/
def staticTestSets (size : Nat) (rankZero : Bool) : List (List Int) :=
  [[0], staticTestSet1 size rankZero, (intRange 0 size).reverse, [0]]

/-- The dict `test_static` expects from `get_process_sets`. -/
def staticTestExpected (size : Nat) : PyDict :=
  [(0, intRange 0 size), (1, [0]), (2, intRange 1 (size - 1))]

/-- A normalisation `hvd.ProcessSet` may apply: sorting the ranks. -/
def sortRanks (ranks : List Int) : List Int := ranks.insertionSort (· ≤ ·)

theorem mem_staticTestSet1 {size : Nat} {rankZero : Bool} {x : Int} :
    x ∈ staticTestSet1 size rankZero ↔ 1 ≤ x ∧ x < size := by
  cases rankZero <;> simp [staticTestSet1] <;> omega

theorem length_staticTestSet1 (size : Nat) (rankZero : Bool) :
    (staticTestSet1 size rankZero).length = size - 1 := by
  cases rankZero <;> simp [staticTestSet1]

/-- Every set `test_static` declares names processes of the job, at most all of them. -/
theorem staticTestSets_bounded {size : Nat} {rankZero : Bool} (pos : 0 < size) {l : List Int}
    (hl : l ∈ staticTestSets size rankZero) : (∀ x ∈ l, 0 ≤ x ∧ x < size) ∧ l.length ≤ size := by
  simp only [staticTestSets, List.mem_cons, List.mem_singleton, List.not_mem_nil, or_false] at hl
  rcases hl with rfl | rfl | rfl | rfl <;> refine ⟨fun x hx => ?_, ?_⟩ <;>
    simp_all [mem_staticTestSet1, length_staticTestSet1] <;> omega

section StaticTest

variable {size : Nat} (two : 2 ≤ size) (rankZero : Bool) {toRanks : List Int → List Int}
  (hperm : ∀ l, (toRanks l).Perm l)
include two hperm

/-- Whatever order `hvd.ProcessSet` gives each set, the reversed whole job and the second `[0]`
are dropped, and set 1 is registered as it reaches `init`. -/
theorem registerInitial_staticTestSets (rank : Int) (dynamic mpiController : Bool) :
    ((Engine.start size rank dynamic mpiController).registerInitial
      ((staticTestSets size rankZero).map toRanks)).table.sets =
      [(0, intRange 0 size), (1, [0]), (2, toRanks (staticTestSet1 size rankZero))] := by
  have h0 : toRanks [0] = [0] := List.perm_singleton.mp (hperm [0])
  have hmem : ∀ l x, x ∈ toRanks l ↔ x ∈ l := fun l x => (hperm l).mem_iff
  have hzero : sameMembers [0] (intRange 0 size) = false :=
    (sameMembers_comm _ _).trans (sameMembers_eq_false (x := 1) (by simp; omega) (by simp))
  have hset1 : sameMembers (toRanks (staticTestSet1 size rankZero)) (intRange 0 size) = false :=
    (sameMembers_comm _ _).trans
      (sameMembers_eq_false (x := 0) (by simp; omega) (by simp [hmem, mem_staticTestSet1]))
  have hset1' : sameMembers (toRanks (staticTestSet1 size rankZero)) [0] = false :=
    sameMembers_eq_false (x := 1) (by simp [hmem, mem_staticTestSet1]; omega) (by simp)
  have hglobal : sameMembers (toRanks (intRange 0 size).reverse) (intRange 0 size) = true :=
    sameMembers_iff.mpr fun x => by rw [hmem, List.mem_reverse]
  have hsame : sameMembers [0] [0] = true := rfl
  simp only [staticTestSets, List.map_cons, List.map_nil, h0, Engine.registerInitial,
    Engine.start_sets, Engine.register_table, Registry.add_sets, Engine.register_nextId,
    List.map_append, List.map_cons, List.map_nil, List.cons_append, List.nil_append,
    List.any_cons, List.any_nil, hzero, hset1, hset1', hglobal, hsame, Bool.or_false,
    Bool.false_or, Bool.or_true, if_true, if_false, Bool.false_eq_true]
  rfl

/-- The test `test_static` on every job of two or more processes, on every rank, whatever rank
lists `hvd.ProcessSet` hands `init`, as long as each holds the processes it was given:
`init` makes one engine call; `get_process_sets` on the engine it sets up returns id 0 as the
whole job, id 1 as `[0]` and id 2 as set 1 as it reached `init`, the reversed whole job and the
second `[0]` having been dropped; and the test's `assertDictEqual` passes exactly when set 1
reached `init` as `range(1, size)`. -/
theorem staticTest_getProcessSets (host : Host) (p : Process) (fits : size < 2147483648)
    (rank : Int) (mpiController : Bool) :
    (init host .none (.sets ((staticTestSets size rankZero).map toRanks)) p).1 = .ok () ∧
      ∃ c e, (init host .none (.sets ((staticTestSets size rankZero).map toRanks)) p).2.calls =
          p.calls ++ [c] ∧
        horovodInit size rank mpiController c = some e ∧
        getProcessSets (fun _ => e.table) =
          some (.ok [(0, intRange 0 size), (1, [0]), (2, toRanks (staticTestSet1 size rankZero))]) ∧
        (PyDict.Equiv [(0, intRange 0 size), (1, [0]), (2, toRanks (staticTestSet1 size rankZero))]
            (staticTestExpected size) ↔
          toRanks (staticTestSet1 size rankZero) = intRange 1 (size - 1)) := by
  have hbound : ∀ e ∈ (staticTestSets size rankZero).map toRanks,
      (∀ x ∈ e, 0 ≤ x ∧ x < size) ∧ e.length ≤ size := by
    intro e he
    obtain ⟨l, hl, rfl⟩ := List.mem_map.mp he
    rw [(hperm l).length_eq]
    exact ⟨fun x hx => (staticTestSets_bounded (by omega) hl).1 x ((hperm l).mem_iff.mp hx),
      (staticTestSets_bounded (by omega) hl).2⟩
  have hranks : ∀ e ∈ (staticTestSets size rankZero).map toRanks, ∀ r ∈ e, InCIntRange r :=
    fun e he r hr => by have := (hbound e he).1 r hr; simp only [InCIntRange]; omega
  have hsizes : ∀ e ∈ (staticTestSets size rankZero).map toRanks, e.length < 2147483648 :=
    fun e he => by have := (hbound e he).2; omega
  have hcomm : CommArg.none.toList.mapM CommElem.rank? = some [] := rfl
  obtain ⟨hok, c, hcalls, he⟩ := init_horovodInit host .none p (.sets _) hranks hsizes
    (by simp [staticTestSets]) hcomm (by decide) size rank mpiController
  refine ⟨hok, c, _, hcalls, he, ?_, ⟨fun h => ?_, fun h => ?_⟩⟩
  · rw [if_pos rfl, getProcessSets_of_ids (getProcessSetIds_self _), readProcessSets_table,
      registerInitial_staticTestSets two rankZero hperm]
  · simpa [staticTestExpected] using h 2
  · intro k
    rw [h]
    rfl

end StaticTest

/-- On rank 1 of three processes, with `hvd.ProcessSet` sorting its ranks, the test passes. -/
theorem staticTest_getProcessSets_three :
    (init ⟨true, true⟩ .none (.sets ((staticTestSets 3 false).map sortRanks)) Process.empty).1 =
        .ok () ∧
      ∃ c e, (init ⟨true, true⟩ .none (.sets ((staticTestSets 3 false).map sortRanks))
          Process.empty).2.calls = Process.empty.calls ++ [c] ∧
        horovodInit 3 1 true c = some e ∧
        getProcessSets (fun _ => e.table) =
          some (.ok [(0, intRange 0 3), (1, [0]), (2, sortRanks (staticTestSet1 3 false))]) ∧
        (PyDict.Equiv [(0, intRange 0 3), (1, [0]), (2, sortRanks (staticTestSet1 3 false))]
            (staticTestExpected 3) ↔
          sortRanks (staticTestSet1 3 false) = intRange 1 (3 - 1)) :=
  staticTest_getProcessSets (by decide) false (fun l => List.perm_insertionSort _ l) ⟨true, true⟩
    Process.empty (by decide) 1 true

/-- Without a normalisation, rank 1 of three processes reads set 2 back as `[2, 1]`, and the
test's assertion fails. -/
example : ¬ PyDict.Equiv [(0, intRange 0 3), (1, [0]), (2, staticTestSet1 3 false)]
    (staticTestExpected 3) :=
  fun h => absurd (h 2) (by decide)

end Horovod
