import HorovodBasics.InitialSets
import Mathlib.Data.List.Pairwise

/-!
# Communicators and their process sets

`init` with two or more mpi4py communicators calls `horovod_init_multi_comm` with their
handles, and `comm_process_set(comm)` later asks the engine which process set a
communicator stands for. Neither engine function is in the Python sources; both are
modelled from the specification: the first communicator, duplicated, is the global one,
the processes of each further communicator are registered as an initial process set (in
Horovod ranks, in the communicator's order, a set whose processes are already registered
being dropped, as for the sets `horovod_init` receives), and a communicator is resolved by
the processes it holds, compared as unordered sets. The
`process_sets` argument never reaches `horovod_init_multi_comm`: lines 102-107 do not pass
the arrays built at lines 67-73.

## Main definitions

* `Horovod.commRanks` — a communicator's processes, in Horovod ranks
* `Horovod.horovodInitMultiComm` — the engine `horovod_init_multi_comm` sets up
* `Engine.horovodCommProcessSet` — the engine's answer to `horovod_comm_process_set`
* `Engine.Resolvable` — what resolving a communicator by its processes needs of an engine

## Main results

* `Engine.registerInitial_sets_subset` — registration adds only declared sets, as declared
* `commRanks_self` — the global communicator holds the whole job, in rank order
* `commProcessSet_eq_iff` — on a resolvable engine, two registered communicators resolve
  alike exactly when they hold the same processes
* `registerInitial_commRanks` — the engine `horovod_init_multi_comm` sets up is resolvable,
  registers only the communicators' rank lists, and registers the processes of each
* `commProcessSet_after_init` — after `init` with communicators, `comm_process_set` maps each
  of them to the set holding its processes, the first to 0, two of them to the same id
  exactly when they hold the same processes, and raises for a communicator holding other
  processes
-/

namespace Horovod

/-- Modelled from the spec: the Horovod ranks of the processes of the communicator `handle`,
`groups` giving each communicator's processes by world rank, in the communicator's rank
order, and Horovod ranks being ranks in the global communicator `global`. -/
def commRanks (groups : Nat → List Int) (global handle : Nat) : List Int :=
  (groups handle).map fun w => ((groups global).indexOf w : Int)

/-- Modelled from the spec: the engine `horovod_init_multi_comm(comms, ncomms)` sets up,
called under `env` on the process of world rank `worldRank`: the first of the `ncomms`
communicators is the global one, the calling process ranked by its place in it, and the
processes of each further communicator are registered as an initial process set.
Communicators exist only with an MPI controller. -/
def horovodInitMultiComm (groups : Nat → List Int) (worldRank : Int) :
    EngineCall × Environ → Option Engine
  | (.initMultiComm handles ncomms, env) =>
    match handles.take ncomms.toNat with
    | global :: rest =>
      some ((Engine.start (groups global).length ((groups global).indexOf worldRank)
        (env dynamicProcessSetsVar == some "1") true).registerInitial
          (rest.map (commRanks groups global)))
    | [] => none
  | _ => none

/-- Modelled from the spec: `horovod_comm_process_set(comm)` on an engine whose global
communicator is `global`: -1 before `init` or without an MPI controller, otherwise the id
of the registered set holding exactly the processes of `comm`, in any order, or -2 when
there is none. -/
def Engine.horovodCommProcessSet (groups : Nat → List Int) (global : Nat) (e : Engine)
    (handle : Nat) : Int :=
  if !e.initialized || !e.mpiController then -1
  else
    match e.table.sets.find? (fun p => sameMembers p.2 (commRanks groups global handle)) with
    | some p => p.1
    | none => -2

/-- The error of line 440. -/
def noMatchingSetError : PyError :=
  .valueError "MPI communicator does not correspond to any registered process set."

/-! ## What registration adds -/

namespace Engine

/-- Registration adds only declared sets, as declared. -/
theorem registerInitial_sets_subset (e : Engine) (P : List (List Int)) :
    ∀ s ∈ (e.registerInitial P).table.sets.map Prod.snd, s ∈ e.table.sets.map Prod.snd ∨ s ∈ P := by
  obtain ⟨Q, hQ, hs, -⟩ := registerInitial_sets e P
  intro s h
  rw [hs, List.map_append, List.map_snd_zip _ _ (by simp), List.mem_append] at h
  exact h.imp_right fun hq => hQ.subset hq

/-- Registration from non-negative ids hands out only non-negative ids. -/
theorem registerInitial_ids_nonneg (e : Engine) (P : List (List Int))
    (hids : ∀ id ∈ e.table.ids, 0 ≤ id) (hnext : 0 ≤ e.nextId) :
    ∀ id ∈ (e.registerInitial P).table.ids, 0 ≤ id := by
  induction P generalizing e with
  | nil => exact hids
  | cons ranks rest ih =>
    unfold registerInitial
    split_ifs
    · exact ih e hids hnext
    · refine ih _ (fun id hid => ?_) (by simp only [register_nextId]; omega)
      rcases (e.mem_register_ids _).mp hid with hold | rfl
      · exact hids _ hold
      · exact hnext

end Engine

/-! ## The global communicator -/

private theorem indexOf_map_add {l : List Int} (hl : l.Nodup) (k : Nat) :
    l.map (fun w => ((l.indexOf w + k : Nat) : Int)) = intRange k l.length := by
  induction l generalizing k with
  | nil => rfl
  | cons a t ih =>
    obtain ⟨ha, ht⟩ := List.nodup_cons.mp hl
    have hrest : t.map (fun w => (((a :: t).indexOf w + k : Nat) : Int)) =
        t.map (fun w => ((t.indexOf w + (k + 1) : Nat) : Int)) :=
      List.map_congr_left fun w hw => by
        rw [List.indexOf_cons_ne _ (ne_of_mem_of_not_mem hw ha).symm, Nat.succ_add, Nat.add_succ]
    rw [List.length_cons, intRange_succ, List.map_cons, List.indexOf_cons_self, hrest, ih ht]
    simp

/-- The global communicator holds the whole job, each process at its own rank. -/
theorem commRanks_self (groups : Nat → List Int) (global : Nat) (h : (groups global).Nodup) :
    commRanks groups global global = intRange 0 (groups global).length := by
  simpa using indexOf_map_add h 0

/-! ## Resolving a communicator -/

theorem sameMembers_trans {a b c : List Int} (hab : sameMembers a b = true)
    (hbc : sameMembers b c = true) : sameMembers a c = true :=
  sameMembers_iff.mpr fun x => (sameMembers_iff.mp hab x).trans (sameMembers_iff.mp hbc x)

/-- In a table where no two ids hold the same processes, a set is named by its processes. -/
theorem eq_of_sameMembers {e : Engine}
    (hnd : (e.table.sets.map Prod.snd).Pairwise (fun a b => sameMembers a b = false))
    {p q : Int × List Int} (hp : p ∈ e.table.sets) (hq : q ∈ e.table.sets)
    (hpq : sameMembers p.2 q.2 = true) : p = q := by
  by_contra hne
  have hsymm : Symmetric fun p q : Int × List Int => sameMembers p.2 q.2 = false :=
    fun p q h => (sameMembers_comm q.2 p.2).trans h
  rw [(List.pairwise_map.mp hnd).forall hsymm hp hq hne] at hpq
  cases hpq

section Resolve

variable (groups : Nat → List Int) (global : Nat) {e : Engine}

theorem horovodCommProcessSet_of_mem (hi : e.initialized = true) (hm : e.mpiController = true)
    (hnd : (e.table.sets.map Prod.snd).Pairwise (fun a b => sameMembers a b = false))
    {handle : Nat} {id : Int} {m : List Int} (hmem : (id, m) ∈ e.table.sets)
    (hsame : sameMembers m (commRanks groups global handle) = true) :
    e.horovodCommProcessSet groups global handle = id := by
  have hsome : (e.table.sets.find?
      (fun p => sameMembers p.2 (commRanks groups global handle))).isSome :=
    List.find?_isSome.mpr ⟨_, hmem, hsame⟩
  obtain ⟨p, hp⟩ := Option.isSome_iff_exists.mp hsome
  have hfound := List.find?_some hp
  have hpeq : p = (id, m) := eq_of_sameMembers hnd (List.mem_of_find?_eq_some hp) hmem
    (sameMembers_trans hfound (by rwa [sameMembers_comm]))
  simp [Engine.horovodCommProcessSet, hi, hm, hp, hpeq]

theorem horovodCommProcessSet_of_not_mem (hi : e.initialized = true) (hm : e.mpiController = true)
    {handle : Nat}
    (hnone : ∀ m ∈ e.table.sets.map Prod.snd, sameMembers m (commRanks groups global handle) = false) :
    e.horovodCommProcessSet groups global handle = -2 := by
  have hfind : e.table.sets.find? (fun p => sameMembers p.2 (commRanks groups global handle)) =
      none :=
    List.find?_eq_none.mpr fun p hp hpe => by
      rw [hnone p.2 (List.mem_map_of_mem _ hp)] at hpe
      cases hpe
  simp [Engine.horovodCommProcessSet, hi, hm, hfind]

end Resolve

/-! ## After `init` with communicators -/

theorem mapM_handle_comm (hs : List Nat) : (hs.map CommElem.comm).mapM CommElem.handle? = some hs := by
  induction hs with
  | nil => rfl
  | cons h hs ih =>
    simp only [List.map_cons, List.mapM_cons, CommElem.handle?, ih]
    rfl

/-- The engine reads all the handles it is given. -/
theorem horovodInitMultiComm_list (groups : Nat → List Int) (worldRank : Int) (global : Nat)
    (rest : List Nat) (env : Environ) :
    horovodInitMultiComm groups worldRank
        (.initMultiComm (global :: rest) ((global :: rest).length : Int), env) =
      some ((Engine.start (groups global).length ((groups global).indexOf worldRank)
        (env dynamicProcessSetsVar == some "1") true).registerInitial
          (rest.map (commRanks groups global))) := by
  rw [horovodInitMultiComm, Int.toNat_natCast, List.take_length]

/-- Calling `init` with two or more communicators returns after the `horovod_mpi_built` probe
and one `horovod_init_multi_comm` call, whatever `process_sets` declared: the engine it sets
up registers the processes of every communicator after the first, and nothing else. -/
theorem init_horovodInitMultiComm {ps : ProcessSetsArg} (p : Process) {a : ProcessSetArgs}
    (ha : processSetArgs ps = .ok a) (groups : Nat → List Int) {global : Nat} {rest : List Nat}
    (hrest : rest ≠ []) (hcount : rest.length + 1 < 2147483648) (worldRank : Int) :
    (init ⟨true, true⟩ (.list ((global :: rest).map .comm)) ps p).1 = .ok () ∧
      ∃ c, (init ⟨true, true⟩ (.list ((global :: rest).map .comm)) ps p).2.calls =
          p.calls ++ [(.mpiBuilt, ps.environAfter p.environ), c] ∧
        horovodInitMultiComm groups worldRank c = some
          ((Engine.start (groups global).length ((groups global).indexOf worldRank)
            (ps.environAfter p.environ dynamicProcessSetsVar == some "1") true).registerInitial
              (rest.map (commRanks groups global))) := by
  have hh := mapM_handle_comm (global :: rest)
  have hlen : 2 ≤ (global :: rest).length := by
    cases rest with
    | nil => exact absurd rfl hrest
    | cons _ _ => simp
  have hr : (CommArg.list ((global :: rest).map .comm)).toList.mapM CommElem.rank? = none :=
    mapM_rank_eq_none hh (List.cons_ne_nil _ _)
  rw [init_of_comms ha hr, CommArg.toList, initWithComms_of_multi rfl rfl hh hlen]
  have hc : cInt ((global :: rest).length : Int) = (global :: rest).length :=
    cInt_natCast_of_lt hcount
  refine ⟨rfl, (.initMultiComm (global :: rest) (cInt (global :: rest).length),
    ps.environAfter p.environ), by simp, ?_⟩
  rw [hc]
  exact horovodInitMultiComm_list groups worldRank global rest _

theorem commProcessSet_comm (f : Nat → Int) (handle : Nat) :
    commProcessSet ⟨true, true⟩ (.comm handle) f = checkResult commProcessSetSentinels (f handle) :=
  rfl

/-- A communicator whose processes are not registered raises the no-matching-set error. -/
theorem commProcessSet_of_not_registered (groups : Nat → List Int) (global : Nat) {e : Engine}
    (hi : e.initialized = true) (hm : e.mpiController = true) {handle : Nat}
    (hnone : ∀ m ∈ e.table.sets.map Prod.snd, sameMembers m (commRanks groups global handle) = false) :
    commProcessSet ⟨true, true⟩ (.comm handle) (e.horovodCommProcessSet groups global) =
      .error noMatchingSetError := by
  rw [commProcessSet_comm, horovodCommProcessSet_of_not_mem groups global hi hm hnone]
  rfl

/-- What resolving a communicator by its processes needs of an engine. -/
structure Engine.Resolvable (e : Engine) : Prop where
  /-- `horovod_comm_process_set` answers only after `init`. -/
  initialized : e.initialized = true
  /-- Communicators exist only with an MPI controller. -/
  mpiController : e.mpiController = true
  /-- No two ids hold the same processes, so the processes name the id. -/
  distinct : (e.table.sets.map Prod.snd).Pairwise (fun a b => sameMembers a b = false)
  /-- No id reads as an error code. -/
  ids_nonneg : ∀ id ∈ e.table.ids, 0 ≤ id

section Registered

variable (groups : Nat → List Int) (global : Nat) {e : Engine} (he : e.Resolvable)
include he

/-- A communicator resolves to the id of a registered set holding its processes. -/
theorem commProcessSet_of_mem {handle : Nat} {id : Int} {m : List Int}
    (hmem : (id, m) ∈ e.table.sets) (hsame : sameMembers m (commRanks groups global handle) = true) :
    commProcessSet ⟨true, true⟩ (.comm handle) (e.horovodCommProcessSet groups global) = .ok id := by
  rw [commProcessSet_comm, horovodCommProcessSet_of_mem groups global he.initialized
    he.mpiController he.distinct hmem hsame]
  exact checkResult_of_nonneg (by decide) (he.ids_nonneg id (List.mem_map.mpr ⟨_, hmem, rfl⟩))

theorem commProcessSet_of_registered {handle : Nat}
    (hreg : ∃ m ∈ e.table.sets.map Prod.snd, sameMembers m (commRanks groups global handle) = true) :
    ∃ id m, commProcessSet ⟨true, true⟩ (.comm handle) (e.horovodCommProcessSet groups global) =
        .ok id ∧ e.table.sets.lookup id = some m ∧
      sameMembers m (commRanks groups global handle) = true := by
  obtain ⟨_, hm, hsame⟩ := hreg
  obtain ⟨⟨id, m⟩, hp, rfl⟩ := List.mem_map.mp hm
  exact ⟨id, m, commProcessSet_of_mem groups global he hp hsame,
    Registry.lookup_eq_some_iff.mpr hp, hsame⟩

/-- Two registered communicators resolve alike exactly when they hold the same processes. -/
theorem commProcessSet_eq_iff {h₁ h₂ : Nat}
    (hr₁ : ∃ m ∈ e.table.sets.map Prod.snd, sameMembers m (commRanks groups global h₁) = true)
    (hr₂ : ∃ m ∈ e.table.sets.map Prod.snd, sameMembers m (commRanks groups global h₂) = true) :
    commProcessSet ⟨true, true⟩ (.comm h₁) (e.horovodCommProcessSet groups global) =
        commProcessSet ⟨true, true⟩ (.comm h₂) (e.horovodCommProcessSet groups global) ↔
      sameMembers (commRanks groups global h₁) (commRanks groups global h₂) = true := by
  obtain ⟨id₁, m₁, hc₁, hl₁, hs₁⟩ := commProcessSet_of_registered groups global he hr₁
  obtain ⟨id₂, m₂, hc₂, hl₂, hs₂⟩ := commProcessSet_of_registered groups global he hr₂
  rw [hc₁, hc₂, Except.ok.injEq]
  constructor
  · rintro rfl
    obtain rfl : m₁ = m₂ := Option.some.inj (hl₁.symm.trans hl₂)
    exact sameMembers_trans (by rwa [sameMembers_comm]) hs₂
  · intro hsame
    exact Except.ok.inj ((commProcessSet_of_mem groups global he
      (Registry.lookup_eq_some_iff.mp hl₁) (sameMembers_trans hs₁ hsame)).symm.trans hc₂)

end Registered

/-- The engine `horovod_init_multi_comm` sets up from the communicators `global :: rest` can
resolve communicators: it holds the whole job under id 0, every set it registers is the rank
list of one of the communicators, and every communicator's processes are registered. -/
theorem registerInitial_commRanks (groups : Nat → List Int) {global : Nat} (rest : List Nat)
    (hglobal : (groups global).Nodup) (rank : Int) (dynamic : Bool) {e : Engine}
    (he : (Engine.start (groups global).length rank dynamic true).registerInitial
      (rest.map (commRanks groups global)) = e) :
    e.Resolvable ∧ (0, commRanks groups global global) ∈ e.table.sets ∧
      (∀ m ∈ e.table.sets.map Prod.snd, ∃ h ∈ global :: rest, m = commRanks groups global h) ∧
      ∀ h ∈ global :: rest,
        ∃ m ∈ e.table.sets.map Prod.snd, sameMembers m (commRanks groups global h) = true := by
  subst he
  set s₀ := Engine.start (groups global).length rank dynamic true
  have hself := commRanks_self groups global hglobal
  have hzero : (0, commRanks groups global global) ∈
      (s₀.registerInitial (rest.map (commRanks groups global))).table.sets :=
    (Engine.registerInitial_extends s₀ _).subset (by simp [s₀, hself])
  obtain ⟨hcover, hdistinct⟩ := Engine.registerInitial_members s₀ (rest.map (commRanks groups global))
  obtain ⟨hi, -, hm, -⟩ := Engine.registerInitial_flags s₀ (rest.map (commRanks groups global))
  refine ⟨⟨by simp [hi, s₀], by rw [hm]; rfl, hdistinct (by simp [s₀]),
    Engine.registerInitial_ids_nonneg s₀ _ (by simp [s₀, Registry.ids]) (by simp [s₀])⟩,
    hzero, fun m hm => ?_, fun h hh => ?_⟩
  · rcases Engine.registerInitial_sets_subset s₀ _ m hm with hm | hm
    · simp only [s₀, Engine.start_sets, List.map_cons, List.map_nil, List.mem_singleton] at hm
      exact ⟨global, List.mem_cons_self _ _, hm.trans hself.symm⟩
    · obtain ⟨h, hh, rfl⟩ := List.mem_map.mp hm
      exact ⟨h, List.mem_cons_of_mem _ hh, rfl⟩
  · rcases List.mem_cons.mp hh with rfl | hh
    · exact ⟨_, List.mem_map_of_mem _ hzero, sameMembers_iff.mpr fun _ => Iff.rfl⟩
    · obtain ⟨m, hm, hs⟩ := hcover _ (List.mem_map_of_mem _ hh)
      exact ⟨m, hm, by rwa [sameMembers_comm]⟩

/-- Communicators round-trip through `init` and `comm_process_set`. After `init` with two or
more communicators, whatever `process_sets` was, `comm_process_set` maps the first
communicator to the global set 0 and every one of them to the id of a registered set holding
exactly its processes, in any order; two of them get the same id exactly when they hold the
same processes; and a communicator whose processes differ from those of every communicator
given to `init` raises the no-matching-set error. -/
theorem commProcessSet_after_init {ps : ProcessSetsArg} (p : Process) {a : ProcessSetArgs}
    (ha : processSetArgs ps = .ok a) (groups : Nat → List Int) {global : Nat} {rest : List Nat}
    (hrest : rest ≠ []) (hcount : rest.length + 1 < 2147483648) (hglobal : (groups global).Nodup)
    (worldRank : Int) :
    (init ⟨true, true⟩ (.list ((global :: rest).map .comm)) ps p).1 = .ok () ∧
      ∃ c e, (init ⟨true, true⟩ (.list ((global :: rest).map .comm)) ps p).2.calls =
          p.calls ++ [(.mpiBuilt, ps.environAfter p.environ), c] ∧
        horovodInitMultiComm groups worldRank c = some e ∧
        commProcessSet ⟨true, true⟩ (.comm global) (e.horovodCommProcessSet groups global) = .ok 0 ∧
        (∀ h ∈ global :: rest, ∃ id m,
          commProcessSet ⟨true, true⟩ (.comm h) (e.horovodCommProcessSet groups global) = .ok id ∧
            e.table.sets.lookup id = some m ∧ ∀ x, x ∈ m ↔ x ∈ commRanks groups global h) ∧
        (∀ h₁ ∈ global :: rest, ∀ h₂ ∈ global :: rest,
          commProcessSet ⟨true, true⟩ (.comm h₁) (e.horovodCommProcessSet groups global) =
              commProcessSet ⟨true, true⟩ (.comm h₂) (e.horovodCommProcessSet groups global) ↔
            ∀ x, x ∈ commRanks groups global h₁ ↔ x ∈ commRanks groups global h₂) ∧
        ∀ h, (∀ h' ∈ global :: rest,
            ¬ ∀ x, x ∈ commRanks groups global h ↔ x ∈ commRanks groups global h') →
          commProcessSet ⟨true, true⟩ (.comm h) (e.horovodCommProcessSet groups global) =
            .error noMatchingSetError := by
  obtain ⟨hok, c, hcalls, he⟩ := init_horovodInitMultiComm p ha groups hrest hcount worldRank
  obtain ⟨hres, hzero, hfrom, hcover⟩ := registerInitial_commRanks groups rest hglobal _ _ rfl
  refine ⟨hok, c, _, hcalls, he,
    commProcessSet_of_mem groups global hres hzero (sameMembers_iff.mpr fun _ => Iff.rfl),
    fun h hh => ?_, fun h₁ h₁m h₂ h₂m => ?_, fun h hno => ?_⟩
  · obtain ⟨id, m, hc, hl, hs⟩ := commProcessSet_of_registered groups global hres (hcover h hh)
    exact ⟨id, m, hc, hl, sameMembers_iff.mp hs⟩
  · rw [commProcessSet_eq_iff groups global hres (hcover h₁ h₁m) (hcover h₂ h₂m), sameMembers_iff]
  · refine commProcessSet_of_not_registered groups global hres.initialized hres.mpiController
      fun m hm => ?_
    obtain ⟨h', hh', rfl⟩ := hfrom m hm
    rw [← Bool.not_eq_true, sameMembers_iff]
    exact fun hs => hno h' hh' fun x => (hs x).symm

/-- Three processes, world ranks 0, 1 and 2, and three communicators: 5 holds all of them,
6 holds ranks 2 and 0, 7 holds rank 1. -/
def threeComms (handle : Nat) : List Int :=
  if handle = 5 then [0, 1, 2] else if handle = 6 then [2, 0] else [1]

/-- Calling `init(comm=[c5, c6, c7])` on rank 0 of the three. -/
theorem commProcessSet_after_init_threeComms :
    (init ⟨true, true⟩ (.list ([5, 6, 7].map .comm)) .none Process.empty).1 = .ok () ∧
      ∃ c e, (init ⟨true, true⟩ (.list ([5, 6, 7].map .comm)) .none Process.empty).2.calls =
          Process.empty.calls ++
            [(.mpiBuilt, ProcessSetsArg.none.environAfter Process.empty.environ), c] ∧
        horovodInitMultiComm threeComms 0 c = some e ∧
        commProcessSet ⟨true, true⟩ (.comm 5) (e.horovodCommProcessSet threeComms 5) = .ok 0 ∧
        (∀ h ∈ [5, 6, 7], ∃ id m,
          commProcessSet ⟨true, true⟩ (.comm h) (e.horovodCommProcessSet threeComms 5) = .ok id ∧
            e.table.sets.lookup id = some m ∧ ∀ x, x ∈ m ↔ x ∈ commRanks threeComms 5 h) ∧
        (∀ h₁ ∈ [5, 6, 7], ∀ h₂ ∈ [5, 6, 7],
          commProcessSet ⟨true, true⟩ (.comm h₁) (e.horovodCommProcessSet threeComms 5) =
              commProcessSet ⟨true, true⟩ (.comm h₂) (e.horovodCommProcessSet threeComms 5) ↔
            ∀ x, x ∈ commRanks threeComms 5 h₁ ↔ x ∈ commRanks threeComms 5 h₂) ∧
        ∀ h, (∀ h' ∈ [5, 6, 7],
            ¬ ∀ x, x ∈ commRanks threeComms 5 h ↔ x ∈ commRanks threeComms 5 h') →
          commProcessSet ⟨true, true⟩ (.comm h) (e.horovodCommProcessSet threeComms 5) =
            .error noMatchingSetError :=
  commProcessSet_after_init Process.empty (rfl : processSetArgs .none = .ok (processSetArgsOf []))
    threeComms (by decide) (by decide) (by decide) 0

end Horovod
