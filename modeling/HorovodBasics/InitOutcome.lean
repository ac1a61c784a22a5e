import HorovodBasics.Init
import Mathlib.Algebra.Ring.Int.Defs

/-!
# What `init` leaves behind

The outcome of `HorovodBasics.init` for every shape of its arguments: which engine
functions it calls and with what, the environment it leaves, and what the engine reads back
from the process-set arrays.

## Main results

* `init_environ_calls` — line 65 is the only change of the environment, on every path
* `processSetArgsOf_decode` — the process-set arrays decode back to the declared rank lists
  when every rank, size and count fits a C `int`
* `init_dispatch` — the engine initialiser `init` calls for each shape of `comm`
* `init_process_sets_decode` — what `horovod_init` receives decodes to the declared sets
* `init_valueError` — a `ValueError` leaves only the probe call, the dynamic switch and the
  exit hook behind
* `initCalls_hooks_switch` — over repeated calls, one `shutdown` hook per call past the
  argument checks, and a dynamic switch that is never cleared
-/

namespace Horovod

variable {host : Host} {comm : CommArg} {ps : ProcessSetsArg} {p : Process}
  {a : ProcessSetArgs}

/-! ## Process state -/

/-- The process as `init` leaves it at line 75: the environment of line 65, one more exit
hook, no engine call yet. -/
def Process.prepared (p : Process) (ps : ProcessSetsArg) : Process :=
  { p with environ := ps.environAfter p.environ, exitHooks := p.exitHooks + 1 }

@[simp] theorem Process.call_environ (p : Process) (c : EngineCall) :
    (p.call c).environ = p.environ := rfl

@[simp] theorem Process.call_exitHooks (p : Process) (c : EngineCall) :
    (p.call c).exitHooks = p.exitHooks := rfl

@[simp] theorem Process.call_calls (p : Process) (c : EngineCall) :
    (p.call c).calls = p.calls ++ [(c, p.environ)] := rfl

@[simp] theorem Process.prepared_environ (p : Process) (ps : ProcessSetsArg) :
    (p.prepared ps).environ = ps.environAfter p.environ := rfl

@[simp] theorem Process.prepared_calls (p : Process) (ps : ProcessSetsArg) :
    (p.prepared ps).calls = p.calls := rfl

theorem environAfter_of_isDynamic (h : ps.isDynamic = true) (env : Environ) :
    ps.environAfter env dynamicProcessSetsVar = some "1" := by
  simp [ProcessSetsArg.environAfter, h]

theorem environAfter_of_not_isDynamic (h : ps.isDynamic = false) (env : Environ) :
    ps.environAfter env = env := by
  simp [ProcessSetsArg.environAfter, h]

/-! ## The shape of `comm` -/

theorem length_of_mapM_eq_some {α : Type} {f : CommElem → Option α} {l : List CommElem}
    {r : List α} (h : l.mapM f = some r) : r.length = l.length := by
  induction l generalizing r with
  | nil =>
    simp only [List.mapM_nil, Option.pure_def, Option.some.injEq] at h
    simp [← h]
  | cons e l ih =>
    simp only [List.mapM_cons, Option.bind_eq_bind, Option.bind_eq_some, Option.pure_def,
      Option.some.injEq] at h
    obtain ⟨_, -, b, hb, rfl⟩ := h
    simp [ih hb]

/-- A list of communicators that is not empty is not a list of ranks. -/
theorem mapM_rank_eq_none {l : List CommElem} {hs : List Nat}
    (h : l.mapM CommElem.handle? = some hs) (hne : hs ≠ []) : l.mapM CommElem.rank? = none := by
  cases l with
  | nil =>
    simp only [List.mapM_nil, Option.pure_def, Option.some.injEq] at h
    exact absurd h.symm hne
  | cons e l =>
    simp only [List.mapM_cons, Option.bind_eq_bind, Option.bind_eq_some, Option.pure_def,
      Option.some.injEq] at h
    obtain ⟨_, he, -⟩ := h
    have hr : e.rank? = none := by cases e <;> simp_all [CommElem.handle?, CommElem.rank?]
    simp only [List.mapM_cons, hr, Option.bind_eq_bind, Option.none_bind]

/-! ## One lemma per branch -/

theorem init_of_processSetArgs_error {e : PyError} (h : processSetArgs ps = .error e) :
    init host comm ps p = (.error e, { p with environ := ps.environAfter p.environ }) := by
  simp [init, h]

theorem init_of_ranks {ranks : List Int} (ha : processSetArgs ps = .ok a)
    (hr : comm.toList.mapM CommElem.rank? = some ranks) :
    init host comm ps p = (.ok (), (p.prepared ps).call
      (.init (cIntArray ranks) (cInt ranks.length) a.ranks a.sizes a.count)) := by
  simp only [init, ha, hr, Process.prepared, length_of_mapM_eq_some hr]

theorem init_of_comms (ha : processSetArgs ps = .ok a)
    (hr : comm.toList.mapM CommElem.rank? = none) :
    init host comm ps p = initWithComms host comm.toList (p.prepared ps) := by
  simp only [init, ha, hr, Process.prepared]

/-- What the comm branch can do: probe `horovod_mpi_built` and raise one of its four errors, or
probe and call `horovod_init_multi_comm`. -/
theorem initWithComms_cases (host : Host) (l : List CommElem) (p : Process) :
    (∃ e, initWithComms host l p = (.error e, p.call .mpiBuilt) ∧
        (e = mpiNotBuiltError ∨ e = .importError ∨ e = invalidCommError ∨ e = .typeError)) ∨
      ∃ handles n, initWithComms host l p =
        (.ok (), (p.call .mpiBuilt).call (.initMultiComm handles n)) := by
  by_cases hb : host.mpiBuilt = false
  · exact .inl ⟨mpiNotBuiltError, by simp [initWithComms, hb], .inl rfl⟩
  by_cases hm : host.mpi4py = false
  · exact .inl ⟨.importError, by simp [initWithComms, hb, hm], .inr (.inl rfl)⟩
  cases hh : l.mapM CommElem.handle? with
  | none =>
    exact .inl ⟨invalidCommError, by simp only [initWithComms, hb, hm, hh]; rfl,
      .inr (.inr (.inl rfl))⟩
  | some handles =>
    by_cases hl : l.length = 1
    · exact .inl ⟨.typeError, by simp only [initWithComms, hb, hm, hh, hl]; rfl,
        .inr (.inr (.inr rfl))⟩
    · exact .inr ⟨_, _, by simp only [initWithComms, hb, hm, hh, hl]; rfl⟩

theorem initWithComms_of_error {l : List CommElem} {e : PyError}
    (h : (initWithComms host l p).1 = .error e) : (initWithComms host l p).2 = p.call .mpiBuilt ∧
      (e = mpiNotBuiltError ∨ e = .importError ∨ e = invalidCommError ∨ e = .typeError) := by
  rcases initWithComms_cases host l p with ⟨e', he, hcases⟩ | ⟨_, _, he⟩ <;> rw [he] at h ⊢
  · cases h
    exact ⟨rfl, hcases⟩
  · cases h

/-- The comm branch probes `horovod_mpi_built` and makes at most one more call. -/
theorem initWithComms_snd (host : Host) (l : List CommElem) (p : Process) :
    (initWithComms host l p).2 = p.call .mpiBuilt ∨
      ∃ handles n, (initWithComms host l p).2 = (p.call .mpiBuilt).call (.initMultiComm handles n) := by
  rcases initWithComms_cases host l p with ⟨_, he, -⟩ | ⟨_, _, he⟩
  · exact .inl (by rw [he])
  · exact .inr ⟨_, _, by rw [he]⟩

theorem initWithComms_of_multi {l : List CommElem} {handles : List Nat}
    (hbuilt : host.mpiBuilt = true) (hmpi4py : host.mpi4py = true)
    (hl : l.mapM CommElem.handle? = some handles) (hlen : 2 ≤ handles.length) :
    initWithComms host l p =
      (.ok (), (p.call .mpiBuilt).call (.initMultiComm handles (cInt handles.length))) := by
  have hn : l.length = handles.length := (length_of_mapM_eq_some hl).symm
  simp only [initWithComms, hbuilt, hmpi4py, hl, hn, Bool.not_true, if_neg (show handles.length ≠ 1 by omega)]
  rfl

/-- Line 65 is the only change `init` makes to the environment, whatever path it takes, and
every engine call it makes sees the environment of line 65. -/
theorem init_environ_calls (host : Host) (comm : CommArg) (ps : ProcessSetsArg)
    (p : Process) :
    (init host comm ps p).2.environ = ps.environAfter p.environ ∧
      ∀ c ∈ (init host comm ps p).2.calls.drop p.calls.length, c.2 = ps.environAfter p.environ := by
  cases h : processSetArgs ps with
  | error e => simp [init_of_processSetArgs_error h]
  | ok a =>
    cases hr : comm.toList.mapM CommElem.rank? with
    | some ranks => simp [init_of_ranks h hr]
    | none =>
      rw [init_of_comms h hr]
      rcases initWithComms_snd host comm.toList (p.prepared ps) with e | ⟨_, _, e⟩ <;>
        simp [e, or_imp, forall_and]

/-- The engine initialiser `init` calls, for each shape of `comm`, once the process-set
arrays are built: `horovod_init` with the ranks as C `int`s for a list of integers; the
`horovod_mpi_built` probe and then a `ValueError`, an `ImportError`, or
`horovod_init_multi_comm` with the handles in order for two or more communicators. When
`process_sets` is "dynamic", every engine call sees `HOROVOD_DYNAMIC_PROCESS_SETS=1`. -/
theorem init_dispatch (host : Host) (comm : CommArg) (ps : ProcessSetsArg) (p : Process)
    {a : ProcessSetArgs} (ha : processSetArgs ps = .ok a) :
    (∀ ranks, comm.toList.mapM CommElem.rank? = some ranks →
      init host comm ps p = (.ok (), (p.prepared ps).call
        (.init (cIntArray ranks) (cInt ranks.length) a.ranks a.sizes a.count))) ∧
    (comm.toList.mapM CommElem.rank? = none → host.mpiBuilt = false →
      init host comm ps p = (.error mpiNotBuiltError, (p.prepared ps).call .mpiBuilt)) ∧
    (comm.toList.mapM CommElem.rank? = none → host.mpiBuilt = true → host.mpi4py = false →
      init host comm ps p = (.error .importError, (p.prepared ps).call .mpiBuilt)) ∧
    (comm.toList.mapM CommElem.rank? = none → host.mpiBuilt = true → host.mpi4py = true →
      comm.toList.mapM CommElem.handle? = none →
      init host comm ps p = (.error invalidCommError, (p.prepared ps).call .mpiBuilt)) ∧
    (∀ handles, host.mpiBuilt = true → host.mpi4py = true →
      comm.toList.mapM CommElem.handle? = some handles → 2 ≤ handles.length →
      init host comm ps p = (.ok (), ((p.prepared ps).call .mpiBuilt).call
        (.initMultiComm handles (cInt handles.length)))) ∧
    (ps.isDynamic = true → ∀ c ∈ (init host comm ps p).2.calls.drop p.calls.length,
      c.2 dynamicProcessSetsVar = some "1") := by
  refine ⟨fun _ hr => init_of_ranks ha hr, fun hr hb => ?_, fun hr hb hm => ?_,
    fun hr hb hm hh => ?_, fun handles hb hm hh hlen => ?_, fun hd c hc => ?_⟩
  · rw [init_of_comms ha hr]
    simp [initWithComms, hb]
  · rw [init_of_comms ha hr]
    simp [initWithComms, hb, hm]
  · rw [init_of_comms ha hr]
    simp only [initWithComms, hb, hm, hh, Bool.not_true]
    rfl
  · rw [init_of_comms ha (mapM_rank_eq_none hh (List.ne_nil_of_length_pos (by omega))),
      initWithComms_of_multi hb hm hh hlen]
  · rw [(init_environ_calls host comm ps p).2 c hc]
    exact environAfter_of_isDynamic hd p.environ

/-- A process before any `init`: no environment variable set, no hook, no engine call. -/
def Process.empty : Process := ⟨fun _ => none, 0, []⟩

/-- Two communicators: the probe, then `horovod_init_multi_comm` with both handles. -/
theorem init_dispatch_two_comms :
    init ⟨true, true⟩ (.list [.comm 5, .comm 7]) .none Process.empty =
      (.ok (), ((Process.empty.prepared .none).call .mpiBuilt).call (.initMultiComm [5, 7] (cInt 2))) :=
  (init_dispatch ⟨true, true⟩ (.list [.comm 5, .comm 7]) .none Process.empty rfl).2.2.2.2.1 [5, 7]
    rfl rfl rfl (by decide)

/-- ctypes reduces a rank to a C `int` without a check: rank `2^32` reaches `horovod_init`
as rank 0. -/
theorem init_wraps_rank :
    (init ⟨true, true⟩ (.list [.int 4294967296]) .none Process.empty).2.callsSince
      Process.empty = [.init [0] 1 [] [] 0] := by
  decide

/-! ## The process-set arrays -/

/-- The argument `process_sets` declares the rank lists `P`: a list of rank lists declares
itself, `None` and "dynamic" in any letter case declare none. -/
inductive ProcessSetsArg.Declares : ProcessSetsArg → List (List Int) → Prop
  | none : Declares .none []
  | dynamic {s : String} (h : pyLower s = "dynamic") : Declares (.str s) []
  | sets (P : List (List Int)) : Declares (.sets P) P

theorem processSetArgs_of_declares {P : List (List Int)} (h : ps.Declares P) :
    processSetArgs ps = .ok (processSetArgsOf P) := by
  cases h with
  | none => rfl
  | dynamic h => simp [processSetArgs, h]
  | sets => rfl

private theorem splitLengths_map_length_flatten (P : List (List Int)) :
    (P.map List.length).splitLengths P.flatten = P := by
  induction P with
  | nil => rfl
  | cons e P ih => simp [ih]

private theorem length_flatten_eq_sum (P : List (List Int)) :
    ((P.flatten.length : Nat) : Int) = (P.map fun e => (e.length : Int)).sum := by
  induction P with
  | nil => rfl
  | cons e P ih =>
    simp only [List.flatten_cons, List.length_append, List.map_cons, List.sum_cons]
    omega

/-- The arrays of lines 67-73 decode back to the declared rank lists, in declaration order,
when every rank, every size and the number of sets fit a C `int`. -/
theorem processSetArgsOf_decode {P : List (List Int)}
    (hranks : ∀ e ∈ P, ∀ r ∈ e, InCIntRange r) (hsizes : ∀ e ∈ P, e.length < 2147483648)
    (hcount : P.length < 2147483648) :
    (processSetArgsOf P).count = P.length ∧
      (processSetArgsOf P).sizes = P.map (fun e => (e.length : Int)) ∧
      ((processSetArgsOf P).ranks.length : Int) = (processSetArgsOf P).sizes.sum ∧
      decodeProcessSets (processSetArgsOf P).ranks (processSetArgsOf P).sizes = P := by
  have hr : cIntArray P.flatten = P.flatten := cIntArray_of_inCIntRange fun r hr => by
    obtain ⟨e, he, hre⟩ := List.mem_flatten.mp hr
    exact hranks e he r hre
  have hs : cIntArray (P.map fun e => (e.length : Int)) = P.map fun e => (e.length : Int) :=
    cIntArray_of_inCIntRange fun x hx => by
      obtain ⟨e, he, rfl⟩ := List.mem_map.mp hx
      exact ⟨by omega, by exact_mod_cast hsizes e he⟩
  refine ⟨by simp only [processSetArgsOf, cInt_natCast_of_lt hcount], by simp only [processSetArgsOf, hs],
    ?_, ?_⟩
  · simpa only [processSetArgsOf, hr, hs] using length_flatten_eq_sum P
  · simpa [processSetArgsOf, decodeProcessSets, hr, hs, List.map_map, Function.comp_def] using
      splitLengths_map_length_flatten P

/-- Whatever `comm` is, the process-set arrays `init` hands to `horovod_init` decode back to
the declared rank lists when every rank, size and count fits a C `int`. -/
theorem init_process_sets_decode {P : List (List Int)} (hP : ps.Declares P)
    (hranks : ∀ e ∈ P, ∀ r ∈ e, InCIntRange r) (hsizes : ∀ e ∈ P, e.length < 2147483648)
    (hcount : P.length < 2147483648) {rk psRanks psSizes : List Int} {n nsets : Int}
    (hcall : .init rk n psRanks psSizes nsets ∈ (init host comm ps p).2.callsSince p) :
    nsets = P.length ∧ psSizes = P.map (fun e => (e.length : Int)) ∧
      (psRanks.length : Int) = psSizes.sum ∧ decodeProcessSets psRanks psSizes = P := by
  have ha := processSetArgs_of_declares hP
  cases hr : comm.toList.mapM CommElem.rank? with
  | some ranks =>
    rw [init_of_ranks ha hr] at hcall
    simp only [Process.callsSince, Process.call_calls, Process.prepared_calls,
      List.drop_left, List.map_cons, List.map_nil, List.mem_singleton, EngineCall.init.injEq] at hcall
    obtain ⟨-, -, h1, h2, h3⟩ := hcall
    rw [h1, h2, h3]
    exact processSetArgsOf_decode hranks hsizes hcount
  | none =>
    rw [init_of_comms ha hr] at hcall
    rcases initWithComms_snd host comm.toList (p.prepared ps) with e | ⟨_, _, e⟩ <;>
      simp [e, Process.callsSince] at hcall

/-- The spec's example `process_sets = [[0], [1, 2], [2, 1, 0], [0]]` reaches `horovod_init`
as ranks `[0, 1, 2, 2, 1, 0, 0]`, sizes `[1, 2, 3, 1]` and count 4, which decode back. -/
theorem init_process_sets_decode_example :
    EngineCall.init [] 0 [0, 1, 2, 2, 1, 0, 0] [1, 2, 3, 1] 4 ∈
        (init ⟨true, true⟩ .none (.sets [[0], [1, 2], [2, 1, 0], [0]]) Process.empty).2.callsSince
          Process.empty ∧
      decodeProcessSets [0, 1, 2, 2, 1, 0, 0] [1, 2, 3, 1] = [[0], [1, 2], [2, 1, 0], [0]] := by
  have hcall : EngineCall.init [] 0 [0, 1, 2, 2, 1, 0, 0] [1, 2, 3, 1] 4 ∈
      (init ⟨true, true⟩ .none (.sets [[0], [1, 2], [2, 1, 0], [0]]) Process.empty).2.callsSince
        Process.empty := by decide
  exact ⟨hcall, (init_process_sets_decode (.sets _) (by decide) (by decide) (by decide) hcall).2.2.2⟩

theorem processSetArgsOf_replicate_nil (n : Nat) :
    processSetArgsOf (List.replicate n []) = ⟨[], List.replicate n 0, cInt n⟩ := by
  simp only [processSetArgsOf, cIntArray, List.flatten_replicate_nil, List.map_nil,
    List.map_replicate, List.length_nil, List.length_replicate]
  rfl

/-- ctypes reduces the number of sets to a C `int` without a check: `2^31` empty process
sets reach `horovod_init` with the count `-2^31`. -/
theorem init_wraps_process_set_count :
    (init ⟨true, true⟩ .none (.sets (List.replicate (2 ^ 31) [])) Process.empty).2.callsSince
      Process.empty = [.init [] 0 [] (List.replicate (2 ^ 31) 0) (-2147483648)] := by
  simp only [init, processSetArgs, processSetArgsOf_replicate_nil, CommArg.toList, List.mapM_nil]
  rfl

/-! ## A rejected `init` -/

theorem processSetArgs_error {e : PyError} (h : processSetArgs ps = .error e) : e = .typeError := by
  cases ps with
  | str s =>
    simp only [processSetArgs] at h
    split_ifs at h
    exact (Except.error.inj h).symm
  | _ => cases h

/-- Whenever `init` raises `ValueError`, the only engine function it has called is the
`horovod_mpi_built` probe, and it leaves the process as line 75 had it: the environment of
line 65 and one more exit hook. -/
theorem init_valueError {msg : String} (h : (init host comm ps p).1 = .error (.valueError msg)) :
    (init host comm ps p).2 = (p.prepared ps).call .mpiBuilt := by
  cases ha : processSetArgs ps with
  | error e =>
    rw [init_of_processSetArgs_error ha] at h
    cases processSetArgs_error ha
    cases h
  | ok a =>
    cases hr : comm.toList.mapM CommElem.rank? with
    | some ranks =>
      rw [init_of_ranks ha hr] at h
      cases h
    | none =>
      rw [init_of_comms ha hr] at h ⊢
      exact (initWithComms_of_error h).1

/-- Without MPI, `init(comm, "dynamic")` with a non-integer `comm` raises the `ValueError` of
line 84 after the probe. -/
theorem init_valueError_without_mpi :
    (init ⟨false, true⟩ (.single .other) (.str "dynamic") Process.empty).1 =
        .error mpiNotBuiltError ∧
      (init ⟨false, true⟩ (.single .other) (.str "dynamic") Process.empty).2 =
        (Process.empty.prepared (.str "dynamic")).call .mpiBuilt :=
  ⟨rfl, init_valueError rfl⟩

/-- A failed `init(comm, "dynamic")` leaves `HOROVOD_DYNAMIC_PROCESS_SETS=1` behind, so a
later `init()` starts the engine in dynamic mode. -/
theorem init_failure_keeps_dynamic_switch :
    (init ⟨false, true⟩ (.single .other) (.str "dynamic") Process.empty).1 =
        .error mpiNotBuiltError ∧
      (init ⟨false, true⟩ (.single .other) (.str "dynamic") Process.empty).2.environ ≠
        Process.empty.environ ∧
      ((init ⟨false, true⟩ .none .none
        (init ⟨false, true⟩ (.single .other) (.str "dynamic") Process.empty).2).2.calls.getLast?.map
          fun c => c.2 dynamicProcessSetsVar) = some (some "1") := by
  refine ⟨rfl, fun h => absurd (congrFun h dynamicProcessSetsVar) (by decide), by decide⟩

/-! ## Repeated calls -/

/-- Each call whose `process_sets` is accepted registers one `shutdown` hook at line 75,
whatever happens after it. -/
theorem init_exitHooks (host : Host) (comm : CommArg) (ps : ProcessSetsArg) (p : Process) :
    (init host comm ps p).2.exitHooks = p.exitHooks + if (processSetArgs ps).isOk then 1 else 0 := by
  cases h : processSetArgs ps with
  | error e => simp [init_of_processSetArgs_error h, Except.isOk, Except.toBool]
  | ok a =>
    cases hr : comm.toList.mapM CommElem.rank? with
    | some ranks => simp [init_of_ranks h hr, Process.prepared, Except.isOk, Except.toBool]
    | none =>
      rw [init_of_comms h hr]
      rcases initWithComms_snd host comm.toList (p.prepared ps) with e | ⟨_, _, e⟩ <;>
        rw [e] <;> simp [Process.prepared, Except.isOk, Except.toBool]

/-- The process after the `init` calls `calls`, each given by its `comm` and `process_sets`,
made one after another, whether or not each raised. -/
def initCalls (host : Host) : List (CommArg × ProcessSetsArg) → Process → Process
  | [], p => p
  | (comm, ps) :: calls, p => initCalls host calls (init host comm ps p).2

/-- Repeated `init` calls in one process. Every call whose `process_sets` is accepted
registers one more `shutdown` hook with `atexit`, whether it then raises or not, so the
release action is registered once per such call, not once only. And the dynamic-mode
switch is never cleared: after any sequence of calls, `HOROVOD_DYNAMIC_PROCESS_SETS` is "1"
if any call had `process_sets` "dynamic", accepted or not, and is as before the calls
otherwise. -/
theorem initCalls_hooks_switch (host : Host) (calls : List (CommArg × ProcessSetsArg))
    (p : Process) :
    (initCalls host calls p).exitHooks =
        p.exitHooks + (calls.filter fun c => (processSetArgs c.2).isOk).length ∧
      (initCalls host calls p).environ dynamicProcessSetsVar =
        if calls.any (fun c => c.2.isDynamic) then some "1" else p.environ dynamicProcessSetsVar := by
  induction calls generalizing p with
  | nil => simp [initCalls]
  | cons c calls ih =>
    obtain ⟨comm, ps⟩ := c
    obtain ⟨hh, he⟩ := ih (init host comm ps p).2
    have henv := (init_environ_calls host comm ps p).1
    refine ⟨?_, ?_⟩
    · rw [initCalls, hh, init_exitHooks, List.filter_cons]
      split <;> simp_all only [List.length_cons, ite_true, ite_false] <;> omega
    · rw [initCalls, he, henv, List.any_cons]
      cases hd : ps.isDynamic
      · rw [environAfter_of_not_isDynamic hd, Bool.false_or]
      · simp [environAfter_of_isDynamic hd]

/-- A failed `init(comm, "dynamic")` and a retried `init()`: two hooks, and the switch stays. -/
theorem initCalls_hooks_switch_retry :
    (initCalls ⟨false, true⟩ [(.single .other, .str "dynamic"), (.none, .none)]
        Process.empty).exitHooks = 2 ∧
      (initCalls ⟨false, true⟩ [(.single .other, .str "dynamic"), (.none, .none)]
        Process.empty).environ dynamicProcessSetsVar = some "1" := by
  have h := initCalls_hooks_switch ⟨false, true⟩ [(.single .other, .str "dynamic"), (.none, .none)]
    Process.empty
  exact ⟨h.1.trans (by decide), h.2.trans (by decide)⟩

end Horovod
