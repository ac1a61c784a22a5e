import HorovodBasics.Registry

/-!
# `get_process_sets` against concurrent changes of the table

`HorovodBasics.get_process_sets` reads the engine's table in several calls: the number of
sets, the list of ids (into a buffer sized by that number), then for each id its size and
its ranks. Other processes may add or remove sets between any two of these calls. Each call
is modelled as a read of the table at the moment it is made: `getProcessSets obs` is the
wrapper when its `k`-th call sees the table `obs k`, and an `Interleaving` places the calls
on a history of the table that changes by one `Mutation` at a time. The engine copies into
`(ctypes.c_int * n)()` arrays it did not size; a copy past an array's memory is undefined
behaviour, and the call's outcome is then `none`.

## Main definitions

* `Horovod.getProcessSets`, `Horovod.readProcessSets` — lines 404-419
* `Horovod.Interleaving` — a history of the table and the moments of the engine calls

## Main results

* `getProcessSets_quiescent` — with no change during the call, the result is the table
* `getProcessSets_equiv_take` — in every interleaving, the call has undefined behaviour
  exactly when the id call finds more sets than the ids array holds, and a returned dict is
  the table as the id call saw it, cut to the number the count call read
* `getProcessSets_equiv_of_count_not_grown` — so it is the table of one moment unless the
  table grew between the first two calls
* `getProcessSets_error` — the only error is the `RuntimeError`, raised only when the table
  changed during the call
-/

namespace Horovod

/-- The error of lines 413 and 417. -/
def tableModified : PyError :=
  .runtimeError "Process set table was modified outside of get_process_sets()"

/-- The loop of lines 410-418 from the `k`-th engine call on: for each id of the buffer,
`horovod_get_process_set_size` is call `k` and `horovod_get_process_set_ranks` call `k + 1`,
each reading the table `obs` gives at that call. -/
def readProcessSets (obs : Nat → Registry) (k : Nat) :
    List Int → PyDict → Option (Except PyError PyDict)
  | [], ret => some (.ok ret)
  | psId :: rest, ret =>
    let psSize := getProcessSetSize (obs k) psId
    if psSize < 0 then some (.error tableModified)
    else
      match getProcessSetRanks (obs (k + 1)) psId psSize.toNat with
      | none => none
      | some (res, ranksArray) =>
        if res < 0 then some (.error tableModified)
        else readProcessSets obs (k + 2) rest (ret.set psId ranksArray)

/-- The method `HorovodBasics.get_process_sets` (lines 404-419), its `k`-th engine call reading the
table `obs k`: call 0 counts the sets, call 1 copies their ids into a buffer of that many
slots. The outcome is `none` when an engine call copies past one of the buffers. -/
def getProcessSets (obs : Nat → Registry) : Option (Except PyError PyDict) :=
  let num := getNumberOfProcessSets (obs 0)
  match getProcessSetIds (obs 1) num with
  | none => none
  | some idsArray => readProcessSets obs 2 idsArray []

theorem getProcessSets_of_ids {obs : Nat → Registry} {b : List Int}
    (h : getProcessSetIds (obs 1) (getNumberOfProcessSets (obs 0)) = some b) :
    getProcessSets obs = readProcessSets obs 2 b [] := by
  simp [getProcessSets, h]

/-- An interleaving of `get_process_sets` with other processes' changes: `hist i` is the
table after tick `i`, each tick changes it at most once, and the `k`-th engine call is made
at tick `t k`, the calls in program order. -/
structure Interleaving (hist : Nat → Registry) (t : Nat → Nat) : Prop where
  tick : ∀ i, hist (i + 1) = hist i ∨ Mutation (hist i) (hist (i + 1))
  ordered : ∀ k, t k ≤ t (k + 1)

theorem Interleaving.reach_of_le {hist : Nat → Registry} {t : Nat → Nat}
    (h : Interleaving hist t) {i j : Nat} (hij : i ≤ j) : Reach (hist i) (hist j) := by
  induction j, hij using Nat.le_induction with
  | base => exact Reach.refl _
  | succ j _ ih =>
    rcases h.tick j with e | m
    · rwa [e]
    · exact ih.tail m

/-- Consecutive engine calls see the table one history apart. -/
theorem Interleaving.reach {hist : Nat → Registry} {t : Nat → Nat} (h : Interleaving hist t)
    (k : Nat) : Reach (hist (t k)) (hist (t (k + 1))) :=
  h.reach_of_le (h.ordered k)

/-! ## The table seen by the id call -/

/-- The dict the loop builds when every read agrees with the table `s`. -/
def fillFrom (s : Registry) (ids : List Int) (ret : PyDict) : PyDict :=
  ids.foldl (fun d i => d.set i ((s.sets.lookup i).getD [])) ret

theorem lookup_fillFrom {s : Registry} {ids : List Int} (hids : ∀ i ∈ ids, i ∈ s.ids)
    (ret : PyDict) (k : Int) :
    (fillFrom s ids ret).lookup k = if k ∈ ids then s.sets.lookup k else ret.lookup k := by
  induction ids generalizing ret with
  | nil => simp [fillFrom]
  | cons i ids ih =>
    have hi := s.lookup_isSome_of_mem_ids (hids i (List.mem_cons_self _ _))
    rw [fillFrom, List.foldl_cons, ← fillFrom, ih (fun j hj => hids j (List.mem_cons_of_mem _ hj)),
      PyDict.lookup_set]
    by_cases hk : k = i
    · subst hk
      obtain ⟨m, hm⟩ := Option.isSome_iff_exists.mp hi
      simp [hm]
    · simp [hk]

theorem mem_ids_of_mem_getProcessSetIds {r : Registry} {n : Nat} {b : List Int}
    (h : getProcessSetIds r n = some b) {i : Int} (hi : i ∈ b) : i ∈ r.ids := by
  rcases mem_fillBuffer h hi with hi | rfl
  · exact hi
  · exact r.global_mem

theorem mem_getProcessSetIds_iff {r : Registry} {n : Nat} {b : List Int}
    (h : getProcessSetIds r n = some b) {i : Int} : i ∈ b ↔ i ∈ r.ids.take n := by
  obtain ⟨-, rfl⟩ := fillBuffer_eq_some_iff.mp h
  rw [List.take_append_eq_append_take, List.mem_append]
  refine ⟨fun hi => hi.elim id fun hi => ?_, .inl⟩
  -- a zero slot is read only when the buffer is longer than the id list, and 0 is an id
  have hlong : r.ids.length ≤ n := by
    have := List.length_pos_of_mem hi
    simp only [List.length_take, List.length_replicate] at this
    omega
  rw [List.eq_of_mem_replicate (List.mem_of_mem_take hi), List.take_of_length_le hlong]
  exact r.global_mem

theorem getProcessSetIds_eq_none_iff {r : Registry} {n : Nat} :
    getProcessSetIds r n = none ↔ bufferSlots n < getNumberOfProcessSets r := by
  simp [getProcessSetIds, fillBuffer_eq_none_iff, getNumberOfProcessSets, Registry.ids]

theorem getProcessSetIds_self (r : Registry) :
    getProcessSetIds r (getNumberOfProcessSets r) = some r.ids := by
  simpa [getNumberOfProcessSets, Registry.ids] using fillBuffer_self r.ids

theorem lookup_take_eq (d : PyDict) (n : Nat) (k : Int) :
    (d.take n).lookup k = if k ∈ (d.map Prod.fst).take n then d.lookup k else none := by
  have split := congrArg (List.lookup k) (List.take_append_drop n d)
  rw [List.lookup_append] at split
  cases h : (d.take n).lookup k with
  | none =>
    have hk : k ∉ (d.take n).map Prod.fst := PyDict.lookup_eq_none_iff.mp h
    rw [List.map_take] at hk
    simp [hk]
  | some v =>
    have hk : k ∈ (d.map Prod.fst).take n := by
      rw [← List.map_take]
      by_contra hk
      simp [PyDict.lookup_eq_none_iff.mpr hk] at h
    simp [hk, ← split, h]

/-- Reading every id of the buffer at the table the id call saw gives that table, cut to
the buffer's length. -/
theorem fillFrom_getProcessSetIds_equiv {r : Registry} {n : Nat} {b : List Int}
    (h : getProcessSetIds r n = some b) : (fillFrom r b []).Equiv (r.sets.take n) := fun k => by
  rw [lookup_fillFrom (fun _ => mem_ids_of_mem_getProcessSetIds h), lookup_take_eq]
  simp only [mem_getProcessSetIds_iff h, Registry.ids, List.lookup_nil]

/-! ## One iteration, and the whole loop -/

section Loop

variable {obs : Nat → Registry} {s : Registry} {k : Nat} {psId : Int} {rest : List Int}
  {ret d : PyDict}

/-- One iteration of the loop: it raises, or it records the ranks `s` has for the id, when
the table `s` comes no later than the size call. The ranks array is sized by the set's own
size, so the copy into it always fits. -/
theorem readProcessSets_cons (hchain : ∀ k, Reach (obs k) (obs (k + 1))) (hs : Reach s (obs k))
    {m : List Int} (hm : s.sets.lookup psId = some m) :
    readProcessSets obs k (psId :: rest) ret = some (.error tableModified) ∨
      readProcessSets obs k (psId :: rest) ret = readProcessSets obs (k + 2) rest (ret.set psId m) := by
  cases h0 : (obs k).sets.lookup psId with
  | none => exact .inl (by simp [readProcessSets, getProcessSetSize, h0])
  | some m0 =>
    rw [hs.lookup_eq_of_lookup hm h0] at h0
    cases h1 : (obs (k + 1)).sets.lookup psId with
    | none => exact .inl (by simp [readProcessSets, getProcessSetSize, getProcessSetRanks, h0, h1])
    | some m1 =>
      rw [(hs.trans (hchain k)).lookup_eq_of_lookup hm h1] at h1
      have hlen : ¬((m.length : Int) < 0) := by omega
      exact .inr (by simp [readProcessSets, processSetSize_of_lookup h0,
        processSetRanks_of_lookup h1, hlen])

/-- The loop never copies past a buffer: every ranks array is sized by the size just read. -/
theorem readProcessSets_isSome (hchain : ∀ k, Reach (obs k) (obs (k + 1)))
    {ids : List Int} (hs : Reach s (obs k)) (hids : ∀ i ∈ ids, i ∈ s.ids) :
    (readProcessSets obs k ids ret).isSome := by
  induction ids generalizing k ret with
  | nil => rfl
  | cons psId rest ih =>
    obtain ⟨m, hm⟩ :=
      Option.isSome_iff_exists.mp (s.lookup_isSome_of_mem_ids (hids psId (List.mem_cons_self _ _)))
    rcases readProcessSets_cons hchain hs hm with he | he <;> rw [he]
    · rfl
    · exact ih (hs.trans ((hchain k).trans (hchain (k + 1))))
        (fun i hi => hids i (List.mem_cons_of_mem _ hi))

/-- The loop, when it returns, has recorded the ranks of each id as the earlier table `s`
has them. -/
theorem readProcessSets_eq_fillFrom (hchain : ∀ k, Reach (obs k) (obs (k + 1)))
    {ids : List Int} (hs : Reach s (obs k)) (hids : ∀ i ∈ ids, i ∈ s.ids)
    (h : readProcessSets obs k ids ret = some (.ok d)) : d = fillFrom s ids ret := by
  induction ids generalizing k ret with
  | nil => exact (Except.ok.inj (Option.some.inj h)).symm
  | cons psId rest ih =>
    obtain ⟨m, hm⟩ :=
      Option.isSome_iff_exists.mp (s.lookup_isSome_of_mem_ids (hids psId (List.mem_cons_self _ _)))
    rcases readProcessSets_cons hchain hs hm with he | he
    · rw [he] at h
      cases h
    · rw [he] at h
      rw [ih (hs.trans ((hchain k).trans (hchain (k + 1))))
        (fun i hi => hids i (List.mem_cons_of_mem _ hi)) h]
      simp [fillFrom, hm]

theorem readProcessSets_error {ids : List Int} {e : PyError}
    (h : readProcessSets obs k ids ret = some (.error e)) : e = tableModified := by
  induction ids generalizing k ret with
  | nil => cases h
  | cons psId rest ih =>
    simp only [readProcessSets] at h
    split at h
    · exact (Except.error.inj (Option.some.inj h)).symm
    · split at h
      · cases h
      · split at h
        · exact (Except.error.inj (Option.some.inj h)).symm
        · exact ih h

end Loop

/-! ## Two histories -/

/-- The table `{0: [0, 1], 1: [0]}`. -/
def twoSets : Registry where
  sets := [(0, [0, 1]), (1, [0])]
  used := [0, 1]
  ids_nodup := by decide
  sets_used := by decide
  global_mem := by decide

/-- Between ticks 0 and 3 other processes add sets 2 and 3 and remove set 1. -/
def growingHistory : Nat → Registry
  | 0 => twoSets
  | 1 => twoSets.add 2 [1] (by decide)
  | 2 => (twoSets.add 2 [1] (by decide)).add 3 [0, 1] (by decide)
  | _ => ((twoSets.add 2 [1] (by decide)).add 3 [0, 1] (by decide)).remove 1 (by decide)

/-- The count call at tick 0, every later call at tick 3. -/
def growingCalls (k : Nat) : Nat := if k = 0 then 0 else 3

theorem growingHistory_interleaving : Interleaving growingHistory growingCalls where
  tick i := match i with
    | 0 => .inr (.add _ 2 [1] (by decide))
    | 1 => .inr (.add _ 3 [0, 1] (by decide))
    | 2 => .inr (.remove _ 1 (by decide))
    | _ + 3 => .inl rfl
  ordered k := by
    unfold growingCalls
    split <;> split <;> omega

/-- Another process removes set 1 at tick 1. -/
def shrinkingHistory (i : Nat) : Registry := if i = 0 then twoSets else twoSets.remove 1 (by decide)

theorem shrinkingHistory_interleaving {t : Nat → Nat} (ordered : ∀ k, t k ≤ t (k + 1)) :
    Interleaving shrinkingHistory t where
  tick i := match i with
    | 0 => .inr (.remove _ 1 (by decide))
    | _ + 1 => .inl rfl
  ordered := ordered

/-! ## The whole call -/

theorem getProcessSets_eq_fillFrom {obs : Nat → Registry} {d : PyDict}
    (hchain : ∀ k, Reach (obs k) (obs (k + 1))) (h : getProcessSets obs = some (.ok d)) :
    ∃ b, getProcessSetIds (obs 1) (getNumberOfProcessSets (obs 0)) = some b ∧
      d = fillFrom (obs 1) b [] := by
  cases hb : getProcessSetIds (obs 1) (getNumberOfProcessSets (obs 0)) with
  | none => simp [getProcessSets, hb] at h
  | some b =>
    rw [getProcessSets_of_ids hb] at h
    exact ⟨b, rfl, readProcessSets_eq_fillFrom hchain (hchain 1)
      (fun _ => mem_ids_of_mem_getProcessSetIds hb) h⟩

/-- In every interleaving, `get_process_sets` has undefined behaviour exactly when the id call
finds more sets than the ids array, sized by the count call, has memory for; and a dict it
returns is the table as the id call saw it, cut to the number of sets the count call read. -/
theorem getProcessSets_equiv_take {hist : Nat → Registry} {t : Nat → Nat}
    (h : Interleaving hist t) :
    (getProcessSets (fun k => hist (t k)) = none ↔
        bufferSlots (getNumberOfProcessSets (hist (t 0))) <
          getNumberOfProcessSets (hist (t 1))) ∧
      ∀ d, getProcessSets (fun k => hist (t k)) = some (.ok d) →
        d.Equiv ((hist (t 1)).sets.take (getNumberOfProcessSets (hist (t 0)))) := by
  refine ⟨?_, fun d hd => ?_⟩
  · rw [← getProcessSetIds_eq_none_iff]
    cases hb : getProcessSetIds (hist (t 1)) (getNumberOfProcessSets (hist (t 0))) with
    | none => simp [getProcessSets, hb]
    | some b =>
      have hread : (readProcessSets (fun k => hist (t k)) 2 b []).isSome :=
        readProcessSets_isSome h.reach (h.reach 1) fun _ => mem_ids_of_mem_getProcessSetIds hb
      rw [getProcessSets_of_ids hb]
      simpa [Option.isSome_iff_ne_none] using hread
  · obtain ⟨b, hb, rfl⟩ := getProcessSets_eq_fillFrom h.reach hd
    exact fillFrom_getProcessSetIds_equiv hb

/-- The count call reads 2 sets; the id call sees `{0, 2, 3}`, which the two-slot array's
four slots of memory hold, and keeps its first two. -/
theorem getProcessSets_equiv_take_growing :
    (getProcessSets (fun k => growingHistory (growingCalls k)) = none ↔
        bufferSlots (getNumberOfProcessSets (growingHistory (growingCalls 0))) <
          getNumberOfProcessSets (growingHistory (growingCalls 1))) ∧
      PyDict.Equiv [(0, [0, 1]), (2, [1])]
        ((growingHistory (growingCalls 1)).sets.take
          (getNumberOfProcessSets (growingHistory (growingCalls 0)))) :=
  ⟨(getProcessSets_equiv_take growingHistory_interleaving).1,
    (getProcessSets_equiv_take growingHistory_interleaving).2 _ rfl⟩

/-- Three sets added after the count call read two: the engine copies five ids into the
memory of a two-slot array, which holds four. -/
example : getProcessSets (fun k => if k = 0 then twoSets else
    (((twoSets.add 2 [1] (by decide)).add 3 [0] (by decide)).add 4 [1] (by decide))) = none :=
  rfl

/-- A table that grows between the count call and the id call pushes a registered id out
of the buffer, and nothing raises: `{0: [0, 1], 2: [1]}` is the table of no moment. -/
theorem getProcessSets_mixes_tables :
    Interleaving growingHistory growingCalls ∧
      getProcessSets (fun k => growingHistory (growingCalls k)) =
        some (.ok [(0, [0, 1]), (2, [1])]) ∧
      ∀ i, ¬ PyDict.Equiv [(0, [0, 1]), (2, [1])] (growingHistory i).sets := by
  refine ⟨growingHistory_interleaving, rfl, fun i h => ?_⟩
  match i with
  | 0 => exact absurd (h 1) (by decide)
  | 1 => exact absurd (h 1) (by decide)
  | 2 => exact absurd (h 1) (by decide)
  | n + 3 =>
    have e : growingHistory (n + 3) = growingHistory 3 := rfl
    exact absurd (e ▸ h 3) (by decide)

/-- Unless the table grew between the count call and the id call, a returned dict is the
whole table of one moment: the moment of the id call. -/
theorem getProcessSets_equiv_of_count_not_grown {hist : Nat → Registry} {t : Nat → Nat}
    {d : PyDict} (h : Interleaving hist t)
    (hd : getProcessSets (fun k => hist (t k)) = some (.ok d))
    (grown : getNumberOfProcessSets (hist (t 1)) ≤ getNumberOfProcessSets (hist (t 0))) :
    d.Equiv (hist (t 1)).sets := by
  obtain ⟨b, hb, rfl⟩ := getProcessSets_eq_fillFrom h.reach hd
  simpa [List.take_of_length_le grown] using fillFrom_getProcessSetIds_equiv hb

/-- Set 1 removed between the count call and the id call: the buffer `[0, 0]` reads set 0
twice, and the result is the table the id call saw. -/
theorem getProcessSets_equiv_shrinking :
    getProcessSets (fun k => shrinkingHistory (min k 1)) = some (.ok [(0, [0, 1])]) ∧
      PyDict.Equiv [(0, [0, 1])] (shrinkingHistory (min 1 1)).sets :=
  ⟨rfl, getProcessSets_equiv_of_count_not_grown
    (shrinkingHistory_interleaving fun k => by omega) rfl (by decide)⟩

/-! ## No concurrent change -/

private theorem readProcessSets_const (r : Registry) {ps : PyDict} (hps : ∀ p ∈ ps, p ∈ r.sets)
    (nodup : (ps.map Prod.fst).Nodup) (k : Nat) (ret : PyDict)
    (fresh : ∀ p ∈ ps, ret.lookup p.1 = none) :
    readProcessSets (fun _ => r) k (ps.map Prod.fst) ret = some (.ok (ret ++ ps)) := by
  induction ps generalizing k ret with
  | nil => simp [readProcessSets]
  | cons p ps ih =>
    obtain ⟨i, m⟩ := p
    have hm := PyDict.lookup_eq_some_of_mem r.ids_nodup (hps (i, m) (List.mem_cons_self _ _))
    simp only [List.map_cons, List.nodup_cons] at nodup
    have hset : ret.set i m = ret ++ [(i, m)] := by
      simp [PyDict.set, fresh (i, m) (List.mem_cons_self _ _)]
    have ih' := ih (fun q hq => hps q (List.mem_cons_of_mem _ hq)) nodup.2 (k + 2)
      (ret ++ [(i, m)]) (fun q hq => by
        have hqi : q.1 ≠ i := fun e => nodup.1 (e ▸ List.mem_map_of_mem _ hq)
        simp [List.lookup_append, fresh q (List.mem_cons_of_mem _ hq), hqi])
    simpa [readProcessSets, processSetSize_of_lookup hm, processSetRanks_of_lookup hm, hset]
      using ih'

/-- The loop over a table's own ids, every call reading that table, returns the table. -/
theorem readProcessSets_table (r : Registry) (k : Nat) :
    readProcessSets (fun _ => r) k r.ids [] = some (.ok r.sets) :=
  readProcessSets_const r (fun _ hp => hp) r.ids_nodup k [] (fun _ _ => rfl)

/-- With no change during the call, `get_process_sets` returns exactly the table. -/
theorem getProcessSets_quiescent (r : Registry) :
    getProcessSets (fun _ => r) = some (.ok r.sets) := by
  rw [getProcessSets_of_ids (getProcessSetIds_self r), readProcessSets_table]

/-- The method `get_process_sets` raises nothing but its `RuntimeError`, and raises it only when the
table changed during the call. -/
theorem getProcessSets_error {obs : Nat → Registry} {e : PyError}
    (h : getProcessSets obs = some (.error e)) : e = tableModified ∧ ∃ k, obs k ≠ obs 0 := by
  refine ⟨?_, ?_⟩
  · cases hb : getProcessSetIds (obs 1) (getNumberOfProcessSets (obs 0)) with
    | none => simp [getProcessSets, hb] at h
    | some b => exact readProcessSets_error ((getProcessSets_of_ids hb).symm.trans h)
  · by_contra hall
    push_neg at hall
    have hobs : obs = fun _ => obs 0 := funext hall
    rw [hobs, getProcessSets_of_ids (getProcessSetIds_self _), readProcessSets_table] at h
    cases h

/-- Set 1 removed after the id call and before its size is read: the size read fails. -/
theorem getProcessSets_error_shrinking :
    getProcessSets (fun k => shrinkingHistory (if k ≤ 1 then 0 else 1)) =
        some (.error tableModified) ∧
      ∃ k, shrinkingHistory (if k ≤ 1 then 0 else 1) ≠ shrinkingHistory (if 0 ≤ 1 then 0 else 1) := by
  have h : getProcessSets (fun k => shrinkingHistory (if k ≤ 1 then 0 else 1)) =
      some (.error tableModified) := rfl
  exact ⟨h, (getProcessSets_error h).2⟩

end Horovod
