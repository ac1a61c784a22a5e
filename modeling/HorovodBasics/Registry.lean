import HorovodBasics.Python
import Mathlib.Logic.Relation
import Mathlib.Data.List.Nodup

/-!
# The engine's process-set table

`get_process_sets` and the dynamic add and remove calls work on a table kept inside the
engine library: process-set ids mapped to ordered lists of global ranks, id 0 being the
global set. The engine is not part of the Python sources, so the table and the four C
functions `get_process_sets` reads it through are modelled from the specification: ids are
never handed out twice, id 0 is never removed, and a registered set keeps its ranks until
it is removed.

## Main definitions

* `Horovod.Registry` — the table, with its invariants as fields
* `Registry.add`, `Registry.remove` — what another process's add or remove does to it
* `Horovod.Mutation`, `Horovod.Reach` — one change of the table, and any number of them
* `getNumberOfProcessSets`, `getProcessSetIds`, `getProcessSetSize`, `getProcessSetRanks` — the engine
  reads behind `get_process_sets`

## Main results

* `Reach.mem_sets_of_mem_used` — a set registered under an id already handed out was
  registered earlier, with the same ranks
* `Reach.lookup_eq_of_lookup` — an id's ranks never change while it stays registered
-/

namespace Horovod

/-- Modelled from the spec: the engine's process-set table. `sets` lists the registered
sets in registration order, `used` every id the table ever handed out. -/
structure Registry where
  sets : PyDict
  used : List Int
  ids_nodup : (sets.map Prod.fst).Nodup
  sets_used : ∀ p ∈ sets, p.1 ∈ used
  global_mem : 0 ∈ sets.map Prod.fst

namespace Registry

variable {r r' r'' : Registry} {id : Int} {ranks : List Int}

/-- The registered ids, in the order the engine lists them. -/
def ids (r : Registry) : List Int := r.sets.map Prod.fst

theorem lookup_eq_some_iff {m : List Int} : r.sets.lookup id = some m ↔ (id, m) ∈ r.sets :=
  ⟨PyDict.mem_of_lookup_eq_some, PyDict.lookup_eq_some_of_mem r.ids_nodup⟩

theorem lookup_isSome_of_mem_ids (h : id ∈ r.ids) : (r.sets.lookup id).isSome := by
  cases hl : r.sets.lookup id with
  | none => exact absurd h (PyDict.lookup_eq_none_iff.mp hl)
  | some _ => rfl

/-- Another process registers `ranks` under an id the table never handed out. -/
def add (r : Registry) (id : Int) (ranks : List Int) (fresh : id ∉ r.used) : Registry where
  sets := r.sets ++ [(id, ranks)]
  used := id :: r.used
  ids_nodup := by
    rw [List.map_append, List.nodup_append]
    refine ⟨r.ids_nodup, List.nodup_singleton _, ?_⟩
    simp only [List.map_cons, List.map_nil, List.disjoint_singleton, List.mem_map, not_exists,
      not_and]
    exact fun p hp hid => fresh (hid ▸ r.sets_used p hp)
  sets_used p hp := by
    rcases List.mem_append.mp hp with hp | hp
    · exact List.mem_cons_of_mem _ (r.sets_used p hp)
    · simp [List.mem_singleton.mp hp]
  global_mem := by
    rw [List.map_append]
    exact List.mem_append_left _ r.global_mem

/-- Another process removes the set `id`, which is never the global set. -/
def remove (r : Registry) (id : Int) (h0 : id ≠ 0) : Registry where
  sets := r.sets.filter (fun p => p.1 != id)
  used := r.used
  ids_nodup := r.ids_nodup.sublist ((List.filter_sublist _).map _)
  sets_used p hp := r.sets_used p (List.mem_of_mem_filter hp)
  global_mem := by
    obtain ⟨p, hp, hp0⟩ := List.mem_map.mp r.global_mem
    exact List.mem_map.mpr ⟨p, List.mem_filter.mpr ⟨hp, by simp [hp0, Ne.symm h0]⟩, hp0⟩

@[simp] theorem add_sets (fresh : id ∉ r.used) :
    (r.add id ranks fresh).sets = r.sets ++ [(id, ranks)] := rfl

@[simp] theorem remove_sets (h0 : id ≠ 0) :
    (r.remove id h0).sets = r.sets.filter (fun p => p.1 != id) := rfl

end Registry

/-- One change of the table made by another process: a set added under a fresh id, or a
set other than the global one removed. -/
inductive Mutation : Registry → Registry → Prop
  | add (r : Registry) (id : Int) (ranks : List Int) (fresh : id ∉ r.used) :
      Mutation r (r.add id ranks fresh)
  | remove (r : Registry) (id : Int) (h0 : id ≠ 0) : Mutation r (r.remove id h0)

/-- The table after any number of changes made by other processes. -/
def Reach : Registry → Registry → Prop := Relation.ReflTransGen Mutation

namespace Mutation

variable {r r' : Registry}

theorem used_subset (h : Mutation r r') : r.used ⊆ r'.used := by
  cases h with
  | add => exact List.subset_cons_self _ _
  | remove => exact List.Subset.refl _

/-- A change never re-registers an id that was handed out before it. -/
theorem mem_sets_of_mem_used (h : Mutation r r') {p : Int × List Int} (hp : p ∈ r'.sets)
    (hu : p.1 ∈ r.used) : p ∈ r.sets := by
  cases h with
  | add id ranks fresh =>
    rcases List.mem_append.mp hp with hp | hp
    · exact hp
    · obtain rfl := List.mem_singleton.mp hp
      exact absurd hu fresh
  | remove => exact List.mem_of_mem_filter hp

end Mutation

namespace Reach

variable {r r' r'' : Registry} {id : Int}

theorem refl (r : Registry) : Reach r r := Relation.ReflTransGen.refl

theorem trans (h : Reach r r') (h' : Reach r' r'') : Reach r r'' :=
  Relation.ReflTransGen.trans h h'

theorem tail (h : Reach r r') (h' : Mutation r' r'') : Reach r r'' :=
  Relation.ReflTransGen.tail h h'

theorem used_subset (h : Reach r r') : r.used ⊆ r'.used := by
  induction h with
  | refl => exact List.Subset.refl _
  | tail _ step ih => exact fun _ hu => step.used_subset (ih hu)

/-- Ids are never reused: a set of the later table whose id was already handed out in the
earlier one was registered there, with the same ranks. -/
theorem mem_sets_of_mem_used (h : Reach r r') {p : Int × List Int} (hp : p ∈ r'.sets)
    (hu : p.1 ∈ r.used) : p ∈ r.sets := by
  induction h with
  | refl => exact hp
  | tail hr step ih => exact ih (step.mem_sets_of_mem_used hp (used_subset hr hu))

/-- An id's ranks never change while it stays registered. -/
theorem lookup_eq_of_lookup (h : Reach r r') {m m' : List Int}
    (hm : r.sets.lookup id = some m) (hm' : r'.sets.lookup id = some m') : m' = m := by
  have hu : id ∈ r.used := r.sets_used _ (Registry.lookup_eq_some_iff.mp hm)
  have hmem := h.mem_sets_of_mem_used (Registry.lookup_eq_some_iff.mp hm') hu
  exact Option.some.inj ((Registry.lookup_eq_some_iff.mpr hmem).symm.trans hm)

end Reach

/-! ## The engine reads behind `get_process_sets` -/

/-- Modelled from the spec: `horovod_get_number_of_process_sets()`. -/
def getNumberOfProcessSets (r : Registry) : Nat := r.sets.length

/-- Modelled from the spec: `horovod_get_process_set_ids(ids_array)` on a buffer of `n`
slots. The engine copies every registered id; the caller sees the first `n` slots, and a
copy past the array's memory is undefined behaviour. -/
def getProcessSetIds (r : Registry) (n : Nat) : Option (List Int) := fillBuffer r.ids n

/-- Modelled from the spec: `horovod_get_process_set_size(id)`, negative for an id that is
not registered (the spec fixes only the sign; -3 is the unknown-id code of the sibling
calls). -/
def getProcessSetSize (r : Registry) (id : Int) : Int :=
  match r.sets.lookup id with
  | some m => m.length
  | none => -3

/-- Modelled from the spec: `horovod_get_process_set_ranks(id, ranks_array)` on a buffer of
`n` slots: the status it returns, and the buffer as the caller reads it back; `none` when
the engine copies the set's ranks past the array's memory. -/
def getProcessSetRanks (r : Registry) (id : Int) (n : Nat) : Option (Int × List Int) :=
  match r.sets.lookup id with
  | some m => (fillBuffer m n).map fun b => (0, b)
  | none => some (-3, List.replicate n 0)

theorem processSetSize_of_lookup {r : Registry} {id : Int} {m : List Int}
    (h : r.sets.lookup id = some m) : getProcessSetSize r id = m.length := by
  simp [getProcessSetSize, h]

/-- A ranks buffer sized by the set's own size holds the set. -/
theorem processSetRanks_of_lookup {r : Registry} {id : Int} {m : List Int}
    (h : r.sets.lookup id = some m) : getProcessSetRanks r id m.length = some (0, m) := by
  simp [getProcessSetRanks, h, fillBuffer_self]

end Horovod
