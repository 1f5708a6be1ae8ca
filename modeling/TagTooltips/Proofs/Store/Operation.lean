import TagTooltips.Proofs.Store.Filing
import TagTooltips.Store.Loading

/-! Calls on a store. Each comes to one update at most, and every store that calls can make of the empty one
is well formed. -/

namespace TagTooltips

inductive Operation
  | upsert (project : String) (batch : List Descriptor)
  | change (snapshot : ProjectSnapshot)
  | load (read : Reader) (path : String)
  | remove (project : String)

namespace Operation

def run (s : Store) : Operation → Store
  | upsert project batch => ((Update.provide project batch).perform s).value.1
  | change snapshot => ((Update.ofChange snapshot).perform s).value.1
  | load read path =>
    match (s.load read path).value with
    | .ok (s, _) => s
    | .error _ => s
  | remove project => ((Update.withdraw project).perform s).value.1

def update? : Operation → Option Update
  | upsert project batch => some (.provide project batch)
  | change snapshot => some (.ofChange snapshot)
  | load read path => (Update.ofFile read path).toOption
  | remove project => some (.withdraw project)

theorem run_eq (s : Store) (op : Operation) : op.run s = op.update?.elim s fun u => u.apply s := by
  cases op with
  | load read path =>
    rw [run, Store.load, update?]
    cases Update.ofFile read path <;> rfl
  | _ => rfl

def history (ops : List Operation) : List Update := ops.filterMap update?

theorem foldl_run (s : Store) (ops : List Operation) :
    ops.foldl run s = (history ops).foldl Update.apply s := by
  induction ops generalizing s with
  | nil => rfl
  | cons op ops ih =>
    rw [List.foldl_cons, ih, run_eq, history, history]
    cases hop : op.update? with
    | none => rw [List.filterMap_cons_none hop, Option.elim_none]
    | some u => rw [List.filterMap_cons_some hop, Option.elim_some, List.foldl_cons]

theorem wellFormed_run {s : Store} (h : s.WellFormed) (op : Operation) : (op.run s).WellFormed := by
  rw [run_eq]
  cases op.update? with
  | none => exact h
  | some u => exact h.apply u

end Operation

namespace Store

/-- The stores that calls can make of the empty one. -/
inductive Reachable : Store → Prop
  | empty : Reachable Store.empty
  | run {s : Store} (h : Reachable s) (op : Operation) : Reachable (op.run s)

variable {s : Store}

theorem Reachable.wellFormed (h : Reachable s) : s.WellFormed := by
  induction h with
  | empty => exact wellFormed_empty
  | run _ op ih => exact Operation.wellFormed_run ih op

theorem Reachable.foldl_run (h : Reachable s) (ops : List Operation) :
    Reachable (ops.foldl Operation.run s) := by
  induction ops generalizing s with
  | nil => exact h
  | cons op ops ih => exact ih (h.run op)

theorem value_loadAll (read : Reader) (paths : List String) (s : Store) :
    (s.loadAll read paths).value.1 = (paths.map (Operation.load read)).foldl Operation.run s := by
  induction paths generalizing s with
  | nil => rfl
  | cons path paths ih =>
    rw [loadAll, Noted.value_bind, List.map_cons, List.foldl_cons, Operation.run]
    cases (s.load read path).value with
    | ok loaded => exact ih loaded.1
    | error cause => exact ih s

theorem Reachable.loadAll (h : Reachable s) (read : Reader) (paths : List String) :
    Reachable (s.loadAll read paths).value.1 := by
  rw [value_loadAll]
  exact h.foldl_run _

end Store

end TagTooltips
