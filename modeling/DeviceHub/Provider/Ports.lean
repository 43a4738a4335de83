import DeviceHub.Util.ProcessManager
import Mathlib.Data.List.Perm.Basic

/-!
# The ports of a provider

A removal releases the ports of the process that it looked up when it was called, and removes from
the map what is there when it is done.  Several removals of a device can be under way at once.

## Main definitions

* `ProcessManager.allocated`, `ProcessManager.ports` : the ports of the processes in the map; these
  and those in the pool.
* `ProcessManager.Conserved` : no port was lost or doubled.
* `ProcessManager.Returns` : a removal releases the ports of the process that it removes.

## Main results

* `ProcessManager.conserved_iff_of_run` : the ports are conserved exactly when every removal does.
* `ProcessManager.not_conserved_of_two_removals` : two removals of a device, and its ports are twice
  in the pool.
-/

namespace DeviceHub

namespace ProcessManager

variable {R : Type} {s s' : ProcessManager R} {pool : List R}

/-- The ports of the processes in the map. -/
def allocated (s : ProcessManager R) : List R :=
  s.processes.entries.flatMap fun e => s.resources e.2

/-- All ports, those in the pool first. -/
def ports (s : ProcessManager R) : List R := s.resourcePool.available ++ s.allocated

/-- The ports are those of the pool at first, each once if it was there once. -/
def Conserved (pool : List R) (s : ProcessManager R) : Prop :=
  s.ports.Perm pool ∧ (pool.Nodup → s.ports.Nodup)

/-- The ports that the map has for the id. -/
def portsOf (s : ProcessManager R) (id : String) : List R :=
  (s.processes.lookup id).elim [] s.resources

/-- The condition: a removal releases the ports of the process that it removes from the map. -/
def Returns (s : ProcessManager R) : Event → Prop
  | .removed k => ∀ c ∈ s.stopping[k]?, (s.portsOf c.id).Perm (s.resources c.process)
  | _ => True

/-! ### What the steps do to the ports -/

theorem ports_congr (hpool : s'.resourcePool = s.resourcePool)
    (hobjects : s'.objects.map ManagedProcess.resources = s.objects.map ManagedProcess.resources)
    (hprocesses : s'.processes = s.processes) : s'.ports = s.ports := by
  have hresources : s'.resources = s.resources := by
    funext k
    have hget : ∀ s : ProcessManager R,
        s.resources k = (s.objects.map ManagedProcess.resources)[k]?.getD [] := by
      intro s
      rw [List.getElem?_map]
      unfold resources
      cases s.objects[k]? <;> rfl
    rw [hget, hget, hobjects]
  unfold ports allocated
  rw [hpool, hprocesses, hresources]

theorem allocated_add (h : s.WellFormed) {id : String} (hid : id ∉ s.processes)
    (initialState : ProcessState) (resources : List R) (pool : ResourcePool R) :
    (s.add id initialState resources pool).allocated = resources ++ s.allocated := by
  have hnew : (s.add id initialState resources pool).resources s.objects.length = resources := by
    simp [ProcessManager.resources, add]
  have hold : ∀ e ∈ s.processes.entries,
      (s.add id initialState resources pool).resources e.2 = s.resources e.2 := by
    intro e he
    have hlt : e.2 < s.objects.length := by
      have hvalid := h.processes e.1 e.2 (AList.mem_lookup_iff.2 he)
      simpa [ids] using (List.getElem?_eq_some_iff.1 hvalid).1
    simp [ProcessManager.resources, add, List.getElem?_append_left hlt]
  unfold allocated
  rw [show (s.add id initialState resources pool).processes.entries =
    ⟨id, s.objects.length⟩ :: s.processes.entries from AList.entries_insert_of_notMem hid,
    List.flatMap_cons, hnew, List.flatMap_congr hold]

/-- **To create a process** moves its ports out of the pool. -/
theorem ports_create (h : s.WellFormed) (id : String) (initialState : ProcessState)
    (resourceCount : Nat) : (s.create id initialState resourceCount).ports.Perm s.ports := by
  unfold create
  split
  · exact .refl _
  · rename_i hhas
    have hid : id ∉ s.processes := fun hmem => hhas (AList.lookup_isSome.2 hmem)
    split
    · unfold ResourcePool.allocate
      split
      · exact .refl _
      · show ((s.add id initialState _ _).ports).Perm s.ports
        unfold ports
        rw [allocated_add h hid]
        show (s.resourcePool.available.drop resourceCount ++
          (s.resourcePool.available.take resourceCount ++ s.allocated)).Perm _
        rw [← List.append_assoc]
        have hsplit : (s.resourcePool.available.drop resourceCount ++
            s.resourcePool.available.take resourceCount).Perm _ := List.perm_append_comm
        rw [List.take_append_drop] at hsplit
        exact hsplit.append_right _
    · unfold ports
      rw [allocated_add h hid]
      exact .refl _

/-- **A removal that is done** has released the ports that it looked up, and those that the map had
for the id are gone. -/
theorem ports_removed (k : Nat) (c : Stopping) :
    ((s.removed k c).ports ++ s.portsOf c.id).Perm (s.ports ++ s.resources c.process) := by
  have hmap : ((s.removed k c).allocated ++ s.portsOf c.id).Perm s.allocated := by
    show ((s.processes.erase c.id).entries.flatMap (fun e => s.resources e.2) ++ _).Perm _
    by_cases hid : c.id ∈ s.processes
    · obtain ⟨process, before, after, -, hentries, herased⟩ := List.exists_of_kerase hid
      have hlookup : s.processes.lookup c.id = some process :=
        AList.mem_lookup_iff.2 (hentries ▸ List.mem_append_right _ List.mem_cons_self)
      have hperm : (⟨c.id, process⟩ :: (before ++ after)).Perm s.processes.entries :=
        hentries ▸ List.perm_middle.symm
      unfold portsOf
      rw [hlookup]
      refine List.perm_append_comm.trans ?_
      rw [show (s.processes.erase c.id).entries = before ++ after from herased]
      exact hperm.flatMap_right fun e => s.resources e.2
    · have hgone : (s.processes.erase c.id).entries = s.processes.entries :=
        List.kerase_of_notMem_keys hid
      unfold portsOf
      rw [hgone, AList.lookup_eq_none.2 hid]
      exact List.Perm.of_eq (List.append_nil _)
  show ((s.resourcePool.available ++ s.resources c.process) ++ (s.removed k c).allocated ++ _).Perm _
  unfold ports
  calc ((s.resourcePool.available ++ s.resources c.process) ++ (s.removed k c).allocated ++
        s.portsOf c.id)
      = (s.resourcePool.available ++ s.resources c.process) ++
        ((s.removed k c).allocated ++ s.portsOf c.id) := List.append_assoc _ _ _
    _ |>.Perm (s.resourcePool.available ++ s.resources c.process ++ s.allocated) :=
        hmap.append_left _
    _ |>.Perm (s.resourcePool.available ++ s.allocated ++ s.resources c.process) := by
        rw [List.append_assoc, List.append_assoc]
        exact List.perm_append_comm.append_left _

/-- Every step but the end of a removal conserves the ports. -/
theorem ports_step (h : s.WellFormed) {event : Event} (hnext : s.next event = some s')
    (hevent : ∀ k, event ≠ .removed k) : s'.ports.Perm s.ports := by
  cases event with
  | create id initialState resourceCount =>
    obtain rfl := Option.some.inj hnext
    exact ports_create h id initialState resourceCount
  | start id force =>
    obtain rfl := Option.some.inj hnext
    refine .of_eq (ports_congr ?_ (map_objects_start (fun _ => rfl) id force)
      (processes_start id force))
    exact resourcePool_start id force
  | stop | remove | cleanup =>
    obtain rfl := Option.some.inj hnext
    exact .of_eq (ports_congr rfl rfl rfl)
  | setState id state =>
    obtain rfl := Option.some.inj hnext
    exact .of_eq (ports_congr rfl (map_objects_modify fun _ => rfl) rfl)
  | spawned | ready =>
    obtain ⟨_, -, rfl⟩ := Option.map_eq_some_iff.1 hnext
    exact .of_eq (ports_congr rfl (map_objects_modify (s := s) fun _ => rfl) rfl)
  | spawnFailed | exit | error | errorHandled | errorUnhandled | cleanupFailed =>
    obtain ⟨_, -, rfl⟩ := Option.map_eq_some_iff.1 hnext
    exact .of_eq (ports_congr rfl rfl rfl)
  | delayOver k =>
    obtain ⟨r, -, rfl⟩ := Option.map_eq_some_iff.1 hnext
    refine .of_eq (ports_congr ?_ (map_objects_start (fun _ => rfl) r.id true)
      (processes_start r.id true))
    exact resourcePool_start r.id true
  | cleanedUp k =>
    obtain ⟨c, -, rfl⟩ := Option.map_eq_some_iff.1 hnext
    unfold cleanedUp
    split <;> exact .of_eq (ports_congr rfl rfl rfl)
  | removed k => exact absurd rfl (hevent k)

theorem conserved_removed_iff (hconserved : s.Conserved pool) (k : Nat) (c : Stopping) :
    (s.removed k c).Conserved pool ↔ (s.portsOf c.id).Perm (s.resources c.process) := by
  have hmoved := ports_removed (s := s) k c
  constructor
  · intro hafter
    have hsame : (s.removed k c).ports.Perm s.ports := hafter.1.trans hconserved.1.symm
    exact (List.perm_append_left_iff s.ports).1 ((hsame.symm.append_right _).trans hmoved)
  · intro hreturns
    have hsame : (s.removed k c).ports.Perm s.ports :=
      (List.perm_append_right_iff (s.portsOf c.id)).1
        (hmoved.trans (hreturns.symm.append_left _))
    exact ⟨hsame.trans hconserved.1, fun hnodup => hsame.nodup_iff.2 (hconserved.2 hnodup)⟩

theorem conserved_step_iff (h : s.WellFormed) (hconserved : s.Conserved pool) {event : Event}
    (hnext : s.next event = some s') : s'.Conserved pool ↔ s.Returns event := by
  by_cases hevent : ∃ k, event = .removed k
  · obtain ⟨k, rfl⟩ := hevent
    obtain ⟨c, hc, rfl⟩ := Option.map_eq_some_iff.1 hnext
    obtain ⟨hk, -⟩ := Option.filter_eq_some_iff.1 hc
    rw [conserved_removed_iff hconserved]
    constructor
    · intro hreturns c' hc'
      obtain rfl : c = c' := Option.some.inj (hk.symm.trans hc')
      exact hreturns
    · intro hreturns
      exact hreturns c hk
  · have hother : ∀ k, event ≠ .removed k := fun k heq => hevent ⟨k, heq⟩
    have hsame := ports_step h hnext hother
    refine iff_of_true ⟨hsame.trans hconserved.1,
      fun hnodup => hsame.nodup_iff.2 (hconserved.2 hnodup)⟩ ?_
    unfold Returns
    split
    · exact absurd rfl (hother _)
    · trivial

/-! ### The law -/

/-- **The ports are conserved exactly when each removal releases the ports of the process that it
removes**: in every run of calls and of the steps between their awaits, the ports in the pool and of
the processes in the map are those of the pool at first in every state, if and only if, whenever a
removal goes on after its stop, the process that the map has under the id has the ports of the
process that the removal looked up. -/
theorem conserved_iff_of_run {pool : List R} {events : List Event} {s : ProcessManager R} :
    (system R).Along (Conserved pool) (new pool) events s ↔
      ((system R).restrict Returns).Run (new pool) events s := by
  refine Lts.along_iff_restrict (I := WellFormed) (fun _ _ _ h hstep => h.step hstep)
    (fun _ _ _ h hconserved hstep => conserved_step_iff h hconserved hstep) (wellFormed_new pool) ?_
  have hports : (new pool).ports = pool := List.append_nil pool
  exact ⟨.of_eq hports, fun hnodup => hports.symm ▸ hnodup⟩

/-- **Two removals of a device**: it is removed while it is being removed, and its ports are twice
in the pool. -/
theorem not_conserved_of_two_removals :
    ∃ events s, (system Nat).Run (new [7400, 7401]) events s ∧
      s.resourcePool.available = [7400, 7401, 7400, 7401] ∧ ¬s.Conserved [7400, 7401] := by
  obtain ⟨s, hrun, hs⟩ := Lts.exists_run_of_play (f := next) (G := fun _ _ => True)
    (new [7400, 7401])
    [.create "d" .waiting 2, .remove "d", .remove "d", .cleanedUp 0, .cleanedUp 1, .removed 0,
      .removed 0]
    (fun s => decide (s.resourcePool.available = [7400, 7401, 7400, 7401])) (by decide +kernel)
  have havailable := of_decide_eq_true hs
  refine ⟨_, s, hrun.of_restrict, havailable, fun hconserved => ?_⟩
  have hlength := hconserved.1.length_eq
  unfold ports at hlength
  rw [List.length_append, havailable] at hlength
  simp only [List.length_cons, List.length_nil] at hlength
  omega

end ProcessManager

end DeviceHub
