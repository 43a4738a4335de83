import DeviceHub.Util.ProcessManager

/-!
# The workers of a provider

A start is refused only while the process is `running`; a restart looks only whether there is a
process of the id; and the terminate handler is that of the child that was spawned last.

## Main definitions

* `ProcessManager.OneWorker` : no two children of an id are alive, and none after a stop.
* `ProcessManager.Careful` : the condition on a step.
* `ProcessManager.Tended` : what holds in the runs whose steps all meet the condition; above all,
  the process of every child that is alive is in the map and can terminate it.

## Main results

* `ProcessManager.oneWorker_of_run` : in such a run there is one worker at most.
* `ProcessManager.not_oneWorker_of_two_starts` : a device is started twice, and has two workers.
-/

namespace DeviceHub

namespace ProcessManager

variable {R : Type} {s s' : ProcessManager R}

/-- No child of the id is alive. -/
def Quiet (s : ProcessManager R) (id : String) : Prop :=
  ∀ c ∈ s.children, c.id = id → c.alive = false

/-- At most one child of each id is alive, and none at all after a stop or a removal of the id has
completed, until the id is started again. -/
def OneWorker (s : ProcessManager R) : Prop :=
  (∀ (i j : Nat) (a b : ChildProcess), s.children[i]? = some a → s.children[j]? = some b →
    a.alive = true → b.alive = true → a.id = b.id → i = j) ∧
  ∀ id, s.halted id = true → s.Quiet id

/-- The condition.  What goes on to spawn finds no child of the id alive, and no spawn pending.
Neither the restart of a crashed child nor a spawn goes on when the id was stopped or removed since
the last start, and a spawn not while a removal has done its stop.  And a stop terminates the
process that is in the map, unless no child of the id is alive. -/
def Careful (s : ProcessManager R) : Event → Prop
  | .start id force => s.willSpawn id force = true → s.Quiet id ∧ id ∉ s.spawning
  | .delayOver k => ∀ r ∈ s.restarts[k]?, s.willSpawn r.id true = true →
      s.Quiet r.id ∧ r.id ∉ s.spawning ∧ s.halted r.id = false
  | .spawned k => ∀ id ∈ s.spawning[k]?,
      s.halted id = false ∧ ∀ c ∈ s.stopping, c.id = id → c.stopped = false
  | .cleanedUp k => ∀ c ∈ s.stopping[k]?,
      s.processes.lookup c.id = some c.process ∨ s.Quiet c.id
  | _ => True

instance (s : ProcessManager R) (id : String) : Decidable (s.Quiet id) :=
  inferInstanceAs (Decidable (∀ c ∈ s.children, _))

instance (s : ProcessManager R) (event : Event) : Decidable (s.Careful event) := by
  unfold Careful
  split <;> infer_instance

/-! ### What is looked up -/

/-- A process is changed, and no other. -/
theorem get_modify (h : s.WellFormed) {id : String} {f : ManagedProcess R → ManagedProcess R}
    (id' : String) :
    (s.modify id f).get id' = if id' = id then (s.get id).map f else s.get id' := by
  have hget : (s.modify id f).get id' = (s.processes.lookup id').bind fun k' =>
      ((s.processes.lookup id).elim s.objects fun k => s.objects.modify k f)[k']? := rfl
  rw [hget]
  unfold get
  by_cases hid : id' = id
  · subst hid
    rw [if_pos rfl]
    cases s.processes.lookup id' with
    | none => rfl
    | some k => simp [List.getElem?_modify]
  · rw [if_neg hid]
    rcases Option.eq_none_or_eq_some (s.processes.lookup id) with hk | ⟨k, hk⟩
    · rw [hk]
      rfl
    · rcases Option.eq_none_or_eq_some (s.processes.lookup id') with hk' | ⟨k', hk'⟩
      · rw [hk']
        rfl
      · -- the numbers differ, since the ids of the processes do
        have hne : k ≠ k' := by
          rintro rfl
          exact hid (Option.some.inj ((h.processes id' k hk').symm.trans (h.processes id k hk)))
        rw [hk, hk']
        simp [List.getElem?_modify, hne]

theorem isSome_get (h : s.WellFormed) {id : String} (hhas : s.has id = true) :
    ∃ p, s.get id = some p := by
  obtain ⟨k, hk⟩ := Option.isSome_iff_exists.1 hhas
  have hid := h.processes id k hk
  unfold ids at hid
  rw [List.getElem?_map] at hid
  obtain ⟨p, hp, -⟩ := Option.map_eq_some_iff.1 hid
  exact ⟨p, by unfold get; rw [hk]; exact hp⟩

theorem has_of_get {id : String} {p : ManagedProcess R} (h : s.get id = some p) :
    s.has id = true := by
  obtain ⟨k, hk, -⟩ := Option.bind_eq_some_iff.1 h
  exact Option.isSome_iff_exists.2 ⟨k, hk⟩

/-! ### The children -/

/-- No child was spawned, and none came back to life. -/
def Fewer (s s' : ProcessManager R) : Prop :=
  ∀ (i : Nat) (c' : ChildProcess), s'.children[i]? = some c' →
    ∃ c : ChildProcess, s.children[i]? = some c ∧ c.id = c'.id ∧ (c'.alive = true → c.alive = true)

theorem Fewer.of_eq (h : s'.children = s.children) : Fewer s s' :=
  fun _ c hc => ⟨c, h ▸ hc, rfl, id⟩

theorem Fewer.of_modify {i : Nat} {f : ChildProcess → ChildProcess}
    (h : s'.children = s.children.modify i f) (hid : ∀ c, (f c).id = c.id)
    (halive : ∀ c, (f c).alive = true → c.alive = true) : Fewer s s' := by
  intro j c' hc'
  rw [h] at hc'
  obtain ⟨c, hc, ⟨-, rfl⟩ | ⟨-, rfl⟩⟩ := getElem?_modify_eq_some hc'
  · exact ⟨c, hc, (hid c).symm, halive c⟩
  · exact ⟨c', hc, rfl, id⟩

theorem Fewer.quiet (h : Fewer s s') {id : String} (hquiet : s.Quiet id) : s'.Quiet id := by
  intro c' hc' hid'
  obtain ⟨i, hi⟩ := List.mem_iff_getElem?.1 hc'
  obtain ⟨c, hc, hid, halive⟩ := h i c' hi
  by_contra halive'
  rw [Bool.not_eq_false] at halive'
  have hdead := hquiet c (List.mem_of_getElem? hc) (hid.trans hid')
  rw [halive halive'] at hdead
  cases hdead

theorem fewer_terminate (process : Nat) : Fewer s (s.terminate process) := by
  unfold terminate
  cases s.objects[process]?.bind ManagedProcess.terminateHandler with
  | none => exact .of_eq rfl
  | some i =>
    refine .of_modify (i := i) rfl (fun _ => rfl) fun c halive => ?_
    cases halive

/-! ### The invariant -/

/-- Each child that is alive can be terminated through its process.  While a spawn is pending no
child of the id is alive, and no second spawn is pending; its process is in the map unless the id
was stopped since; and no child is alive after a stop, or while a removal has done its stop. -/
structure Tended (s : ProcessManager R) : Prop where
  handled : ∀ (i : Nat) (c : ChildProcess), s.children[i]? = some c → c.alive = true →
    ∃ p, s.get c.id = some p ∧ p.terminateHandler = some i
  nodup : s.spawning.Nodup
  idle : ∀ id ∈ s.spawning, s.Quiet id
  registered : ∀ id ∈ s.spawning, s.halted id = false → s.has id = true
  halted : ∀ id, s.halted id = true → s.Quiet id
  stopped : ∀ c ∈ s.stopping, c.stopped = true → s.Quiet c.id

theorem tended_new (pool : List R) : (new pool).Tended where
  handled i c hc := by cases hc
  nodup := List.nodup_nil
  idle id hid := by cases hid
  registered id hid := by cases hid
  halted id hid := by cases hid
  stopped c hc := by cases hc

/-- One worker at most is alive, since a process has one terminate handler. -/
theorem Tended.oneWorker (h : s.Tended) : s.OneWorker := by
  refine ⟨fun i j a b ha hb halive halive' hid => ?_, h.halted⟩
  obtain ⟨p, hp, hi⟩ := h.handled i a ha halive
  obtain ⟨q, hq, hj⟩ := h.handled j b hb halive'
  obtain rfl : p = q := Option.some.inj (hp.symm.trans (hid ▸ hq))
  exact Option.some.inj (hi.symm.trans hj)

/-- The invariant is kept where no child is spawned, and the processes keep their handlers. -/
theorem Tended.of_fewer (h : s.Tended) (hwf : s.WellFormed) (hfewer : Fewer s s')
    (hget : ∀ id p, s.get id = some p →
      ∃ p', s'.get id = some p' ∧ p'.terminateHandler = p.terminateHandler)
    (hspawning : s'.spawning.Sublist s.spawning)
    (hhalted : s'.halted = s.halted)
    (hstopping : ∀ c ∈ s'.stopping, c.stopped = true → c ∈ s.stopping) : s'.Tended where
  handled i c' hc' halive' := by
    obtain ⟨c, hc, hid, halive⟩ := hfewer i c' hc'
    obtain ⟨p, hp, hi⟩ := h.handled i c hc (halive halive')
    obtain ⟨p', hp', hsame⟩ := hget c.id p hp
    exact ⟨p', hid ▸ hp', hsame.trans hi⟩
  nodup := h.nodup.sublist hspawning
  idle id hid := hfewer.quiet (h.idle id (hspawning.subset hid))
  registered id hid hnot := by
    obtain ⟨p, hp⟩ := isSome_get hwf (h.registered id (hspawning.subset hid) (hhalted ▸ hnot))
    obtain ⟨p', hp', -⟩ := hget id p hp
    exact has_of_get hp'
  halted id hid := hfewer.quiet (h.halted id (hhalted ▸ hid))
  stopped c hc hstopped := hfewer.quiet (h.stopped c (hstopping c hc hstopped) hstopped)

theorem get_modify_handler (hwf : s.WellFormed) {id : String}
    {f : ManagedProcess R → ManagedProcess R}
    (hf : ∀ p, (f p).terminateHandler = p.terminateHandler) (id' : String) (p : ManagedProcess R)
    (hp : s.get id' = some p) :
    ∃ p', (s.modify id f).get id' = some p' ∧ p'.terminateHandler = p.terminateHandler := by
  rw [get_modify hwf]
  split
  · rename_i hid
    subst hid
    exact ⟨f p, by rw [hp]; rfl, hf p⟩
  · exact ⟨p, hp, rfl⟩

theorem get_add {id : String} (hid : s.has id = false)
    (initialState : ProcessState) (resources : List R) (pool : ResourcePool R) (id' : String)
    (p : ManagedProcess R) (hp : s.get id' = some p) :
    (s.add id initialState resources pool).get id' = some p := by
  obtain ⟨k, hk, hobject⟩ := Option.bind_eq_some_iff.1 hp
  have hne : id' ≠ id := by
    rintro rfl
    have hhas : s.has id' = true := Option.isSome_iff_exists.2 ⟨k, hk⟩
    rw [hid] at hhas
    cases hhas
  have hlt : k < s.objects.length := (List.getElem?_eq_some_iff.1 hobject).1
  show ((s.processes.insert id s.objects.length).lookup id').bind _ = _
  rw [AList.lookup_insert_ne hne, hk]
  show (s.objects ++ _)[k]? = _
  rw [List.getElem?_append_left hlt, hobject]

theorem Tended.create (h : s.Tended) (hwf : s.WellFormed) (id : String)
    (initialState : ProcessState) (resourceCount : Nat) :
    (s.create id initialState resourceCount).Tended := by
  have hadd : ∀ resources pool, s.has id = false →
      (s.add id initialState resources pool).Tended := fun resources pool hid =>
    h.of_fewer hwf (.of_eq rfl) (fun id' p hp => ⟨p, get_add hid _ _ _ id' p hp, rfl⟩)
      (List.Sublist.refl _) rfl fun _ hc _ => hc
  unfold ProcessManager.create
  split
  · exact h
  · rename_i hhas
    have hid : s.has id = false := by simpa using hhas
    split
    · rcases Option.eq_none_or_eq_some (s.resourcePool.allocate resourceCount) with hnone | ⟨a, ha⟩
      · rw [hnone]
        exact h
      · rw [ha]
        exact hadd _ _ hid
    · exact hadd _ _ hid

/-- **A start** that finds no child alive and no spawn pending. -/
theorem Tended.spawn (h : s.Tended) {id : String} (hhas : s.has id = true) (hquiet : s.Quiet id)
    (hid : id ∉ s.spawning) {halted : String → Bool}
    (hhalted : ∀ id', halted id' = true → s.halted id' = true)
    (hother : ∀ id', id' ≠ id → halted id' = s.halted id') :
    { s with spawning := s.spawning ++ [id], halted := halted }.Tended where
  handled := h.handled
  nodup := List.nodup_append.2 ⟨h.nodup, List.nodup_singleton id, fun a ha b hb => by
    rw [List.mem_singleton.1 hb]
    exact fun heq => hid (heq ▸ ha)⟩
  idle id' hid' := by
    rcases List.mem_append.1 hid' with hid' | hid'
    · exact h.idle id' hid'
    · exact List.mem_singleton.1 hid' ▸ hquiet
  registered id' hid' hnot := by
    by_cases heq : id' = id
    · exact heq ▸ hhas
    · rcases List.mem_append.1 hid' with hid' | hid'
      · exact h.registered id' hid' ((hother id' heq).symm.trans hnot)
      · exact absurd (List.mem_singleton.1 hid') heq
  halted id' hid' := h.halted id' (hhalted id' hid')
  stopped := h.stopped

theorem Tended.start (h : s.Tended) (hwf : s.WellFormed) {id : String} {force : Bool}
    (hgoes : s.willSpawn id force = true → s.Quiet id ∧ id ∉ s.spawning)
    {halted : String → Bool} (hhalted : ∀ id', halted id' = true → s.halted id' = true)
    (hother : ∀ id', id' ≠ id ∨ s.willSpawn id force = false → halted id' = s.halted id') :
    { s.start id force with halted := halted }.Tended := by
  by_cases hspawn : s.willSpawn id force = true
  · obtain ⟨hquiet, hid⟩ := hgoes hspawn
    have hmodified : (s.modify id fun p => { p with state := .starting }).Tended :=
      h.of_fewer hwf (.of_eq rfl) (get_modify_handler hwf fun _ => rfl) (List.Sublist.refl _) rfl
        fun _ hc _ => hc
    have hhas : s.has id = true := by
      obtain ⟨p, hp, -⟩ := (Option.any_eq_true _ _).1 hspawn
      exact has_of_get hp
    rw [show s.start id force = _ from if_pos hspawn]
    exact hmodified.spawn hhas hquiet hid hhalted fun id' hne => hother id' (.inl hne)
  · rw [show s.start id force = s from if_neg hspawn]
    have hsame : halted = s.halted := by
      funext id'
      exact hother id' (.inr (by simpa using hspawn))
    subst hsame
    exact h

/-- A call of `start` counts as a start of the id when it goes on to spawn. -/
theorem Tended.callStart (h : s.Tended) (hwf : s.WellFormed) {id : String} {force : Bool}
    (hgoes : s.willSpawn id force = true → s.Quiet id ∧ id ∉ s.spawning) :
    (s.callStart id force).Tended := by
  unfold ProcessManager.callStart
  refine h.start hwf hgoes (fun id' hid' => ?_) fun id' hid' => ?_
  · split at hid'
    · by_cases heq : id' = id
      · rw [heq, Function.update_self] at hid'
        cases hid'
      · rwa [Function.update_of_ne heq] at hid'
    · exact hid'
  · split
    · rename_i hspawn
      rcases hid' with hne | hnot
      · exact Function.update_of_ne hne _ _
      · rw [hspawn] at hnot
        cases hnot
    · rfl

theorem Tended.delayOver (h : s.Tended) (hwf : s.WellFormed) (k : Nat) {r : Restart}
    (hgoes : s.willSpawn r.id true = true → s.Quiet r.id ∧ r.id ∉ s.spawning) :
    (s.delayOver k r).Tended := by
  have hsame : (s.start r.id true).halted = s.halted := halted_start r.id true
  have hstarted : { s.start r.id true with halted := (s.start r.id true).halted }.Tended :=
    h.start hwf hgoes (fun id' hid' => hsame ▸ hid') fun id' _ => congrFun hsame id'
  exact ⟨hstarted.handled, hstarted.nodup, hstarted.idle, hstarted.registered, hstarted.halted,
    hstarted.stopped⟩

/-- Calls of `stop` and `remove` have stopped nothing yet. -/
theorem Tended.calls (h : s.Tended) (hwf : s.WellFormed) {calls : List Stopping}
    (hcalls : ∀ c ∈ calls, c.stopped = false) :
    { s with stopping := s.stopping ++ calls }.Tended := by
  refine h.of_fewer hwf (.of_eq rfl) (fun _ p hp => ⟨p, hp, rfl⟩) (List.Sublist.refl _) rfl
    fun c hc hstopped => ?_
  rcases List.mem_append.1 hc with hc | hc
  · exact hc
  · rw [hcalls c hc] at hstopped
    cases hstopped

theorem Tended.modifyChild (h : s.Tended) (hwf : s.WellFormed) (i : Nat)
    (f : ChildProcess → ChildProcess) (restarts : List Restart) (hid : ∀ c, (f c).id = c.id)
    (halive : ∀ c, (f c).alive = true → c.alive = true) :
    { s with children := s.children.modify i f, restarts := restarts }.Tended :=
  h.of_fewer hwf (.of_modify rfl hid halive) (fun _ p hp => ⟨p, hp, rfl⟩) (List.Sublist.refl _) rfl
    fun _ hc _ => hc

/-- **A spawn that goes on** gives the process of its id the child. -/
theorem Tended.spawned (h : s.Tended) (hwf : s.WellFormed) {k : Nat} {id : String}
    (hk : s.spawning[k]? = some id) (hnot : s.halted id = false)
    (hstopping : ∀ c ∈ s.stopping, c.id = id → c.stopped = false) :
    (s.spawned k id).Tended := by
  have hid : id ∈ s.spawning := List.mem_of_getElem? hk
  obtain ⟨p, hp⟩ := isSome_get hwf (h.registered id hid hnot)
  have hrest : ∀ id' ∈ s.spawning.eraseIdx k, id' ∈ s.spawning ∧ id' ≠ id := by
    intro id' hid'
    obtain ⟨j, hj, hget⟩ := List.mem_eraseIdx_iff_getElem?.1 hid'
    refine ⟨List.mem_of_getElem? hget, ?_⟩
    rintro rfl
    have hlt := (List.getElem?_eq_some_iff.1 hget).1
    exact hj ((List.getElem?_inj hlt h.nodup).1 (hget.trans hk.symm))
  have hother : ∀ id', id' ≠ id → s.Quiet id' → (s.spawned k id).Quiet id' := by
    intro id' hne hquiet c hc hcid
    rcases List.mem_append.1 hc with hc | hc
    · exact hquiet c hc hcid
    · rw [List.mem_singleton.1 hc] at hcid
      exact absurd hcid.symm hne
  have hget : ∀ id', (s.spawned k id).get id' = if id' = id then
      (s.get id).map fun p => { p with terminateHandler := some s.children.length }
      else s.get id' := get_modify hwf
  refine ⟨fun i c hc halive => ?_, h.nodup.sublist (List.eraseIdx_sublist _ _),
    fun id' hid' => ?_, fun id' hid' hnot' => ?_, fun id' hid' => ?_, fun c hc hstopped => ?_⟩
  · rw [hget]
    replace hc : (s.children ++ [⟨id, true, false, false, false⟩])[i]? = some c := hc
    rcases getElem?_concat_eq_some.1 hc with hold | ⟨hi, rfl⟩
    · -- the children of the id are not alive
      have hne : c.id ≠ id := by
        intro heq
        rw [h.idle id hid c (List.mem_of_getElem? hold) heq] at halive
        cases halive
      rw [if_neg hne]
      exact h.handled i c hold halive
    · rw [if_pos rfl, hp]
      exact ⟨_, rfl, by rw [hi]⟩
  · exact hother id' (hrest id' hid').2 (h.idle id' (hrest id' hid').1)
  · exact h.registered id' (hrest id' hid').1 hnot'
  · refine hother id' ?_ (h.halted id' hid')
    rintro rfl
    rw [show s.halted id' = true from hid'] at hnot
    cases hnot
  · refine hother c.id (fun heq => ?_) (h.stopped c hc hstopped)
    rw [hstopping c hc heq] at hstopped
    cases hstopped

/-- The terminate handler of the process in the map leaves no child of the id alive. -/
theorem Tended.quiet_terminate (h : s.Tended) {id : String} {process : Nat}
    (hprocess : s.processes.lookup id = some process ∨ s.Quiet id) :
    (s.terminate process).Quiet id := by
  have hfewer : Fewer s (s.terminate process) := fewer_terminate process
  rcases hprocess with hlookup | hquiet
  · intro c' hc' hid'
    obtain ⟨i, hi⟩ := List.mem_iff_getElem?.1 hc'
    obtain ⟨c, hc, hid, halive⟩ := hfewer i c' hi
    by_contra halive'
    rw [Bool.not_eq_false] at halive'
    obtain ⟨p, hp, hhandler⟩ := h.handled i c hc (halive halive')
    have hp' : s.objects[process]? = some p := by
      rw [hid, hid'] at hp
      unfold get at hp
      rwa [hlookup] at hp
    -- this is the child that was told to terminate
    have htold : (s.terminate process).children[i]? = some c.terminate := by
      have hchildren : (s.terminate process).children =
          s.children.modify i ChildProcess.terminate := by
        unfold terminate
        rw [hp']
        show Option.elim p.terminateHandler _ _ = _
        rw [hhandler]
        rfl
      rw [hchildren]
      exact getElem?_modify_self hc _
    obtain rfl : c.terminate = c' := Option.some.inj (htold.symm.trans hi)
    cases halive'
  · exact hfewer.quiet hquiet

theorem Tended.terminate (h : s.Tended) (hwf : s.WellFormed) (process : Nat) :
    (s.terminate process).Tended :=
  h.of_fewer hwf (fewer_terminate process) (fun _ p hp => ⟨p, hp, rfl⟩) (List.Sublist.refl _) rfl
    fun _ hc _ => hc

/-- **The stop of a process**, of a call of `stop` or of a removal. -/
theorem Tended.cleanedUp (h : s.Tended) (hwf : s.WellFormed) (k : Nat) {c : Stopping}
    (hprocess : s.processes.lookup c.id = some c.process ∨ s.Quiet c.id)
    (hk : s.stopping[k]? = some c) : (s.cleanedUp k c).Tended := by
  have hquiet := h.quiet_terminate hprocess
  have hterminated := h.terminate hwf c.process
  unfold ProcessManager.cleanedUp
  split
  · refine ⟨hterminated.handled, hterminated.nodup, hterminated.idle, hterminated.registered,
      hterminated.halted, fun c' hc' hstopped => ?_⟩
    obtain ⟨j, hj⟩ := List.mem_iff_getElem?.1 hc'
    replace hj : (s.stopping.modify k fun c => { c with stopped := true })[j]? = some c' := hj
    obtain ⟨c₀, hc₀, ⟨rfl, rfl⟩ | ⟨-, rfl⟩⟩ := getElem?_modify_eq_some hj
    · obtain rfl : c = c₀ := Option.some.inj (hk.symm.trans hc₀)
      exact hquiet
    · exact hterminated.stopped c' (List.mem_of_getElem? hc₀) hstopped
  · refine ⟨hterminated.handled, hterminated.nodup, hterminated.idle, fun id hid hnot => ?_,
      fun id hid => ?_, fun c' hc' hstopped => ?_⟩
    · refine hterminated.registered id hid ?_
      replace hnot : Function.update s.halted c.id true id = false := hnot
      by_cases heq : id = c.id
      · rw [heq, Function.update_self] at hnot
        cases hnot
      · rwa [Function.update_of_ne heq] at hnot
    · replace hid : Function.update s.halted c.id true id = true := hid
      by_cases heq : id = c.id
      · exact heq ▸ hquiet
      · rw [Function.update_of_ne heq] at hid
        exact hterminated.halted id hid
    · exact hterminated.stopped c' (List.mem_of_mem_eraseIdx hc') hstopped

/-- **The end of a removal**, when its stop has left no child of the id alive. -/
theorem Tended.removed (h : s.Tended) {k : Nat} {c : Stopping} (hk : s.stopping[k]? = some c)
    (hstopped : c.stopped = true) : (s.removed k c).Tended := by
  have hquiet : s.Quiet c.id := h.stopped c (List.mem_of_getElem? hk) hstopped
  have hlookup : ∀ id, id ≠ c.id → (s.removed k c).processes.lookup id = s.processes.lookup id :=
    fun id hne => AList.lookup_erase_ne hne
  refine ⟨fun i c' hc' halive => ?_, h.nodup, h.idle, fun id hid hnot => ?_, fun id hid => ?_,
    fun c' hc' hstopped' => h.stopped c' (List.mem_of_mem_eraseIdx hc') hstopped'⟩
  · have hne : c'.id ≠ c.id := by
      intro heq
      rw [hquiet c' (List.mem_of_getElem? hc') heq] at halive
      cases halive
    unfold get
    rw [hlookup c'.id hne]
    exact h.handled i c' hc' halive
  · replace hnot : Function.update s.halted c.id true id = false := hnot
    by_cases heq : id = c.id
    · rw [heq, Function.update_self] at hnot
      cases hnot
    · rw [Function.update_of_ne heq] at hnot
      unfold has
      rw [hlookup id heq]
      exact h.registered id hid hnot
  · replace hid : Function.update s.halted c.id true id = true := hid
    by_cases heq : id = c.id
    · exact heq ▸ hquiet
    · rw [Function.update_of_ne heq] at hid
      exact h.halted id hid

/-- Every step that meets the condition keeps the invariant. -/
theorem Tended.step (h : s.Tended) (hwf : s.WellFormed) {event : Event}
    (hnext : s.next event = some s') (hcareful : s.Careful event) : s'.Tended := by
  cases event with
  | create id initialState resourceCount =>
    obtain rfl := Option.some.inj hnext
    exact h.create hwf id initialState resourceCount
  | start id force =>
    obtain rfl := Option.some.inj hnext
    exact h.callStart hwf hcareful
  | stop id | remove id =>
    obtain rfl := Option.some.inj hnext
    refine h.calls hwf fun c hc => ?_
    obtain ⟨k, -, rfl⟩ := List.mem_map.1 hc
    rfl
  | cleanup =>
    obtain rfl := Option.some.inj hnext
    refine h.calls hwf fun c hc => ?_
    obtain ⟨e, -, rfl⟩ := List.mem_map.1 hc
    rfl
  | setState id state =>
    obtain rfl := Option.some.inj hnext
    exact h.of_fewer hwf (.of_eq rfl) (get_modify_handler hwf fun _ => rfl) (List.Sublist.refl _)
      rfl fun _ hc _ => hc
  | spawned k =>
    obtain ⟨id, hk, rfl⟩ := Option.map_eq_some_iff.1 hnext
    obtain ⟨hnot, hstopping⟩ := hcareful id hk
    exact h.spawned hwf hk hnot hstopping
  | spawnFailed k =>
    obtain ⟨id, -, rfl⟩ := Option.map_eq_some_iff.1 hnext
    exact h.of_fewer hwf (.of_eq rfl) (fun _ p hp => ⟨p, hp, rfl⟩) (List.eraseIdx_sublist _ _) rfl
      fun _ hc _ => hc
  | ready i =>
    obtain ⟨c, -, rfl⟩ := Option.map_eq_some_iff.1 hnext
    exact h.of_fewer hwf (.of_modify rfl (fun _ => rfl) fun _ => id)
      (get_modify_handler hwf fun _ => rfl) (List.Sublist.refl _) rfl fun _ hc _ => hc
  | exit i cause =>
    obtain ⟨c, -, rfl⟩ := Option.map_eq_some_iff.1 hnext
    refine h.modifyChild hwf i ChildProcess.exit _ (fun _ => rfl) fun c halive => ?_
    simp [ChildProcess.alive, ChildProcess.exit] at halive
  | error i =>
    obtain ⟨c, -, rfl⟩ := Option.map_eq_some_iff.1 hnext
    exact h.modifyChild hwf i ChildProcess.cleanup s.restarts (fun _ => rfl) fun _ => id
  | errorHandled k | errorUnhandled k =>
    obtain ⟨r, -, rfl⟩ := Option.map_eq_some_iff.1 hnext
    exact h.of_fewer hwf (.of_eq rfl) (fun _ p hp => ⟨p, hp, rfl⟩) (List.Sublist.refl _) rfl
      fun _ hc _ => hc
  | delayOver k =>
    obtain ⟨r, hr, rfl⟩ := Option.map_eq_some_iff.1 hnext
    obtain ⟨hk, -⟩ := Option.filter_eq_some_iff.1 hr
    exact h.delayOver hwf k fun hspawn => ⟨(hcareful r hk hspawn).1, (hcareful r hk hspawn).2.1⟩
  | cleanedUp k =>
    obtain ⟨c, hc, rfl⟩ := Option.map_eq_some_iff.1 hnext
    obtain ⟨hk, -⟩ := Option.filter_eq_some_iff.1 hc
    exact h.cleanedUp hwf k (hcareful c hk) hk
  | cleanupFailed k =>
    obtain ⟨c, -, rfl⟩ := Option.map_eq_some_iff.1 hnext
    exact h.of_fewer hwf (.of_eq rfl) (fun _ p hp => ⟨p, hp, rfl⟩) (List.Sublist.refl _) rfl
      fun _ hc _ => List.mem_of_mem_eraseIdx hc
  | removed k =>
    obtain ⟨c, hc, rfl⟩ := Option.map_eq_some_iff.1 hnext
    obtain ⟨hk, hstopped⟩ := Option.filter_eq_some_iff.1 hc
    exact h.removed hk hstopped

/-! ### One worker -/

/-- **One worker for each device**, in every run whose steps all meet the condition: in every state
at most one child of each id is alive, and after a stop or a removal of an id has completed none is,
until the id is started again. -/
theorem oneWorker_of_run {pool : List R} {events : List Event}
    (hrun : ((system R).restrict Careful).Run (new pool) events s) : s.OneWorker := by
  have hinvariant : s.WellFormed ∧ s.Tended :=
    hrun.invariant (I := fun s => s.WellFormed ∧ s.Tended) ⟨wellFormed_new pool, tended_new pool⟩
      fun _ _ _ h hstep => ⟨h.1.step hstep.1, h.2.step h.1 hstep.1 hstep.2⟩
  exact hinvariant.2.oneWorker

/-- A worker crashes and is restarted, its device goes offline and comes back, and is removed. -/
theorem oneWorker_of_run_restarted :
    ∃ s : ProcessManager Nat, s.children.map ChildProcess.exited = [true, false, false] ∧
      s.children.map ChildProcess.told = [false, true, true] ∧ s.OneWorker := by
  obtain ⟨s, hrun, hs⟩ := Lts.exists_run_of_play (f := next) (G := Careful) (new [7400, 7401])
    [.create "d" .waiting 2, .start "d" false, .spawned 0, .ready 0, .exit 0 .crash,
      .errorHandled 0, .delayOver 0, .spawned 0, .stop "d", .cleanedUp 0, .setState "d" .waiting,
      .start "d" false, .spawned 0, .remove "d", .cleanedUp 0, .removed 0]
    (fun s => decide (s.children.map ChildProcess.exited = [true, false, false] ∧
      s.children.map ChildProcess.told = [false, true, true])) (by decide +kernel)
  obtain ⟨hexited, htold⟩ := of_decide_eq_true hs
  exact ⟨s, hexited, htold, oneWorker_of_run hrun⟩

/-- **A device has two workers**: it is started again before its first worker is ready. -/
theorem not_oneWorker_of_two_starts :
    ∃ events s, (system Nat).Run (new [7400, 7401]) events s ∧
      s.children = [⟨"d", true, false, false, false⟩, ⟨"d", true, false, false, false⟩] ∧
      ¬s.OneWorker := by
  obtain ⟨s, hrun, hs⟩ := Lts.exists_run_of_play (f := next) (G := fun _ _ => True)
    (new [7400, 7401])
    [.create "d" .waiting 2, .start "d" false, .start "d" false, .spawned 0, .spawned 0]
    (fun s => decide
      (s.children = [⟨"d", true, false, false, false⟩, ⟨"d", true, false, false, false⟩]))
    (by decide +kernel)
  have hchildren := of_decide_eq_true hs
  refine ⟨_, s, hrun.of_restrict, hchildren, fun hone => ?_⟩
  have hsame := hone.1 0 1 ⟨"d", true, false, false, false⟩ ⟨"d", true, false, false, false⟩
    (by rw [hchildren]; rfl) (by rw [hchildren]; rfl) rfl rfl rfl
  cases hsame

end ProcessManager

end DeviceHub
