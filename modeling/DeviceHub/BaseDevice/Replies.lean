import DeviceHub.BaseDevice.Bookkeeping

/-!
# Replies about groups

A request to join a group is answered as if it had succeeded, whatever group the device is in,
because `join` logs its errors.  The answers are truthful exactly when the device is in no other
group, a group is asked for, and the rental does not end at once.

## Main definitions

* `GroupManager.GroupTruthful`, `GroupManager.AutoTruthful` : the answers say where the device is.
* `GroupManager.Joinable` : the condition.
* `connect.auth` : the keys that the ADB bridge accepts.

## Main results

* `GroupManager.truthful_iff_of_run` : the answers are truthful exactly under the condition.
* `GroupManager.not_truthful_of_other` : the answers to a user while another one has the device.
* `GroupManager.auth_of_autoGroupMessage` : the key of an automatic request is accepted in any case.
-/

namespace DeviceHub

namespace BaseDevice

namespace GroupManager

/-- The device is in the group of `owner`. -/
def InGroup (d : GroupManager) (owner : Option GroupState) : Prop :=
  ∃ r ∈ owner, ∃ g ∈ d.currentGroup, g.group = r.group

/-- The device is in a group other than that of `owner`. -/
def InAnother (d : GroupManager) (owner : Option GroupState) : Prop :=
  ∃ g ∈ d.currentGroup, ∀ r ∈ owner, g.group ≠ r.group

/-- The reply to a request to join: `okay` only when the device is in the group right after it, and
a failure when it is in another group. -/
def GroupTruthful (o : DeviceOptions) (d : GroupManager) (channel : String) (message : GroupMessage)
    (check : Check) (now later : Int) : Prop :=
  let result := d.onGroupMessage o channel message check now later
  (result.1 = some .okay → result.2.InGroup message.owner) ∧
    (d.InAnother message.owner → ∃ text, result.1 = some (.fail text))

/-- The flag that is emitted about an automatic request, likewise. -/
def AutoTruthful (o : DeviceOptions) (d : GroupManager) (message : AutoGroupMessage)
    (now later : Int) : Prop :=
  let result := d.onAutoGroupMessage o message now later
  (result.1 = some true → result.2.InGroup message.owner) ∧
    (d.InAnother message.owner → result.1 = some false)

/-- A group is asked for, and the device is in it, or in none and the rental does not end at
once. -/
def Joinable (o : DeviceOptions) (d : GroupManager) (owner : Option GroupState)
    (timeout : Option Nat) (now later : Int) : Prop :=
  ∃ r ∈ truthy owner, (∃ g ∈ d.currentGroup, g.group = r.group) ∨
    d.currentGroup = none ∧ later - now < rentTime o timeout

instance (d : GroupManager) (owner : Option GroupState) : Decidable (d.InGroup owner) :=
  inferInstanceAs (Decidable (∃ r ∈ owner, ∃ g ∈ d.currentGroup, _))

instance (d : GroupManager) (owner : Option GroupState) : Decidable (d.InAnother owner) :=
  inferInstanceAs (Decidable (∃ g ∈ d.currentGroup, ∀ r ∈ owner, _))

variable {o : DeviceOptions} {d : GroupManager}

/-- Joining leads to the group exactly when it is possible. -/
theorem Kept.joinable_iff (h : Kept o d) (newGroup : Option GroupState) (timeout : Option Nat)
    (usage : Option String) (keys : List String) (now later : Int) :
    (d.awaitJoin o newGroup timeout usage keys now later).2.InGroup newGroup ∧
      ¬ d.InAnother newGroup ↔ Joinable o d newGroup timeout now later := by
  obtain ⟨-, d', hjoins, hgroup⟩ := h.awaitJoin newGroup timeout usage keys now later
  have howner : ∀ {g : GroupState}, truthy newGroup = some g → newGroup = some g := fun hg =>
    (Option.filter_eq_some_iff.1 hg).1
  unfold InGroup
  rw [hgroup]
  cases hjoins with
  | invalid hnew heq =>
    refine iff_of_false ?_ ?_
    · rintro ⟨⟨r, hr, g, hg, heq'⟩, -⟩
      subst heq
      rw [if_pos rfl] at hg
      have hvalid := h.valid g hg
      rw [heq'] at hvalid
      rw [Option.mem_def.1 hr, truthy_of_ne hvalid] at hnew
      cases hnew
    · rintro ⟨r, hr, -⟩
      rw [hnew] at hr
      cases hr
  | @other g current hnew hcurrent hne heq =>
    have hother : d.InAnother newGroup := by
      refine ⟨current, hcurrent, fun r hr => ?_⟩
      rw [howner hnew] at hr
      rwa [← Option.some.inj hr]
    refine iff_of_false (fun hall => hall.2 hother) ?_
    rintro ⟨r, hr, ⟨g', hg', heq'⟩ | ⟨hnone, -⟩⟩
    · rw [hnew] at hr
      rw [hcurrent] at hg'
      rw [← Option.some.inj hr, ← Option.some.inj hg'] at heq'
      exact hne heq'
    · rw [hnone] at hcurrent
      cases hcurrent
  | @same g current hnew hcurrent heq hgroup' htimeouts =>
    refine iff_of_true ⟨⟨g, howner hnew, current, ?_, heq⟩, ?_⟩ ⟨g, hnew, .inl ⟨current, hcurrent, heq⟩⟩
    · rw [if_pos htimeouts]
      exact hgroup'
    · rintro ⟨g', hg', hother⟩
      obtain rfl := Option.some.inj (hcurrent.symm.trans hg')
      exact hother g (howner hnew) heq
  | @entered g hnew hnone hgroup' htimeouts =>
    have hnot : ¬ d.InAnother newGroup := by
      rintro ⟨g', hg', -⟩
      rw [hnone] at hg'
      cases hg'
    -- the device has left again when the rent was over at once
    by_cases hover : rentTime o timeout ≤ later - now
    · refine iff_of_false ?_ ?_
      · rintro ⟨⟨r, hr, g', hg', -⟩, -⟩
        rw [if_pos hover] at htimeouts
        rw [if_neg (by rw [htimeouts]; simp)] at hg'
        cases hg'
      · rintro ⟨r, hr, ⟨g', hg', -⟩ | ⟨-, hlt⟩⟩
        · rw [hnone] at hg'
          cases hg'
        · omega
    · rw [if_neg hover, List.append_nil] at htimeouts
      refine iff_of_true ⟨⟨g, howner hnew, g, ?_, rfl⟩, hnot⟩ ⟨g, hnew, .inr ⟨hnone, by omega⟩⟩
      rw [if_pos htimeouts]
      exact hgroup'

/-- **The answers are truthful exactly when the device can be joined**, unless a check forbids that:
a request that fails its check is answered with that failure, and one that is denied is not
answered, which is right when the device is in no other group. -/
theorem truthful_iff_of_run {events : List Event} (hrun : (system o).Run new events d) :
    (∀ channel message check now later, GroupTruthful o d channel message check now later ↔
      match check with
      | .failed _ => True
      | .denied => ¬ d.InAnother message.owner
      | .allowed => Joinable o d message.owner message.timeout now later) ∧
    ∀ message now later, AutoTruthful o d message now later ↔
      Joinable o d message.owner (some 0) now later := by
  have h := kept_of_run hrun
  refine ⟨fun channel message check now later => ?_, fun message now later => ?_⟩
  · unfold GroupTruthful onGroupMessage
    cases check with
    | failed text => exact iff_of_true ⟨fun hokay => (by cases hokay), fun _ => ⟨text, rfl⟩⟩ trivial
    | denied =>
      refine ⟨fun htruthful hother => ?_, fun hnot => ⟨fun hokay => (by cases hokay), fun hother =>
        absurd hother hnot⟩⟩
      obtain ⟨text, htext⟩ := htruthful.2 hother
      cases htext
    | allowed =>
      rw [← h.joinable_iff message.owner message.timeout message.usage message.keys now later]
      refine ⟨fun ⟨hokay, hfail⟩ => ⟨hokay rfl, fun hother => ?_⟩, fun ⟨hin, hnot⟩ =>
        ⟨fun _ => hin, fun hother => absurd hother hnot⟩⟩
      obtain ⟨text, htext⟩ := hfail hother
      cases htext
  · unfold AutoTruthful onAutoGroupMessage
    rw [← h.joinable_iff message.owner (some 0) (some message.identifier) [] now later]
    refine ⟨fun ⟨hokay, hfail⟩ => ⟨hokay rfl, fun hother => ?_⟩, fun ⟨hin, hnot⟩ =>
      ⟨fun _ => hin, fun hother => absurd hother hnot⟩⟩
    cases hfail hother

end GroupManager

/-! ### `device/plugins/connect.ts` -/

namespace connect

/-- The keys that the ADB bridge accepts, after the events of the group plugin. -/
def auth (events : List GroupEvent) (fingerprint : String) : Bool :=
  match events.getLast? with
  | some (.join _ keys) => keys.isEmpty || keys.contains fingerprint
  | some (.autojoin identifier joined) => identifier = fingerprint && joined
  | some .leave => false
  | none => false

end connect

namespace GroupManager

theorem auth_of_autoGroupMessage (o : DeviceOptions) (d : GroupManager) (message : AutoGroupMessage)
    (now later : Int) :
    connect.auth (d.onAutoGroupMessage o message now later).2.emitted message.identifier = true := by
  show connect.auth (_ ++ [.autojoin message.identifier true]) message.identifier = true
  unfold connect.auth
  rw [List.getLast?_concat]
  simp

/-! ### Two users -/

/-- The user A is told the truth. -/
theorem truthful_of_free : ∃ d, (system sampleOptions).Run new [joinA] d ∧
    GroupTruthful sampleOptions d "reply" ⟨some ownerA, none, none, []⟩ .allowed 5 5 := by
  have hrun : (system sampleOptions).Run new [joinA] (new.handle sampleOptions joinA) :=
    .more rfl (.done _)
  exact ⟨_, hrun, ((truthful_iff_of_run hrun).1 _ _ _ _ _).2 ⟨ownerA, rfl, .inl ⟨ownerA, rfl, rfl⟩⟩⟩

/-- The user A has the device: B is told to be in the group, and so is the ADB bridge. -/
theorem not_truthful_of_other : ∃ d, (system sampleOptions).Run new [joinA] d ∧
    d.currentGroup = some ownerA ∧
    ¬ GroupTruthful sampleOptions d "reply" ⟨some ownerB, none, none, []⟩ .allowed 5 5 ∧
    ¬ AutoTruthful sampleOptions d ⟨some ownerB, "key of B"⟩ 5 5 := by
  refine ⟨new.handle sampleOptions joinA, .more rfl (.done _), rfl, fun htruthful => ?_,
    fun htruthful => ?_⟩
  · obtain ⟨text, htext⟩ := htruthful.2 ⟨ownerA, rfl, by decide⟩
    cases htext
  · cases htruthful.2 ⟨ownerA, rfl, by decide⟩

end GroupManager

end BaseDevice

end DeviceHub
