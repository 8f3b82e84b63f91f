import SubnetRental.Lifecycle.Locks
import SubnetRental.Lifecycle.Burning
import SubnetRental.Foundation.CompletedCalls

/-!
# Changes of subnet administrators

`update_subnet_admins` forwards a change to the registry when the caller rents the subnet, the guard
of the agreement is free, and the operation is one the registry should be asked for (`Accepted`). A
call that is not accepted returns an error and changes nothing. The guard keeps the agreement as it
was checked until the registry answered, so in every interleaving a change that is in flight was
asked for by the user of the stored agreement (`admins_guarded`).
-/

set_option autoImplicit false
set_option relaxedAutoImplicit false

namespace SubnetRental.Lifecycle

open Canister Foundation.GuardedCalls Foundation.TransitionSystem Std

/-! ### Accepted calls -/

/-- The caller is the user of the stored agreement of a subnet. -/
def RentsSubnet (caller subnetId : Principal) (s : State) : Prop :=
  ∃ rentalAgreement, s.rentalAgreements[subnetId]? = some rentalAgreement ∧
    rentalAgreement.user = caller

/-- An operation type that the registry is asked for: principals to add, principals to remove, or to
clear the list. -/
def Understood : Option OperationType → Prop
  | none => False
  | some (.add principals) | some (.remove principals) => principals ≠ []
  | some .clear => True

/-- What `update_subnet_admins` checks before it calls the registry. -/
structure Accepted (s : State) (caller : Principal) (payload : UpdateSubnetAdminsPayload) :
    Prop where
  rents : RentsSubnet caller payload.subnetId s
  free : agreementLock payload.subnetId ∉ s.locks
  understood : Understood payload.operationType

theorem isRentingSubnet_iff {caller subnetId : Principal} {s : State} (hs : Consistent s) :
    isRentingSubnet caller subnetId s ↔ RentsSubnet caller subnetId s := by
  unfold isRentingSubnet State.iterRentalAgreements
  rw [List.any_eq_true]
  constructor
  · rintro ⟨entry, hentry, hsame⟩
    obtain ⟨huser, hsubnet⟩ := of_decide_eq_true hsame
    have hstored := ExtTreeMap.mem_toList_iff_getElem?_eq_some.mp hentry
    obtain rfl : subnetId = entry.1 := hsubnet.symm.trans (hs.agreement_subnet _ _ hstored)
    exact ⟨entry.2, hstored, huser⟩
  · rintro ⟨a, hstored, huser⟩
    exact ⟨(subnetId, a), ExtTreeMap.mem_toList_iff_getElem?_eq_some.mpr hstored,
      decide_eq_true ⟨huser, hs.agreement_subnet subnetId a hstored⟩⟩

/-- A payload that is understood is forwarded as it is. -/
theorem toExternal_eq {payload : UpdateSubnetAdminsPayload} (h : Understood payload.operationType) :
    payload.toExternal = payload := by
  obtain ⟨subnetId, operationType⟩ := payload
  cases operationType with
  | none => exact h.elim
  | some operation => cases operation <;> rfl

section Start

variable {caller : Principal} {payload : UpdateSubnetAdminsPayload} {s : State}

/-- An accepted call takes the guard of the agreement and calls the registry. -/
theorem updateSubnetAdmins_of_accepted (hs : Consistent s) (h : Accepted s caller payload) :
    updateSubnetAdmins caller payload s =
      .suspend { s with locks := insert (agreementLock payload.subnetId) s.locks }
        (.subnetAdmins payload) := by
  obtain ⟨hrents, hfree, hunderstood⟩ := h
  have hrenting := (isRentingSubnet_iff hs).mpr hrents
  unfold updateSubnetAdmins State.callerGuard
  dsimp only
  rw [if_neg (not_not_intro hrenting), if_neg hfree]
  dsimp only
  generalize payload.operationType = operationType at hunderstood ⊢
  cases operationType with
  | none => exact hunderstood.elim
  | some operation =>
    cases operation with
    | clear => rfl
    | add principals | remove principals =>
      change (if principals.isEmpty then _ else _) = _
      rw [if_neg fun hempty ↦ hunderstood (List.isEmpty_iff.mp hempty)]

/-- A call that is not accepted leaves the state, with its locks, as it was. -/
theorem updateSubnetAdmins_of_not_accepted (hs : Consistent s)
    (h : ¬ Accepted s caller payload) :
    ∃ e, updateSubnetAdmins caller payload s = .reply s (.subnetAdmins (.error e)) := by
  unfold updateSubnetAdmins State.callerGuard
  dsimp only
  by_cases hrenting : isRentingSubnet caller payload.subnetId s
  · rw [if_neg (not_not_intro hrenting)]
    by_cases hheld : agreementLock payload.subnetId ∈ s.locks
    · rw [if_pos hheld]
      exact ⟨_, rfl⟩
    · rw [if_neg hheld]
      have hnot : ¬ Understood payload.operationType := fun hunderstood ↦
        h ⟨(isRentingSubnet_iff hs).mp hrenting, hheld, hunderstood⟩
      -- the guard that was taken is dropped again
      have hback (e : UpdateSubnetAdminsError) :
          subnetAdminsReturns payload.subnetId (.error e)
            { s with locks := insert (agreementLock payload.subnetId) s.locks } =
              .reply s (.subnetAdmins (.error e)) := by
        unfold subnetAdminsReturns
        rw [dropGuards_insertLock hheld]
      dsimp only
      generalize payload.operationType = operationType at hnot ⊢
      cases operationType with
      | none => exact ⟨_, hback _⟩
      | some operation =>
        cases operation with
        | clear => exact absurd trivial hnot
        | add principals | remove principals =>
          have hempty : principals = [] := not_not.mp hnot
          subst hempty
          exact ⟨_, hback _⟩
  · rw [if_pos hrenting]
    exact ⟨_, rfl⟩

/-- The first segment of an accepted call, in the world. -/
theorem start_of_accepted {w : World} (hw : Consistent w.canister)
    (h : Accepted w.canister caller payload) :
    service.start (.updateSubnetAdmins caller payload) w =
      .suspend { w with canister.locks := insert (agreementLock payload.subnetId) w.canister.locks }
        (.subnetAdmins payload) :=
  congrArg (Outcome.mapState _) (updateSubnetAdmins_of_accepted hw h)

/-- The first segment of a call that is not accepted, in the world. -/
theorem start_of_not_accepted {w : World} (hw : Consistent w.canister)
    (h : ¬ Accepted w.canister caller payload) :
    ∃ e, service.start (.updateSubnetAdmins caller payload) w =
      .reply w (.subnetAdmins (.error e)) := by
  obtain ⟨e, hrefused⟩ := updateSubnetAdmins_of_not_accepted hw h
  exact ⟨e, congrArg (Outcome.mapState _) hrefused⟩

end Start

/-! ### Calls in flight -/

/-- The payload was sent for the user of the stored agreement, who asked for it. -/
def Authorised (s : State) (operation : Operation) (sent : UpdateSubnetAdminsPayload) : Prop :=
  ∃ caller, operation = .updateSubnetAdmins caller sent ∧ RentsSubnet caller sent.subnetId s ∧
    Understood sent.operationType

theorem Authorised.of_eq {s s' : State} {operation : Operation} {sent : UpdateSubnetAdminsPayload}
    (h : Authorised s operation sent)
    (hsame : s'.rentalAgreements[sent.subnetId]? = s.rentalAgreements[sent.subnetId]?) :
    Authorised s' operation sent := by
  obtain ⟨caller, hoperation, ⟨a, hstored, huser⟩, hunderstood⟩ := h
  exact ⟨caller, hoperation, ⟨a, hsame.trans hstored, huser⟩, hunderstood⟩

theorem Authorised.isSome {s : State} {operation : Operation} {sent : UpdateSubnetAdminsPayload}
    (h : Authorised s operation sent) : (s.rentalAgreements[sent.subnetId]?).isSome := by
  obtain ⟨-, -, ⟨a, hstored, -⟩, -⟩ := h
  exact Option.isSome_iff_exists.mpr ⟨a, hstored⟩

/-- Only `update_subnet_admins` calls the registry. -/
theorem outgoing_eq_updateSubnetAdmins {frame : Frame} {sent : UpdateSubnetAdminsPayload}
    (h : frame.outgoing = .updateSubnetAdmins sent) :
    ∃ payload, frame = .subnetAdmins payload ∧ sent = payload.toExternal := by
  cases frame with
  | subnetAdmins payload => exact ⟨payload, rfl, (OutgoingCall.updateSubnetAdmins.inj h).symm⟩
  | rentalRequestConvert _ _ _ stage | createConvert _ _ _ _ stage | topUpConvert _ _ _ _ stage
  | lockingConvert _ _ _ _ stage =>
    cases stage <;> cases h
  | _ => cases h

/-- The answer of the registry ends the call, which only drops its guard. -/
theorem resume_subnetAdmins (payload : UpdateSubnetAdminsPayload) (answer : Answer) (w : World) :
    ∃ result, service.resume (.subnetAdmins payload) answer w =
      .reply { w with canister := w.canister.dropGuards {agreementLock payload.subnetId} }
        (.subnetAdmins result) := by
  cases answer <;> exact ⟨_, rfl⟩

/-- Whether the registry accepts a change or refuses it, its answer only releases the guard. -/
theorem returned_subnetAdmins {c c' : Configuration} {id : ℕ} {call : Call Operation Frame Answer}
    {payload : UpdateSubnetAdminsPayload} (hcall : c.calls[id]? = some call)
    (hframe : call.frame = .subnetAdmins payload) (hnext : service.next c (.resume id) = some c') :
    c'.state = { c.state with
      canister := c.state.canister.dropGuards {agreementLock payload.subnetId} } := by
  have hstep := Service.step_of_next hnext
  have hresult {operation : Operation} {frame : Frame} {answer : Answer}
      (hresumed : c.calls[id]? = some ⟨operation, frame, some answer⟩) :
      ∃ result, service.resume frame answer c.state =
        .reply { c.state with
          canister := c.state.canister.dropGuards {agreementLock payload.subnetId} }
          (.subnetAdmins result) := by
    obtain rfl := Option.some.inj (hcall.symm.trans hresumed)
    obtain rfl : frame = .subnetAdmins payload := hframe
    exact resume_subnetAdmins payload answer c.state
  cases hstep with
  | resumeTrap _ _ _ _ _ hresumed h =>
    obtain ⟨result, heq⟩ := hresult hresumed
    exact absurd (h.symm.trans heq) (by simp)
  | resumeSuspend _ _ _ _ _ _ hresumed h =>
    obtain ⟨result, heq⟩ := hresult hresumed
    exact absurd (h.symm.trans heq) (by simp)
  | resumeReply _ _ _ _ _ _ hresumed h =>
    obtain ⟨result, heq⟩ := hresult hresumed
    exact (Outcome.reply.inj (h.symm.trans heq)).1

/-- A step leaves the agreement of a subnet as it is while a change of its administrators is in
flight. -/
theorem agreement_of_subnetAdmins {cycles : ℕ} {c c' : Configuration} {a : Label}
    (hc : (system cycles).Reachable c) (hnext : (system cycles).next c a = some c') {id : ℕ}
    {call : Call Operation Frame Answer} {payload : UpdateSubnetAdminsPayload}
    (hcall : c.calls[id]? = some call) (hframe : call.frame = .subnetAdmins payload)
    (hstored : (c.state.canister.rentalAgreements[payload.subnetId]?).isSome) :
    c'.state.canister.rentalAgreements[payload.subnetId]? =
      c.state.canister.rentalAgreements[payload.subnetId]? := by
  obtain ⟨stored, hstored⟩ := Option.isSome_iff_exists.mp hstored
  by_cases htarget : a.target = some id
  · cases a with
    | start operation => cases htarget
    | environment event => cases htarget
    | serve other answer =>
      have hstep : service.Step c (.serve other answer) c' := Service.step_of_next hnext
      cases hstep with
      | serve _ operation frame =>
        exact congrArg (fun s ↦ s.rentalAgreements[payload.subnetId]?)
          (world_answer_canister c.state frame.outgoing answer)
    | resume other =>
      obtain rfl : other = id := Option.some.inj htarget
      rw [returned_subnetAdmins hcall hframe hnext]
      rfl
  · have hlock : agreementLock payload.subnetId ∈ call.frame.guards := by
      rw [hframe]
      exact Finset.mem_singleton_self _
    exact ((agree_of_step hc hnext hcall htarget _ hlock).agree stored hstored).trans hstored.symm

/-- A change that is in flight was asked for by the user of the stored agreement. -/
theorem authorised_of_reachable {cycles : ℕ} {c : Configuration} (h : (system cycles).Reachable c)
    {id : ℕ} {call : Call Operation Frame Answer} {payload : UpdateSubnetAdminsPayload}
    (hcall : c.calls[id]? = some call) (hframe : call.frame = .subnetAdmins payload) :
    Authorised c.state.canister call.operation payload := by
  refine System.ReachableWithin.induct (J := fun c ↦ ∀ (id : ℕ) call payload,
    c.calls[id]? = some call → call.frame = .subnetAdmins payload →
      Authorised c.state.canister call.operation payload) ?_ ?_ h id call payload hcall hframe
  · rintro start ⟨-, hcalls, -⟩ id call payload hcall
    rw [hcalls] at hcall
    exact absurd hcall (by simp)
  · intro u v a hu hinvariant _ hnext id call payload hcall hframe
    have hsound := sound_of_reachable hu
    -- a change that was in flight before the step is still about the same agreement
    have hkept (old : Call Operation Frame Answer) (hold : u.calls[id]? = some old)
        (hsame : old.frame = .subnetAdmins payload) :
        Authorised v.state.canister old.operation payload := by
      have hauthorised := hinvariant id old payload hold hsame
      exact hauthorised.of_eq
        (agreement_of_subnetAdmins hu.reachable hnext hold hsame hauthorised.isSome)
    cases (Service.step_of_next hnext).origin hcall with
    | untouched call htarget hold => exact hkept call hold hframe
    | started operation frame ha hstart =>
      obtain rfl : frame = .subnetAdmins payload := hframe
      obtain ⟨s', hsegment, -⟩ := Outcome.mapState_eq_suspend hstart
      have hawaits := start_informed operation hsound.inv.consistent
      rw [hsegment] at hawaits
      cases operation with
      | updateSubnetAdmins caller requested =>
        obtain rfl : payload = requested := hawaits.1
        by_cases haccepted : Accepted u.state.canister caller payload
        · have hsent := start_of_accepted hsound.inv.consistent haccepted
          obtain ⟨hstate, -⟩ := Outcome.suspend.inj (hstart.symm.trans hsent)
          rw [hstate]
          exact ⟨caller, rfl, haccepted.rents, haccepted.understood⟩
        · obtain ⟨e, hrefused⟩ := start_of_not_accepted hsound.inv.consistent haccepted
          exact absurd (hstart.symm.trans hrefused) (by simp)
      | _ => exact hawaits.1.elim
    | served operation frame answer ha hold hserved =>
      exact hkept ⟨operation, frame, none⟩ hold hframe
    | resumed operation frame answer frame' ha hold hresume =>
      obtain rfl : frame' = .subnetAdmins payload := hframe
      have hasserted := hsound.assert id _ hold
      obtain ⟨s', hsegment, -⟩ := Outcome.mapState_eq_suspend hresume
      have hawaits := resume_informed answer hasserted.awaits hasserted.knows
      rw [hsegment] at hawaits
      cases operation with
      | updateSubnetAdmins caller requested =>
        cases frame with
        | subnetAdmins payload' =>
          obtain ⟨result, hresult⟩ := resume_subnetAdmins payload' answer u.state
          exact absurd (hresume.symm.trans hresult) (by simp)
        | _ => exact hasserted.awaits.elim
      | _ => exact hawaits.1.elim

/-! ### Whole calls -/

section Whole

variable {cycles : ℕ} {c c' : Configuration}

/-- A call that is not accepted is over at once, and only its result is new. -/
theorem started_subnetAdmins (hc : (system cycles).Reachable c) (caller : Principal)
    (payload : UpdateSubnetAdminsPayload)
    (hnext : service.next c (.start (.updateSubnetAdmins caller payload)) = some c') :
    (Accepted c.state.canister caller payload ∧
        c'.calls[c.nextCall]? =
          some ⟨.updateSubnetAdmins caller payload, .subnetAdmins payload, none⟩) ∨
      (¬ Accepted c.state.canister caller payload ∧
        ∃ e, c' = { c with trace := c.trace ++
          [(.updateSubnetAdmins caller payload, .ok (.subnetAdmins (.error e)))] }) := by
  have hconsistent := (sound_of_reachable hc).inv.consistent
  by_cases haccepted : Accepted c.state.canister caller payload
  · refine .inl ⟨haccepted, ?_⟩
    simp only [Service.next, start_of_accepted hconsistent haccepted] at hnext
    obtain rfl := Option.some.inj hnext
    exact ExtTreeMap.getElem?_insert_self
  · refine .inr ⟨haccepted, ?_⟩
    obtain ⟨e, hrefused⟩ := start_of_not_accepted hconsistent haccepted
    simp only [Service.next, hrefused] at hnext
    exact ⟨e, (Option.some.inj hnext).symm⟩

/-- Whatever the registry answers, what is left of a call only drops the guard. -/
theorem ensuresFrom_subnetAdmins (payload : UpdateSubnetAdminsPayload) (w : World) :
    service.EnsuresFrom (fun _ _ _ ↦ True) (.subnetAdmins payload) w fun w' _ ↦
      w' = { w with canister := w.canister.dropGuards {agreementLock payload.subnetId} } := by
  refine Service.ensuresFrom_of_answers ⟨.authorized, trivial⟩ fun answer _ ↦ ?_
  obtain ⟨result, hresult⟩ := resume_subnetAdmins payload answer w
  change service.Continues _ _ _ _ (service.resume (.subnetAdmins payload) answer w)
  rw [hresult]
  rfl

/-- A call that runs alone, refused or not, leaves the world as it was. -/
theorem alone_subnetAdmins (hc : (system cycles).Reachable c) {caller : Principal}
    {payload : UpdateSubnetAdminsPayload} {w : World} {result : Except Trap Response}
    (h : service.Completes (fun _ _ _ ↦ True) (.updateSubnetAdmins caller payload) c.state w
      result) : w = c.state := by
  have hconsistent := (sound_of_reachable hc).inv.consistent
  have hensures : service.Ensures (fun _ _ _ ↦ True) (.updateSubnetAdmins caller payload) c.state
      fun w' _ ↦ w' = c.state := by
    by_cases haccepted : Accepted c.state.canister caller payload
    · have hback := dropGuards_insertLock haccepted.free
      refine Service.ensures_of_suspend (start_of_accepted hconsistent haccepted)
        ((ensuresFrom_subnetAdmins payload _).mono fun w' _ hw' ↦ hw'.trans ?_)
      exact congrArg (fun s ↦ { c.state with canister := s }) hback
    · obtain ⟨e, hrefused⟩ := start_of_not_accepted hconsistent haccepted
      exact Service.ensures_of_reply hrefused rfl
  exact hensures.2 w result h

end Whole

/-! ### Guarded changes -/

/-- Changes of subnet administrators are authorised, faithful and one at a time. -/
structure AdminsGuarded (c : Configuration) : Prop where
  /-- What is sent to the registry is what the user of the stored agreement asked for. -/
  authorised : ∀ (id : ℕ) call sent, c.calls[id]? = some call →
    call.frame.outgoing = .updateSubnetAdmins sent →
      Authorised c.state.canister call.operation sent
  serialised : ∀ (i j : ℕ) a b sent sent', c.calls[i]? = some a → c.calls[j]? = some b →
    a.frame.outgoing = .updateSubnetAdmins sent →
      b.frame.outgoing = .updateSubnetAdmins sent' → sent.subnetId = sent'.subnetId → i = j
  /-- No step changes the agreement of the subnet meanwhile. -/
  unchanged : ∀ (id : ℕ) call sent a c', c.calls[id]? = some call →
    call.frame.outgoing = .updateSubnetAdmins sent → service.next c a = some c' →
      c'.state.canister.rentalAgreements[sent.subnetId]? =
        c.state.canister.rentalAgreements[sent.subnetId]?
  /-- A call is in flight after its first segment, or it was refused and changed nothing. -/
  started : ∀ caller payload c',
    service.next c (.start (.updateSubnetAdmins caller payload)) = some c' →
      (Accepted c.state.canister caller payload ∧
          c'.calls[c.nextCall]? =
            some ⟨.updateSubnetAdmins caller payload, .subnetAdmins payload, none⟩) ∨
        (¬ Accepted c.state.canister caller payload ∧
          ∃ e, c' = { c with trace := c.trace ++
            [(.updateSubnetAdmins caller payload, .ok (.subnetAdmins (.error e)))] })
  /-- The answer of the registry, a refusal included, only releases the guard. -/
  returned : ∀ (id : ℕ) call sent c', c.calls[id]? = some call →
    call.frame.outgoing = .updateSubnetAdmins sent → service.next c (.resume id) = some c' →
      c'.state = { c.state with
        canister := c.state.canister.dropGuards {agreementLock sent.subnetId} }
  alone : ∀ caller payload w result,
    service.Completes (fun _ _ _ ↦ True) (.updateSubnetAdmins caller payload) c.state w result →
      w = c.state
  /-- A payload without an operation would be converted to one that clears the list. -/
  cleared : ∀ subnetId, (UpdateSubnetAdminsPayload.mk subnetId none).toExternal =
    ⟨subnetId, some .clear⟩

/-- In every interleaving of all operations, changes of subnet administrators are guarded. -/
theorem admins_guarded {cycles : ℕ} {c : Configuration} (h : (system cycles).Reachable c) :
    AdminsGuarded c := by
  have hsent {id : ℕ} {call : Call Operation Frame Answer} {sent : UpdateSubnetAdminsPayload}
      (hcall : c.calls[id]? = some call)
      (houtgoing : call.frame.outgoing = .updateSubnetAdmins sent) :
      call.frame = .subnetAdmins sent := by
    obtain ⟨payload, hframe, rfl⟩ := outgoing_eq_updateSubnetAdmins houtgoing
    obtain ⟨-, -, -, hunderstood⟩ := authorised_of_reachable h hcall hframe
    rw [toExternal_eq hunderstood]
    exact hframe
  constructor
  · intro id call sent hcall houtgoing
    exact authorised_of_reachable h hcall (hsent hcall houtgoing)
  · intro i j a b sent sent' hi hj ha hb hsame
    have hguards : agreementLock sent.subnetId ∈ a.frame.guards := by
      rw [hsent hi ha]
      exact Finset.mem_singleton_self _
    have hguards' : agreementLock sent.subnetId ∈ b.frame.guards := by
      rw [hsent hj hb, hsame]
      exact Finset.mem_singleton_self _
    exact (sound_of_reachable h).eq_of_guards hi hj hguards hguards'
  · intro id call sent a c' hcall houtgoing hnext
    have hframe := hsent hcall houtgoing
    exact agreement_of_subnetAdmins h hnext hcall hframe
      (authorised_of_reachable h hcall hframe).isSome
  · intro caller payload c' hnext
    exact started_subnetAdmins h caller payload hnext
  · intro id call sent c' hcall houtgoing hnext
    exact returned_subnetAdmins hcall (hsent hcall houtgoing) hnext
  · intro caller payload w result hcompletes
    exact alone_subnetAdmins h hcompletes
  · intro subnetId
    rfl

/-- Alice asks for an administrator of her subnet, and the registry has not answered yet. -/
def changingConfiguration : Configuration :=
  ((system (10 ^ 12)).perform (idle (installedWorld (10 ^ 12) fun _ ↦ 10 ^ 13))
    (rentalRun ++ [.start (.updateSubnetAdmins aliceCreation.user
      ⟨aliceCreation.subnetId, some (.add [aliceCreation.user])⟩)])).get (by decide +kernel)

theorem reachable_changingConfiguration :
    (system (10 ^ 12)).Reachable changingConfiguration :=
  System.reachable_get_perform (init_idle _ _) _

theorem admins_guarded_changing :
    agreementLock aliceCreation.subnetId ∈ changingConfiguration.state.canister.locks ∧
      AdminsGuarded changingConfiguration :=
  ⟨by decide +kernel, admins_guarded reachable_changingConfiguration⟩

end SubnetRental.Lifecycle
