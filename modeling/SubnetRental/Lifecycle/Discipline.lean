import SubnetRental.Lifecycle.Guards
import SubnetRental.Lifecycle.Knowledge

/-!
# The guards of the canister as a discipline

Every resumed segment changes only what its own guards protect, and the burn pass skips what is
guarded (`agree_of_effect`, `agree_of_burnPass`). With the account of locks and of what frames know
this makes the canister a lawful service (`rental_lawful`), so that all guarantees hold in every
interleaving of all operations (`sound_of_reachable`). `WorldInvariant` adds to consistency that the
CMC's list of every user contains the subnet the user rents.
-/

set_option autoImplicit false
set_option relaxedAutoImplicit false

namespace SubnetRental.Lifecycle

open Canister Foundation.GuardedCalls Foundation.MachineInteger Foundation.TreeMapTotals
open Foundation.TransitionSystem Std

/-! ### Segments respect the guards of others -/

/-- A resumed segment changes only what its own guards protect. -/
theorem agree_of_effect {s s' : State} {frame : Frame} {answer : Answer}
    (hknows : Knows frame s) (h : Effect s s' frame answer) {lock : Lock}
    (hlock : lock ∉ frame.guards) : Agree lock s s' := by
  obtain ⟨principal, tag⟩ := lock
  cases h with
  | quiet frame answer h => exact agree_of_maps h.rentalRequests h.rentalAgreements _
  | opened payload neededIcp lockAmountIcp blockIndex lockedCycles hnone h =>
    have hne : tag = .request → payload.user ≠ principal := by
      rintro rfl rfl
      exact hlock (Finset.mem_singleton_self _)
    exact agree_of_other_request h.rentalAgreements fun htag ↦ by
      rw [h.rentalRequests, getElem?_insert_ite, if_neg (hne htag)]
  | locked nowNanos r stored tenPercentIcp rest blockIndex lockedCycles hstored h =>
    have hne : tag = .request → r.user ≠ principal := by
      rintro rfl rfl
      exact hlock (Finset.mem_singleton_self _)
    exact agree_of_other_request h.rentalAgreements fun htag ↦ by
      rw [h.rentalRequests, getElem?_insert_ite, if_neg (hne htag)]
  | cancelled caller toBeRefunded blockId r hstored h =>
    have hne : tag = .request → caller ≠ principal := by
      rintro rfl rfl
      exact hlock (Finset.mem_insert_of_mem (Finset.mem_singleton_self _))
    exact agree_of_other_request h.rentalAgreements fun htag ↦ by
      rw [h.rentalRequests, getElem?_erase_ite, if_neg (hne htag)]
  | granted payload r stored a answer hanswer hstored hfree h =>
    obtain ⟨-, -, conditions, convertedCycles, nowNanos, -, -, rfl⟩ := hknows
    cases tag with
    | request =>
      have hne : payload.user ≠ principal := by
        rintro rfl
        exact hlock (Finset.mem_insert_self _ _)
      refine ⟨by rw [h.rentalRequests, getElem?_erase_ite, if_neg hne], fun i b hb huser ↦ ?_⟩
      rw [h.rentalAgreements] at hb
      obtain ⟨-, rfl⟩ | ⟨-, hb⟩ := getElem?_insert_eq_some_iff.mp hb
      · exact absurd huser hne
      · exact ⟨b, hb, huser⟩
    | nns =>
      have hne : payload.subnetId ≠ principal := by
        rintro rfl
        exact hlock (Finset.mem_insert_of_mem (Finset.mem_singleton_self _))
      intro hnone
      change s'.rentalAgreements[principal]? = none
      rw [h.rentalAgreements, getElem?_insert_ite]
      exact (if_neg hne).trans hnone
    | agreement =>
      intro b hb
      have hne : payload.subnetId ≠ principal := by
        rintro rfl
        exact absurd (hfree.symm.trans hb) (by simp)
      change s'.rentalAgreements[principal]? = some b
      rw [h.rentalAgreements, getElem?_insert_ite]
      exact (if_neg hne).trans hb
    | refund | xrc => trivial
  | toppedUp subnetId a stored balance amount blockIndex actualCycles conditions hconditions hstored
      h =>
    cases tag with
    | request =>
      refine ⟨by rw [h.rentalRequests], fun i b hb huser ↦ ?_⟩
      rw [h.rentalAgreements] at hb
      obtain ⟨rfl, rfl⟩ | ⟨-, hb⟩ := getElem?_insert_eq_some_iff.mp hb
      · exact ⟨stored, hstored, huser⟩
      · exact ⟨b, hb, huser⟩
    | nns =>
      intro hnone
      have hne : subnetId ≠ principal := by
        rintro rfl
        exact absurd (hnone.symm.trans hstored) (by simp)
      change s'.rentalAgreements[principal]? = none
      rw [h.rentalAgreements, getElem?_insert_ite, if_neg hne]
      exact hnone
    | agreement =>
      have hne : subnetId ≠ principal := by
        rintro rfl
        exact hlock (Finset.mem_singleton_self _)
      intro b hb
      change s'.rentalAgreements[principal]? = some b
      rw [h.rentalAgreements, getElem?_insert_ite, if_neg hne]
      exact hb
    | refund | xrc => trivial

/-- A burn pass skips the agreements whose guard is held. -/
theorem burnPass_agreement_of_held {s s' : State} {burned : List (Principal × ℕ)}
    (h : burnPass s = .ok (burned, s')) {subnetId : Principal}
    (hheld : agreementLock subnetId ∈ s.locks) :
    s'.rentalAgreements[subnetId]? = s.rentalAgreements[subnetId]? := by
  refine (burnPass_induct (J := fun _ t ↦ t.locks = s.locks ∧
    t.rentalAgreements[subnetId]? = s.rentalAgreements[subnetId]?) ?_ h ⟨rfl, rfl⟩).2
  rintro _ t visited more t' ⟨hlocks, hsame⟩ hstep
  cases hstep with
  | skip => exact ⟨hlocks, hsame⟩
  | burn a burned hfree hstored hsome hdivisible hburned =>
    have hne : visited ≠ subnetId := by
      rintro rfl
      exact hfree (hlocks ▸ hheld)
    refine ⟨hlocks, ?_⟩
    change (t.rentalAgreements.insert visited (burnedAgreement a burned))[subnetId]? = _
    rw [getElem?_insert_ite, if_neg hne, hsame]

/-- A burn pass changes nothing that a held guard protects. -/
theorem agree_of_burnPass {s s' : State} {burned : List (Principal × ℕ)}
    (h : burnPass s = .ok (burned, s')) {lock : Lock} (hheld : lock ∈ s.locks) :
    Agree lock s s' := by
  have honly := burnPass_burnsOnly h
  obtain ⟨principal, tag⟩ := lock
  cases tag with
  | request =>
    refine ⟨by rw [honly.rentalRequests], fun i a ha huser ↦ ?_⟩
    obtain ⟨old, hold, heq⟩ := honly.agreement i a ha
    exact ⟨old, hold, by rw [← huser, heq]⟩
  | nns =>
    intro hnone
    change s'.rentalAgreements[principal]? = none
    cases hafter : s'.rentalAgreements[principal]? with
    | none => rfl
    | some a =>
      obtain ⟨old, hold, -⟩ := honly.agreement principal a hafter
      exact absurd (hnone.symm.trans hold) (by simp)
  | agreement => exact fun a ha ↦ (burnPass_agreement_of_held h hheld).trans ha
  | refund | xrc => trivial

/-! ### The discipline -/

/-- What holds of the world between segments: the canister's state is consistent, and every rented
subnet is authorized for its user. -/
structure WorldInvariant (w : World) : Prop where
  consistent : Consistent w.canister
  authorized : ∀ (i : Principal) a, w.canister.rentalAgreements[i]? = some a →
    i ∈ w.authorizedSubnets a.user

/-- What a suspended call knows. Once the CMC answered, its list for the user is the one that the
call asked for. -/
structure CallKnows (call : Call Operation Frame Answer) (w : World) : Prop where
  awaits : Awaits call.operation call.frame
  knows : Knows call.frame w.canister
  authorized : ∀ payload rentalRequest rentalAgreement answer,
    call.frame = .createAuthorize payload rentalRequest rentalAgreement →
      call.answer = some answer → (∀ text, answer ≠ .callFailed text) →
        w.authorizedSubnets payload.user = [payload.subnetId]

/-- Two worlds agree on what a lock protects. -/
structure WorldAgree (lock : Lock) (w w' : World) : Prop where
  agree : Agree lock w.canister w'.canister
  authorized : lock.tag = .request →
    w'.authorizedSubnets lock.principal = w.authorizedSubnets lock.principal

/-- The discipline of the canister's guards. -/
def discipline : Discipline World Operation Frame Answer Lock where
  guards := Frame.guards
  held w := w.canister.locks
  Inv := WorldInvariant
  Agree := WorldAgree
  Progress w w' := w.canister.now ≤ w'.canister.now
  Assert := CallKnows

/-- A frame's own knowledge about the CMC, before there is an answer. -/
theorem callKnows_of_unanswered {operation : Operation} {frame : Frame} {w : World}
    (hawaits : Awaits operation frame) (hknows : Knows frame w.canister) :
    CallKnows ⟨operation, frame, none⟩ w :=
  ⟨hawaits, hknows, fun _ _ _ _ _ h ↦ absurd h (by simp)⟩

/-- The obligations of a segment of the canister, from what it does to the state, to the locks and
to its frame. -/
theorem ends_of_segment {outcome : Segment} {owned : Finset Lock} {w : World}
    {operation : Operation}
    (hleaves : outcome.Leaving fun s' ↦ Consistent s' ∧ w.canister.now ≤ s'.now ∧
      (∀ lock ∈ w.canister.locks \ owned, Agree lock w.canister s') ∧
      ∀ (i : Principal) a, s'.rentalAgreements[i]? = some a → i ∈ w.authorizedSubnets a.user)
    (howning : Owning owned w.canister.locks outcome) (hinformed : Informed operation outcome) :
    discipline.Ends owned w operation (outcome.mapState fun s ↦ { w with canister := s }) := by
  cases outcome with
  | trap reason => trivial
  | suspend s' frame =>
    obtain ⟨hconsistent, hnow, hagree, hauthorized⟩ := hleaves
    obtain ⟨hlocks, hdisjoint⟩ := howning
    obtain ⟨hawaits, hknows⟩ := hinformed
    exact ⟨⟨⟨hconsistent, hauthorized⟩, hnow, fun lock hlock ↦ ⟨hagree lock hlock, fun _ ↦ rfl⟩⟩,
      hlocks, hdisjoint, callKnows_of_unanswered hawaits hknows⟩
  | reply s' response =>
    obtain ⟨hconsistent, hnow, hagree, hauthorized⟩ := hleaves
    exact ⟨⟨⟨hconsistent, hauthorized⟩, hnow, fun lock hlock ↦ ⟨hagree lock hlock, fun _ ↦ rfl⟩⟩,
      howning⟩

/-- The obligations of first segments. -/
theorem start_ends (operation : Operation) {w : World} (hw : WorldInvariant w) :
    discipline.Ends ∅ w operation (service.start operation w) := by
  refine ends_of_segment ?_ (start_owning operation w.canister)
    (start_informed operation hw.consistent)
  refine start_leaving framing_quiet operation (fun s' hquiet ↦ ?_) fun burned s' hpass ↦ ?_
  · refine ⟨hw.consistent.of_quiet hquiet, hquiet.now.ge, fun lock _ ↦ ?_, fun i a ha ↦ ?_⟩
    · exact agree_of_maps hquiet.rentalRequests hquiet.rentalAgreements lock
    · exact hw.authorized i a (hquiet.rentalAgreements ▸ ha)
  · have honly := burnPass_burnsOnly hpass
    refine ⟨hw.consistent.of_burnPass hpass, honly.now.ge, fun lock hlock ↦ ?_, fun i a ha ↦ ?_⟩
    · exact agree_of_burnPass hpass (Finset.mem_sdiff.mp hlock).1
    · obtain ⟨old, hold, heq⟩ := honly.agreement i a ha
      rw [heq]
      exact hw.authorized i old hold

/-- The obligations of resumed segments. -/
theorem resume_ends {operation : Operation} {frame : Frame} {answer : Answer} {w : World}
    (hw : WorldInvariant w) (hsub : frame.guards ⊆ w.canister.locks)
    (hcall : CallKnows ⟨operation, frame, some answer⟩ w) :
    discipline.Ends frame.guards w operation (service.resume frame answer w) := by
  refine ends_of_segment ?_ (resume_owning frame answer hsub)
    (resume_informed answer hcall.awaits hcall.knows)
  refine (resume_effect frame answer w.canister).mono fun s' heffect ↦ ?_
  have hsetting := sameSetting_of_effect heffect
  refine ⟨hw.consistent.of_effect hcall.knows heffect, hsetting.now.ge, fun lock hlock ↦ ?_, ?_⟩
  · exact agree_of_effect hcall.knows heffect (Finset.mem_sdiff.mp hlock).2
  · intro i a ha
    cases heffect with
    | quiet frame answer h => exact hw.authorized i a (h.rentalAgreements ▸ ha)
    | opened payload neededIcp lockAmountIcp blockIndex lockedCycles hnone h =>
      exact hw.authorized i a (h.rentalAgreements ▸ ha)
    | locked nowNanos r stored tenPercentIcp rest blockIndex lockedCycles hstored h =>
      exact hw.authorized i a (h.rentalAgreements ▸ ha)
    | cancelled caller toBeRefunded blockId r hstored h =>
      exact hw.authorized i a (h.rentalAgreements ▸ ha)
    | granted payload r stored granted answer hanswer hstored hfree h =>
      have hlist := hcall.authorized payload r granted answer rfl rfl hanswer
      obtain ⟨-, -, conditions, convertedCycles, nowNanos, -, -, rfl⟩ := hcall.knows
      rw [h.rentalAgreements] at ha
      obtain ⟨rfl, rfl⟩ | ⟨-, ha⟩ := getElem?_insert_eq_some_iff.mp ha
      · change payload.subnetId ∈ w.authorizedSubnets payload.user
        rw [hlist]
        exact List.mem_singleton_self _
      · exact hw.authorized i a ha
    | toppedUp subnetId copy stored balance amount blockIndex actualCycles conditions hconditions
        hstored h =>
      rw [h.rentalAgreements] at ha
      obtain ⟨rfl, rfl⟩ | ⟨-, ha⟩ := getElem?_insert_eq_some_iff.mp ha
      · exact hw.authorized subnetId stored hstored
      · exact hw.authorized i a ha

/-- The cycles another canister deposits when it answers. -/
def deposited : OutgoingCall → Answer → ℕ
  | .notifyTopUp _, .notifyTopUp (.ok actualCycles) => actualCycles
  | _, _ => 0

/-- An answer changes the canister's state only by the deposited cycles. -/
theorem world_answer_canister (w : World) (call : OutgoingCall) (answer : Answer) :
    (w.answer call answer).canister =
      { w.canister with cycles := w.canister.cycles + deposited call answer } := by
  unfold World.answer
  split
  · rfl
  · rfl
  · rfl
  · rfl
  · rfl
  · rename_i hnotify _
    have hnone : deposited call answer = 0 := by
      unfold deposited
      split
      · exact (hnotify _ _ rfl rfl).elim
      · rfl
    rw [hnone]
    rfl

/-- Only the CMC's answer to `set_authorized_subnetwork_list` changes the authorized subnets. -/
theorem world_answer_authorizedSubnets (w : World) (call : OutgoingCall) (answer : Answer) :
    (w.answer call answer).authorizedSubnets = w.authorizedSubnets ∨
      ∃ who subnets, call = .setAuthorizedSubnetworkList who subnets ∧
        (w.answer call answer).authorizedSubnets =
          Function.update w.authorizedSubnets who subnets := by
  unfold World.answer
  split
  · exact .inl rfl
  · exact .inl rfl
  · exact .inl rfl
  · exact .inl rfl
  · rename_i who subnets _
    exact .inr ⟨who, subnets, rfl, rfl⟩
  · exact .inl rfl

theorem ConvertStage.outgoing_ne_setAuthorized (stage : ConvertStage) (amount : Tokens)
    (source who : Principal) (subnets : List Principal) :
    stage.outgoing amount source ≠ .setAuthorizedSubnetworkList who subnets := by
  cases stage <;> exact nofun

/-- Only the creation of an agreement asks the CMC to change authorized subnets. -/
theorem outgoing_eq_setAuthorized {frame : Frame} {who : Principal} {subnets : List Principal}
    (h : frame.outgoing = .setAuthorizedSubnetworkList who subnets) :
    ∃ payload rentalRequest rentalAgreement,
      frame = .createAuthorize payload rentalRequest rentalAgreement ∧ who = payload.user ∧
        subnets = [payload.subnetId] := by
  cases frame with
  | createAuthorize payload rentalRequest rentalAgreement =>
    obtain ⟨rfl, rfl⟩ := OutgoingCall.setAuthorizedSubnetworkList.inj h
    exact ⟨payload, rentalRequest, rentalAgreement, rfl, rfl, rfl⟩
  | rentalRequestConvert | createConvert | topUpConvert | lockingConvert =>
    exact absurd h (ConvertStage.outgoing_ne_setAuthorized _ _ _ _ _)
  | _ => exact absurd h nofun

/-- The obligations of an answer. -/
theorem serve_suspends {operation : Operation} {frame : Frame} (answer : Answer) {w : World}
    (hw : WorldInvariant w) (hsub : frame.guards ⊆ w.canister.locks)
    (hcall : CallKnows ⟨operation, frame, none⟩ w) :
    discipline.Suspends frame.guards w (service.serve frame answer w)
      ⟨operation, frame, some answer⟩ := by
  have hcanister := world_answer_canister w frame.outgoing answer
  have hmaps (lock : Lock) : Agree lock w.canister (w.answer frame.outgoing answer).canister := by
    rw [hcanister]
    exact agree_of_maps rfl rfl lock
  have hknows : Knows frame (w.answer frame.outgoing answer).canister :=
    hcall.knows.of_agree (fun lock _ ↦ hmaps lock) (by rw [hcanister]) (by rw [hcanister])
  have hconsistent : Consistent (w.answer frame.outgoing answer).canister := by
    rw [hcanister]
    exact hw.consistent.of_maps rfl rfl rfl le_rfl hw.consistent.now_lt
  have hagreements : (w.answer frame.outgoing answer).canister.rentalAgreements =
      w.canister.rentalAgreements := by rw [hcanister]
  have hlocks : (w.answer frame.outgoing answer).canister.locks =
      w.canister.locks \ frame.guards ∪ frame.guards := by
    rw [hcanister, Finset.sdiff_union_of_subset hsub]
  have hnow : w.canister.now ≤ (w.answer frame.outgoing answer).canister.now := by rw [hcanister]
  refine ⟨⟨⟨hconsistent, ?_⟩, hnow, fun lock hlock ↦ ⟨hmaps lock, ?_⟩⟩, hlocks,
    Finset.disjoint_sdiff, hcall.awaits, hknows, ?_⟩
  · intro i a ha
    change (w.answer frame.outgoing answer).canister.rentalAgreements[i]? = some a at ha
    rw [hagreements] at ha
    change i ∈ (w.answer frame.outgoing answer).authorizedSubnets a.user
    obtain heq | ⟨who, subnets, hcalling, heq⟩ :=
      world_answer_authorizedSubnets w frame.outgoing answer
    · rw [heq]
      exact hw.authorized i a ha
    · -- a user with an open request rents nothing that the new list could drop
      obtain ⟨payload, r, a', rfl, rfl, -⟩ := outgoing_eq_setAuthorized hcalling
      have hne : a.user ≠ payload.user :=
        hw.consistent.exclusive payload.user i r a hcall.knows.1 ha
      rw [heq, Function.update_of_ne hne]
      exact hw.authorized i a ha
  · intro htag
    change (w.answer frame.outgoing answer).authorizedSubnets _ = _
    obtain heq | ⟨who, subnets, hcalling, heq⟩ :=
      world_answer_authorizedSubnets w frame.outgoing answer
    · rw [heq]
    · obtain ⟨payload, r, a', rfl, rfl, -⟩ := outgoing_eq_setAuthorized hcalling
      have hne : lock.principal ≠ payload.user := by
        intro hprincipal
        refine (Finset.mem_sdiff.mp hlock).2 ?_
        obtain ⟨principal, tag⟩ := lock
        obtain rfl : tag = .request := htag
        obtain rfl : principal = payload.user := hprincipal
        exact Finset.mem_insert_self _ _
      rw [heq, Function.update_of_ne hne]
  · rintro payload r a answer' rfl hanswer hnot
    obtain rfl := Option.some.inj hanswer
    change (w.answer (.setAuthorizedSubnetworkList payload.user [payload.subnetId])
      answer).authorizedSubnets payload.user = _
    cases answer with
    | callFailed text => exact absurd rfl (hnot text)
    | _ => exact Function.update_self _ _ _

/-- What happens around the canister, with the world after it: the time passes, ICP are paid into a
subaccount, cycles arrive, the reserve changes, or the canister is upgraded. -/
inductive EnvironmentStep (w : World) (idle : Bool) : Environment → World → Prop
  | passed (nanos : ℕ) (hlt : w.canister.now + nanos < 2 ^ 64) :
      EnvironmentStep w idle (.pass nanos)
        { w with canister.now := w.canister.now + nanos }
  | paid (user : Principal) (amount : Tokens) :
      EnvironmentStep w idle (.payIcp user amount)
        { w with balance := Function.update w.balance user (w.balance user + amount.e8s) }
  | received (amount : ℕ) :
      EnvironmentStep w idle (.receiveCycles amount)
        { w with canister.cycles := w.canister.cycles + amount }
  | reserved (reserve : ℕ) :
      EnvironmentStep w idle (.setReserve reserve) { w with canister.reserve := reserve }
  | upgraded (hidle : idle = true) :
      EnvironmentStep w idle .upgrade { w with canister := postUpgrade w.canister }

/-- The inversion lemma for the environment. -/
theorem environmentStep_of_environment {w w' : World} {event : Environment} {idle : Bool}
    (h : w.environment event idle = some w') : EnvironmentStep w idle event w' := by
  cases event with
  | pass nanos =>
    obtain ⟨hlt, hw'⟩ := Option.ite_none_right_eq_some.mp h
    obtain rfl := Option.some.inj hw'
    exact .passed nanos hlt
  | payIcp user amount =>
    obtain rfl := Option.some.inj h
    exact .paid user amount
  | receiveCycles amount =>
    obtain rfl := Option.some.inj h
    exact .received amount
  | setReserve reserve =>
    obtain rfl := Option.some.inj h
    exact .reserved reserve
  | upgrade =>
    cases idle with
    | false => cases h
    | true =>
      obtain rfl := Option.some.inj h
      exact .upgraded rfl

/-- The obligations of what happens between calls. -/
theorem environment_finishes {event : Environment} {idle : Bool} {w w' : World}
    (hw : WorldInvariant w) (hidle : idle = true → w.canister.locks = ∅)
    (h : service.environment event idle w = some w') : discipline.Finishes ∅ w w' := by
  have hsame {t : World} (hrequests : t.canister.rentalRequests = w.canister.rentalRequests)
      (hagreements : t.canister.rentalAgreements = w.canister.rentalAgreements)
      (hlocks : t.canister.locks = w.canister.locks)
      (hconditions : t.canister.rentalConditions = w.canister.rentalConditions)
      (hnow : w.canister.now ≤ t.canister.now) (hlt : t.canister.now < 2 ^ 64)
      (hauthorized : t.authorizedSubnets = w.authorizedSubnets) : discipline.Finishes ∅ w t := by
    refine ⟨⟨⟨hw.consistent.of_maps hconditions hrequests hagreements hnow hlt, ?_⟩, hnow,
      fun lock _ ↦ ⟨agree_of_maps hrequests hagreements lock, fun _ ↦ by rw [hauthorized]⟩⟩,
      hlocks.trans (Finset.sdiff_empty).symm⟩
    intro i a ha
    rw [hauthorized]
    exact hw.authorized i a (hagreements ▸ ha)
  have hnow_lt := hw.consistent.now_lt
  cases environmentStep_of_environment h with
  | passed nanos hlt => exact hsame rfl rfl rfl rfl (Nat.le_add_right _ _) hlt rfl
  | paid | received | reserved => exact hsame rfl rfl rfl rfl le_rfl hnow_lt rfl
  | upgraded hupgrade =>
    have hupgraded := upgraded_postUpgrade w.canister
    have hnone := hidle hupgrade
    refine ⟨⟨⟨hw.consistent.of_upgraded hupgraded, ?_⟩, hupgraded.now.ge, fun lock hlock ↦ ?_⟩, ?_⟩
    · intro i a ha
      obtain heq | ⟨old, hold, -, heq⟩ := hupgraded.agreements
      · exact hw.authorized i a (heq ▸ ha)
      · change (postUpgrade w.canister).rentalAgreements[i]? = some a at ha
        rw [heq] at ha
        obtain ⟨rfl, rfl⟩ | ⟨-, ha⟩ := getElem?_insert_eq_some_iff.mp ha
        · exact hw.authorized targetSubnet old hold
        · exact hw.authorized i a ha
    · have hmem : lock ∈ w.canister.locks := (Finset.mem_sdiff.mp hlock).1
      exact absurd (hnone ▸ hmem) (Finset.notMem_empty lock)
    · change (postUpgrade w.canister).locks = w.canister.locks \ ∅
      rw [hupgraded.locks, hnone, Finset.sdiff_empty]

/-- All segments of the canister respect the guards of the others. -/
theorem rental_lawful : discipline.Lawful service where
  stable call w w' hw hw' hprogress hagree hcall := by
    refine ⟨hcall.awaits, hcall.knows.of_agree (fun lock hlock ↦ (hagree lock hlock).agree) ?_
      hprogress, fun payload r a answer hframe hanswer hnot ↦ ?_⟩
    · funext id
      rw [hw.consistent.conditions, hw'.consistent.conditions]
    · have hlock : requestLock payload.user ∈ call.frame.guards := by
        rw [hframe]
        exact Finset.mem_insert_self _ _
      exact ((hagree _ hlock).authorized rfl).trans
        (hcall.authorized payload r a answer hframe hanswer hnot)
  start operation w hw := start_ends operation hw
  serve operation frame answer w hw hsub hcall := serve_suspends answer hw hsub hcall
  resume operation frame answer w hw hsub hcall := resume_ends hw hsub hcall
  unwind frame w hw hsub :=
    ⟨⟨⟨hw.consistent.of_quiet (Quiet.dropGuards _ _), hw.authorized⟩, le_rfl,
      fun lock _ ↦ ⟨agree_of_maps rfl rfl lock, fun _ ↦ rfl⟩⟩, rfl⟩
  environment event idle w w' hw hidle h := environment_finishes hw hidle h

theorem worldInvariant_of_installed {cycles : ℕ} {w : World} (h : Installed cycles w) :
    WorldInvariant w := by
  obtain ⟨now, reserve, hnow, hinstall⟩ := h
  refine ⟨hinstall ▸ consistent_install cycles now reserve hnow, fun i a ha ↦ ?_⟩
  have hnone : w.canister.rentalAgreements[i]? = none := by
    rw [hinstall]
    exact ExtTreeMap.getElem?_empty
  exact absurd (hnone.symm.trans ha) (by simp)

/-- In every interleaving of all operations the discipline's guarantees hold. -/
theorem sound_of_reachable {cycles : ℕ} {allowed : Configuration → Label → Prop}
    {c : Configuration} (h : (system cycles).ReachableWithin allowed c) : discipline.Sound c :=
  Discipline.sound_of_reachable rental_lawful (fun _ ↦ worldInvariant_of_installed)
    (fun w ⟨now, reserve, _, hinstall⟩ ↦ by
      change w.canister.locks = ∅
      rw [hinstall]
      rfl) h

/-- A step changes nothing that a guard of a suspended call it does not act on protects. -/
theorem agree_of_step {cycles : ℕ} {allowed : Configuration → Label → Prop} {c c' : Configuration}
    {a : Label} (hc : (system cycles).ReachableWithin allowed c)
    (hnext : (system cycles).next c a = some c') {id : ℕ} {call : Call Operation Frame Answer}
    (hcall : c.calls[id]? = some call) (htarget : a.target ≠ some id) :
    ∀ lock ∈ call.frame.guards, WorldAgree lock c.state c'.state :=
  ((sound_of_reachable hc).leaves_of_step rental_lawful (Service.step_of_next hnext) hcall htarget
    fun _ _ ↦ ⟨le_rfl, fun lock ↦ ⟨agree_of_maps rfl rfl lock, fun _ ↦ rfl⟩⟩).2

end SubnetRental.Lifecycle
